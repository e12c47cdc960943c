import SqlCompose.Executor

/-!
# Databases that keep a record

An executor whose answers are arbitrary and whose calls are recorded. A `Database` gives the
answers, each of which may depend on all calls before it: no two calls of a run are made behind the
same calls, so whatever an executor answers in a run, some database answers. `Attempt.behind` runs a
computation behind earlier calls, `behind_bind` follows it step by step, and `behind_execute` and
`behind_fetch` say all that a statement on its way to the database can meet.
-/

namespace SqlCompose

/-- A call that reaches the database. -/
inductive IoCall
  | prepare (sql : String)
  | execute (values : List Value)
  | fetchAll

/-- The calls that were made, in order. -/
abbrev History := List IoCall

/-- Computations that record their calls. -/
abbrev Recorded := StateM History

/-- The answers of a database to its calls, each behind the calls that were made before. -/
structure Database where
  dialect : Dialect
  prepare : History → String → Except Error Unit
  execute : History → List Value → Except Error Bool
  fetchAll : History → Except Error (List Row)

/-- A call with its answer. -/
def record {α : Type} (c : IoCall) (answer : History → Except Error α) : Attempt Recorded α :=
  ExceptT.mk fun history => (answer history, history ++ [c])

/-- The executor of a database. -/
def Database.executor (o : Database) : Executor Recorded where
  dialect := o.dialect
  prepare sql := do
    record (.prepare sql) (o.prepare · sql)
    return {
      execute := fun values => record (.execute values) (o.execute · values)
      fetchAll := record .fetchAll o.fetchAll }

/-- The outcome of a computation behind earlier calls, and all calls after it. -/
def Attempt.behind {α : Type} (x : Attempt Recorded α) (history : History) :
    Except Error α × History :=
  StateT.run (ExceptT.run x) history

/-- A computation with a state goes on behind a success. -/
theorem run_attempt_bind {σ α β : Type} (x : Attempt (StateM σ) α) (f : α → Attempt (StateM σ) β)
    (s : σ) :
    StateT.run (ExceptT.run (x >>= f)) s =
      match StateT.run (ExceptT.run x) s with
      | (.ok a, s') => StateT.run (ExceptT.run (f a)) s'
      | (.error e, s') => (.error e, s') := by
  rw [ExceptT.run_bind, StateT.run_bind]
  obtain ⟨r, s'⟩ := StateT.run (ExceptT.run x) s
  cases r <;> rfl

theorem behind_bind {α β : Type} (x : Attempt Recorded α) (f : α → Attempt Recorded β)
    (history : History) :
    Attempt.behind (x >>= f) history =
      match Attempt.behind x history with
      | (.ok a, history') => Attempt.behind (f a) history'
      | (.error e, history') => (.error e, history') := by
  unfold Attempt.behind
  rw [run_attempt_bind]
  obtain ⟨r, history'⟩ := StateT.run (ExceptT.run x) history
  cases r <;> rfl

@[simp] theorem behind_record {α : Type} (c : IoCall) (answer : History → Except Error α)
    (history : History) :
    Attempt.behind (record c answer) history = (answer history, history ++ [c]) := rfl

@[simp] theorem behind_pure {α : Type} (a : α) (history : History) :
    Attempt.behind (pure a) history = (.ok a, history) := rfl

@[simp] theorem behind_throw {α : Type} (e : Error) (history : History) :
    Attempt.behind (throw e : Attempt Recorded α) history = (.error e, history) := rfl

/-! ## The two ways to the database -/

namespace Database

variable (o : Database) (history : History) (sql : String) (params : List Value)

theorem behind_prepare :
    Attempt.behind (o.executor.prepare sql) history =
      ((o.prepare history sql).map fun _ => {
          execute := fun values => record (.execute values) (o.execute · values)
          fetchAll := record .fetchAll o.fetchAll },
        history ++ [.prepare sql]) := by
  unfold executor
  rw [behind_bind, behind_record]
  cases o.prepare history sql <;> rfl

/-- A statement is executed behind its preparation, if that succeeds. -/
theorem behind_execute :
    Attempt.behind (o.executor.execute sql params) history =
      match o.prepare history sql with
      | .error e => (.error e, history ++ [.prepare sql])
      | .ok () =>
        (o.execute (history ++ [.prepare sql]) params,
          history ++ [.prepare sql, .execute params]) := by
  unfold Executor.execute
  rw [behind_bind, behind_prepare]
  cases o.prepare history sql with
  | error e => rfl
  | ok u => simp [Except.map]

/-- Rows are fetched behind an execution that succeeds. -/
theorem behind_fetch :
    Attempt.behind (o.executor.fetch sql params) history =
      match o.prepare history sql with
      | .error e => (.error e, history ++ [.prepare sql])
      | .ok () =>
        match o.execute (history ++ [.prepare sql]) params with
        | .error e => (.error e, history ++ [.prepare sql, .execute params])
        | .ok false =>
          (.error (.unexpectedResult (.notExecuted sql)),
            history ++ [.prepare sql, .execute params])
        | .ok true =>
          (o.fetchAll (history ++ [.prepare sql, .execute params]),
            history ++ [.prepare sql, .execute params, .fetchAll]) := by
  unfold Executor.fetch
  rw [behind_bind, behind_prepare]
  cases o.prepare history sql with
  | error e => rfl
  | ok u =>
    simp only [Except.map]
    rw [behind_bind, behind_record]
    cases o.execute (history ++ [.prepare sql]) params with
    | error e => simp
    | ok b => cases b <;> simp

/-! ## Databases that always answer -/

/-- The database that runs every statement and answers a query by its text and its bindings. -/
def ofRows (dialect : Dialect) (rows : String → List Value → List Row) : Database where
  dialect
  prepare _ _ := .ok ()
  execute _ _ := .ok true
  fetchAll history :=
    match history.reverse with
    | .execute params :: .prepare sql :: _ => .ok (rows sql params)
    | _ => .ok []

theorem fetchAll_ofRows (dialect : Dialect) (rows : String → List Value → List Row) :
    (ofRows dialect rows).fetchAll (history ++ [.prepare sql, .execute params]) =
      .ok (rows sql params) := by
  simp [ofRows]

end Database

end SqlCompose
