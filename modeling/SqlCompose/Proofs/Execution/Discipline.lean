import SqlCompose.Builder
import SqlCompose.Proofs.Execution.Recording
import SqlCompose.Proofs.Query.ValueFree
import SqlCompose.Schema

/-!
# The traffic of an operation

Which calls reach the database, in which order, and what comes back to the caller. An `Operation` is
what a builder or a schema can be asked to do with its database, and `Operation.statement` what its
query or its blueprint compiles to in a dialect. Whatever the monad of the executor, an operation
compiles that statement and takes one of two ways: `Executor.send` does not fetch, `Executor.ask`
does (`Operation.run_eq`). `Operation.Proceeds` spells out what that comes to with a database: no
call if there is no statement, otherwise one preparation, one execution and at most one fetch, each
only after the success of the one before. `Operation.session_iff` carries it through runs of any
length.
-/

namespace SqlCompose

/-! ## Operations -/

/-- What a builder can be asked to do with its query. -/
inductive Builder.Terminal
  | get
  | first
  | count
  | anyRow
  | toJson (format : JsonFormat)
  | firstToJson (format : JsonFormat)
  | insert (rows : List (List (String × Value)))
  | update (values : List (String × Value))
  | delete

/-- What a schema can be asked to do with its tables. -/
inductive Schema.Terminal
  | create (table : String) (calls : List Blueprint.Call)
  | alter (table : String) (calls : List Blueprint.Call)
  | drop (table : String)
  | dropIfExists (table : String)
  | rename (source target : String)
  | hasTable (table : String)
  | hasColumn (table column : String)

/-- An operation on a database. -/
inductive Operation
  | query (table : String) (calls : List Query.Call) (t : Builder.Terminal)
  | schema (t : Schema.Terminal)

/-- What an operation answers. -/
inductive Reply
  | rows (rows : List Row)
  | row (row : Option Row)
  | number (n : Nat)
  | flag (b : Bool)
  | text (s : String)

section
variable {m : Type → Type} [Monad m]

def Builder.Terminal.run (b : Builder m) : Builder.Terminal → Attempt m Reply
  | get => .rows <$> b.get
  | first => .row <$> b.first
  | count => .number <$> b.count
  | anyRow => .flag <$> b.anyRow
  | toJson format => .text <$> b.toJson format
  | firstToJson format => .text <$> b.firstToJson format
  | insert rows => .flag <$> b.insert rows
  | update values => .flag <$> b.update values
  | delete => .flag <$> b.delete

def Schema.Terminal.run (s : Schema m) : Schema.Terminal → Attempt m Reply
  | create table calls => .flag <$> s.create table calls
  | alter table calls => .flag <$> s.alter table calls
  | drop table => .flag <$> s.drop table
  | dropIfExists table => .flag <$> s.dropIfExists table
  | rename source target => .flag <$> s.rename source target
  | hasTable table => .flag <$> s.hasTable table
  | hasColumn table column => .flag <$> s.hasColumn table column

def Operation.run (e : Executor m) : Operation → Attempt m Reply
  | query table calls t => t.run (calls.foldl Builder.call (.on e table))
  | schema t => t.run ⟨e⟩

/-- Runs operations one after the other, whatever becomes of them. -/
def Operation.session (e : Executor m) (ops : List Operation) : m (List (Except Error Reply)) :=
  ops.mapM fun op => (op.run e).run

end

/-! ## What an operation sends and what it makes of the rows -/

/-- The statement of a query and an operation on it. -/
def Builder.Terminal.statement (d : Dialect) (q : Query) :
    Builder.Terminal → Except CompileError Statement
  | get | toJson _ => q.toSelect d
  | first | firstToJson _ => (q.call (.limit 1)).toSelect d
  | count | anyRow => q.toCount d
  | insert rows => q.toInsert rows
  | update values => q.toUpdate values
  | delete => q.toDelete

/-- The text and the bindings of an operation on tables. -/
def Schema.Terminal.statement (d : Dialect) :
    Schema.Terminal → Except CompileError (String × List Value)
  | create table calls => (·, []) <$> (Blueprint.calls { mode := .create, table } calls).sql d
  | alter table calls => (·, []) <$> (Blueprint.calls { mode := .alter, table } calls).sql d
  | drop table | dropIfExists table => .ok (d.dropTableIfExists table, [])
  | rename source target => .ok (d.renameTable source target, [])
  | hasTable table => .ok (d.hasTable table).view
  | hasColumn table column => .ok (d.hasColumn table column).view

/-- The text and the bindings of an operation. -/
def Operation.statement (d : Dialect) : Operation → Except CompileError (String × List Value)
  | query table calls t => Query.answer (t.statement d ((Query.on table).calls calls))
  | schema t => t.statement d

/-- What an operation makes of the rows that it fetched; `none` if it fetches none. -/
def Builder.Terminal.reading? : Builder.Terminal → Option (List Row → Except Error Reply)
  | get => some fun rows => .ok (.rows rows)
  | first => some fun rows => .ok (.row rows.head?)
  | count => some fun rows => .number <$> (readCount rows).mapError .unexpectedResult
  | anyRow => some fun rows =>
    (fun n => .flag (n > 0)) <$> (readCount rows).mapError .unexpectedResult
  | toJson format => some fun rows => .ok (.text (format.render (.array (rows.map Row.toJson))))
  | firstToJson format => some fun rows =>
    .ok (.text (rows.head?.elim "\x7b\x7d" fun r => format.render r.toJson))
  | insert _ | update _ | delete => none

def Schema.Terminal.reading? : Schema.Terminal → Option (List Row → Except Error Reply)
  | hasTable _ | hasColumn _ _ => some fun rows => .ok (.flag !rows.isEmpty)
  | create _ _ | alter _ _ | drop _ | dropIfExists _ | rename _ _ => none

def Operation.reading? : Operation → Option (List Row → Except Error Reply)
  | query _ _ t => t.reading?
  | schema t => t.reading?

/-! ## Every operation takes one of two ways -/

theorem Builder.foldl_call {m : Type → Type} (b : Builder m) (calls : List Query.Call) :
    calls.foldl Builder.call b = { b with query := b.query.calls calls } := by
  induction calls generalizing b with
  | nil => rfl
  | cons c calls ih => exact ih (b.call c)

section
variable {m : Type → Type} [Monad m]

/-- Compiles, prepares and executes. -/
def Executor.send (e : Executor m) (statement : Except CompileError (String × List Value)) :
    Attempt m Reply := do
  let (sql, params) ← compiled statement
  .flag <$> e.execute sql params

/-- Compiles, prepares, executes, fetches and reads. -/
def Executor.ask (e : Executor m) (statement : Except CompileError (String × List Value))
    (read : List Row → Except Error Reply) : Attempt m Reply := do
  let (sql, params) ← compiled statement
  let rows ← e.fetch sql params
  ExceptT.mk (pure (read rows))

theorem compiled_ok {α : Type} (a : α) : compiled (.ok a) = (pure a : Attempt m α) := rfl

theorem compiled_error {α : Type} (e : CompileError) :
    compiled (.error e) = (throw (.compile e) : Attempt m α) := rfl

variable [LawfulMonad m]

theorem throw_bind {α β : Type} (e : Error) (f : α → Attempt m β) :
    (throw e : Attempt m α) >>= f = throw e := by
  apply ExceptT.ext
  simp

theorem throw_map {α β : Type} (e : Error) (f : α → β) :
    f <$> (throw e : Attempt m α) = throw e := by
  rw [map_eq_pure_bind, throw_bind]

theorem Builder.flag_run (b : Builder m) (x : Except CompileError Statement) :
    Reply.flag <$> b.run x = b.executor.send (Query.answer x) := by
  cases x with
  | error e =>
    show Reply.flag <$> (compiled (.error e) >>= _) = compiled (.error e) >>= _
    rw [compiled_error, compiled_error, throw_bind, throw_bind, throw_map]
  | ok s =>
    show Reply.flag <$> (compiled (.ok s) >>= _) = compiled (.ok s.view) >>= _
    rw [compiled_ok, compiled_ok, pure_bind, pure_bind]
    rfl

/-- Rows that are read with a function of them. -/
theorem Builder.fetch_bind (b : Builder m) (x : Except CompileError Statement)
    {k : List Row → Attempt m Reply} {read : List Row → Except Error Reply}
    (hk : ∀ rows, k rows = ExceptT.mk (pure (read rows))) :
    b.fetch x >>= k = b.executor.ask (Query.answer x) read := by
  cases x with
  | error e =>
    show (compiled (.error e) >>= _) >>= k = compiled (.error e) >>= _
    rw [compiled_error, compiled_error, throw_bind, throw_bind, throw_bind]
  | ok s =>
    show (compiled (.ok s) >>= _) >>= k = compiled (.ok s.view) >>= _
    rw [compiled_ok, compiled_ok, pure_bind, pure_bind, funext hk]
    rfl

/-- Compiles and takes the way that fits. -/
def Executor.perform (e : Executor m) (statement : Except CompileError (String × List Value)) :
    Option (List Row → Except Error Reply) → Attempt m Reply
  | none => e.send statement
  | some read => e.ask statement read

theorem Builder.number_count (b : Builder m) {k : Nat → Attempt m Reply} {f : Nat → Reply}
    (hk : ∀ n, k n = pure (f n)) :
    b.count >>= k =
      b.executor.ask (Query.answer (b.query.toCount b.executor.dialect))
        fun rows => f <$> (readCount rows).mapError .unexpectedResult := by
  unfold count
  rw [bind_assoc]
  refine b.fetch_bind _ fun rows => ?_
  cases readCount rows with
  | error r =>
    show (throw _ : Attempt m Nat) >>= k = _
    rw [throw_bind]
    rfl
  | ok n =>
    show (pure n : Attempt m Nat) >>= k = _
    rw [pure_bind, hk]
    rfl

theorem Builder.Terminal.run_eq (b : Builder m) (t : Builder.Terminal) :
    t.run b =
      b.executor.perform (Query.answer (t.statement b.executor.dialect b.query)) t.reading? := by
  cases t with
  | get =>
    show Reply.rows <$> b.fetch _ = _
    rw [map_eq_pure_bind]
    exact b.fetch_bind _ fun rows => rfl
  | first =>
    show Reply.row <$> (b.fetch _ >>= _) = _
    rw [map_eq_pure_bind, bind_assoc]
    refine b.fetch_bind _ fun rows => ?_
    rw [pure_bind]
    rfl
  | count =>
    show Reply.number <$> b.count = _
    rw [map_eq_pure_bind]
    exact b.number_count fun n => rfl
  | anyRow =>
    show Reply.flag <$> (b.count >>= _) = _
    rw [map_eq_pure_bind, bind_assoc]
    exact b.number_count fun n => pure_bind _ _
  | toJson format =>
    show Reply.text <$> (b.fetch _ >>= _) = _
    rw [map_eq_pure_bind, bind_assoc]
    exact b.fetch_bind _ fun rows => pure_bind _ _
  | firstToJson format =>
    show Reply.text <$> ((b.fetch _ >>= _) >>= _) = _
    rw [map_eq_pure_bind, bind_assoc, bind_assoc]
    refine b.fetch_bind _ fun rows => ?_
    rw [pure_bind, pure_bind]
    rfl
  | insert rows => exact b.flag_run _
  | update values => exact b.flag_run _
  | delete => exact b.flag_run _

theorem Schema.flag_run (s : Schema m) (sql : String) :
    Reply.flag <$> s.run sql = s.executor.send (.ok (sql, [])) := by
  show _ = compiled (.ok (sql, [])) >>= _
  rw [compiled_ok, pure_bind]
  rfl

theorem Schema.flag_compiled (s : Schema m) (x : Except CompileError String) :
    Reply.flag <$> (compiled x >>= s.run) = s.executor.send ((·, []) <$> x) := by
  cases x with
  | error e =>
    show Reply.flag <$> (compiled (.error e) >>= _) = compiled (.error e) >>= _
    rw [compiled_error, compiled_error, throw_bind, throw_bind, throw_map]
  | ok sql =>
    rw [compiled_ok, pure_bind]
    exact s.flag_run sql

theorem Schema.flag_hasRow (s : Schema m) (query : Statement) :
    Reply.flag <$> s.hasRow query =
      s.executor.ask (.ok query.view) fun rows => .ok (.flag !rows.isEmpty) := by
  show Reply.flag <$> (s.executor.fetch _ _ >>= _) = compiled (.ok query.view) >>= _
  rw [map_eq_pure_bind, bind_assoc, compiled_ok, pure_bind]
  refine bind_congr fun rows => ?_
  rw [pure_bind]
  rfl

theorem Schema.Terminal.run_eq (s : Schema m) (t : Schema.Terminal) :
    t.run s = s.executor.perform (t.statement s.executor.dialect) t.reading? := by
  cases t with
  | create table calls => exact s.flag_compiled _
  | alter table calls => exact s.flag_compiled _
  | drop table => exact s.flag_run _
  | dropIfExists table => exact s.flag_run _
  | rename source target => exact s.flag_run _
  | hasTable table => exact s.flag_hasRow _
  | hasColumn table column => exact s.flag_hasRow _

theorem Operation.run_eq (e : Executor m) (op : Operation) :
    op.run e = e.perform (op.statement e.dialect) op.reading? := by
  cases op with
  | query table calls t =>
    show t.run (calls.foldl Builder.call (.on e table)) = _
    rw [Builder.foldl_call]
    exact t.run_eq _
  | schema t => exact t.run_eq ⟨e⟩

end

/-! ## What one operation does -/

namespace Operation

/-- What an operation does behind the calls `h`: its outcome and all calls after it. -/
inductive Proceeds (o : Database) (h : History) (op : Operation) :
    Except Error Reply → History → Prop
  /-- What does not compile makes no call. -/
  | uncompiled {e : CompileError} (hc : op.statement o.dialect = .error e) :
    Proceeds o h op (.error (.compile e)) h
  | unprepared {sql : String} {params : List Value} {e : Error}
    (hc : op.statement o.dialect = .ok (sql, params)) (hp : o.prepare h sql = .error e) :
    Proceeds o h op (.error e) (h ++ [.prepare sql])
  | failed {sql : String} {params : List Value} {e : Error}
    (hc : op.statement o.dialect = .ok (sql, params)) (hp : o.prepare h sql = .ok ())
    (he : o.execute (h ++ [.prepare sql]) params = .error e) :
    Proceeds o h op (.error e) (h ++ [.prepare sql, .execute params])
  /-- What fetches no rows answers what the execution does. -/
  | executed {sql : String} {params : List Value} {b : Bool} (hr : op.reading? = none)
    (hc : op.statement o.dialect = .ok (sql, params)) (hp : o.prepare h sql = .ok ())
    (he : o.execute (h ++ [.prepare sql]) params = .ok b) :
    Proceeds o h op (.ok (.flag b)) (h ++ [.prepare sql, .execute params])
  /-- Without success there are no rows to fetch. -/
  | refused {sql : String} {params : List Value} {read : List Row → Except Error Reply}
    (hr : op.reading? = some read)
    (hc : op.statement o.dialect = .ok (sql, params)) (hp : o.prepare h sql = .ok ())
    (he : o.execute (h ++ [.prepare sql]) params = .ok false) :
    Proceeds o h op (.error (.unexpectedResult (.notExecuted sql)))
      (h ++ [.prepare sql, .execute params])
  | unfetched {sql : String} {params : List Value} {read : List Row → Except Error Reply}
    {e : Error} (hr : op.reading? = some read)
    (hc : op.statement o.dialect = .ok (sql, params)) (hp : o.prepare h sql = .ok ())
    (he : o.execute (h ++ [.prepare sql]) params = .ok true)
    (hf : o.fetchAll (h ++ [.prepare sql, .execute params]) = .error e) :
    Proceeds o h op (.error e) (h ++ [.prepare sql, .execute params, .fetchAll])
  | fetched {sql : String} {params : List Value} {read : List Row → Except Error Reply}
    {rows : List Row} (hr : op.reading? = some read)
    (hc : op.statement o.dialect = .ok (sql, params)) (hp : o.prepare h sql = .ok ())
    (he : o.execute (h ++ [.prepare sql]) params = .ok true)
    (hf : o.fetchAll (h ++ [.prepare sql, .execute params]) = .ok rows) :
    Proceeds o h op (read rows) (h ++ [.prepare sql, .execute params, .fetchAll])

variable {o : Database} {h h' : History} {op : Operation} {r : Except Error Reply}
  {sql : String} {params : List Value}

theorem run_executor_eq (o : Database) (op : Operation) :
    op.run o.executor = o.executor.perform (op.statement o.dialect) op.reading? :=
  op.run_eq o.executor

theorem behind_uncompiled {e : CompileError} (hc : op.statement o.dialect = .error e) :
    Attempt.behind (op.run o.executor) h = (.error (.compile e), h) := by
  rw [run_executor_eq, hc]
  cases op.reading? <;> rfl

theorem behind_writing (hr : op.reading? = none)
    (hc : op.statement o.dialect = .ok (sql, params)) :
    Attempt.behind (op.run o.executor) h =
      match Attempt.behind (o.executor.execute sql params) h with
      | (.ok b, h') => (.ok (.flag b), h')
      | (.error e, h') => (.error e, h') := by
  rw [run_executor_eq, hr, hc]
  show Attempt.behind (Reply.flag <$> o.executor.execute sql params) h = _
  rw [map_eq_pure_bind, behind_bind]
  rcases Attempt.behind (o.executor.execute sql params) h with ⟨_ | _, _⟩ <;> rfl

theorem behind_reading {read : List Row → Except Error Reply} (hr : op.reading? = some read)
    (hc : op.statement o.dialect = .ok (sql, params)) :
    Attempt.behind (op.run o.executor) h =
      match Attempt.behind (o.executor.fetch sql params) h with
      | (.ok rows, h') => (read rows, h')
      | (.error e, h') => (.error e, h') := by
  rw [run_executor_eq, hr, hc]
  show Attempt.behind (o.executor.fetch sql params >>= _) h = _
  rw [behind_bind]
  rcases Attempt.behind (o.executor.fetch sql params) h with ⟨_ | _, _⟩ <;> rfl

theorem Proceeds.behind_eq (hs : Proceeds o h op r h') :
    Attempt.behind (op.run o.executor) h = (r, h') := by
  cases hs with
  | uncompiled hc => exact behind_uncompiled hc
  | unprepared hc hp =>
    cases hr : op.reading? with
    | none => rw [behind_writing hr hc, Database.behind_execute, hp]
    | some read => rw [behind_reading hr hc, Database.behind_fetch, hp]
  | failed hc hp he =>
    cases hr : op.reading? with
    | none =>
      rw [behind_writing hr hc, Database.behind_execute, hp]
      simp only [he]
    | some read =>
      rw [behind_reading hr hc, Database.behind_fetch, hp]
      simp only [he]
  | executed hr hc hp he =>
    rw [behind_writing hr hc, Database.behind_execute, hp]
    simp only [he]
  | refused hr hc hp he =>
    rw [behind_reading hr hc, Database.behind_fetch, hp]
    simp only [he]
  | unfetched hr hc hp he hf =>
    rw [behind_reading hr hc, Database.behind_fetch, hp]
    simp only [he, hf]
  | fetched hr hc hp he hf =>
    rw [behind_reading hr hc, Database.behind_fetch, hp]
    simp only [he, hf]

/-- The cases of `Proceeds` leave nothing out. -/
theorem exists_proceeds (o : Database) (h : History) (op : Operation) :
    ∃ r h', Proceeds o h op r h' := by
  cases hc : op.statement o.dialect with
  | error e => exact ⟨_, _, .uncompiled hc⟩
  | ok s =>
    obtain ⟨sql, params⟩ := s
    cases hp : o.prepare h sql with
    | error e => exact ⟨_, _, .unprepared hc hp⟩
    | ok u =>
      cases he : o.execute (h ++ [.prepare sql]) params with
      | error e => exact ⟨_, _, .failed hc hp he⟩
      | ok b =>
        cases hr : op.reading? with
        | none => exact ⟨_, _, .executed hr hc hp he⟩
        | some read =>
          cases b with
          | false => exact ⟨_, _, .refused hr hc hp he⟩
          | true =>
            cases hf : o.fetchAll (h ++ [.prepare sql, .execute params]) with
            | error e => exact ⟨_, _, .unfetched hr hc hp he hf⟩
            | ok rows => exact ⟨_, _, .fetched hr hc hp he hf⟩

theorem proceeds_iff :
    Proceeds o h op r h' ↔ Attempt.behind (op.run o.executor) h = (r, h') := by
  constructor
  · exact Proceeds.behind_eq
  · intro heq
    obtain ⟨r₁, h₁, hs⟩ := exists_proceeds o h op
    have hpair : (r₁, h₁) = (r, h') := by rw [← hs.behind_eq, heq]
    cases hpair
    exact hs

/-! ## What a run does -/

/-- Operations one after the other, each behind the calls of those before. -/
inductive Session (o : Database) :
    History → List Operation → List (Except Error Reply) → History → Prop
  | nil (h : History) : Session o h [] [] h
  | cons {h h₁ h' : History} {op : Operation} {ops : List Operation} {r : Except Error Reply}
    {results : List (Except Error Reply)} (first : Proceeds o h op r h₁)
    (rest : Session o h₁ ops results h') : Session o h (op :: ops) (r :: results) h'

theorem run_session_cons (o : Database) (h : History) (op : Operation) (ops : List Operation) :
    StateT.run (session o.executor (op :: ops)) h =
      let (r, h₁) := Attempt.behind (op.run o.executor) h
      let (results, h') := StateT.run (session o.executor ops) h₁
      (r :: results, h') := by
  unfold session
  rw [List.mapM_cons, StateT.run_bind]
  rfl

theorem session_run_iff {ops : List Operation} {results : List (Except Error Reply)} :
    Session o h ops results h' ↔ StateT.run (session o.executor ops) h = (results, h') := by
  induction ops generalizing h results with
  | nil =>
    constructor
    · rintro ⟨⟩
      rfl
    · rintro ⟨⟩
      exact .nil _
  | cons op ops ih =>
    rw [run_session_cons]
    constructor
    · rintro (_ | ⟨first, rest⟩)
      rw [proceeds_iff] at first
      rw [ih] at rest
      rw [first]
      simp only [rest]
    · rcases hr : Attempt.behind (op.run o.executor) h with ⟨r, h₁⟩
      rcases hrs : StateT.run (session o.executor ops) h₁ with ⟨rs, h₂⟩
      simp only [hrs]
      rintro ⟨⟩
      exact .cons (proceeds_iff.2 hr) (ih.2 hrs)

/-- **The traffic of a run.** Whatever a database answers, behind whatever calls, the outcomes of a
run of operations and all the calls that it makes are those of `Session`, and no others are. What
creates or alters a table prepares the text that its schema shows for the same building calls. -/
theorem session_iff (o : Database) :
    (∀ (h h' : History) (ops : List Operation) (results : List (Except Error Reply)),
      Session o h ops results h' ↔ StateT.run (session o.executor ops) h = (results, h')) ∧
    ∀ (table : String) (calls : List Blueprint.Call),
      statement o.dialect (.schema (.create table calls)) =
        (·, []) <$> Schema.createSql ⟨o.executor⟩ table calls ∧
      statement o.dialect (.schema (.alter table calls)) =
        (·, []) <$> Schema.alterSql ⟨o.executor⟩ table calls :=
  ⟨fun _ _ _ _ => session_run_iff, fun _ _ => ⟨rfl, rfl⟩⟩

end Operation

end SqlCompose
