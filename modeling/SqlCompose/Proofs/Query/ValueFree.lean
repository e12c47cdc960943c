import SqlCompose.Proofs.Outcome
import SqlCompose.Query.Select
import SqlCompose.Query.Write

/-!
# Bound values do not reach the text

Replacing the values of a query by a function of them replaces the bindings of each of its
statements by that function and leaves the text and the errors alone (`toSelect_mapValues` and its
companions). Two queries of one shape, which may differ in every value, therefore have the same
texts and the same errors.
-/

namespace SqlCompose

variable (f : Value → Value)

/-! ## Replacing values -/

def Test.mapValues : Test → Test
  | compare operator value => compare operator (f value)
  | among values negated => among (values.map f) negated
  | missing negated => missing negated

def Predicate.mapValues (p : Predicate) : Predicate := { p with test := p.test.mapValues f }

namespace Query

def mapValues (q : Query) : Query :=
  { q with
    wheres := q.wheres.map (Predicate.mapValues f)
    havings := q.havings.map (Predicate.mapValues f) }

/-- The named values of a row or of an UPDATE, replaced. -/
def mapRow (row : List (String × Value)) : List (String × Value) :=
  row.map fun (column, value) => (column, f value)

/-- What is left of a query without its values. -/
def shape (q : Query) : Query := q.mapValues fun _ => .null

end Query

/-- What a query can be compiled to. -/
inductive Query.Request
  | select (d : Dialect)
  | count (d : Dialect)
  | insert (rows : List (List (String × Value)))
  | update (values : List (String × Value))
  | delete

namespace Query

/-- The statement of a request. -/
def compile (q : Query) : Request → Except CompileError Statement
  | .select d => q.toSelect d
  | .count d => q.toCount d
  | .insert rows => q.toInsert rows
  | .update values => q.toUpdate values
  | .delete => q.toDelete

def Request.mapValues : Request → Request
  | insert rows => insert (rows.map (mapRow f))
  | update values => update (mapRow f values)
  | r => r

/-- What is left of a request without its values. -/
def Request.shape (r : Request) : Request := r.mapValues fun _ => .null

end Query

/-- The text and the bindings of a statement. -/
def Statement.view (s : Statement) : String × List Value := (s.sql, s.params)

theorem Statement.view_mapValues (s : Statement) :
    (s.mapValues f).view = (s.sql, s.params.map f) := by
  rw [view, sql_mapValues, params_mapValues]

/-! ## Predicates -/

theorem Predicate.statement_mapValues (p : Predicate) :
    (p.mapValues f).statement = Statement.mapValues f <$> p.statement := by
  obtain ⟨column, test, connective⟩ := p
  cases test with
  | compare operator value => simp [statement, mapValues, Test.mapValues]
  | among values negated =>
    cases values with
    | nil => simp [statement, mapValues, Test.mapValues]
    | cons v vs =>
      have hp := Statement.mapValues_placeholders f "," (v :: vs)
      rw [List.map_cons] at hp
      simp [statement, mapValues, Test.mapValues, hp]
  | missing negated => simp [statement, mapValues, Test.mapValues]

namespace Condition

theorem following_mapValues (ps : Condition) :
    following (ps.map (Predicate.mapValues f)) = Statement.mapValues f <$> following ps := by
  induction ps with
  | nil => rfl
  | cons p ps ih =>
    simp [following, Predicate.statement_mapValues, ih]
    rfl

theorem clause_mapValues (keyword : String) (ps : Condition) :
    clause keyword (ps.map (Predicate.mapValues f)) =
      Statement.mapValues f <$> clause keyword ps := by
  cases ps with
  | nil => rfl
  | cons p ps =>
    simp [clause, statement, Predicate.statement_mapValues, following_mapValues]

end Condition

/-! ## Statements -/

namespace Query

theorem body_mapValues (q : Query) (projection : String) :
    (q.mapValues f).body projection = Statement.mapValues f <$> q.body projection := by
  simp [body, mapValues, Condition.clause_mapValues]
  rfl

theorem selectWith_mapValues (q : Query) (d : Dialect) (projection : String) (withTail : Bool) :
    (q.mapValues f).selectWith d projection withTail =
      Statement.mapValues f <$> q.selectWith d projection withTail := by
  have ht : (q.mapValues f).tail d = q.tail d := rfl
  cases withTail <;> simp [selectWith, body_mapValues, ht]

theorem toSelect_mapValues (q : Query) (d : Dialect) :
    (q.mapValues f).toSelect d = Statement.mapValues f <$> q.toSelect d :=
  selectWith_mapValues f q d _ true

theorem toCount_mapValues (q : Query) (d : Dialect) :
    (q.mapValues f).toCount d = Statement.mapValues f <$> q.toCount d := by
  have hg : (q.mapValues f).groups = q.groups := rfl
  have hp : (q.mapValues f).isPaginated = q.isPaginated := rfl
  have he : (q.mapValues f).projection = q.projection := rfl
  unfold toCount
  rw [hg, hp, he]
  split
  · exact selectWith_mapValues f q d _ false
  · simp [selectWith_mapValues]

theorem names_mapRow (row : List (String × Value)) : names (mapRow f row) = names row := by
  simp [names, mapRow]

theorem checkRow_mapRow (columns : List String) (index : Nat) (row : List (String × Value)) :
    checkRow columns index (mapRow f row) = checkRow columns index row := by
  simp only [checkRow, names_mapRow]
  simp [mapRow]

theorem checkRows_mapRow (columns : List String) (rows : List (List (String × Value)))
    (index : Nat) :
    checkRows columns index (rows.map (mapRow f)) = checkRows columns index rows := by
  induction rows generalizing index with
  | nil => rfl
  | cons row rows ih => simp [checkRows, checkRow_mapRow, ih]

theorem rowGroup_mapRow (row : List (String × Value)) :
    rowGroup (mapRow f row) = (rowGroup row).mapValues f := by
  simp [rowGroup, mapRow, Statement.mapValues_placeholders, Function.comp_def]

theorem toInsert_mapValues (q : Query) (rows : List (List (String × Value))) :
    (q.mapValues f).toInsert (rows.map (mapRow f)) =
      Statement.mapValues f <$> q.toInsert rows := by
  cases rows with
  | nil => rfl
  | cons first rest =>
    have hf : (mapRow f first).isEmpty = first.isEmpty := by simp [mapRow]
    have ht : (q.mapValues f).table = q.table := rfl
    have hg : Statement.joinWith ", " ((mapRow f first :: rest.map (mapRow f)).map rowGroup) =
        (Statement.joinWith ", " ((first :: rest).map rowGroup)).mapValues f := by
      simp [Statement.mapValues_joinWith, rowGroup_mapRow, Function.comp_def]
    cases he : first.isEmpty with
    | true => simp [toInsert, hf, he]
    | false =>
      simp only [List.map_cons, toInsert, hf, he, names_mapRow, checkRows_mapRow, ht]
      rw [← List.map_cons, hg]
      simp

theorem toUpdate_mapValues (q : Query) (values : List (String × Value)) :
    (q.mapValues f).toUpdate (mapRow f values) = Statement.mapValues f <$> q.toUpdate values := by
  have hw : (q.mapValues f).wheres = q.wheres.map (Predicate.mapValues f) := rfl
  have he : (mapRow f values).isEmpty = values.isEmpty := by simp [mapRow]
  have ht : (q.mapValues f).table = q.table := rfl
  have hs : (mapRow f values).map (fun (column, value) => assignment column value) =
      (values.map fun (column, value) => assignment column value).map (Statement.mapValues f) := by
    simp [mapRow, assignment]
  simp only [toUpdate, names_mapRow, hw, he, ht, hs, Condition.clause_mapValues]
  split
  · simp
  · simp [Statement.mapValues_joinWith]

theorem toDelete_mapValues (q : Query) :
    (q.mapValues f).toDelete = Statement.mapValues f <$> q.toDelete := by
  simp [toDelete, mapValues, Condition.clause_mapValues]

/-! ## The promise -/

/-- The text and the bindings that a caller gets, or the error. -/
def answer (x : Except CompileError Statement) : Except CompileError (String × List Value) :=
  Statement.view <$> x

/-- The text that a caller gets, or the error. -/
def text (x : Except CompileError Statement) : Except CompileError String := Statement.sql <$> x

theorem answer_mapValues (x : Except CompileError Statement) :
    answer (Statement.mapValues f <$> x) =
      (fun (sql, params) => (sql, params.map f)) <$> answer x := by
  cases x with
  | error e => rfl
  | ok s =>
    show Except.ok (s.mapValues f).view = Except.ok (s.sql, s.params.map f)
    rw [Statement.view_mapValues]

theorem text_mapValues (x : Except CompileError Statement) :
    text (Statement.mapValues f <$> x) = text x := by
  cases x with
  | error e => rfl
  | ok s =>
    show Except.ok (s.mapValues f).sql = Except.ok s.sql
    rw [Statement.sql_mapValues]

theorem compile_mapValues (q : Query) (r : Request) :
    (q.mapValues f).compile (r.mapValues f) = Statement.mapValues f <$> q.compile r := by
  cases r with
  | select d => exact toSelect_mapValues f q d
  | count d => exact toCount_mapValues f q d
  | insert rows => exact toInsert_mapValues f q rows
  | update values => exact toUpdate_mapValues f q values
  | delete => exact toDelete_mapValues f q

/-- **Bound values do not reach the text.** A function of the values acts on the bindings alone,
and what differs in its values alone has one text or one error. -/
theorem text_value_free :
    (∀ (f : Value → Value) (q : Query) (r : Request),
      answer ((q.mapValues f).compile (r.mapValues f)) =
        (fun (sql, params) => (sql, params.map f)) <$> answer (q.compile r)) ∧
    ∀ (q q' : Query) (r r' : Request), q.shape = q'.shape → r.shape = r'.shape →
      text (q.compile r) = text (q'.compile r') := by
  refine ⟨fun f q r => ?_, fun q q' r r' hq hr => ?_⟩
  · rw [compile_mapValues, answer_mapValues]
  · rw [← text_mapValues (fun _ => .null) (q.compile r), ← compile_mapValues,
      ← text_mapValues (fun _ => .null) (q'.compile r'), ← compile_mapValues]
    exact congrArg text (congrArg₂ compile hq hr)

/-- Numbers in one run, a quote that would end a literal in the other. -/
theorem text_value_free_quote :
    let q := (on "t").addWhere .and "a" (.compare "=" (.int 1))
    let q' := (on "t").addWhere .and "a" (.compare "=" (.text "'; DROP TABLE t; --"))
    let r := Request.update [("u", .int 0)]
    let r' := Request.update [("u", .text "?'")]
    q.shape = q'.shape ∧ r.shape = r'.shape ∧ text (q.compile r) = text (q'.compile r') ∧
      text (q.compile r) = .ok "UPDATE t SET u = ? WHERE a = ?" :=
  ⟨rfl, rfl, text_value_free.2 _ _ _ _ rfl rfl, by decide +kernel⟩

end Query

end SqlCompose
