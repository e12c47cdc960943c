import SqlCompose.Proofs.Comparison.Spelling
import SqlCompose.Proofs.Outcome
import SqlCompose.Query.Select
import SqlCompose.Query.Write

/-!
# The first defect decides the error

What a compiler asks of the texts of a caller is a list of checks, in the order in which it makes
them (`Query.selectChecks` and its companions). A computation `Makes` a list of checks if its error
is always that of the first check that is not passed; computations in sequence make their checks one
after the other (`Makes.bind`, `Makes.mapM`), so each statement makes those of its clauses. All
checks of a SELECT are passed exactly if its clauses are sound (`first_defect_wins`).
-/

namespace SqlCompose

/-! ## Checks -/

/-- A column name is one if it has a character that is not blank. -/
def IsNamed (column : String) : Prop := ∃ c ∈ column.toList, Text.isBlank c = false

/-- One question of a compiler to its caller. -/
inductive Check
  | column (name : String)
  | operator (text : String)
  | direction (text : String)
  /-- An UPDATE assigns something. -/
  | assignments (values : List (String × Value))

namespace Check

def Passes : Check → Prop
  | column name => IsNamed name
  | operator text => ∃ c, Comparison.Spells text c
  | direction text => ∃ d, Direction.Spells text d
  | assignments values => values ≠ []

/-- The error if the check is not passed, with the text as the caller wrote it. -/
def error : Check → CompileError
  | column _ => .emptyColumn
  | operator text => .invalidOperator text
  | direction text => .invalidDirection text
  | assignments _ => .emptyUpdate

end Check

/-- The first check that is not passed has this error. -/
inductive FirstDefect : List Check → CompileError → Prop
  | here {c : Check} {cs : List Check} : ¬c.Passes → FirstDefect (c :: cs) c.error
  | later {c : Check} {cs : List Check} {e : CompileError} :
      c.Passes → FirstDefect cs e → FirstDefect (c :: cs) e

section

variable {c : Check} {cs ds : List Check} {e : CompileError}

theorem not_firstDefect_nil : ¬FirstDefect [] e := nofun

theorem firstDefect_cons_iff :
    FirstDefect (c :: cs) e ↔ (¬c.Passes ∧ c.error = e) ∨ (c.Passes ∧ FirstDefect cs e) := by
  constructor
  · rintro (hc | ⟨hc, h⟩)
    · exact .inl ⟨hc, rfl⟩
    · exact .inr ⟨hc, h⟩
  · rintro (⟨hc, rfl⟩ | ⟨hc, h⟩)
    · exact .here hc
    · exact .later hc h

theorem firstDefect_append_iff :
    FirstDefect (cs ++ ds) e ↔
      FirstDefect cs e ∨ ((∀ c ∈ cs, c.Passes) ∧ FirstDefect ds e) := by
  induction cs with
  | nil => simp [not_firstDefect_nil]
  | cons c cs ih =>
    rw [List.cons_append, firstDefect_cons_iff, firstDefect_cons_iff, ih, List.forall_mem_cons]
    simp only [and_or_left, or_assoc, and_assoc]

theorem exists_firstDefect_iff : (∃ e, FirstDefect cs e) ↔ ∃ c ∈ cs, ¬c.Passes := by
  induction cs with
  | nil => simp [not_firstDefect_nil]
  | cons c cs ih =>
    simp only [firstDefect_cons_iff, exists_or, List.exists_mem_cons_iff, ← ih]
    by_cases hc : c.Passes <;> simp [hc]

end

/-! ## Computations that make checks -/

/-- The computation fails exactly with the first defect among the checks. -/
def Makes {α : Type} (x : Except CompileError α) (cs : List Check) : Prop :=
  ∀ e, x = .error e ↔ FirstDefect cs e

namespace Makes

variable {α β : Type} {x : Except CompileError α} {c : Check} {cs ds : List Check}

/-- A computation with a result has passed its checks. -/
theorem exists_ok_iff (h : Makes x cs) : (∃ a, x = .ok a) ↔ ∀ c ∈ cs, c.Passes := by
  have hError : (∃ e, x = .error e) ↔ ∃ c ∈ cs, ¬c.Passes := by
    rw [← exists_firstDefect_iff]
    exact exists_congr h
  cases x with
  | ok a => simpa using hError
  | error e => simpa using hError

theorem pure (a : α) : Makes (Pure.pure a) [] := fun _ => iff_of_false nofun not_firstDefect_nil

/-- A failed check decides the error, whatever checks come behind it. -/
theorem fail (hc : ¬c.Passes) : Makes (.error c.error : Except CompileError α) (c :: cs) := by
  intro e
  simp [firstDefect_cons_iff, hc]

theorem pass (hc : c.Passes) (h : Makes x cs) : Makes x (c :: cs) := by
  intro e
  simp [firstDefect_cons_iff, hc, h e]

theorem bind {f : α → Except CompileError β} (hx : Makes x cs)
    (hf : ∀ a, x = .ok a → Makes (f a) ds) : Makes (x >>= f) (cs ++ ds) := by
  intro e
  rw [firstDefect_append_iff, ← hx e, ← hx.exists_ok_iff]
  cases x with
  | error e' => simp [Bind.bind, Except.bind]
  | ok a => simpa [Bind.bind, Except.bind] using hf a rfl e

/-- A last step that cannot fail makes no check. -/
theorem bind_pure {f : α → β} (hx : Makes x cs) : Makes (x >>= fun a => Pure.pure (f a)) cs := by
  simpa using hx.bind fun a _ => pure (f a)

theorem mapM {f : α → Except CompileError β} {checks : α → List Check}
    (h : ∀ a, Makes (f a) (checks a)) (as : List α) : Makes (as.mapM f) (as.flatMap checks) := by
  induction as with
  | nil => exact pure []
  | cons a as ih =>
    rw [List.mapM_cons, List.flatMap_cons]
    exact (h a).bind fun _ _ => ih.bind_pure

theorem forM {f : α → Except CompileError PUnit} {checks : α → List Check}
    (h : ∀ a, Makes (f a) (checks a)) (as : List α) : Makes (as.forM f) (as.flatMap checks) := by
  induction as with
  | nil => exact pure PUnit.unit
  | cons a as ih =>
    rw [List.flatMap_cons]
    exact (h a).bind fun _ _ => ih

end Makes

/-! ## The checks of texts -/

theorem allBlank_eq_false_iff {column : String} :
    Text.allBlank column = false ↔ IsNamed column := by
  simp [Text.allBlank, IsNamed]

theorem makes_checkColumn (column : String) : Makes (checkColumn column) [.column column] := by
  unfold checkColumn
  split
  · rename_i hb
    exact .fail (c := .column column) (mt allBlank_eq_false_iff.2 (by simp [hb]))
  · rename_i hb
    exact .pass (allBlank_eq_false_iff.1 (by simpa using hb)) (.pure ())

theorem Comparison.makes_parse (operator : String) :
    Makes (parse operator) [.operator operator] := by
  unfold parse
  split
  · rename_i c hc
    exact .pass ⟨c, parse?_eq_some_iff.1 hc⟩ (.pure c)
  · rename_i hn
    refine .fail (c := .operator operator) fun ⟨c, hc⟩ => ?_
    rw [parse?_eq_some_iff.2 hc] at hn
    cases hn

theorem Direction.makes_parse (direction : String) :
    Makes (parse direction) [.direction direction] := by
  unfold parse
  split
  · rename_i d hd
    exact .pass ⟨d, parse?_eq_some_iff.1 hd⟩ (.pure d)
  · rename_i hn
    refine .fail (c := .direction direction) fun ⟨d, hd⟩ => ?_
    rw [parse?_eq_some_iff.2 hd] at hn
    cases hn

/-! ## The checks of clauses -/

def Join.checks (j : Join) : List Check :=
  [.column j.first, .column j.second, .operator j.operator]

/-- Only a comparison has an operator. -/
def Predicate.checks (p : Predicate) : List Check :=
  .column p.column ::
    match p.test with
    | .compare operator _ => [.operator operator]
    | _ => []

def Condition.checks (ps : Condition) : List Check := ps.flatMap Predicate.checks

def Order.checks (o : Order) : List Check := [.column o.column, .direction o.direction]

theorem Join.makes_sql (j : Join) : Makes j.sql j.checks :=
  (makes_checkColumn j.first).bind fun _ _ => (makes_checkColumn j.second).bind fun _ _ =>
    (Comparison.makes_parse j.operator).bind_pure

theorem Order.makes_sql (o : Order) : Makes o.sql o.checks :=
  (makes_checkColumn o.column).bind fun _ _ => (Direction.makes_parse o.direction).bind_pure

theorem Predicate.makes_statement (p : Predicate) : Makes p.statement p.checks := by
  obtain ⟨column, test, connective⟩ := p
  refine (makes_checkColumn column).bind fun _ _ => ?_
  cases test with
  | compare operator value => exact (Comparison.makes_parse operator).bind_pure
  | among values negated => cases values <;> exact .pure _
  | missing negated => exact .pure _

namespace Condition

theorem makes_following (ps : Condition) : Makes (following ps) ps.checks := by
  induction ps with
  | nil => exact .pure _
  | cons p ps ih =>
    rw [checks, List.flatMap_cons]
    exact p.makes_statement.bind fun _ _ => ih.bind_pure

theorem makes_clause (keyword : String) (ps : Condition) :
    Makes (clause keyword ps) ps.checks := by
  cases ps with
  | nil => exact .pure _
  | cons p ps =>
    rw [checks, List.flatMap_cons]
    have h : Makes (statement (p :: ps)) (p.checks ++ Condition.checks ps) :=
      p.makes_statement.bind fun _ _ => (makes_following ps).bind_pure
    exact h.bind_pure

end Condition

/-! ## The checks of statements -/

namespace Query

/-- The checks of JOIN, WHERE and HAVING. -/
def sourceChecks (q : Query) : List Check :=
  q.joins.flatMap Join.checks ++ (q.wheres.checks ++ q.havings.checks)

def orderChecks (q : Query) : List Check := q.orders.flatMap Order.checks

def selectChecks (q : Query) : List Check := q.sourceChecks ++ q.orderChecks

/-- A COUNT sorts only for a window. -/
def countChecks (q : Query) : List Check :=
  q.sourceChecks ++ if q.isPaginated then q.orderChecks else []

/-- The assigned columns are checked before it is noticed that there are none. -/
def updateChecks (q : Query) (values : List (String × Value)) : List Check :=
  (names values).map .column ++ (.assignments values :: q.wheres.checks)

variable {q : Query} {d : Dialect}

theorem makes_body (q : Query) (projection : String) :
    Makes (q.body projection) q.sourceChecks :=
  (Makes.mapM Join.makes_sql q.joins).bind fun _ _ =>
    (Condition.makes_clause "WHERE" q.wheres).bind fun _ _ =>
      (Condition.makes_clause "HAVING" q.havings).bind_pure

theorem makes_tail (q : Query) (d : Dialect) : Makes (q.tail d) q.orderChecks :=
  ((Makes.mapM Order.makes_sql q.orders).bind_pure).bind_pure

theorem makes_selectWith (q : Query) (d : Dialect) (projection : String) (withTail : Bool) :
    Makes (q.selectWith d projection withTail)
      (q.sourceChecks ++ if withTail then q.orderChecks else []) := by
  refine (q.makes_body projection).bind fun body _ => ?_
  cases withTail with
  | true => exact (q.makes_tail d).bind_pure
  | false => exact .pure _

theorem makes_toSelect (q : Query) (d : Dialect) : Makes (q.toSelect d) q.selectChecks :=
  q.makes_selectWith d _ true

theorem makes_toCount (q : Query) (d : Dialect) : Makes (q.toCount d) q.countChecks := by
  unfold toCount countChecks
  split
  · rename_i hc
    have hp : q.isPaginated = false := by simp_all
    rw [hp]
    exact q.makes_selectWith d _ false
  · exact (q.makes_selectWith d _ q.isPaginated).bind_pure

theorem makes_toDelete (q : Query) : Makes q.toDelete q.wheres.checks :=
  (Condition.makes_clause "WHERE" q.wheres).bind_pure

theorem makes_toUpdate (q : Query) (values : List (String × Value)) :
    Makes (q.toUpdate values) (q.updateChecks values) := by
  have hNames : Makes ((names values).forM checkColumn) ((names values).map .column) := by
    rw [List.map_eq_flatMap]
    exact .forM makes_checkColumn _
  refine hNames.bind fun _ _ => ?_
  cases values with
  | nil => exact .fail (c := .assignments []) (fun h => h rfl)
  | cons v values =>
    exact .pass (List.cons_ne_nil v values) (Condition.makes_clause "WHERE" q.wheres).bind_pure

end Query

/-! ## Sound clauses -/

structure Join.IsSound (j : Join) : Prop where
  first : IsNamed j.first
  second : IsNamed j.second
  operator : ∃ c, Comparison.Spells j.operator c

structure Predicate.IsSound (p : Predicate) : Prop where
  column : IsNamed p.column
  operator : ∀ operator value, p.test = .compare operator value →
    ∃ c, Comparison.Spells operator c

structure Order.IsSound (o : Order) : Prop where
  column : IsNamed o.column
  direction : ∃ d, Direction.Spells o.direction d

/-- All that a query takes its rows from is sound: its joins and conditions. -/
structure Query.HasSoundSource (q : Query) : Prop where
  joins : ∀ j ∈ q.joins, j.IsSound
  wheres : ∀ p ∈ q.wheres, p.IsSound
  havings : ∀ p ∈ q.havings, p.IsSound

theorem Join.passes_iff {j : Join} : (∀ c ∈ j.checks, c.Passes) ↔ j.IsSound := by
  simp only [checks, List.forall_mem_cons]
  constructor
  · rintro ⟨hFirst, hSecond, hOperator, -⟩
    exact ⟨hFirst, hSecond, hOperator⟩
  · rintro ⟨hFirst, hSecond, hOperator⟩
    exact ⟨hFirst, hSecond, hOperator, nofun⟩

theorem Predicate.passes_iff {p : Predicate} : (∀ c ∈ p.checks, c.Passes) ↔ p.IsSound := by
  obtain ⟨column, test, connective⟩ := p
  rw [checks, List.forall_mem_cons]
  constructor
  · rintro ⟨hColumn, hOperator⟩
    refine ⟨hColumn, ?_⟩
    rintro operator value rfl
    exact hOperator _ List.mem_cons_self
  · rintro ⟨hColumn, hOperator⟩
    refine ⟨hColumn, fun c hc => ?_⟩
    cases test with
    | compare operator value =>
      obtain rfl := List.mem_singleton.1 hc
      exact hOperator operator value rfl
    | among values negated => cases hc
    | missing negated => cases hc

theorem Order.passes_iff {o : Order} : (∀ c ∈ o.checks, c.Passes) ↔ o.IsSound := by
  simp only [checks, List.forall_mem_cons]
  constructor
  · rintro ⟨hColumn, hDirection, -⟩
    exact ⟨hColumn, hDirection⟩
  · rintro ⟨hColumn, hDirection⟩
    exact ⟨hColumn, hDirection, nofun⟩

namespace Query

theorem source_passes_iff {q : Query} : (∀ c ∈ q.sourceChecks, c.Passes) ↔ q.HasSoundSource := by
  simp only [sourceChecks, Condition.checks, List.forall_mem_append, List.forall_mem_flatMap,
    Join.passes_iff, Predicate.passes_iff]
  constructor
  · rintro ⟨hJoins, hWheres, hHavings⟩
    exact ⟨hJoins, hWheres, hHavings⟩
  · rintro ⟨hJoins, hWheres, hHavings⟩
    exact ⟨hJoins, hWheres, hHavings⟩

theorem exists_toSelect_iff {q : Query} {d : Dialect} : (∃ s, q.toSelect d = .ok s) ↔
    q.HasSoundSource ∧ ∀ o ∈ q.orders, o.IsSound := by
  rw [(q.makes_toSelect d).exists_ok_iff, selectChecks, List.forall_mem_append, source_passes_iff,
    orderChecks]
  simp only [List.forall_mem_flatMap, Order.passes_iff]

/-- All column names fail alike. -/
theorem firstDefect_columns_iff {columns : List String} {e : CompileError} :
    FirstDefect (columns.map .column) e ↔
      (∃ column ∈ columns, ¬IsNamed column) ∧ e = .emptyColumn := by
  induction columns with
  | nil => simp [not_firstDefect_nil]
  | cons column columns ih =>
    rw [List.map_cons, firstDefect_cons_iff, ih, List.exists_mem_cons_iff]
    by_cases hc : IsNamed column <;> simp [Check.Passes, Check.error, hc, eq_comm]

theorem toUpdate_eq_error_iff {q : Query} {values : List (String × Value)} {e : CompileError} :
    q.toUpdate values = .error e ↔
      ((∃ v ∈ values, ¬IsNamed v.1) ∧ e = .emptyColumn) ∨
      (values = [] ∧ e = .emptyUpdate) ∨
      ((∀ v ∈ values, IsNamed v.1) ∧ values ≠ [] ∧ FirstDefect q.wheres.checks e) := by
  have hSome : (∃ column ∈ names values, ¬IsNamed column) ↔ ∃ v ∈ values, ¬IsNamed v.1 := by
    simp [names]
  have hAll : (∀ c ∈ (names values).map Check.column, c.Passes) ↔ ∀ v ∈ values, IsNamed v.1 := by
    rw [List.forall_mem_map, names, List.forall_mem_map]
    rfl
  rw [q.makes_toUpdate values e, updateChecks, firstDefect_append_iff, firstDefect_columns_iff,
    firstDefect_cons_iff, hSome, hAll]
  cases values with
  | nil => simp [Check.Passes, Check.error, eq_comm]
  | cons v values => simp [Check.Passes]

/-- **The first defect decides the error.** A SELECT has a statement exactly if its clauses are
sound, and else the error of the first defect: in the joins, in WHERE, in HAVING, in the order. A
DELETE looks at WHERE alone, an UPDATE at its assignments before that. -/
theorem first_defect_wins (q : Query) (d : Dialect) (values : List (String × Value)) :
    ((∃ s, q.toSelect d = .ok s) ↔ q.HasSoundSource ∧ ∀ o ∈ q.orders, o.IsSound) ∧
      (∀ e, q.toSelect d = .error e ↔ FirstDefect q.selectChecks e) ∧
      (∀ e, q.toDelete = .error e ↔ FirstDefect q.wheres.checks e) ∧
      ∀ e, q.toUpdate values = .error e ↔
        ((∃ v ∈ values, ¬IsNamed v.1) ∧ e = .emptyColumn) ∨
        (values = [] ∧ e = .emptyUpdate) ∨
        ((∀ v ∈ values, IsNamed v.1) ∧ values ≠ [] ∧ FirstDefect q.wheres.checks e) :=
  ⟨exists_toSelect_iff, q.makes_toSelect d, q.makes_toDelete, fun _ => toUpdate_eq_error_iff⟩

example : ({ on "t" with
      wheres := [⟨"a", .compare " is  not" .null, .and⟩, ⟨"\t", .missing false, .or⟩]
      orders := [⟨"", "up"⟩] } : Query).toDelete = .error (.invalidOperator " is  not") :=
  rfl

end Query

end SqlCompose
