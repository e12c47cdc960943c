import SqlCompose.Proofs.Blueprint.Faults
import SqlCompose.Proofs.Query.Rectangular
import SqlCompose.Proofs.Query.Respelling

/-!
# Which columns of a statement have names

The columns of a statement are those that its caller supplied to its clauses (`Query.columns`). In
each clause but GROUP BY a compiled statement has columns with names only
(`isNamed_of_compile`), since a name that is blank fails one of the checks. The columns of GROUP BY
are copied without a look: any others would do as well (`exists_compile_groups_iff`). A column of a
table is refused for the empty name, but not for a blank one (`exists_definition_renamed_iff`). The
main theorem, `named_columns_iff`, is what this comes to.
-/

namespace SqlCompose

namespace Query

/-! ## The columns of a statement -/

/-- A place of a statement where columns are named. -/
inductive ColumnClause
  | join
  | filter
  | groupBy
  | having
  | orderBy
  | insert
  | set
  deriving DecidableEq, Repr

/-- The columns that a caller supplied to a clause of a SELECT, which may be sorted. -/
def selectColumns (q : Query) (sorted : Bool) : ColumnClause → List String
  | .join => q.joins.flatMap fun j => [j.first, j.second]
  | .filter => q.wheres.map Predicate.column
  | .groupBy => q.groups
  | .having => q.havings.map Predicate.column
  | .orderBy => if sorted then q.orders.map Order.column else []
  | .insert | .set => []

/-- The columns that a caller supplied to a clause of a statement; none if it has no such clause.
A COUNT sorts only for a window. -/
def columns (q : Query) : Request → ColumnClause → List String
  | .select _, clause => q.selectColumns true clause
  | .count _, clause => q.selectColumns q.isPaginated clause
  | .insert rows, .insert => rows.flatMap names
  | .update values, .set => names values
  | .update _, .filter | .delete, .filter => q.wheres.map Predicate.column
  | _, _ => []

/-! ## Checked columns -/

variable {q : Query} {r : Request} {s : Statement} {column : String}

theorem column_mem_predicates {ps : Condition} (h : column ∈ ps.map Predicate.column) :
    .column column ∈ ps.checks := by
  obtain ⟨p, hp, rfl⟩ := List.mem_map.1 h
  exact List.mem_flatMap.2 ⟨p, hp, List.mem_cons_self⟩

theorem column_mem_joins (h : column ∈ q.joins.flatMap fun j => [j.first, j.second]) :
    .column column ∈ q.joins.flatMap Join.checks := by
  obtain ⟨j, hj, hc⟩ := List.mem_flatMap.1 h
  refine List.mem_flatMap.2 ⟨j, hj, ?_⟩
  rcases List.mem_cons.1 hc with rfl | hc
  · exact List.mem_cons_self
  · obtain rfl := List.mem_singleton.1 hc
    exact List.mem_cons_of_mem _ List.mem_cons_self

theorem column_mem_orders (h : column ∈ q.orders.map Order.column) :
    .column column ∈ q.orderChecks := by
  obtain ⟨o, ho, rfl⟩ := List.mem_map.1 h
  exact List.mem_flatMap.2 ⟨o, ho, List.mem_cons_self⟩

theorem column_mem_select {clause : ColumnClause} (hclause : clause ≠ .groupBy) {sorted : Bool}
    (h : column ∈ q.selectColumns sorted clause) :
    .column column ∈ q.sourceChecks ++ if sorted then q.orderChecks else [] := by
  cases clause with
  | join => exact List.mem_append_left _ (List.mem_append_left _ (column_mem_joins h))
  | filter =>
    refine List.mem_append_left _ (List.mem_append_right _ (List.mem_append_left _ ?_))
    exact column_mem_predicates h
  | having =>
    refine List.mem_append_left _ (List.mem_append_right _ (List.mem_append_right _ ?_))
    exact column_mem_predicates h
  | orderBy =>
    cases sorted with
    | true => exact List.mem_append_right _ (column_mem_orders h)
    | false => cases h
  | groupBy => exact absurd rfl hclause
  | insert | set => cases h

/-- The columns of each clause but GROUP BY are checked. The checks of an INSERT are said of its
rows and have no list. -/
theorem column_mem_checks {clause : ColumnClause} (hclause : clause ≠ .groupBy)
    (hr : ∀ rows, r ≠ .insert rows) (h : column ∈ q.columns r clause) :
    .column column ∈ q.checks r := by
  cases r with
  | select d => exact column_mem_select hclause h
  | count d => exact column_mem_select hclause h
  | insert rows => exact absurd rfl (hr rows)
  | update values =>
    cases clause with
    | filter => exact List.mem_append_right _ (List.mem_cons_of_mem _ (column_mem_predicates h))
    | set => exact List.mem_append_left _ (List.mem_map_of_mem h)
    | join | groupBy | having | orderBy | insert => cases h
  | delete =>
    cases clause with
    | filter => exact column_mem_predicates h
    | join | groupBy | having | orderBy | insert | set => cases h

/-- The rows of an INSERT name the columns of the first row, and those are checked. -/
theorem isNamed_of_isRectangular {rows : List (List (String × Value))} (h : IsRectangular rows)
    (hcolumn : column ∈ rows.flatMap names) : IsNamed column := by
  obtain ⟨first, rest, rfl, -, hnamed, hrest⟩ := h
  obtain ⟨row, hrow, hmem⟩ := List.mem_flatMap.1 hcolumn
  have hfirst : column ∈ names first := by
    rcases List.mem_cons.1 hrow with rfl | hrow
    · exact hmem
    · rwa [hrest row hrow] at hmem
  exact allBlank_eq_false_iff.1 (hnamed column hfirst)

theorem isNamed_of_compile (h : q.compile r = .ok s) {clause : ColumnClause}
    (hclause : clause ≠ .groupBy) (hcolumn : column ∈ q.columns r clause) : IsNamed column := by
  by_cases hr : ∃ rows, r = .insert rows
  · obtain ⟨rows, rfl⟩ := hr
    cases clause with
    | insert => exact isNamed_of_isRectangular (toInsert_eq_ok_iff.1 h).1 hcolumn
    | join | filter | groupBy | having | orderBy | set => cases hcolumn
  · exact passes_of_compile h _ (column_mem_checks hclause (not_exists.1 hr) hcolumn)

/-! ## Columns that are not checked -/

/-- Whether a statement compiles does not depend on the columns of GROUP BY. -/
theorem exists_compile_groups_iff (q : Query) (r : Request) (groups : List String) :
    (∃ s, { q with groups }.compile r = .ok s) ↔ ∃ s, q.compile r = .ok s := by
  cases r with
  | select d =>
    exact (makes_toSelect { q with groups } d).exists_ok_iff.trans
      (q.makes_toSelect d).exists_ok_iff.symm
  | count d =>
    exact (makes_toCount { q with groups } d).exists_ok_iff.trans
      (q.makes_toCount d).exists_ok_iff.symm
  | insert rows => exact Iff.rfl
  | update values => exact Iff.rfl
  | delete => exact Iff.rfl

end Query

namespace Column

theorem name_ne_of_definition {c : Column} {d : Dialect} {t : String}
    (h : c.definition d = .ok t) : c.name ≠ "" := by
  have hname := (exists_definition_iff.1 ⟨t, h⟩).1
  rintro heq
  rw [heq] at hname
  cases hname

/-- A column with a definition has one under each other name that is not empty. -/
theorem exists_definition_renamed_iff (v : Vendor) {c : Column}
    (h : ∃ t, c.definition v.dialect = .ok t) (name : String) :
    (∃ t, { c with name }.definition v.dialect = .ok t) ↔ name ≠ "" := by
  have htype : ∀ c : Column, (∃ t, v.dialect.typeDefinition c = .ok t) ↔ c.HasValues := by
    intro c
    rw [exists_ok_iff_of_error_iff fun e => typeDefinition_eq_error_iff v]
    simp
  rw [exists_definition_iff, htype] at h
  rw [exists_definition_iff, htype, ← Bool.not_eq_true, String.isEmpty_iff]
  exact and_iff_left h.2

end Column

namespace Query

/-- **Which columns have names.** In a compiled statement the columns of each clause but GROUP BY
have names, so all its columns have them exactly if those of GROUP BY do; and any columns can stand
there. A column of a table has a name that is not empty, and any such name will do. -/
theorem named_columns_iff (q : Query) (r : Request) (v : Vendor) (c : Column) :
    (∀ s, q.compile r = .ok s →
      (∀ clause, clause ≠ .groupBy → ∀ column ∈ q.columns r clause, IsNamed column) ∧
      ((∀ clause, ∀ column ∈ q.columns r clause, IsNamed column) ↔
        ∀ column ∈ q.columns r .groupBy, IsNamed column) ∧
      ∀ groups, ∃ s', { q with groups }.compile r = .ok s') ∧
    ∀ d t, c.definition d = .ok t → c.name ≠ "" ∧
      (d = v.dialect → ∀ name,
        (∃ t', { c with name }.definition v.dialect = .ok t') ↔ name ≠ "") := by
  refine ⟨fun s hs => ⟨fun clause hclause column => isNamed_of_compile hs hclause,
    ⟨fun h => h .groupBy, fun h clause column hcolumn => ?_⟩,
    fun groups => (q.exists_compile_groups_iff r groups).2 ⟨s, hs⟩⟩, fun d t ht => ?_⟩
  · by_cases hclause : clause = .groupBy
    · rw [hclause] at hcolumn
      exact h column hcolumn
    · exact isNamed_of_compile hs hclause hcolumn
  · refine ⟨Column.name_ne_of_definition ht, ?_⟩
    rintro rfl name
    exact Column.exists_definition_renamed_iff v ⟨t, ht⟩ name

/-- A query with all clauses of a SELECT, grouped by the given columns. -/
def groupedQuery (groups : List String) : Query :=
  { on "t" with
    joins := [⟨.left, "u", "t.id", "=", "u.id"⟩]
    wheres := [⟨"\u2003a", .missing false, .and⟩]
    groups
    havings := [⟨"n", .among [] true, .or⟩]
    orders := [⟨"b\t", "asc"⟩]
    limit := some 3 }

/-- Blanks around a name are no harm, whatever blanks they are. -/
theorem groupedQuery_named :
    let q := groupedQuery ["c", "\u00a0d"]
    (∃ s, q.compile (.select MySql.dialect) = .ok s) ∧
      (∀ clause, ∀ column ∈ q.columns (.select MySql.dialect) clause, IsNamed column) ∧
      ∃ t, ({ name := " e", type := .int } : Column).definition SqlServer.dialect = .ok t := by
  have hgroups : ∀ column ∈ ["c", "\u00a0d"], IsNamed column := by
    have hall : ∀ column ∈ ["c", "\u00a0d"], Text.allBlank column = false := by decide +kernel
    exact fun column hc => allBlank_eq_false_iff.1 (hall column hc)
  have hcolumn : ({ name := "e", type := .int } : Column).definition SqlServer.dialect =
      .ok "e INT NOT NULL" := by decide +kernel
  obtain ⟨hcompile, hdefinition⟩ := named_columns_iff (groupedQuery ["c", "\u00a0d"])
    (.select MySql.dialect) .sqlServer { name := "e", type := .int }
  exact ⟨⟨_, rfl⟩, (hcompile _ rfl).2.1.2 hgroups,
    ((hdefinition _ _ hcolumn).2 rfl " e").2 (by decide)⟩

/-- A SELECT that groups by a column without a name, and a column of a table whose name is a
space. -/
theorem groupedQuery_nameless :
    (((on "t").call (.groupBy [""])).compile (.select MySql.dialect)).map Statement.sql =
        .ok "SELECT * FROM t GROUP BY " ∧
      ¬IsNamed "" ∧
      ({ name := " ", type := .int } : Column).definition MySql.dialect =
        .ok "  INT NOT NULL" ∧
      ¬IsNamed " " := by
  have hblank : Text.allBlank "" = true ∧ Text.allBlank " " = true := by decide +kernel
  refine ⟨rfl, fun h => ?_, by decide +kernel, fun h => ?_⟩
  · exact absurd (allBlank_eq_false_iff.2 h) (by simp [hblank.1])
  · exact absurd (allBlank_eq_false_iff.2 h) (by simp [hblank.2])

end Query

end SqlCompose
