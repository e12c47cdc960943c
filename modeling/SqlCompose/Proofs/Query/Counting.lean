import SqlCompose.Proofs.Query.Alignment
import SqlCompose.Proofs.Query.Server

/-!
# A COUNT counts the rows of its SELECT

Both statements of a query mean what their readings say (`selectReading_of`, `countReading_of`).
On every server the number of the COUNT is that of the rows of the SELECT if nothing is filtered
after the projection, or groups are (`countAgrees_of_no_havings`, `countAgrees_of_groups`). A HAVING
without groups is moved to the row of the count, or to a projection of `1`, and `choosyServer` tells
the difference (`not_countAgrees`); `count_agrees_iff` is the exact condition.
-/

namespace SqlCompose

namespace Query

variable {q : Query} {d : Dialect} {w : WindowStyle}

/-! ## Compiled statements and their readings -/

theorem sql_having (q : Query) (projection : String) (ordered : Bool) :
    ((q.clauses projection ordered).having.elim "" fun h => " HAVING " ++ h.1) =
      Layout.sql (Condition.clauseLayout "HAVING" q.havings) := by
  unfold clauses Condition.clauseLayout
  cases q.havings <;> simp [Span.sql]

/-- The clauses before ORDER BY. -/
theorem sql_clauses (q : Query) (d : Dialect) (x : Span) (ordered : Bool) :
    (q.clauses x.sql ordered).sql d =
      Layout.sql (q.bodyLayout x) ++
        ((if (q.clauses x.sql ordered).orders.isEmpty then ""
          else " ORDER BY " ++ ", ".intercalate (q.clauses x.sql ordered).orders) ++
          d.pagination q.limit q.offset !(q.clauses x.sql ordered).orders.isEmpty) := by
  have hg : (if q.groups.isEmpty then "" else " GROUP BY " ++ ", ".intercalate q.groups) =
      Layout.sql q.groupLayout := q.sql_groupLayout.symm
  have hh := q.sql_having x.sql ordered
  simp only [Clauses.sql, bodyLayout, Layout.sql_append, ← hg, ← hh]
  simp [clauses, Span.sql, String.append_assoc]

theorem sql_clauses_ordered (q : Query) (d : Dialect) (x : Span) :
    (q.clauses x.sql true).sql d = Layout.sql (q.bodyLayout x ++ q.tailLayout d) := by
  rw [sql_clauses, Layout.sql_append]
  unfold clauses tailLayout orderLayout
  cases q.orders <;>
    simp [Span.sql, Layout.sql_separated, Function.comp_def, String.append_assoc]

theorem sql_clauses_unordered (hd : d.HasStyle w) (hp : q.isPaginated = false) (x : Span) :
    (q.clauses x.sql false).sql d = Layout.sql (q.bodyLayout x) := by
  obtain ⟨hl, ho⟩ : q.limit = none ∧ q.offset = none := by simpa [isPaginated] using hp
  have hw : d.pagination none none false = "" := by rw [hd, WindowStyle.pagination_none]
  rw [sql_clauses]
  simp [clauses, hl, ho, hw]

theorem params_clauses (q : Query) (projection : String) (ordered : Bool) :
    (q.clauses projection ordered).params = q.boundValues := by
  unfold Clauses.params clauses boundValues
  cases q.havings <;> simp

/-- The SELECT is read as its clauses. -/
theorem selectReading_of {s : Statement} (h : q.toSelect d = .ok s) : q.selectReading.Of d s := by
  obtain ⟨hSql, hParams⟩ := view_toSelect h
  refine ⟨?_, hParams.trans (params_clauses q _ _).symm⟩
  rw [hSql]
  exact (q.sql_clauses_ordered d (.copied q.projection.expression)).symm

/-- The COUNT is read as its own SELECT or as the count of a derived table. -/
theorem countReading_of (hd : d.HasStyle w) {s : Statement} (h : q.toCount d = .ok s) :
    q.countReading.Of d s := by
  obtain ⟨hSql, hParams⟩ := view_toCount h
  unfold countReading
  unfold countLayout at hSql
  split at hSql
  · rename_i hc
    have hp : q.isPaginated = false := by simp_all
    rw [if_pos hc]
    refine ⟨?_, hParams.trans (params_clauses q _ _).symm⟩
    rw [hSql]
    exact (sql_clauses_unordered hd hp (.own countProjection)).symm
  · rename_i hc
    rw [if_neg hc]
    refine ⟨?_, hParams.trans (params_clauses q _ _).symm⟩
    have hx : q.innerProjection =
        (if q.groups.isEmpty then .own "1" else .copied q.projection.expression : Span).sql := by
      unfold innerProjection
      split <;> rfl
    have hi : (q.clauses q.innerProjection q.isPaginated).sql d = Layout.sql (q.bodyLayout
        (if q.groups.isEmpty then .own "1" else .copied q.projection.expression) ++
          if q.isPaginated then q.tailLayout d else []) := by
      rw [hx]
      cases hp : q.isPaginated with
      | true => simpa using q.sql_clauses_ordered d _
      | false => simpa using sql_clauses_unordered hd hp _
    rw [hSql, Reading.sql, hi]
    simp [Span.sql, countProjection, String.append_assoc]

theorem exists_body {projection : String} {s : Statement} (h : q.body projection = .ok s)
    (projection' : String) : ∃ t, q.body projection' = .ok t := by
  obtain ⟨joins, hj, h⟩ := bind_eq_ok_iff.1 h
  obtain ⟨wheres, hw, h⟩ := bind_eq_ok_iff.1 h
  obtain ⟨havings, hh, -⟩ := bind_eq_ok_iff.1 h
  exact ⟨_, by simp only [body, hj, hw, hh]; rfl⟩

/-- A COUNT succeeds whenever its SELECT does. -/
theorem exists_toCount {s : Statement} (h : q.toSelect d = .ok s) : ∃ c, q.toCount d = .ok c := by
  obtain ⟨body, hb, h⟩ := bind_eq_ok_iff.1 h
  obtain ⟨tail, ht, -⟩ := bind_eq_ok_iff.1 h
  have hs : ∀ projection withTail, ∃ t, q.selectWith d projection withTail = .ok t := by
    intro projection withTail
    obtain ⟨t, hbt⟩ := exists_body hb projection
    cases withTail
    · exact ⟨t, by simp only [selectWith, hbt]; rfl⟩
    · exact ⟨_, by simp only [selectWith, hbt, ht]; rfl⟩
  unfold toCount
  split
  · exact hs _ _
  · obtain ⟨inner, hi⟩ := hs q.innerProjection q.isPaginated
    exact ⟨_, by dsimp only; rw [← innerProjection, hi]; rfl⟩

end Query

/-! ## Numbers of rows -/

namespace Server

variable {Row Out : Type} (v : Server Row Out) (w : WindowStyle)

theorem length_rows {c c' : Clauses} (h : (v.kept c).length = (v.kept c').length)
    (hl : c.limit = c'.limit) (ho : c.offset = c'.offset) :
    (v.rows w c).length = (v.rows w c').length := by
  unfold rows
  rw [hl, ho]
  refine w.length_apply ?_ c'.limit c'.offset
  rw [(v.order_perm c.orders _).length_eq, (v.order_perm c'.orders _).length_eq, h]

end Server

namespace Query

/-- The COUNT of a query gives exactly one number, the number of rows of its SELECT. -/
def CountAgrees {Row Out : Type} (q : Query) (v : Server Row Out) (w : WindowStyle) : Prop :=
  v.answer w q.countReading = [.number (v.answer w q.selectReading).length]

/-- Where COUNT keeps its promise: HAVING filters nothing, or it filters groups, whose projection
the derived table keeps, or it makes no difference that the derived table projects a constant. -/
def CountsItsRows (q : Query) : Prop :=
  q.havings = [] ∨ q.groups ≠ [] ∨
    q.isPaginated ∧ (q.projection.expression = "1" ∨ q.limit = some 0)

section
variable {Row Out : Type} {q : Query} {v : Server Row Out} {w : WindowStyle}

theorem kept_clauses (hh : q.havings = []) (projection : String) (ordered : Bool) :
    v.kept (q.clauses projection ordered) = v.projected (q.clauses projection ordered) := by
  simp [Server.kept, clauses, hh]

theorem length_projected (hg : q.groups = []) {projection : String} (ordered : Bool)
    (hr : v.kind projection = .rowWise) :
    (v.projected (q.clauses projection ordered)).length = (v.source
      (q.clauses projection ordered).source (q.wheres.flatMap Predicate.values)).length := by
  simp [Server.projected, clauses, hg, hr]

theorem countReading_paginated (hp : q.isPaginated = true) :
    q.countReading = .countOf (q.clauses q.innerProjection true) := by
  simp [countReading, hp]

theorem countAgrees_of_groups (hg : q.groups ≠ []) : q.CountAgrees v w := by
  have hc : q.countReading = .countOf (q.clauses q.projection.expression q.isPaginated) := by
    simp [countReading, innerProjection, hg]
  have hk : v.kept (q.clauses q.projection.expression q.isPaginated) =
      v.kept (q.clauses q.projection.expression true) := rfl
  rw [CountAgrees, hc]
  simp only [Server.answer, selectReading]
  rw [v.length_rows w (congrArg List.length hk) rfl rfl]

theorem countAgrees_of_no_havings (hr : v.kind q.projection.expression = .rowWise)
    (hg : q.groups = []) (hh : q.havings = []) : q.CountAgrees v w := by
  cases hp : q.isPaginated with
  | true =>
    -- The derived table has other columns than the SELECT, but as many rows.
    have hi : q.innerProjection = "1" := by simp [innerProjection, hg]
    have hk : (v.kept (q.clauses "1" true)).length =
        (v.kept (q.clauses q.projection.expression true)).length := by
      rw [kept_clauses hh, kept_clauses hh, length_projected hg _ v.kind_constant,
        length_projected hg _ hr]
      rfl
    rw [CountAgrees, countReading_paginated hp, hi]
    simp only [Server.answer, selectReading]
    rw [v.length_rows w hk rfl rfl]
  | false =>
    -- The COUNT is a SELECT of one row, which nothing filters or drops.
    have hc : q.countReading = .select (q.clauses countProjection false) := by
      simp [countReading, hg, hp]
    have hn : v.projected (q.clauses countProjection false) =
        [.number (v.projected (q.clauses q.projection.expression true)).length] := by
      rw [length_projected hg _ hr]
      simp [Server.projected, clauses, hg, v.kind_count]
    obtain ⟨hl, ho⟩ : q.limit = none ∧ q.offset = none := by simpa [isPaginated] using hp
    have hw : ∀ projection ordered, v.rows w (q.clauses projection ordered) =
        v.order (q.clauses projection ordered).orders (v.kept (q.clauses projection ordered)) := by
      intro projection ordered
      simp [Server.rows, clauses, hl, ho]
    rw [CountAgrees, hc]
    simp only [Server.answer, selectReading]
    rw [hw, hw, kept_clauses hh, kept_clauses hh, hn, (v.order_perm _ _).length_eq]
    exact List.perm_singleton.1 (v.order_perm _ _)

/-- The derived table projects a constant, and so does the query. -/
theorem countAgrees_of_constant (hg : q.groups = []) (hp : q.isPaginated = true)
    (hc : q.projection.expression = "1") : q.CountAgrees v w := by
  have hi : q.innerProjection = "1" := by simp [innerProjection, hg]
  rw [CountAgrees, countReading_paginated hp, hi, selectReading, hc]
  rfl

theorem countAgrees_of_limit_zero (hp : q.isPaginated = true) (hl : q.limit = some 0) :
    q.CountAgrees v w := by
  have hz : ∀ projection, v.rows w (q.clauses projection true) = [] := by
    intro projection
    simp [Server.rows, clauses, hl, WindowStyle.apply, WindowStyle.rowCount]
  rw [CountAgrees, countReading_paginated hp]
  simp only [Server.answer, selectReading, hz, List.length_nil]

theorem countAgrees_of_countsItsRows (hr : v.kind q.projection.expression = .rowWise)
    (h : q.CountsItsRows) : q.CountAgrees v w := by
  by_cases hg : q.groups = []
  · rcases h with hh | hg' | ⟨hp, hc | hl⟩
    · exact countAgrees_of_no_havings hr hg hh
    · exact absurd hg hg'
    · exact countAgrees_of_constant hg hp hc
    · exact countAgrees_of_limit_zero hp hl
  · exact countAgrees_of_groups hg

end

/-! ## Where COUNT fails -/

/-- A server with `n` rows whose HAVING keeps the rows of one projection and no other. -/
def choosyServer (projection : String) (n : Nat) : Server Unit Bool where
  source _ _ := List.replicate n ()
  grouping _ rows := [rows]
  kind p := if p = countProjection then .count else .rowWise
  kind_count := rfl
  kind_constant := rfl
  columns p _ := p == projection
  special _ _ := []
  keeps
    | _, _, .row columns => columns
    | _, _, .number _ => false
  order _ rows := rows
  order_perm _ _ := .refl _

section
variable {q : Query} (w : WindowStyle)

/-- The rows that the choosy server keeps of a row-wise projection: all or none. -/
theorem kept_choosyServer (hg : q.groups = []) (hh : q.havings ≠ []) (own projection : String)
    (hp : projection ≠ countProjection) (n : Nat) (ordered : Bool) :
    (choosyServer own n).kept (q.clauses projection ordered) =
      if projection = own then List.replicate n (.row true) else [] := by
  have hr : (choosyServer own n).kind projection = .rowWise := if_neg hp
  simp only [Server.kept, Server.projected, clauses, hg, hr, List.isEmpty_iff, hh, if_false,
    List.isEmpty_nil, if_true]
  by_cases ho : projection = own <;> simp [choosyServer, ho]

theorem kept_choosyServer_count (hg : q.groups = []) (hh : q.havings ≠ []) (own : String) (n : Nat)
    (ordered : Bool) : (choosyServer own n).kept (q.clauses countProjection ordered) = [] := by
  have hr : (choosyServer own n).kind countProjection = .count := rfl
  simp only [Server.kept, Server.projected, clauses, hg, hr, List.isEmpty_iff, hh, if_false,
    List.isEmpty_nil, if_true]
  rfl

theorem rows_choosyServer (own : String) (n : Nat) (c : Clauses) :
    (choosyServer own n).rows w c = w.apply c.limit c.offset ((choosyServer own n).kept c) := rfl

/-- Wherever HAVING can tell the rows of the SELECT from those of the derived table, or from the
row of a bare count, there is a server on which it does. -/
theorem not_countAgrees (hc : q.projection.expression ≠ countProjection) (h : ¬q.CountsItsRows) :
    ¬q.CountAgrees (choosyServer q.projection.expression (q.offset.elim 0 UInt64.toNat + 1)) w := by
  obtain ⟨hh, hg, hp⟩ : q.havings ≠ [] ∧ q.groups = [] ∧
      (q.isPaginated = true → q.projection.expression ≠ "1" ∧ q.limit ≠ some 0) := by
    simpa [CountsItsRows] using h
  have hl : q.limit ≠ some 0 := fun hl => (hp (by simp [isPaginated, hl])).2 hl
  generalize hn : q.offset.elim 0 UInt64.toNat + 1 = n
  -- The SELECT keeps all rows, one more than the offset drops.
  have hs : (choosyServer q.projection.expression n).rows w
      (q.clauses q.projection.expression true) ≠ [] := by
    rw [rows_choosyServer, kept_choosyServer hg hh _ _ hc, if_pos rfl]
    refine w.apply_ne_nil hl ?_
    show q.offset.elim 0 UInt64.toNat < _
    rw [List.length_replicate]
    omega
  intro hAgrees
  cases hpag : q.isPaginated with
  | true =>
    -- None of the constant rows of the derived table is kept, so the number is zero.
    have hi : q.innerProjection = "1" := by simp [innerProjection, hg]
    have hk : (choosyServer q.projection.expression n).rows w (q.clauses "1" true) = [] := by
      rw [rows_choosyServer, kept_choosyServer hg hh _ _ (by decide),
        if_neg (hp hpag).1.symm, WindowStyle.apply_nil]
    rw [CountAgrees, countReading_paginated hpag, hi] at hAgrees
    simp only [Server.answer, selectReading, hk, List.length_nil] at hAgrees
    have hz : 0 = ((choosyServer q.projection.expression n).rows w
        (q.clauses q.projection.expression true)).length := by
      injection hAgrees with hNumber
      injection hNumber
    exact hs (List.length_eq_zero_iff.1 hz.symm)
  | false =>
    -- The row of the count itself is not kept, so there is no number.
    have hr : q.countReading = .select (q.clauses countProjection false) := by
      simp [countReading, hg, hpag]
    rw [CountAgrees, hr, Server.answer, rows_choosyServer, kept_choosyServer_count hg hh,
      WindowStyle.apply_nil] at hAgrees
    exact List.cons_ne_nil _ _ hAgrees.symm

end

/-! ## The condition -/

/-- **COUNT counts the rows of its SELECT, on every server, exactly where it can.** Both statements
are compiled and mean what their clauses say; the number is right whatever the rows, the groups and
the condition of HAVING, if and only if the query satisfies `CountsItsRows`. -/
theorem count_agrees_iff {q : Query} {d : Dialect} {w : WindowStyle} (hd : d.HasStyle w)
    (hc : q.projection.expression ≠ countProjection) {s : Statement} (hs : q.toSelect d = .ok s) :
    ∃ c, q.toCount d = .ok c ∧ q.selectReading.Of d s ∧ q.countReading.Of d c ∧
      ((∀ (Row Out : Type) (v : Server Row Out),
          v.kind q.projection.expression = .rowWise → q.CountAgrees v w) ↔ q.CountsItsRows) := by
  obtain ⟨c, hCount⟩ := exists_toCount hs
  refine ⟨c, hCount, selectReading_of hs, countReading_of hd hCount, ?_, ?_⟩
  · intro hAgrees
    by_contra hNot
    exact not_countAgrees w hc hNot (hAgrees _ _ _ (if_neg hc))
  · intro hCounts Row Out v hr
    exact countAgrees_of_countsItsRows hr hCounts

/-- Rows filtered after their projection; one query in groups of its own, the other without. -/
def filteredQuery (groups : List String) : Query :=
  { (on "t").addHaving .and "a" (.compare ">" (.int 1)) with groups }

/-- Without groups the COUNT filters the one row of its number; on a table of one row with `a > 1`
the SELECT has that row and the COUNT has none. -/
theorem filteredQuery_miscounts :
    let q := filteredQuery []
    let v := choosyServer "*" 1
    ∃ s c, q.toSelect MySql.dialect = .ok s ∧ q.toCount MySql.dialect = .ok c ∧
      s.sql = "SELECT * FROM t HAVING a > ?" ∧
      c.sql = "SELECT COUNT(*) AS aggregate FROM t HAVING a > ?" ∧
      q.selectReading.Of MySql.dialect s ∧ q.countReading.Of MySql.dialect c ∧
      (v.answer .mySql q.selectReading).length = 1 ∧ v.answer .mySql q.countReading = [] := by
  have hd : (MySql.dialect).HasStyle .mySql := Dialect.hasStyle_mySql {}
  exact ⟨_, _, rfl, rfl, by decide +kernel, by decide +kernel, selectReading_of rfl,
    countReading_of hd rfl, rfl, rfl⟩

/-- In groups by `a` the same HAVING is counted right on every server. -/
theorem filteredQuery_counts :
    let q := filteredQuery ["a"]
    (MySql.dialect).HasStyle .mySql ∧ q.projection.expression ≠ countProjection ∧
    (∃ s, q.toSelect MySql.dialect = .ok s) ∧
    ∃ c, q.toCount MySql.dialect = .ok c ∧ c.sql = "SELECT COUNT(*) AS aggregate FROM " ++
        "(SELECT * FROM t GROUP BY a HAVING a > ?) AS aggregate_table" ∧
      ∀ (Row Out : Type) (v : Server Row Out), v.kind "*" = .rowWise → q.CountAgrees v .mySql := by
  have hd : (MySql.dialect).HasStyle .mySql := Dialect.hasStyle_mySql {}
  have hc : (filteredQuery ["a"]).projection.expression ≠ countProjection := by decide
  have hg : (filteredQuery ["a"]).CountsItsRows := .inr (.inl (by decide))
  obtain ⟨c, hCount, -, -, hAgrees⟩ := count_agrees_iff hd hc (s := _) rfl
  exact ⟨hd, hc, ⟨_, rfl⟩, c, hCount, by cases hCount; decide +kernel, hAgrees.2 hg⟩

end Query

end SqlCompose
