import SqlCompose.Proofs.Dialect.Pagination
import SqlCompose.Proofs.Outcome
import SqlCompose.Proofs.Query.Vocabulary

/-!
# Placeholders and bindings are aligned

A compiled statement has the text of its layout and the values of its suppliers
(`view_toSelect`, `view_toCount`, `view_toUpdate`, `view_toDelete`). The layouts of the clauses are
woven from marks and their suppliers one clause after the other (`Woven.append`), so the `k`-th mark
stands in the text of the supplier of the `k`-th value (`Woven.placed`), and the question marks of
the text are those marks and the ones that the caller wrote (`questionMarks_sql`). The main theorem
`placeholders_aligned` says this of all four compilers.
-/

namespace SqlCompose

/-! ## Layouts -/

@[simp] theorem Span.plain_own (words : String) : (own words).Plain ↔ '?' ∉ words.toList := .rfl

@[simp] theorem Span.plain_copied (text : String) : (copied text).Plain := trivial

@[simp] theorem Span.plain_mark : mark.Plain := trivial

namespace Layout

@[simp] theorem sql_nil : sql [] = "" := String.join_nil

@[simp] theorem sql_cons (x : Span) (l : Layout) : sql (x :: l) = x.sql ++ sql l :=
  String.join_cons

@[simp] theorem sql_append (l r : Layout) : sql (l ++ r) = sql l ++ sql r := by
  simp [sql]

@[simp] theorem sql_flatMap {α : Type} (f : α → Layout) (as : List α) :
    sql (as.flatMap f) = String.join (as.map fun a => sql (f a)) := by
  induction as with
  | nil => rfl
  | cons a as ih => simp [ih]

theorem sql_separated (separator : String) (parts : List Layout) :
    sql (separated separator parts) = separator.intercalate (parts.map sql) := by
  induction parts with
  | nil => rfl
  | cons l parts ih =>
    cases parts with
    | nil => simp [separated]
    | cons r parts => simpa [separated, Span.sql, String.append_assoc] using ih

@[simp] theorem marks_nil : marks [] = 0 := rfl

@[simp] theorem marks_cons (x : Span) (l : Layout) :
    marks (x :: l) = (if x = .mark then 1 else 0) + marks l := by
  simp [marks, List.count_cons, Nat.add_comm]

@[simp] theorem marks_append (l r : Layout) : marks (l ++ r) = marks l + marks r :=
  List.count_append

/-- Parts without placeholders, one after the other. -/
theorem marks_flatten_eq_zero {parts : List Layout} (h : ∀ l ∈ parts, marks l = 0) :
    marks parts.flatten = 0 := by
  induction parts with
  | nil => rfl
  | cons l parts ih =>
    have ⟨hl, hp⟩ := List.forall_mem_cons.1 h
    rw [List.flatten_cons, marks_append, hl, ih hp]

@[simp] theorem marks_separated (separator : String) (parts : List Layout) :
    marks (separated separator parts) = marks parts.flatten := by
  induction parts with
  | nil => rfl
  | cons l parts ih =>
    cases parts with
    | nil => simp [separated]
    | cons r parts => simpa [separated] using ih

@[simp] theorem copied_nil : copied [] = [] := rfl

@[simp] theorem copied_cons (x : Span) (l : Layout) :
    copied (x :: l) = x.copied?.toList ++ copied l := by
  cases x <;> rfl

@[simp] theorem copied_append (l r : Layout) : copied (l ++ r) = copied l ++ copied r :=
  List.filterMap_append

@[simp] theorem copied_flatMap {α : Type} (f : α → Layout) (as : List α) :
    copied (as.flatMap f) = as.flatMap fun a => copied (f a) := by
  induction as with
  | nil => rfl
  | cons a as ih => simp [ih]

@[simp] theorem copied_separated (separator : String) (parts : List Layout) :
    copied (separated separator parts) = parts.flatMap copied := by
  induction parts with
  | nil => rfl
  | cons l parts ih =>
    cases parts with
    | nil => simp [separated]
    | cons r parts => simpa [separated, Span.copied?] using ih

@[simp] theorem plain_nil : Plain [] := nofun

@[simp] theorem plain_cons (x : Span) (l : Layout) : Plain (x :: l) ↔ x.Plain ∧ Plain l :=
  List.forall_mem_cons

@[simp] theorem plain_append (l r : Layout) : Plain (l ++ r) ↔ Plain l ∧ Plain r :=
  List.forall_mem_append

theorem plain_separated {separator : String} (hs : '?' ∉ separator.toList) {parts : List Layout}
    (h : ∀ l ∈ parts, Plain l) : Plain (separated separator parts) := by
  intro x hx
  obtain rfl | ⟨l, hl, hx⟩ := mem_separated hx
  · exact hs
  · exact h l hl x hx

/-- No word from SELECT to HAVING has a question mark. -/
theorem plain_of_isSource {l : Layout} (h : l.IsSource) : l.Plain := by
  have hWords : ∀ words ∈ sourceWords, '?' ∉ words.toList := by decide +kernel
  intro x hx
  cases x with
  | own words => exact hWords words (h _ hx)
  | copied text => trivial
  | mark => trivial

theorem plain_placeholders {separator : String} (hs : '?' ∉ separator.toList) (count : Nat) :
    Plain (placeholders separator count) :=
  plain_separated hs fun l hl => by
    rw [List.eq_of_mem_replicate hl]
    simp

@[simp] theorem copied_placeholders (separator : String) (count : Nat) :
    copied (placeholders separator count) = [] := by
  simp [placeholders, Span.copied?]

@[simp] theorem marks_placeholders (separator : String) (count : Nat) :
    marks (placeholders separator count) = count := by
  rw [placeholders, marks_separated, List.flatten_replicate_singleton]
  exact List.count_replicate_self

theorem sql_placeholders (separator : String) (values : List Value) :
    sql (placeholders separator values.length) =
      Statement.sql (Statement.placeholders separator values) := by
  rw [placeholders, sql_separated, Statement.sql_placeholders, List.map_replicate,
    List.map_const']
  rfl

/-- The question marks of a plain layout are its placeholders and those of the caller. -/
theorem questionMarks_sql {l : Layout} (h : l.Plain) :
    questionMarks l.sql = l.marks + questionMarks (String.join l.copied) := by
  induction l with
  | nil => rfl
  | cons x l ih =>
    obtain ⟨hx, hl⟩ := (plain_cons x l).1 h
    have ih := ih hl
    simp only [questionMarks] at ih
    cases x with
    | own words =>
      simp [questionMarks, Span.sql, Span.copied?, List.count_eq_zero.2 hx, ih]
    | copied text =>
      simp [questionMarks, Span.sql, Span.copied?, ih]
      omega
    | mark =>
      simp [questionMarks, Span.sql, Span.copied?, ih]
      omega

/-- The placeholder behind `k` others. -/
theorem exists_mark {l : Layout} : ∀ {k : Nat}, k < l.marks →
    ∃ a b : Layout, l = a ++ .mark :: b ∧ a.marks = k := by
  induction l with
  | nil => intro k hk; exact absurd hk (by simp)
  | cons x l ih =>
    intro k hk
    by_cases hx : x = .mark
    · subst hx
      cases k with
      | zero => exact ⟨[], l, rfl, rfl⟩
      | succ k =>
        obtain ⟨a, b, rfl, ha⟩ := ih (k := k) (by simp at hk ⊢; omega)
        exact ⟨.mark :: a, b, rfl, by simp [ha, Nat.add_comm]⟩
    · obtain ⟨a, b, rfl, ha⟩ := ih (k := k) (by simpa [hx] using hk)
      exact ⟨x :: a, b, rfl, by simp [hx, ha]⟩

end Layout

/-! ## Woven layouts -/

theorem suppliedValues_cons (x : Supplier) (xs : List Supplier) :
    suppliedValues (x :: xs) = x.values ++ suppliedValues xs := List.flatMap_cons

theorem suppliedValues_append (xs ys : List Supplier) :
    suppliedValues (xs ++ ys) = suppliedValues xs ++ suppliedValues ys := List.flatMap_append

namespace Woven

variable {l r : Layout} {x : Supplier} {xs ys : List Supplier}

/-- Text without placeholders can stand in front. -/
theorem behind (hl : l.marks = 0) (h : Woven r xs) : Woven (l ++ r) xs := by
  cases h with
  | nil hr => exact .nil (by simp [hl, hr])
  | @cons l' r' x xs hl' hx h =>
    rw [← List.append_assoc, ← List.append_assoc]
    exact .cons (by simp [hl, hl']) hx h

theorem append (hl : Woven l xs) (hr : Woven r ys) : Woven (l ++ r) (xs ++ ys) := by
  induction hl with
  | nil hl => exact hr.behind hl
  | @cons l' r' x xs hl' hx _ ih =>
    rw [List.append_assoc]
    exact .cons hl' hx ih

theorem single (hx : x.layout.marks = x.values.length) : Woven x.layout [x] := by
  simpa using cons (l := []) rfl hx (nil (l := []) rfl)

/-- Parts with a separator that is no placeholder. -/
theorem separated (separator : String) (h : ∀ x ∈ xs, x.layout.marks = x.values.length) :
    Woven (Layout.separated separator (xs.map Supplier.layout)) xs := by
  induction xs with
  | nil => exact .nil rfl
  | cons x xs ih =>
    have ⟨hx, hxs⟩ := List.forall_mem_cons.1 h
    cases xs with
    | nil => simpa [Layout.separated] using single hx
    | cons y ys =>
      have hy : Woven (.own separator :: Layout.separated separator (y.layout :: _)) (y :: ys) :=
        (ih hxs).behind (l := [.own separator]) rfl
      simpa [Layout.separated] using (single hx).append hy

/-- There are as many placeholders as values. -/
theorem marks_eq (h : Woven l xs) : l.marks = (suppliedValues xs).length := by
  induction h with
  | nil hl => exact hl
  | cons hl hx _ ih => simp [suppliedValues_cons, hl, hx, ih]

/-- Every placeholder stands in the part that supplies its value. -/
theorem placed (h : Woven l xs) : ∀ k < l.marks, Placed l xs k := by
  induction h with
  | nil hl => intro k hk; omega
  | @cons l' r' x xs hl' hx hr ih =>
    intro k hk
    simp only [Layout.marks_append, hl', hx, Nat.zero_add] at hk
    -- The placeholder is one of the first part, or it is one of the rest.
    by_cases hkx : k < x.values.length
    · obtain ⟨a, b, hab, ha⟩ := Layout.exists_mark (hx ▸ hkx)
      refine ⟨[], xs, x, l', a, b, r', rfl, rfl, hab, by simp [hl', suppliedValues],
        by rw [hl', ha, Nat.zero_add], by rw [ha]; exact hkx, ?_⟩
      rw [ha, suppliedValues_cons, List.getElem?_append_left hkx]
    · obtain ⟨front, back, y, before, a, b, after, rfl, rfl, hab, hb, hba, ha, hv⟩ :=
        ih (k - x.values.length) (by omega)
      refine ⟨x :: front, back, y, l' ++ x.layout ++ before, a, b, after, rfl, by simp, hab,
        by simp [suppliedValues_cons, hl', hx, hb], by simp [hl', hx]; omega, ha, ?_⟩
      rw [suppliedValues_cons, List.getElem?_append_right (by omega), hv]

end Woven

/-! ## Words -/

theorem Comparison.word_of_parse {operator : String} {c : Comparison}
    (h : Comparison.parse operator = .ok c) : Comparison.word operator = c.sql := by
  rw [word, parse?_eq_some_iff.2 (parse_eq_ok_iff.1 h), Option.elim_some]

theorem Direction.questionMark_not_mem_word (direction : String) :
    '?' ∉ (Direction.word direction).toList := by
  unfold Direction.word
  cases Direction.parse? direction with
  | none => decide
  | some d => cases d <;> decide

theorem Direction.word_of_parse {direction : String} {d : Direction}
    (h : Direction.parse direction = .ok d) : Direction.word direction = d.sql := by
  rw [word, parse?_eq_some_iff.2 (parse_eq_ok_iff.1 h), Option.elim_some]

/-! ## Predicates -/

namespace Predicate

theorem copied_layout (p : Predicate) : p.layout.copied = p.texts := by
  obtain ⟨column, test, connective⟩ := p
  unfold layout texts
  split <;> simp_all [Span.copied?]

theorem marks_layout (p : Predicate) : p.layout.marks = p.values.length := by
  unfold layout values
  split <;> simp_all

theorem view_statement {p : Predicate} {s : Statement} (h : p.statement = .ok s) :
    s.sql = p.layout.sql ∧ s.params = p.values := by
  obtain ⟨column, test, connective⟩ := p
  rw [statement, bind_eq_ok_iff] at h
  obtain ⟨-, -, h⟩ := h
  cases test with
  | compare operator value =>
    obtain ⟨c, hc, h⟩ := bind_eq_ok_iff.1 h
    rw [pure_eq_ok_iff] at h
    subst h
    simp [layout, values, Span.sql, Comparison.word_of_parse hc, String.append_assoc]
  | among vs negated =>
    cases vs with
    | nil =>
      rw [pure_eq_ok_iff] at h
      subst h
      simp [layout, values, Span.sql]
    | cons v vs =>
      rw [pure_eq_ok_iff] at h
      subst h
      simp [layout, values, Span.sql, ← Layout.sql_placeholders, String.append_assoc]
  | missing negated =>
    rw [pure_eq_ok_iff] at h
    subst h
    simp [layout, values, Span.sql]

end Predicate

/-! ## Clauses -/

namespace Condition

theorem copied_followingLayout (ps : Condition) : (followingLayout ps).copied = texts ps := by
  simp [followingLayout, texts, Span.copied?, Predicate.copied_layout]

theorem woven_followingLayout (ps : Condition) :
    Woven (followingLayout ps) (ps.map Predicate.supplier) := by
  induction ps with
  | nil => exact .nil rfl
  | cons p ps ih =>
    exact .cons (l := [.own _]) (x := p.supplier) rfl p.marks_layout ih

theorem view_following {ps : Condition} {s : Statement} (h : following ps = .ok s) :
    s.sql = (followingLayout ps).sql ∧ s.params = ps.flatMap Predicate.values := by
  induction ps generalizing s with
  | nil =>
    rw [following, pure_eq_ok_iff] at h
    subst h
    exact ⟨rfl, rfl⟩
  | cons p ps ih =>
    obtain ⟨t, ht, h⟩ := bind_eq_ok_iff.1 h
    obtain ⟨rest, hrest, h⟩ := bind_eq_ok_iff.1 h
    rw [pure_eq_ok_iff] at h
    subst h
    obtain ⟨htSql, htParams⟩ := Predicate.view_statement ht
    obtain ⟨hrSql, hrParams⟩ := ih hrest
    simp only [followingLayout, Layout.sql_flatMap] at hrSql
    simp [followingLayout, Span.sql, htSql, htParams, hrSql, hrParams, String.append_assoc]

theorem layout_cons (p : Predicate) (ps : Condition) :
    layout (p :: ps) = p.layout ++ followingLayout ps := rfl

theorem copied_clauseLayout (keyword : String) (ps : Condition) :
    (clauseLayout keyword ps).copied = texts ps := by
  cases ps with
  | nil => rfl
  | cons p ps =>
    simp [clauseLayout, layout_cons, Span.copied?, Predicate.copied_layout,
      copied_followingLayout, texts]

theorem woven_clauseLayout (keyword : String) (ps : Condition) :
    Woven (clauseLayout keyword ps) (ps.map Predicate.supplier) := by
  cases ps with
  | nil => exact .nil rfl
  | cons p ps =>
    exact .cons (l := [.own _]) (x := p.supplier) rfl p.marks_layout (woven_followingLayout ps)

theorem view_statement {ps : Condition} {s : Statement} (h : statement ps = .ok s) :
    s.sql = (layout ps).sql ∧ s.params = ps.flatMap Predicate.values := by
  cases ps with
  | nil =>
    obtain rfl := pure_eq_ok_iff.1 h
    exact ⟨rfl, rfl⟩
  | cons p ps =>
    obtain ⟨t, ht, h⟩ := bind_eq_ok_iff.1 h
    obtain ⟨rest, hrest, h⟩ := bind_eq_ok_iff.1 h
    obtain rfl := pure_eq_ok_iff.1 h
    obtain ⟨htSql, htParams⟩ := Predicate.view_statement ht
    obtain ⟨hrSql, hrParams⟩ := view_following hrest
    simp [layout_cons, htSql, htParams, hrSql, hrParams]

theorem view_clause {keyword : String} {ps : Condition} {s : Statement}
    (h : clause keyword ps = .ok s) :
    s.sql = (clauseLayout keyword ps).sql ∧ s.params = ps.flatMap Predicate.values := by
  unfold clause at h
  unfold clauseLayout
  split at h
  · obtain rfl := pure_eq_ok_iff.1 h
    simp_all
  · obtain ⟨body, hbody, h⟩ := bind_eq_ok_iff.1 h
    obtain rfl := pure_eq_ok_iff.1 h
    obtain ⟨hSql, hParams⟩ := view_statement hbody
    simp_all [Span.sql]

end Condition

namespace Join

theorem copied_layout (j : Join) : j.layout.copied = j.texts := rfl

theorem marks_layout (j : Join) : j.layout.marks = 0 := rfl

theorem sql_eq_layout {j : Join} {t : String} (h : j.sql = .ok t) : t = j.layout.sql := by
  simp only [sql, bind_eq_ok_iff, pure_eq_ok_iff] at h
  obtain ⟨-, -, -, -, c, hc, rfl⟩ := h
  simp [layout, Span.sql, Comparison.word_of_parse hc, String.append_assoc]

end Join

namespace Order

theorem copied_layout (o : Order) : o.layout.copied = [o.column] := rfl

theorem marks_layout (o : Order) : o.layout.marks = 0 := rfl

theorem plain_layout (o : Order) : o.layout.Plain := by
  simp [layout, Direction.questionMark_not_mem_word]

theorem sql_eq_layout {o : Order} {t : String} (h : o.sql = .ok t) : t = o.layout.sql := by
  simp only [sql, bind_eq_ok_iff, pure_eq_ok_iff] at h
  obtain ⟨-, -, d, hd, rfl⟩ := h
  simp [layout, Span.sql, Direction.word_of_parse hd, String.append_assoc]

end Order

/-! ## Statements -/

namespace Query

theorem copied_groupLayout (q : Query) : q.groupLayout.copied = q.groups := by
  unfold groupLayout
  split
  · simp_all
  · simp [Span.copied?, List.flatMap_map]

theorem marks_groupLayout (q : Query) : q.groupLayout.marks = 0 := by
  unfold groupLayout
  split
  · rfl
  · have hg : Layout.marks (q.groups.map fun column => [.copied column]).flatten = 0 :=
      Layout.marks_flatten_eq_zero (by simp)
    simpa using hg

theorem sql_groupLayout (q : Query) : q.groupLayout.sql = q.groupSql := by
  unfold groupLayout groupSql
  split
  · rfl
  · simp [Span.sql, Layout.sql_separated, Function.comp_def]

theorem copied_orderLayout (q : Query) : q.orderLayout.copied = q.orders.map Order.column := by
  unfold orderLayout
  split
  · simp_all
  · simp [Span.copied?, Order.copied_layout, List.flatMap_map, ← List.map_eq_flatMap]

theorem marks_orderLayout (q : Query) : q.orderLayout.marks = 0 := by
  unfold orderLayout
  split
  · rfl
  · have ho : Layout.marks (q.orders.map Order.layout).flatten = 0 :=
      Layout.marks_flatten_eq_zero (List.forall_mem_map.2 fun o _ => o.marks_layout)
    simpa using ho

theorem plain_orderLayout (q : Query) : q.orderLayout.Plain := by
  unfold orderLayout
  split
  · exact Layout.plain_nil
  · have hs : (Layout.separated ", " (q.orders.map Order.layout)).Plain :=
      Layout.plain_separated (by decide) (by simp [Order.plain_layout])
    simpa using hs

theorem sql_orderLayout {q : Query} {t : String} (h : q.orderSql = .ok t) :
    q.orderLayout.sql = t := by
  obtain ⟨orders, ho, h⟩ := bind_eq_ok_iff.1 h
  rw [pure_eq_ok_iff] at h
  have ho := eq_map_of_mapM (fun _ _ => Order.sql_eq_layout) ho
  subst h ho
  unfold orderLayout
  cases q.orders with
  | nil => rfl
  | cons o os => simp [Span.sql, Layout.sql_separated, Function.comp_def]

/-! ### Texts of the caller -/

theorem copied_bodyLayout (q : Query) (x : Span) :
    (q.bodyLayout x).copied = x.copied?.toList ++ q.bodyTexts := by
  simp [bodyLayout, bodyTexts, Span.copied?, Join.copied_layout, Condition.copied_clauseLayout,
    copied_groupLayout]

theorem copied_tailLayout (q : Query) (d : Dialect) :
    (q.tailLayout d).copied = q.orders.map Order.column := by
  simp [tailLayout, Span.copied?, copied_orderLayout]

theorem copied_selectLayout (q : Query) (d : Dialect) :
    (q.selectLayout d).copied = q.selectTexts := by
  simp [selectLayout, selectTexts, copied_bodyLayout, copied_tailLayout, Span.copied?]

theorem copied_countLayout (q : Query) (d : Dialect) :
    (q.countLayout d).copied = q.countTexts := by
  unfold countLayout countTexts
  cases hg : q.groups.isEmpty <;> cases hp : q.isPaginated <;>
    simp [copied_bodyLayout, copied_tailLayout, Span.copied?]

theorem copied_updateLayout (q : Query) (values : List (String × Value)) :
    (q.updateLayout values).copied = q.updateTexts values := by
  simp [updateLayout, updateTexts, assignmentLayout, names, Span.copied?, List.flatMap_map,
    Condition.copied_clauseLayout, ← List.map_eq_flatMap]

theorem copied_deleteLayout (q : Query) : q.deleteLayout.copied = q.deleteTexts := by
  simp [deleteLayout, deleteTexts, Span.copied?, Condition.copied_clauseLayout]

/-! ### Words of the compiler -/

theorem plain_tailLayout (q : Query) {d : Dialect} {w : WindowStyle} (hd : d.HasStyle w) :
    (q.tailLayout d).Plain := by
  have hp := w.questionMark_not_mem_pagination q.limit q.offset !q.orders.isEmpty
  rw [← hd] at hp
  simp [tailLayout, plain_orderLayout, hp]

theorem plain_selectLayout (q : Query) {d : Dialect} {w : WindowStyle} (hd : d.HasStyle w) :
    (q.selectLayout d).Plain := by
  have hBody := Layout.plain_of_isSource
    (q.isSource_bodyLayout (Span.isSource_copied q.projection.expression))
  simp [selectLayout, plain_tailLayout q hd, hBody]

theorem plain_countLayout (q : Query) {d : Dialect} {w : WindowStyle} (hd : d.HasStyle w) :
    (q.countLayout d).Plain := by
  have hOwn : ∀ words ∈ sourceWords, (q.bodyLayout (.own words)).Plain := fun words hw =>
    Layout.plain_of_isSource (q.isSource_bodyLayout (x := .own words) hw)
  have hc := hOwn "COUNT(*) AS aggregate" (by simp [sourceWords])
  have ho := hOwn "1" (by simp [sourceWords])
  have hp := Layout.plain_of_isSource
    (q.isSource_bodyLayout (Span.isSource_copied q.projection.expression))
  unfold countLayout
  cases q.groups.isEmpty <;> cases q.isPaginated <;>
    simp [hc, ho, hp, plain_tailLayout q hd]

theorem plain_updateLayout (q : Query) (values : List (String × Value)) :
    (q.updateLayout values).Plain := by
  have hs : (Layout.separated ", " (values.map fun v => assignmentLayout v.1)).Plain :=
    Layout.plain_separated (by decide) (List.forall_mem_map.2 fun _ _ => by simp [assignmentLayout])
  simp [updateLayout, hs, Layout.plain_of_isSource q.isSource_whereLayout]

theorem plain_deleteLayout (q : Query) : q.deleteLayout.Plain := by
  simp [deleteLayout, Layout.plain_of_isSource q.isSource_whereLayout]

/-! ### Placeholders in their parts -/

theorem woven_bodyLayout (q : Query) {x : Span} (hx : x ≠ .mark) :
    Woven (q.bodyLayout x) q.suppliers := by
  have hj : Layout.marks (q.joins.flatMap Join.layout) = 0 := by
    rw [List.flatMap_def]
    exact Layout.marks_flatten_eq_zero (List.forall_mem_map.2 fun j _ => j.marks_layout)
  have hh : Layout.marks ([.own "SELECT ", x, .own " FROM ", .copied q.table] ++
      q.joins.flatMap Join.layout) = 0 := by
    simp [hx, hj]
  have hw := Condition.woven_clauseLayout "WHERE" q.wheres
  have hv := Condition.woven_clauseLayout "HAVING" q.havings
  simpa [bodyLayout, suppliers] using (hw.behind hh).append (hv.behind q.marks_groupLayout)

theorem woven_tailLayout (q : Query) (d : Dialect) : Woven (q.tailLayout d) [] :=
  .nil (by simp [tailLayout, marks_orderLayout])

theorem woven_selectLayout (q : Query) (d : Dialect) : Woven (q.selectLayout d) q.suppliers := by
  simpa [selectLayout] using
    (q.woven_bodyLayout (x := .copied _) nofun).append (q.woven_tailLayout d)

theorem woven_countLayout (q : Query) (d : Dialect) : Woven (q.countLayout d) q.suppliers := by
  unfold countLayout
  split
  · exact q.woven_bodyLayout nofun
  · have hx : (if q.groups.isEmpty then .own "1" else .copied q.projection.expression : Span)
        ≠ .mark := by split <;> nofun
    have ht : Woven (if q.isPaginated then q.tailLayout d else []) [] := by
      split
      · exact q.woven_tailLayout d
      · exact .nil rfl
    have hb := (q.woven_bodyLayout hx).behind
      (l := [.own "SELECT COUNT(*) AS aggregate FROM ("]) rfl
    simpa using (hb.append ht).append (.nil (l := [.own ") AS aggregate_table"]) rfl)

theorem woven_updateLayout (q : Query) (values : List (String × Value)) :
    Woven (q.updateLayout values) (q.updateSuppliers values) := by
  have hs : Woven (.separated ", " ((values.map fun v =>
      assignmentSupplier v.1 v.2).map Supplier.layout)) _ :=
    .separated ", " (List.forall_mem_map.2 fun _ _ => rfl)
  rw [List.map_map] at hs
  have hs := hs.behind (l := [.own "UPDATE ", .copied q.table, .own " SET "]) rfl
  exact hs.append (Condition.woven_clauseLayout "WHERE" q.wheres)

theorem woven_deleteLayout (q : Query) :
    Woven q.deleteLayout (q.wheres.map Predicate.supplier) :=
  (Condition.woven_clauseLayout "WHERE" q.wheres).behind
    (l := [.own "DELETE FROM ", .copied q.table]) rfl

/-! ### Text and bindings of a compiled statement -/

/-- The values of WHERE and then of HAVING. -/
def boundValues (q : Query) : List Value :=
  q.wheres.flatMap Predicate.values ++ q.havings.flatMap Predicate.values

theorem suppliedValues_predicates (ps : Condition) :
    suppliedValues (ps.map Predicate.supplier) = ps.flatMap Predicate.values := by
  simp [suppliedValues, Predicate.supplier, List.flatMap_map]

theorem suppliedValues_suppliers (q : Query) : suppliedValues q.suppliers = q.boundValues := by
  rw [suppliers, suppliedValues_append, suppliedValues_predicates, suppliedValues_predicates,
    boundValues]

theorem suppliedValues_updateSuppliers (q : Query) (values : List (String × Value)) :
    suppliedValues (q.updateSuppliers values) =
      values.map Prod.snd ++ q.wheres.flatMap Predicate.values := by
  rw [updateSuppliers, suppliedValues_append, suppliedValues_predicates]
  simp [suppliedValues, assignmentSupplier, List.flatMap_map, ← List.map_eq_flatMap]

theorem view_body {q : Query} {x : Span} {s : Statement} (h : q.body x.sql = .ok s) :
    s.sql = (q.bodyLayout x).sql ∧ s.params = q.boundValues := by
  obtain ⟨joins, hj, h⟩ := bind_eq_ok_iff.1 h
  obtain ⟨wheres, hw, h⟩ := bind_eq_ok_iff.1 h
  obtain ⟨havings, hh, h⟩ := bind_eq_ok_iff.1 h
  rw [pure_eq_ok_iff] at h
  have hj := eq_map_of_mapM (fun _ _ => Join.sql_eq_layout) hj
  subst h hj
  obtain ⟨hwSql, hwParams⟩ := Condition.view_clause hw
  obtain ⟨hhSql, hhParams⟩ := Condition.view_clause hh
  simp [bodyLayout, boundValues, Span.sql, sql_groupLayout, hwSql, hwParams, hhSql, hhParams,
    String.append_assoc]

theorem view_selectWith {q : Query} {d : Dialect} {x : Span} {withTail : Bool} {s : Statement}
    (h : q.selectWith d x.sql withTail = .ok s) :
    s.sql = (q.bodyLayout x ++ if withTail then q.tailLayout d else []).sql ∧
      s.params = q.boundValues := by
  obtain ⟨body, hb, h⟩ := bind_eq_ok_iff.1 h
  obtain ⟨hbSql, hbParams⟩ := view_body hb
  cases withTail with
  | false =>
    rw [if_neg Bool.false_ne_true, pure_eq_ok_iff] at h
    subst h
    simp [hbSql, hbParams]
  | true =>
    rw [if_pos rfl] at h
    obtain ⟨tail, ht, h⟩ := bind_eq_ok_iff.1 h
    obtain ⟨order, ho, ht⟩ := bind_eq_ok_iff.1 ht
    rw [pure_eq_ok_iff] at h ht
    subst h ht
    simp [hbSql, hbParams, tailLayout, sql_orderLayout ho, Span.sql]

theorem view_toSelect {q : Query} {d : Dialect} {s : Statement} (h : q.toSelect d = .ok s) :
    s.sql = (q.selectLayout d).sql ∧ s.params = q.boundValues := by
  simpa [selectLayout] using view_selectWith (x := .copied _) h

theorem view_toCount {q : Query} {d : Dialect} {s : Statement} (h : q.toCount d = .ok s) :
    s.sql = (q.countLayout d).sql ∧ s.params = q.boundValues := by
  unfold toCount at h
  unfold countLayout
  split at h
  · rename_i hc
    rw [if_pos hc]
    obtain ⟨hSql, hParams⟩ := view_selectWith (x := .own _) h
    simp [hSql, hParams]
  · rename_i hc
    rw [if_neg hc]
    obtain ⟨inner, hi, h⟩ := bind_eq_ok_iff.1 h
    rw [pure_eq_ok_iff] at h
    subst h
    obtain ⟨hSql, hParams⟩ := view_selectWith
      (x := if q.groups.isEmpty then .own "1" else .copied q.projection.expression)
      (by rw [apply_ite Span.sql]; exact hi)
    simp [hSql, hParams, Span.sql, String.append_assoc]

theorem view_toUpdate {q : Query} {values : List (String × Value)} {s : Statement}
    (h : q.toUpdate values = .ok s) :
    s.sql = (q.updateLayout values).sql ∧
      s.params = values.map Prod.snd ++ q.wheres.flatMap Predicate.values := by
  obtain ⟨-, -, h⟩ := bind_eq_ok_iff.1 h
  split at h
  · obtain ⟨-, h, -⟩ := bind_eq_ok_iff.1 h
    cases h
  · obtain ⟨wheres, hw, h⟩ := bind_eq_ok_iff.1 h
    rw [pure_eq_ok_iff] at h
    subst h
    obtain ⟨hSql, hParams⟩ := Condition.view_clause hw
    simp [updateLayout, assignmentLayout, assignment, Span.sql, Statement.sql_joinWith,
      Layout.sql_separated, hSql, hParams, Function.comp_def, List.flatMap_map,
      ← List.map_eq_flatMap, String.append_assoc]

theorem view_toDelete {q : Query} {s : Statement} (h : q.toDelete = .ok s) :
    s.sql = q.deleteLayout.sql ∧ s.params = q.wheres.flatMap Predicate.values := by
  obtain ⟨wheres, hw, h⟩ := bind_eq_ok_iff.1 h
  rw [pure_eq_ok_iff] at h
  subst h
  obtain ⟨hSql, hParams⟩ := Condition.view_clause hw
  simp [deleteLayout, Span.sql, hSql, hParams, String.append_assoc]

end Query

/-! ## Alignment -/

theorem Aligned.of_woven {l : Layout} {xs : List Supplier} {texts : List String} {s : Statement}
    (hw : Woven l xs) (hp : l.Plain) (hc : l.copied = texts) (hSql : s.sql = l.sql)
    (hParams : s.params = suppliedValues xs) : Aligned l xs texts s where
  sql := hSql
  plain := hp
  copied := hc
  params := hParams
  marks := by rw [hParams, hw.marks_eq]
  placed := by rw [hParams, ← hw.marks_eq]; exact hw.placed
  questionMarks := by rw [hSql, Layout.questionMarks_sql hp, hc, hParams, hw.marks_eq]

namespace Query

/-- **Every placeholder stands in the predicate or the assignment that supplies its binding**, and
the bindings come in the order of their text: assignments, WHERE, HAVING. -/
theorem placeholders_aligned (q : Query) (d : Dialect) {w : WindowStyle} (hd : d.HasStyle w)
    (values : List (String × Value)) (s : Statement) :
    (q.toSelect d = .ok s → Aligned (q.selectLayout d) q.suppliers q.selectTexts s) ∧
    (q.toCount d = .ok s → Aligned (q.countLayout d) q.suppliers q.countTexts s) ∧
    (q.toUpdate values = .ok s →
      Aligned (q.updateLayout values) (q.updateSuppliers values) (q.updateTexts values) s) ∧
    (q.toDelete = .ok s →
      Aligned q.deleteLayout (q.wheres.map Predicate.supplier) q.deleteTexts s) := by
  refine ⟨fun h => ?select, fun h => ?count, fun h => ?update, fun h => ?delete⟩
  case select =>
    obtain ⟨hSql, hParams⟩ := view_toSelect h
    exact .of_woven (q.woven_selectLayout d) (q.plain_selectLayout hd) (q.copied_selectLayout d)
      hSql (by rw [hParams, suppliedValues_suppliers])
  case count =>
    obtain ⟨hSql, hParams⟩ := view_toCount h
    exact .of_woven (q.woven_countLayout d) (q.plain_countLayout hd) (q.copied_countLayout d)
      hSql (by rw [hParams, suppliedValues_suppliers])
  case update =>
    obtain ⟨hSql, hParams⟩ := view_toUpdate h
    exact .of_woven (q.woven_updateLayout values) (q.plain_updateLayout values)
      (q.copied_updateLayout values) hSql (by rw [hParams, suppliedValues_updateSuppliers])
  case delete =>
    obtain ⟨hSql, hParams⟩ := view_toDelete h
    exact .of_woven q.woven_deleteLayout q.plain_deleteLayout q.copied_deleteLayout hSql
      (by rw [hParams, suppliedValues_predicates])

/-- A query with question marks of the caller in a written and in an unwritten column. -/
def markedQuery : Query :=
  { on "t" with
    wheres := [⟨"a ?", .compare "not  like" (.text "?"), .and⟩, ⟨"b ?", .among [] true, .or⟩,
      ⟨"c", .among [.int 1, .int 2] false, .and⟩]
    groups := ["g"]
    havings := [⟨"h", .compare "<" (.int 3), .and⟩]
    orders := [⟨"o ?", "Desc"⟩] }

theorem markedQuery_aligned :
    (MySql.dialect).HasStyle .mySql ∧
    (∃ s, markedQuery.toSelect MySql.dialect = .ok s ∧
      s.sql = "SELECT * FROM t WHERE a ? NOT LIKE ? OR 1 = 1 AND c IN (?,?) GROUP BY g" ++
        " HAVING h < ? ORDER BY o ? DESC" ∧
      Aligned (markedQuery.selectLayout MySql.dialect) markedQuery.suppliers
        markedQuery.selectTexts s) ∧
    (∃ s, markedQuery.toCount MySql.dialect = .ok s ∧
      Aligned (markedQuery.countLayout MySql.dialect) markedQuery.suppliers
        markedQuery.countTexts s) ∧
    (∃ s, markedQuery.toUpdate [("u", .int 0)] = .ok s ∧
      Aligned (markedQuery.updateLayout [("u", .int 0)])
        (markedQuery.updateSuppliers [("u", .int 0)])
        (markedQuery.updateTexts [("u", .int 0)]) s) ∧
    ∃ s, markedQuery.toDelete = .ok s ∧
      Aligned markedQuery.deleteLayout (markedQuery.wheres.map Predicate.supplier)
        markedQuery.deleteTexts s := by
  have hd : (MySql.dialect).HasStyle .mySql := Dialect.hasStyle_mySql {}
  have aligned := placeholders_aligned markedQuery MySql.dialect hd [("u", .int 0)]
  exact ⟨hd, ⟨_, rfl, by decide +kernel, (aligned _).1 rfl⟩, ⟨_, rfl, (aligned _).2.1 rfl⟩,
    ⟨_, rfl, (aligned _).2.2.1 rfl⟩, ⟨_, rfl, (aligned _).2.2.2 rfl⟩⟩

end Query

end SqlCompose
