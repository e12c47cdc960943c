import SqlCompose.Proofs.Comparison.Spelling
import SqlCompose.Proofs.Query.Layout

/-!
# The words of the compiler

Up to HAVING the compiler writes the words of one fixed list, whatever the query
(`isSource_bodyLayout`). What holds of each word of the list thus holds of all that the compiler
says there, such as that it writes no ORDER BY (`Layout.unordered_of_isSource`); after HAVING come
the order and the window of the dialect.
-/

namespace SqlCompose

theorem Layout.mem_separated {separator : String} {parts : List Layout} {x : Span}
    (h : x ∈ separated separator parts) : x = .own separator ∨ ∃ l ∈ parts, x ∈ l := by
  induction parts with
  | nil => cases h
  | cons l parts ih =>
    cases parts with
    | nil => exact .inr ⟨l, List.mem_cons_self, by simpa [separated] using h⟩
    | cons r parts =>
      have h : x ∈ l ∨ x = .own separator ∨ x ∈ separated separator (r :: parts) := by
        simpa [separated] using h
      rcases h with h | h | h
      · exact .inr ⟨l, List.mem_cons_self, h⟩
      · exact .inl h
      · obtain h | ⟨l', hl', hx⟩ := ih h
        · exact .inl h
        · exact .inr ⟨l', List.mem_cons_of_mem l hl', hx⟩

/-- The words of the compiler from SELECT to HAVING; the two spaces are a blank operator. -/
def sourceWords : List String :=
  ["SELECT ", "COUNT(*) AS aggregate", "1", " FROM ", " INNER JOIN ", " LEFT JOIN ",
    " RIGHT JOIN ", " ON ", " WHERE ", " GROUP BY ", " HAVING ", " AND ", " OR ", " IN (",
    " NOT IN (", ",", ")", "1 = 1", "0 = 1", " IS NULL", " IS NOT NULL", ", ", "  "] ++
  Comparison.all.map fun c => " " ++ c.sql ++ " "

theorem word_mem_sourceWords (operator : String) :
    " " ++ Comparison.word operator ++ " " ∈ sourceWords := by
  unfold Comparison.word
  cases Comparison.parse? operator with
  | none => simp [sourceWords]
  | some c => exact List.mem_append_right _ (List.mem_map_of_mem (Comparison.mem_all c))

namespace Span

/-- Words of the compiler are among those. -/
def IsSource : Span → Prop
  | own words => words ∈ sourceWords
  | _ => True

@[simp] theorem isSource_own (words : String) : (own words).IsSource ↔ words ∈ sourceWords := .rfl

@[simp] theorem isSource_copied (text : String) : (copied text).IsSource := trivial

@[simp] theorem isSource_mark : mark.IsSource := trivial

end Span

namespace Layout

/-- All words of the compiler in the layout are among those. -/
def IsSource (l : Layout) : Prop := ∀ x ∈ l, x.IsSource

@[simp] theorem isSource_nil : IsSource [] := nofun

@[simp] theorem isSource_cons (x : Span) (l : Layout) :
    IsSource (x :: l) ↔ x.IsSource ∧ IsSource l := List.forall_mem_cons

@[simp] theorem isSource_append (l r : Layout) :
    IsSource (l ++ r) ↔ IsSource l ∧ IsSource r := List.forall_mem_append

theorem isSource_flatMap {α : Type} {f : α → Layout} {as : List α}
    (h : ∀ a ∈ as, IsSource (f a)) : IsSource (as.flatMap f) := by
  intro x hx
  obtain ⟨a, ha, hx⟩ := List.mem_flatMap.1 hx
  exact h a ha x hx

theorem isSource_separated {separator : String} (hs : separator ∈ sourceWords)
    {parts : List Layout} (h : ∀ l ∈ parts, IsSource l) :
    IsSource (separated separator parts) := by
  intro x hx
  obtain rfl | ⟨l, hl, hx⟩ := mem_separated hx
  · exact hs
  · exact h l hl x hx

end Layout

/-! ## Orders -/

theorem not_orderBy_of_mem_sourceWords :
    ∀ words ∈ sourceWords, ¬"ORDER BY".toList <:+: words.toList := by
  decide +kernel

namespace Layout

/-- The compiler writes no ORDER BY. -/
def Unordered (l : Layout) : Prop :=
  ∀ words, .own words ∈ l → ¬"ORDER BY".toList <:+: words.toList

theorem unordered_of_isSource {l : Layout} (h : l.IsSource) : Unordered l :=
  fun words hwords => not_orderBy_of_mem_sourceWords words (h _ hwords)

end Layout

/-! ## Clauses -/

theorem Predicate.isSource_layout (p : Predicate) : p.layout.IsSource := by
  unfold layout
  split
  · simpa using word_mem_sourceWords _
  · rename_i negated _
    cases negated <;> simp [sourceWords]
  · rename_i values negated _ _
    have hMarks : (Layout.placeholders "," values.length).IsSource := by
      refine Layout.isSource_separated (by simp [sourceWords]) fun l hl => ?_
      rw [List.eq_of_mem_replicate hl]
      simp
    cases negated <;> simp [hMarks, sourceWords]
  · rename_i negated _
    cases negated <;> simp [sourceWords]

theorem Condition.isSource_clauseLayout {keyword : String}
    (hk : " " ++ keyword ++ " " ∈ sourceWords) (ps : Condition) :
    (clauseLayout keyword ps).IsSource := by
  have hLink : ∀ p : Predicate, " " ++ p.connective.sql ++ " " ∈ sourceWords := by
    intro p
    cases p.connective <;> simp [Connective.sql, sourceWords]
  have hFollowing : ∀ ps : Condition, (followingLayout ps).IsSource := fun ps =>
    Layout.isSource_flatMap fun p _ => by simp [hLink, p.isSource_layout]
  cases ps with
  | nil => exact Layout.isSource_nil
  | cons p ps =>
    simp [clauseLayout, layout, hk, p.isSource_layout, hFollowing]

theorem Join.isSource_layout (j : Join) : j.layout.IsSource := by
  have hKind : " " ++ j.kind.sql ++ " " ∈ sourceWords := by
    cases j.kind <;> simp [JoinKind.sql, sourceWords]
  have hOn : " ON " ∈ sourceWords := by simp [sourceWords]
  simp [layout, hKind, hOn, word_mem_sourceWords]

namespace Query

theorem isSource_groupLayout (q : Query) : q.groupLayout.IsSource := by
  unfold groupLayout
  split
  · exact Layout.isSource_nil
  · have hKeyword : " GROUP BY " ∈ sourceWords := by simp [sourceWords]
    have hColumns :
        (Layout.separated ", " (q.groups.map fun column => [.copied column])).IsSource :=
      Layout.isSource_separated (by simp [sourceWords]) (by simp)
    simpa [hKeyword] using hColumns

theorem isSource_whereLayout (q : Query) : (Condition.clauseLayout "WHERE" q.wheres).IsSource :=
  Condition.isSource_clauseLayout (by simp [sourceWords]) q.wheres

/-- Up to HAVING all words of the compiler are those of the list. -/
theorem isSource_bodyLayout (q : Query) {x : Span} (hx : x.IsSource) :
    (q.bodyLayout x).IsSource := by
  have hSelect : "SELECT " ∈ sourceWords := by simp [sourceWords]
  have hFrom : " FROM " ∈ sourceWords := by simp [sourceWords]
  have hJoins : Layout.IsSource (q.joins.flatMap Join.layout) :=
    Layout.isSource_flatMap fun j _ => j.isSource_layout
  have hHavings : (Condition.clauseLayout "HAVING" q.havings).IsSource :=
    Condition.isSource_clauseLayout (by simp [sourceWords]) q.havings
  simp [bodyLayout, hx, hSelect, hFrom, hJoins, hHavings, isSource_groupLayout,
    isSource_whereLayout]

end Query

end SqlCompose
