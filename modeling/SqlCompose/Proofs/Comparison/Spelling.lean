import SqlCompose.Comparison
import Mathlib.Data.List.TakeWhile

/-!
# What spells an operator and what a direction

A caller spells an operator by its words, whatever the blanks around them, and a direction by one
word between blanks, in any case (`Comparison.Spells`, `Direction.Spells`). `Text.Spaced` says what
the words of a text are without a scan; `words_eq_iff` is the agreement of the two. Each text spells
at most one operator, which is then what it is read as (`Comparison.parse_eq_ok_iff`), and each
operator spells itself (`Comparison.spells_sql`). `respell` puts the canonical spelling in the place
of any other and leaves the rest alone.
-/

namespace SqlCompose

/-! ## Words between blanks -/

namespace Text

/-- Nothing but blanks. -/
def IsGap (s : List Char) : Prop := ∀ c ∈ s, isBlank c = true

/-- Characters without a blank among them, at least one. -/
def IsRun (w : List Char) : Prop := w ≠ [] ∧ ∀ c ∈ w, isBlank c = false

/-- The text has these words in this order, with blanks around them and at least one between
neighbours. -/
inductive Spaced : List Char → List (List Char) → Prop
  | nil {g : List Char} : IsGap g → Spaced g []
  | cons {g w rest : List Char} {ws : List (List Char)} :
      IsGap g → IsRun w → (∀ c ∈ rest.head?, isBlank c = true) → Spaced rest ws →
      Spaced (g ++ w ++ rest) (w :: ws)

theorem isGap_nil : IsGap [] := List.forall_mem_nil _

theorem words_gap_append {gap : List Char} (h : IsGap gap) (s : List Char) :
    words (gap ++ s) = words s := by
  induction gap with
  | nil => rfl
  | cons c gap ih =>
    obtain ⟨hc, hgap⟩ := List.forall_mem_cons.1 h
    rw [List.cons_append, words, if_pos hc, ih hgap]

theorem Spaced.words_eq {s : List Char} {ws : List (List Char)} (h : Spaced s ws) :
    words s = ws := by
  induction h with
  | nil hgap => exact words_eq_nil_iff.2 (List.all_eq_true.2 hgap)
  | cons hgap hw hrest _ ih =>
    rw [List.append_assoc, words_gap_append hgap, words_append hw.1 hw.2 hrest, ih]

/-- A blank in front belongs to the gap there. -/
theorem Spaced.blank {c : Char} {s : List Char} {ws : List (List Char)} (hc : isBlank c = true)
    (h : Spaced s ws) : Spaced (c :: s) ws := by
  cases h with
  | nil hgap => exact .nil (List.forall_mem_cons.2 ⟨hc, hgap⟩)
  | @cons gap _ _ _ hgap hw hrest h =>
    exact .cons (g := c :: gap) (List.forall_mem_cons.2 ⟨hc, hgap⟩) hw hrest h

/-- A word in front of a blank or of the end. -/
theorem Spaced.word {c : Char} {s : List Char} {ws : List (List Char)} (hc : isBlank c = false)
    (hs : ∀ d ∈ s.head?, isBlank d = true) (h : Spaced s ws) : Spaced (c :: s) ([c] :: ws) :=
  .cons isGap_nil ⟨List.cons_ne_nil c [], by simpa using hc⟩ hs h

/-- A character in front of a word belongs to it. -/
theorem Spaced.consFirst {c d : Char} {s : List Char} {ws : List (List Char)}
    (hc : isBlank c = false) (hd : isBlank d = false) (h : Spaced (d :: s) ws) :
    Spaced (c :: d :: s) (consFirst c ws) := by
  generalize ht : d :: s = t at h
  cases h with
  | nil hgap =>
    subst ht
    rw [hgap d List.mem_cons_self] at hd
    cases hd
  | @cons gap w rest ws hgap hw hrest h =>
    -- The text begins with a character of the first word, so there is no gap.
    obtain rfl : gap = [] := by
      cases gap with
      | nil => rfl
      | cons c' gap =>
        obtain rfl : d = c' := by simpa using congrArg List.head? ht
        rw [hgap d List.mem_cons_self] at hd
        cases hd
    exact .cons (w := c :: w) isGap_nil
      ⟨List.cons_ne_nil c w, List.forall_mem_cons.2 ⟨hc, hw.2⟩⟩ hrest h

theorem spaced_words (s : List Char) : Spaced s (words s) := by
  induction s with
  | nil => exact .nil isGap_nil
  | cons c s ih =>
    rw [words]
    by_cases hc : isBlank c = true
    · rw [if_pos hc]
      exact ih.blank hc
    · rw [if_neg hc]
      have hc : isBlank c = false := Bool.eq_false_iff.2 hc
      cases s with
      | nil => exact .word hc (by simp) (.nil isGap_nil)
      | cons d s =>
        cases hd : isBlank d with
        | true => simpa [hd] using ih.word hc (by simpa using hd)
        | false => simpa [hd] using ih.consFirst hc hd

/-- The scan finds the words of a text and nothing else. -/
theorem words_eq_iff {s : List Char} {ws : List (List Char)} : words s = ws ↔ Spaced s ws := by
  constructor
  · rintro rfl
    exact spaced_words s
  · exact Spaced.words_eq

/-! ## One word between blanks -/

theorem dropWhile_gap_append {gap s : List Char} (hgap : IsGap gap)
    (hs : ∀ c ∈ s.head?, isBlank c = false) : (gap ++ s).dropWhile isBlank = s := by
  rw [List.dropWhile_append_of_pos hgap]
  cases s with
  | nil => rfl
  | cons c s => rw [List.dropWhile_cons_of_neg (by simpa using hs c rfl)]

/-- Blanks at both ends are cut off. -/
theorem trim_gaps {front w back : List Char} (hfront : IsGap front) (hw : IsRun w)
    (hback : IsGap back) : trim (front ++ w ++ back) = w := by
  obtain ⟨hne, hw⟩ := hw
  have hHead : ∀ c ∈ (w ++ back).head?, isBlank c = false := by
    intro c hc
    cases w with
    | nil => exact absurd rfl hne
    | cons d w => exact hw c (by simp_all)
  have hLast : ∀ c ∈ w.reverse.head?, isBlank c = false := by
    intro c hc
    exact hw c (List.mem_reverse.1 (List.mem_of_mem_head? hc))
  have hBack : IsGap back.reverse := fun c hc => hback c (List.mem_reverse.1 hc)
  rw [trim, List.append_assoc, dropWhile_gap_append hfront hHead, List.reverse_append,
    dropWhile_gap_append hBack hLast, List.reverse_reverse]

/-- A text is what is left of it between two gaps. -/
theorem exists_gaps (s : List Char) :
    ∃ front back, IsGap front ∧ IsGap back ∧ s = front ++ trim s ++ back := by
  have hGap : ∀ t : List Char, IsGap (t.takeWhile isBlank) := fun t c hc =>
    List.mem_takeWhile_imp hc
  refine ⟨s.takeWhile isBlank, ((s.dropWhile isBlank).reverse.takeWhile isBlank).reverse, hGap s,
    fun c hc => hGap _ c (List.mem_reverse.1 hc), ?_⟩
  rw [trim, List.append_assoc, ← List.reverse_append, List.takeWhile_append_dropWhile,
    List.reverse_reverse, List.takeWhile_append_dropWhile]

end Text

/-! ## Operators -/

namespace Comparison

/-- The words of the text, with one space between neighbours and in upper case, are the operator. -/
def Spells (operator : String) (c : Comparison) : Prop :=
  ∃ ws, Text.Spaced operator.toList ws ∧ Text.upper ([' '].intercalate ws) = c.sql.toList

variable {operator : String} {c : Comparison}

theorem mem_all (c : Comparison) : c ∈ all := by
  cases c <;> decide

theorem sql_injective : Function.Injective sql := by
  intro c c' h
  cases c <;> cases c' <;> first | rfl | exact absurd h (by decide)

theorem spells_iff : Spells operator c ↔ canonical operator = c.sql.toList := by
  simp [Spells, ← Text.words_eq_iff, canonical]

theorem parse?_eq_some_iff : parse? operator = some c ↔ Spells operator c := by
  have eq_of_find : ∀ {c}, parse? operator = some c → c.sql.toList = canonical operator := by
    intro c h
    rw [parse?] at h
    simpa using List.find?_some h
  rw [spells_iff]
  constructor
  · intro h
    exact (eq_of_find h).symm
  · intro h
    -- Some operator is found, and no two have one spelling.
    have hFound : (parse? operator).isSome :=
      List.find?_isSome.2 ⟨c, mem_all c, beq_iff_eq.2 h.symm⟩
    obtain ⟨c', hc'⟩ := Option.isSome_iff_exists.1 hFound
    rw [hc', sql_injective (String.toList_injective ((eq_of_find hc').trans h))]

theorem parse_eq_ok_iff : parse operator = .ok c ↔ Spells operator c := by
  rw [← parse?_eq_some_iff, parse]
  cases parse? operator <;> simp

/-- Every operator spells itself. -/
theorem spells_sql (c : Comparison) : Spells c.sql c := by
  rw [spells_iff]
  cases c <;> decide +kernel

/-- The canonical spelling of an operator; a text that spells none is left alone. -/
def respell (operator : String) : String := (parse? operator).elim operator sql

theorem parse_respell (operator : String) : parse (respell operator) = parse operator := by
  cases h : parse? operator with
  | none => rw [respell, h, Option.elim_none]
  | some c =>
    rw [respell, h, Option.elim_some, parse_eq_ok_iff.2 (spells_sql c),
      parse_eq_ok_iff.2 (parse?_eq_some_iff.1 h)]

theorem respell_of_spells (h : Spells operator c) : respell operator = c.sql := by
  rw [respell, parse?_eq_some_iff.2 h, Option.elim_some]

end Comparison

/-! ## Directions -/

namespace Direction

/-- The text is the direction between blanks, in any ASCII case. -/
def Spells (direction : String) (d : Direction) : Prop :=
  ∃ front word back, direction.toList = front ++ word ++ back ∧ Text.IsGap front ∧
    Text.IsGap back ∧ word.map Char.toLower = d.sql.toList.map Char.toLower

variable {direction : String} {d : Direction}

/-- Blanks have no case. -/
theorem toLower_of_isBlank {c : Char} (h : Text.isBlank c = true) : c.toLower = c := by
  refine dif_neg fun hUpper => ?_
  have hRange : 65 ≤ c.toNat ∧ c.toNat ≤ 90 := hUpper
  simp only [Text.isBlank, Bool.or_eq_true, Bool.and_eq_true, beq_iff_eq, decide_eq_true_eq] at h
  omega

theorem isRun_of_toLower {word : List Char}
    (h : word.map Char.toLower = d.sql.toList.map Char.toLower) : Text.IsRun word := by
  constructor
  · rintro rfl
    cases d <;> cases h
  · intro c hc
    by_contra hb
    have hb : Text.isBlank c = true := by simpa using hb
    have hLetters : (d.sql.toList.map Char.toLower).all (fun c => !Text.isBlank c) = true := by
      cases d <;> decide
    -- A blank of the word would be one of the direction's letters.
    have hNot := List.all_eq_true.1 (h ▸ hLetters) c.toLower (List.mem_map_of_mem hc)
    rw [toLower_of_isBlank hb, hb] at hNot
    cases hNot

theorem parse?_eq_some_iff : parse? direction = some d ↔ Spells direction d := by
  have hTrim : parse? direction = some d ↔
      (Text.trim direction.toList).map Char.toLower = d.sql.toList.map Char.toLower := by
    simp only [parse?]
    generalize (Text.trim direction.toList).map Char.toLower = word
    cases d with
    | ascending =>
      show _ ↔ word = "asc".toList
      split_ifs <;> simp_all
    | descending =>
      show _ ↔ word = "desc".toList
      split_ifs <;> simp_all
  rw [hTrim]
  constructor
  · intro h
    obtain ⟨front, back, hFront, hBack, hText⟩ := Text.exists_gaps direction.toList
    exact ⟨front, _, back, hText, hFront, hBack, h⟩
  · rintro ⟨front, word, back, hText, hFront, hBack, h⟩
    rw [hText, Text.trim_gaps hFront (isRun_of_toLower h) hBack, h]

theorem parse_eq_ok_iff : parse direction = .ok d ↔ Spells direction d := by
  rw [← parse?_eq_some_iff, parse]
  cases parse? direction <;> simp

/-- Every direction spells itself. -/
theorem spells_sql (d : Direction) : Spells d.sql d :=
  ⟨[], d.sql.toList, [], by simp, Text.isGap_nil, Text.isGap_nil, rfl⟩

/-- The canonical spelling of a direction; a text that spells none is left alone. -/
def respell (direction : String) : String := (parse? direction).elim direction sql

theorem parse_respell (direction : String) : parse (respell direction) = parse direction := by
  cases h : parse? direction with
  | none => rw [respell, h, Option.elim_none]
  | some d =>
    rw [respell, h, Option.elim_some, parse_eq_ok_iff.2 (spells_sql d),
      parse_eq_ok_iff.2 (parse?_eq_some_iff.1 h)]

theorem respell_of_spells (h : Spells direction d) : respell direction = d.sql := by
  rw [respell, parse?_eq_some_iff.2 h, Option.elim_some]

end Direction

end SqlCompose
