/-!
# Blank characters

The characters with the Unicode property White_Space, and the two readings of a text that skip
them: `trim` cuts them off both ends, `words` keeps the runs between them.
-/

namespace SqlCompose.Text

/-- A blank is a character with the Unicode property White_Space. -/
def isBlank (c : Char) : Bool :=
  let n := c.toNat
  (9 ≤ n && n ≤ 13) || n == 0x20 || n == 0x85 || n == 0xA0 || n == 0x1680 ||
    (0x2000 ≤ n && n ≤ 0x200A) || n == 0x2028 || n == 0x2029 || n == 0x202F || n == 0x205F ||
    n == 0x3000

/-- The text without the blanks at its two ends. -/
def trim (s : List Char) : List Char :=
  ((s.dropWhile isBlank).reverse.dropWhile isBlank).reverse

/-- Puts a character in front of the first word; without words it starts one. -/
def consFirst (c : Char) : List (List Char) → List (List Char)
  | [] => [[c]]
  | w :: ws => (c :: w) :: ws

/-- The words of a text are its maximal runs of characters that are not blank. -/
def words : List Char → List (List Char)
  | [] => []
  | c :: cs =>
    if isBlank c then words cs
    else if cs.head?.any isBlank then [c] :: words cs
    else consFirst c (words cs)

/-- A text with nothing but blanks, the empty text included. -/
def allBlank (s : String) : Bool := s.toList.all isBlank

/-! ## Lemmas -/

theorem isBlank_of_isDigit {c : Char} (h : c.isDigit = true) : isBlank c = false := by
  simp only [Char.isDigit, Bool.and_eq_true, decide_eq_true_eq] at h
  have hRange : 48 ≤ c.toNat ∧ c.toNat ≤ 57 := h
  simp only [isBlank, Bool.or_eq_false_iff, Bool.and_eq_false_iff, beq_eq_false_iff_ne,
    decide_eq_false_iff_not]
  omega

theorem consFirst_ne_nil (c : Char) (ws : List (List Char)) : consFirst c ws ≠ [] := by
  cases ws <;> simp [consFirst]

theorem words_eq_nil_iff {s : List Char} : words s = [] ↔ s.all isBlank := by
  induction s with
  | nil => simp [words]
  | cons c cs ih =>
    by_cases hc : isBlank c
    · simp [words, hc, ih]
    · by_cases hd : cs.head?.any isBlank <;> simp [words, hc, hd, consFirst_ne_nil]

/-- A word ends where a blank or the text does. -/
theorem words_append {w s : List Char} (hne : w ≠ []) (hw : ∀ c ∈ w, isBlank c = false)
    (hs : ∀ c ∈ s.head?, isBlank c = true) : words (w ++ s) = w :: words s := by
  induction w with
  | nil => exact absurd rfl hne
  | cons c w ih =>
    obtain ⟨hc, hw⟩ := List.forall_mem_cons.1 hw
    cases w with
    | nil =>
      cases s with
      | nil => simp [words, hc, consFirst]
      | cons c' s =>
        have hc' : isBlank c' = true := hs c' rfl
        simp [words, hc, hc']
    | cons c' w =>
      have hc' : isBlank c' = false := hw c' List.mem_cons_self
      have ih := ih (List.cons_ne_nil c' w) hw
      rw [List.cons_append] at ih
      rw [List.cons_append, List.cons_append, words, ih]
      simp [hc, hc', consFirst]

/-- Words with a space before each are read back. -/
theorem words_flatMap {ws : List (List Char)}
    (h : ∀ w ∈ ws, w ≠ [] ∧ ∀ c ∈ w, isBlank c = false) : words (ws.flatMap (' ' :: ·)) = ws := by
  induction ws with
  | nil => rfl
  | cons w ws ih =>
    obtain ⟨hw, hws⟩ := List.forall_mem_cons.1 h
    have hspace : isBlank ' ' = true := rfl
    have hs : ∀ c ∈ (ws.flatMap (' ' :: ·)).head?, isBlank c = true := by
      intro c hc
      cases ws with
      | nil => cases hc
      | cons w' ws =>
        obtain rfl : ' ' = c := by simpa using hc
        exact hspace
    rw [List.flatMap_cons, List.cons_append, words, if_pos hspace, words_append hw.1 hw.2 hs,
      ih hws]

end SqlCompose.Text
