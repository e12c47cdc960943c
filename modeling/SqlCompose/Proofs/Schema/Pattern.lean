import Mathlib.Data.List.Infix

/-!
# Patterns of names

What `LIKE` makes of a text: a percent sign stands for any characters, an underscore for any one
character, and a backslash takes the meaning from the character behind it. A `Literal` text, without
a percent sign, without an underscore and without a backslash in front of a character, is a pattern
of itself alone (`Literal.accepts_iff`). Every other text matches a name that it is not, which is
`filled` (`accepts_filled`, `filled_ne`).
-/

namespace SqlCompose.Like

/-! ## Patterns -/

/-- A part of a pattern. -/
inductive Part
  | char (c : Char)
  /-- Any one character. -/
  | one
  /-- Any characters. -/
  | any
  deriving DecidableEq

/-- The parts of a pattern. A backslash at its end stands for itself. -/
def parts : List Char → List Part
  | [] => []
  | '%' :: p => .any :: parts p
  | '_' :: p => .one :: parts p
  | ['\\'] => [.char '\\']
  | '\\' :: c :: p => .char c :: parts p
  | c :: p => .char c :: parts p

/-- Whether a name has these parts. -/
def fits : List Part → List Char → Bool
  | [], name => name.isEmpty
  | .any :: ps, name => name.tails.any (fits ps)
  | _ :: _, [] => false
  | .one :: ps, _ :: name => fits ps name
  | .char c :: ps, x :: name => x == c && fits ps name

/-- Whether a name matches a pattern. -/
def accepts (pattern name : String) : Bool := fits (parts pattern.toList) name.toList

/-- A text in which no character has a meaning of its own. -/
def Literal (pattern : String) : Prop :=
  '%' ∉ pattern.toList ∧ '_' ∉ pattern.toList ∧ '\\' ∉ pattern.toList.dropLast

instance : DecidablePred Literal := fun pattern =>
  inferInstanceAs (Decidable ('%' ∉ pattern.toList ∧ '_' ∉ pattern.toList ∧
    '\\' ∉ pattern.toList.dropLast))

/-- A name with these parts. -/
def fill : List Part → List Char
  | [] => []
  | .any :: ps => fill ps
  | .one :: ps => 'a' :: fill ps
  | .char c :: ps => c :: fill ps

/-- A name that matches a pattern. -/
def filled (pattern : String) : String := String.ofList (fill (parts pattern.toList))

/-! ## Parts -/

/-- Any characters, then the rest of the pattern. -/
theorem fits_any_iff {ps : List Part} {name : List Char} :
    fits (.any :: ps) name = true ↔ ∃ s t, name = s ++ t ∧ fits ps t = true := by
  rw [fits, List.any_eq_true]
  constructor
  · rintro ⟨t, ht, hf⟩
    obtain ⟨s, rfl⟩ := (List.mem_tails _ _).1 ht
    exact ⟨s, t, rfl, hf⟩
  · rintro ⟨s, t, rfl, hf⟩
    exact ⟨t, (List.mem_tails _ _).2 (List.suffix_append s t), hf⟩

theorem fits_map_char (cs name : List Char) :
    fits (cs.map .char) name = true ↔ name = cs := by
  induction cs generalizing name with
  | nil =>
    rw [List.map_nil, fits]
    exact List.isEmpty_iff
  | cons c cs ih =>
    rw [List.map_cons]
    cases name with
    | nil => simp [fits]
    | cons x name => rw [fits, Bool.and_eq_true, beq_iff_eq, ih, List.cons.injEq]

theorem fits_fill (ps : List Part) : fits ps (fill ps) = true := by
  induction ps with
  | nil => rfl
  | cons part ps ih =>
    cases part with
    | char c =>
      rw [fill, fits, Bool.and_eq_true]
      exact ⟨beq_self_eq_true c, ih⟩
    | one => exact ih
    | any => exact fits_any_iff.2 ⟨[], fill ps, rfl, ih⟩

/-! ## Texts that are patterns of themselves alone -/

theorem length_fill_parts_le (p : List Char) : (fill (parts p)).length ≤ p.length := by
  induction p using parts.induct with
  | case1 => exact Nat.le_refl _
  | case2 p ih =>
    rw [parts, fill, List.length_cons]
    omega
  | case3 p ih =>
    rw [parts, fill, List.length_cons, List.length_cons]
    omega
  | case4 => exact Nat.le_refl _
  | case5 c p ih =>
    rw [parts, fill, List.length_cons, List.length_cons, List.length_cons]
    omega
  | case6 c p h1 h2 h3 h4 ih =>
    rw [parts.eq_6 c p h1 h2 h3 h4, fill, List.length_cons, List.length_cons]
    omega

/-- A pattern that is a name of its own has no special character: a percent sign and a backslash
in front of a character are shortened away, an underscore is replaced. -/
theorem literal_of_fill {p : List Char} (h : fill (parts p) = p) :
    '%' ∉ p ∧ '_' ∉ p ∧ '\\' ∉ p.dropLast := by
  induction p using parts.induct with
  | case1 => simp
  | case2 p ih =>
    have hlen := length_fill_parts_le p
    rw [parts, fill] at h
    rw [h, List.length_cons] at hlen
    omega
  | case3 p ih =>
    rw [parts, fill, List.cons.injEq] at h
    exact absurd h.1 (by decide)
  | case4 => simp
  | case5 c p ih =>
    have hlen := length_fill_parts_le p
    rw [parts, fill] at h
    have hl := congrArg List.length h
    rw [List.length_cons, List.length_cons, List.length_cons] at hl
    omega
  | case6 c p h1 h2 h3 h4 ih =>
    rw [parts.eq_6 c p h1 h2 h3 h4, fill, List.cons.injEq] at h
    obtain ⟨hp, hu, hb⟩ := ih h.2
    refine ⟨?_, ?_, ?_⟩
    · rw [List.mem_cons, not_or]
      exact ⟨fun he => h1 he.symm, hp⟩
    · rw [List.mem_cons, not_or]
      exact ⟨fun he => h2 he.symm, hu⟩
    · cases p with
      | nil => simp
      | cons d p =>
        rw [List.dropLast_cons_cons, List.mem_cons, not_or]
        exact ⟨fun he => h4 d p he.symm rfl, hb⟩

theorem parts_of_literal {p : List Char} (hp : '%' ∉ p) (hu : '_' ∉ p)
    (hb : '\\' ∉ p.dropLast) : parts p = p.map .char := by
  induction p using parts.induct with
  | case1 => rfl
  | case2 p ih => exact absurd List.mem_cons_self hp
  | case3 p ih => exact absurd List.mem_cons_self hu
  | case4 => rfl
  | case5 c p ih =>
    rw [List.dropLast_cons_cons] at hb
    exact absurd List.mem_cons_self hb
  | case6 c p h1 h2 h3 h4 ih =>
    have hd : '\\' ∉ p.dropLast := by
      cases p with
      | nil => simp
      | cons d p =>
        rw [List.dropLast_cons_cons] at hb
        exact fun hm => hb (List.mem_cons_of_mem _ hm)
    rw [parts.eq_6 c p h1 h2 h3 h4, List.map_cons,
      ih (fun hm => hp (List.mem_cons_of_mem _ hm)) (fun hm => hu (List.mem_cons_of_mem _ hm)) hd]

theorem accepts_filled (pattern : String) : accepts pattern (filled pattern) = true := by
  rw [accepts, filled, String.toList_ofList]
  exact fits_fill _

theorem filled_ne {pattern : String} (h : ¬ Literal pattern) : filled pattern ≠ pattern := by
  intro he
  refine h (literal_of_fill ?_)
  rw [← String.toList_ofList (l := fill _)]
  exact congrArg String.toList he

theorem Literal.accepts_iff {pattern : String} (h : Literal pattern) (name : String) :
    accepts pattern name = true ↔ name = pattern := by
  obtain ⟨hp, hu, hb⟩ := h
  rw [accepts, parts_of_literal hp hu hb, fits_map_char, String.toList_inj]

end SqlCompose.Like
