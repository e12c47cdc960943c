import Mathlib.Algebra.Order.Field.Rat
import Mathlib.Algebra.Order.Field.Power
import Mathlib.Tactic.FieldSimp
import Mathlib.Tactic.Linarith
import Mathlib.Tactic.NormNum
import Mathlib.Tactic.Positivity
import Mathlib.Tactic.Ring
import SqlCompose.Decimal.Shortest

/-!
# Numbers that read back

The interval of a floating-point number holds the numbers to which it is nearest: binary64 numbers
keep a distance from each other (`gap_above`, `gap_below`), and the ends of the interval lie half
way (`Owns.nearest`). So its numbers are the ones that are read as the floating-point number
(`ReadsAs`, `readsAs_of_owns`). `readsBack` decides, on the grid of a power of ten, which points lie
in the interval (`readsBack_iff`).
-/

namespace SqlCompose.Decimal

/-! ## Binary numbers -/

/-- The number `m * 2 ^ q` is a binary64 number in its only form: the significand has the leading
bit, unless the exponent is the least. -/
structure IsBinary64 (m : Nat) (q : Int) : Prop where
  pos : 0 < m
  lt : m < 2 * leadingBit
  least : -1074 ≤ q
  greatest : q ≤ 971
  leading : q ≠ -1074 → leadingBit ≤ m

def binary (m : Nat) (q : Int) : ℚ := m * 2 ^ q

/-- The parts of a finite number. -/
theorem magnitude_eq_finite {x : Float} {m : Nat} {q : Int} (h : magnitude x = .finite m q) :
    IsBinary64 m q ∧ m % 2 = fractionField x % 2 := by
  have hfraction : fractionField x < leadingBit := Nat.mod_lt _ (by decide)
  have hexponent : exponentField x < 2048 := Nat.mod_lt _ (by decide)
  unfold magnitude at h
  dsimp only at h
  split at h
  · split at h <;> cases h
  · split at h
    · split at h
      · cases h
      · cases h
        exact ⟨⟨by omega, by omega, by omega, by omega, fun hq => absurd rfl hq⟩, rfl⟩
    · cases h
      have hlead : leadingBit % 2 = 0 ∧ 0 < leadingBit := by decide
      exact ⟨⟨by omega, by omega, by omega, by omega, fun _ => by omega⟩, by omega⟩

variable {m m' : Nat} {q q' : Int}

theorem binary_pos (hm : 0 < m) : 0 < binary m q := by
  unfold binary
  positivity

/-- A number with a greater exponent lies on the grid of a smaller one. -/
theorem exists_binary_eq (m' : Nat) (h : q ≤ q') : ∃ n, binary m' q' = binary n q := by
  obtain ⟨k, rfl⟩ := Int.le.dest h
  refine ⟨m' * 2 ^ k, ?_⟩
  unfold binary
  rw [zpow_add₀ two_ne_zero, zpow_natCast]
  push_cast
  ring

theorem two_zpow_sub_one (q : Int) : (2 : ℚ) ^ q = 2 * 2 ^ (q - 1) := by
  rw [← zpow_one_add₀ two_ne_zero]
  congr 1
  ring

theorem two_zpow_sub_two (q : Int) : (2 : ℚ) ^ (q - 1) = 2 * 2 ^ (q - 2) := by
  have hhalf := two_zpow_sub_one (q - 1)
  rwa [sub_sub, one_add_one_eq_two] at hhalf

theorem step_le_binary (hm : 0 < m) : 2 * 2 ^ (q - 1) ≤ binary m q := by
  have hcast : (1 : ℚ) ≤ m := by exact_mod_cast hm
  rw [← two_zpow_sub_one]
  exact le_mul_of_one_le_left (by positivity) hcast

theorem below_le (m : Nat) (q : Int) : below m q ≤ 2 := by
  unfold below
  split <;> omega

theorem below_pos (m : Nat) (q : Int) : 0 < below m q := by
  unfold below
  split <;> omega

/-- A number with a smaller exponent keeps a distance below. -/
theorem gap_of_exponent_lt (h : IsBinary64 m q) (h' : IsBinary64 m' q') (hq : q' < q) :
    binary m' q' ≤ binary m q - below m q * 2 ^ (q - 1) := by
  have hsignificand : m' + below m q ≤ 2 * m := by
    have hleading := h.leading (by have := h'.least; omega)
    have hlt := h'.lt
    have hless := h'.least
    unfold below
    split <;> omega
  have hstep : binary m' q' ≤ m' * 2 ^ (q - 1) := by
    unfold binary
    have hpow : (2 : ℚ) ^ q' ≤ 2 ^ (q - 1) := zpow_le_zpow_right₀ one_le_two (by omega)
    gcongr
  have hcast : (m' : ℚ) + below m q ≤ 2 * m := by exact_mod_cast hsignificand
  have hpos : (0 : ℚ) < 2 ^ (q - 1) := by positivity
  calc binary m' q' ≤ m' * 2 ^ (q - 1) := hstep
    _ ≤ (2 * m - below m q) * 2 ^ (q - 1) := by
      gcongr
      linarith
    _ = binary m q - below m q * 2 ^ (q - 1) := by
      rw [binary, two_zpow_sub_one q]
      ring

/-- The next number above is one step away. -/
theorem gap_above (h : IsBinary64 m q) (h' : IsBinary64 m' q') (hlt : binary m q < binary m' q') :
    binary m q + 2 * 2 ^ (q - 1) ≤ binary m' q' := by
  by_cases hq : q ≤ q'
  · obtain ⟨n, hn⟩ := exists_binary_eq m' hq
    rw [hn] at hlt ⊢
    have hpos : (0 : ℚ) < 2 ^ q := by positivity
    have hmn : m + 1 ≤ n := by
      have hcast : (m : ℚ) < n := lt_of_mul_lt_mul_right hlt hpos.le
      exact_mod_cast hcast
    have hcast : (m : ℚ) + 1 ≤ n := by exact_mod_cast hmn
    calc binary m q + 2 * 2 ^ (q - 1) = (m + 1) * 2 ^ q := by
          rw [← two_zpow_sub_one, binary]
          ring
      _ ≤ binary n q := mul_le_mul_of_nonneg_right hcast hpos.le
  · have hgap := gap_of_exponent_lt h h' (by omega)
    have hpos : (0 : ℚ) ≤ below m q * 2 ^ (q - 1) := by positivity
    linarith

/-- The next number below is one step away, or half of that below a power of two. -/
theorem gap_below (h : IsBinary64 m q) (h' : IsBinary64 m' q') (hlt : binary m' q' < binary m q) :
    binary m' q' ≤ binary m q - below m q * 2 ^ (q - 1) := by
  by_cases hq : q ≤ q'
  · obtain ⟨n, hn⟩ := exists_binary_eq m' hq
    rw [hn] at hlt ⊢
    have hpos : (0 : ℚ) < 2 ^ q := by positivity
    have hmn : n + 1 ≤ m := by
      have hcast : (n : ℚ) < m := lt_of_mul_lt_mul_right hlt hpos.le
      exact_mod_cast hcast
    have hcast : (n : ℚ) + 1 ≤ m := by exact_mod_cast hmn
    have hbelow : (below m q : ℚ) ≤ 2 := by exact_mod_cast below_le m q
    calc binary n q ≤ (m - 1) * 2 ^ q := by
          unfold binary
          gcongr
          linarith
      _ = binary m q - 2 * 2 ^ (q - 1) := by
          rw [← two_zpow_sub_one, binary]
          ring
      _ ≤ binary m q - below m q * 2 ^ (q - 1) := by gcongr
  · exact gap_of_exponent_lt h h' (by omega)

/-! ## Values of floating-point numbers -/

/-- The number that a finite floating-point number is. -/
def value? (x : Float) : Option ℚ :=
  match magnitude x with
  | .notANumber | .infinite => none
  | .zero => some 0
  | .finite m q => some (if isNegative x then -binary m q else binary m q)

/-- Half way from the greatest number to `2 ^ 1024`. -/
def overflow : ℚ := (2 ^ 54 - 1) * 2 ^ (970 : Int)

/-- A number is read as `x`: it is within the range of binary64, no number there is nearer to it,
and if another one is equally near, the significand of `x` is even. -/
structure ReadsAs (v : ℚ) (x : Float) : Prop where
  range : |v| < overflow
  nearest : ∃ r, value? x = some r ∧ ∀ y s, value? y = some s → s ≠ r →
    |v - r| ≤ |v - s| ∧ (|v - r| = |v - s| → fractionField x % 2 = 0)

/-- Zero, or a binary64 number with a sign. -/
def IsValue (s : ℚ) : Prop := s = 0 ∨ ∃ m q, IsBinary64 m q ∧ |s| = binary m q

theorem IsValue.neg {s : ℚ} (h : IsValue s) : IsValue (-s) := by
  unfold IsValue
  rwa [neg_eq_zero, abs_neg]

theorem isValue_of_value? {y : Float} {s : ℚ} (h : value? y = some s) : IsValue s := by
  unfold value? at h
  split at h
  · cases h
  · cases h
  · cases h
    exact .inl rfl
  · rename_i m q hmagnitude
    have hb := (magnitude_eq_finite hmagnitude).1
    have hpos := binary_pos (q := q) hb.pos
    refine .inr ⟨m, q, hb, ?_⟩
    cases h
    split
    · rw [abs_neg, abs_of_pos hpos]
    · exact abs_of_pos hpos

/-- Other values keep their distance. -/
theorem IsValue.separated {s : ℚ} (hs : IsValue s) (h : IsBinary64 m q) (hne : s ≠ binary m q) :
    s ≤ binary m q - below m q * 2 ^ (q - 1) ∨ binary m q + 2 * 2 ^ (q - 1) ≤ s := by
  by_cases hpos : 0 < s
  · obtain rfl | ⟨m', q', h', hs'⟩ := hs
    · exact absurd hpos (lt_irrefl 0)
    rw [abs_of_pos hpos] at hs'
    subst hs'
    rcases lt_or_gt_of_ne hne with hlt | hlt
    · exact .inl (gap_below h h' hlt)
    · exact .inr (gap_above h h' hlt)
  · refine .inl ?_
    have hstep : (0 : ℚ) < 2 ^ (q - 1) := by positivity
    have hbelow : (below m q : ℚ) ≤ 2 := by exact_mod_cast below_le m q
    have hgap := mul_le_mul_of_nonneg_right hbelow hstep.le
    have hleast := step_le_binary (q := q) h.pos
    linarith

/-! ## Intervals -/

/-- The number `v` lies in the interval of `m * 2 ^ q`, which ends half way to the neighbours. The
ends belong to it if `m` is even. -/
def Owns (m : Nat) (q : Int) (v : ℚ) : Prop :=
  let low := binary m q - below m q * 2 ^ (q - 1) / 2
  let high := binary m q + 2 ^ (q - 1)
  if m % 2 = 0 then low ≤ v ∧ v ≤ high else low < v ∧ v < high

theorem Owns.bounds {v : ℚ} (h : Owns m q v) :
    binary m q - below m q * 2 ^ (q - 1) / 2 ≤ v ∧ v ≤ binary m q + 2 ^ (q - 1) ∧
      (m % 2 ≠ 0 →
        binary m q - below m q * 2 ^ (q - 1) / 2 < v ∧ v < binary m q + 2 ^ (q - 1)) := by
  unfold Owns at h
  dsimp only at h
  split at h
  · rename_i heven
    exact ⟨h.1, h.2, fun hodd => absurd heven hodd⟩
  · exact ⟨h.1.le, h.2.le, fun _ => h⟩

theorem owns_of_lt {v : ℚ} (hlow : binary m q - below m q * 2 ^ (q - 1) / 2 < v)
    (hhigh : v < binary m q + 2 ^ (q - 1)) : Owns m q v := by
  unfold Owns
  dsimp only
  split
  · exact ⟨hlow.le, hhigh.le⟩
  · exact ⟨hlow, hhigh⟩

/-- No other value is nearer. -/
theorem Owns.nearest {v s : ℚ} (hv : Owns m q v) (h : IsBinary64 m q) (hs : IsValue s)
    (hne : s ≠ binary m q) :
    |v - binary m q| ≤ |v - s| ∧ (|v - binary m q| = |v - s| → m % 2 = 0) := by
  obtain ⟨hlow, hhigh, hodd⟩ := hv.bounds
  have hstep : (0 : ℚ) < 2 ^ (q - 1) := by positivity
  have hbelow : (0 : ℚ) < below m q := by exact_mod_cast below_pos m q
  have hgap := mul_pos hbelow hstep
  rcases hs.separated h hne with hs | hs
  · have hdist : |v - s| = v - s := abs_of_nonneg (by linarith)
    rw [hdist]
    refine ⟨abs_le.2 ⟨by linarith, by linarith⟩, fun heq => ?_⟩
    by_contra hm
    have hlt : |v - binary m q| < v - s := abs_lt.2 ⟨by linarith [hodd hm], by linarith⟩
    exact hlt.ne heq
  · have hdist : |v - s| = s - v := by rw [abs_sub_comm, abs_of_nonneg (by linarith)]
    rw [hdist]
    refine ⟨abs_le.2 ⟨by linarith, by linarith⟩, fun heq => ?_⟩
    by_contra hm
    have hlt : |v - binary m q| < s - v := abs_lt.2 ⟨by linarith, by linarith [hodd hm]⟩
    exact hlt.ne heq

theorem Owns.pos {v : ℚ} (hv : Owns m q v) (h : IsBinary64 m q) : 0 < v := by
  have hstep : (0 : ℚ) < 2 ^ (q - 1) := by positivity
  have hbelow : (below m q : ℚ) ≤ 2 := by exact_mod_cast below_le m q
  have hgap := mul_le_mul_of_nonneg_right hbelow hstep.le
  have hleast := step_le_binary (q := q) h.pos
  linarith [hv.bounds.1]

/-- What lies in an interval is in the range of binary64. The greatest significand is odd, so that
its interval ends below the bound. -/
theorem Owns.lt_overflow {v : ℚ} (hv : Owns m q v) (h : IsBinary64 m q) : v < overflow := by
  obtain ⟨-, hhigh, hodd⟩ := hv.bounds
  have hsignificand : m < 2 * 2 ^ 52 := h.lt
  have hexponent : (2 : ℚ) ^ (q - 1) ≤ 2 ^ (970 : Int) :=
    zpow_le_zpow_right₀ one_le_two (by have := h.greatest; omega)
  have hpos : (0 : ℚ) < 2 ^ (970 : Int) := zpow_pos two_pos _
  unfold overflow
  -- The power is too large to be worked out.
  generalize (2 : ℚ) ^ (970 : Int) = top at hexponent hpos ⊢
  have hend : binary m q + 2 ^ (q - 1) ≤ (2 * m + 1) * top := by
    calc binary m q + 2 ^ (q - 1) = (2 * m + 1) * 2 ^ (q - 1) := by
          rw [binary, two_zpow_sub_one]
          ring
      _ ≤ (2 * m + 1) * top := by gcongr
  by_cases hm : m % 2 = 0
  · have hless : (2 * m + 1 : ℚ) < 2 ^ 54 - 1 := by
      norm_num only
      exact_mod_cast (by omega : 2 * m + 1 < 2 ^ 54 - 1)
    exact (hhigh.trans hend).trans_lt (mul_lt_mul_of_pos_right hless hpos)
  · have hmost : (2 * m + 1 : ℚ) ≤ 2 ^ 54 - 1 := by
      norm_num only
      exact_mod_cast (by omega : 2 * m + 1 ≤ 2 ^ 54 - 1)
    exact ((hodd hm).2.trans_le hend).trans_le (mul_le_mul_of_nonneg_right hmost hpos.le)

/-- What lies in the interval of a number is read as it. -/
theorem readsAs_of_owns {x : Float} {v : ℚ} (hx : magnitude x = .finite m q) (hv : Owns m q v) :
    ReadsAs (if isNegative x then -v else v) x := by
  obtain ⟨h, hparity⟩ := magnitude_eq_finite hx
  have hpos := hv.pos h
  have hnearest : ∀ {s : ℚ}, IsValue s → s ≠ binary m q → |v - binary m q| ≤ |v - s| ∧
      (|v - binary m q| = |v - s| → fractionField x % 2 = 0) := hparity ▸ hv.nearest h
  refine ⟨?_, if isNegative x then -binary m q else binary m q, by rw [value?, hx], ?_⟩
  · have habs : |if isNegative x then -v else v| = v := by
      split
      · rw [abs_neg, abs_of_pos hpos]
      · exact abs_of_pos hpos
    rw [habs]
    exact hv.lt_overflow h
  · intro y s hy hne
    have hs := isValue_of_value? hy
    split at hne
    · rename_i hsign
      have hmirror : ∀ r : ℚ, |-v - r| = |v - -r| := fun r => by
        rw [← abs_neg]
        congr 1
        ring
      rw [if_pos hsign, if_pos hsign, hmirror, hmirror, neg_neg]
      exact hnearest hs.neg fun heq => hne (by rw [← heq, neg_neg])
    · rename_i hsign
      rw [if_neg hsign, if_neg hsign]
      exact hnearest hs hne

theorem readsAs_zero {x : Float} (hx : magnitude x = .zero) : ReadsAs 0 x := by
  refine ⟨?_, 0, by rw [value?, hx], fun y s _ hne => ?_⟩
  · rw [abs_zero]
    exact mul_pos (by norm_num) (zpow_pos two_pos _)
  · have hpos : 0 < |0 - s| := abs_pos.2 (by simpa using hne)
    rw [sub_zero, abs_zero]
    exact ⟨hpos.le, fun heq => absurd heq hpos.ne⟩

/-! ## Grids -/

theorem zpow_toNat {b : ℚ} (hb : b ≠ 0) (n : Int) : b ^ n.toNat = b ^ n * b ^ (-n).toNat := by
  rw [← zpow_natCast, ← zpow_natCast, ← zpow_add₀ hb]
  congr 1
  omega

/-- On the common scale, units and steps are what they are in multiples of one number. -/
theorem exists_scale (k q : Int) : ∃ r : ℚ, 0 < r ∧ (unit k q : ℚ) = 2 ^ (q - 2) * r ∧
    (step k q : ℚ) = 10 ^ k * r := by
  have hunit : unit k q = 2 ^ (q - 2).toNat * 10 ^ (-k).toNat := rfl
  have hstep : step k q = 2 ^ (2 - q).toNat * 10 ^ k.toNat := rfl
  have htwo := zpow_toNat two_ne_zero (q - 2)
  have hten := zpow_toNat (b := 10) (by norm_num) k
  rw [neg_sub] at htwo
  refine ⟨2 ^ (2 - q).toNat * 10 ^ (-k).toNat, by positivity, ?_, ?_⟩
  · rw [hunit]
    push_cast
    rw [htwo, mul_assoc]
  · rw [hstep]
    push_cast
    rw [hten]
    ring

theorem le_point_iff (k q : Int) (a c : Nat) :
    a * unit k q ≤ c * step k q ↔ (a : ℚ) * 2 ^ (q - 2) ≤ c * 10 ^ k := by
  obtain ⟨r, hr, hunit, hstep⟩ := exists_scale k q
  rw [← @Nat.cast_le ℚ, Nat.cast_mul, Nat.cast_mul, hunit, hstep, ← mul_assoc, ← mul_assoc,
    mul_le_mul_iff_left₀ hr]

theorem point_le_iff (k q : Int) (a c : Nat) :
    c * step k q ≤ a * unit k q ↔ (c : ℚ) * 10 ^ k ≤ a * 2 ^ (q - 2) := by
  obtain ⟨r, hr, hunit, hstep⟩ := exists_scale k q
  rw [← @Nat.cast_le ℚ, Nat.cast_mul, Nat.cast_mul, hunit, hstep, ← mul_assoc, ← mul_assoc,
    mul_le_mul_iff_left₀ hr]

/-- The number in units. -/
theorem binary_eq_units (m : Nat) (q : Int) : binary m q = (4 * m : Nat) * 2 ^ (q - 2) := by
  rw [binary, two_zpow_sub_one, two_zpow_sub_two]
  push_cast
  ring

/-- The points of a grid that read back are those in the interval. -/
theorem readsBack_iff (hm : 0 < m) (k : Int) (c : Nat) :
    readsBack m q k c = true ↔ Owns m q (c * 10 ^ k) := by
  have hbelow : below m q ≤ 4 * m := (below_le m q).trans (by omega)
  have hlow : binary m q - below m q * 2 ^ (q - 1) / 2 =
      (4 * m - below m q : Nat) * 2 ^ (q - 2) := by
    rw [Nat.cast_sub hbelow, binary_eq_units, two_zpow_sub_two]
    ring
  have hhigh : binary m q + 2 ^ (q - 1) = (4 * m + 2 : Nat) * 2 ^ (q - 2) := by
    rw [binary_eq_units, two_zpow_sub_two]
    push_cast
    ring
  unfold readsBack Owns
  dsimp only
  rw [hlow, hhigh]
  split
  · rw [Bool.and_eq_true, decide_eq_true_eq, decide_eq_true_eq, le_point_iff, point_le_iff]
  · rw [Bool.and_eq_true, decide_eq_true_eq, decide_eq_true_eq, ← not_le, ← not_le, le_point_iff,
      point_le_iff, not_le, not_le]

end SqlCompose.Decimal
