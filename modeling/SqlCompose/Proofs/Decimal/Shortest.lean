import Mathlib.Data.Nat.Cast.Order.Field
import SqlCompose.Proofs.Decimal.Nearest

/-!
# Shortest decimals read back

The digits that stand for a number are those of a point that reads back as it
(`shortest_readsBack`). Every grid whose step is small enough has such a point next to the number
(`exists_neighbour`), and the grid of seventeen digits is one, because the leading digit of the
number is where `leading` says (`leading_le`).
-/

namespace SqlCompose.Decimal

variable {m : Nat} {q : Int}

/-! ## Neighbours -/

theorem step_pos (k q : Int) : 0 < step k q := by
  have hstep : step k q = 2 ^ (2 - q).toNat * 10 ^ k.toNat := rfl
  rw [hstep]
  positivity

/-- The number lies between its two neighbours. -/
theorem neighbours_around (m : Nat) (q k : Int) :
    let c := 4 * m * unit k q / step k q
    c * (10 : ℚ) ^ k ≤ binary m q ∧ binary m q < (c + 1 : Nat) * 10 ^ k := by
  intro c
  have hdown : c * step k q ≤ 4 * m * unit k q := Nat.div_mul_le_self _ _
  have hup : ¬(c + 1) * step k q ≤ 4 * m * unit k q := by
    rw [not_le, Nat.add_mul, Nat.one_mul]
    exact Nat.lt_div_mul_add (step_pos k q)
  rw [point_le_iff, ← binary_eq_units] at hdown hup
  exact ⟨hdown, not_le.1 hup⟩

theorem exists_neighbour_of_readsBack {tie : Tie} {k : Int} {c : Nat}
    (hc : c = 4 * m * unit k q / step k q)
    (h : readsBack m q k c = true ∨ readsBack m q k (c + 1) = true) :
    ∃ c', neighbour tie m q k = some c' := by
  unfold neighbour
  dsimp only
  rw [← hc]
  cases hdown : readsBack m q k c <;> cases hup : readsBack m q k (c + 1) <;> simp_all

/-- The step of the grid of seventeen digits is less than the distance of neighbours. -/
theorem grid_lt (h : IsBinary64 m q) {k : Int} (hk : 10 ^ 16 * (10 : ℚ) ^ k ≤ binary m q) :
    (10 : ℚ) ^ k < 2 * 2 ^ (q - 1) := by
  have hm : (m : ℚ) < 10 ^ 16 := by
    have hlt : m < 10 ^ 16 := h.lt.trans (by decide)
    exact_mod_cast hlt
  have hbinary : binary m q < 10 ^ 16 * (2 * 2 ^ (q - 1)) := by
    rw [binary, two_zpow_sub_one]
    exact mul_lt_mul_of_pos_right hm (by positivity)
  linarith

/-- At a power of two it is less than half of that, which is the distance from the number below. -/
theorem grid_lt_of_leadingBit {k : Int} (hk : 10 ^ 16 * (10 : ℚ) ^ k ≤ binary leadingBit q) :
    (10 : ℚ) ^ k < 2 ^ (q - 1) := by
  have hstep : (0 : ℚ) < 2 ^ (q - 1) := by positivity
  rw [binary, two_zpow_sub_one, leadingBit] at hk
  push_cast at hk
  linarith

/-- A grid whose step is a small part of the number has a point next to it that reads back. -/
theorem exists_neighbour (tie : Tie) (h : IsBinary64 m q) {k : Int}
    (hk : 10 ^ 16 * (10 : ℚ) ^ k ≤ binary m q) : ∃ c, neighbour tie m q k = some c := by
  obtain ⟨hdown, hup⟩ := neighbours_around m q k
  refine exists_neighbour_of_readsBack rfl ?_
  rw [readsBack_iff h.pos, readsBack_iff h.pos]
  generalize 4 * m * unit k q / step k q = c at hdown hup
  push_cast at hup ⊢
  by_cases hm : m = leadingBit
  · -- Below a power of two the interval is narrow, so the point above is taken.
    subst hm
    have hsmall := grid_lt_of_leadingBit hk
    have hstep : (0 : ℚ) < 2 ^ (q - 1) := by positivity
    have hbelow : (0 : ℚ) < below leadingBit q := by exact_mod_cast below_pos leadingBit q
    have hgap := mul_pos hbelow hstep
    exact .inr (owns_of_lt (by linarith) (by linarith))
  · have hsmall := grid_lt h hk
    have htwo : below m q = 2 := if_neg fun hlead => hm hlead.1
    have hbelow : (below m q : ℚ) = 2 := by exact_mod_cast htwo
    rcases lt_or_ge (binary m q - c * 10 ^ k) (2 ^ (q - 1)) with hnear | hfar
    · exact .inl (owns_of_lt (by rw [hbelow]; linarith) (by linarith))
    · exact .inr (owns_of_lt (by rw [hbelow]; linarith) (by linarith))

theorem neighbour_readsBack {tie : Tie} {k : Int} {c : Nat} (h : neighbour tie m q k = some c) :
    readsBack m q k c = true := by
  unfold neighbour at h
  dsimp only at h
  split at h
  · cases h
  · rename_i hback _
    obtain rfl := Option.some.inj h
    exact hback
  · rename_i hback
    obtain rfl := Option.some.inj h
    exact hback
  · rename_i hdown hup
    obtain rfl := Option.some.inj h
    split
    · exact hdown
    · split
      · exact hup
      · cases tie with
        | even =>
          unfold Tie.choose
          dsimp only
          split
          · exact hdown
          · exact hup
        | up => exact hup

/-! ## The leading digit -/

theorem pow_length_toDigits_le {n : Nat} (hn : 0 < n) :
    10 ^ ((Nat.toDigits 10 n).length - 1) ≤ n := by
  by_cases hlength : (Nat.toDigits 10 n).length - 1 = 0
  · rw [hlength]
    exact hn
  · rw [← not_lt, ← Nat.length_toDigits_le_iff (by decide) (by omega)]
    omega

/-- The leading digit of a number, from the digits of its whole part on a greater scale. -/
theorem zpow_length_le {v : ℚ} {scaled shift : Nat} (hpos : 0 < scaled)
    (h : scaled ≤ v * 10 ^ shift) :
    (10 : ℚ) ^ ((Nat.toDigits 10 scaled).length - (shift + 1 : Nat) : Int) ≤ v := by
  obtain ⟨n, hn⟩ : ∃ n, (Nat.toDigits 10 scaled).length = n + 1 :=
    Nat.exists_eq_add_one.2 Nat.length_toDigits_pos
  have hleast := pow_length_toDigits_le hpos
  rw [hn, Nat.add_sub_cancel] at hleast
  have hexponent : ((n + 1 : Nat) - (shift + 1 : Nat) : Int) = n - shift := by omega
  rw [hn, hexponent, zpow_sub₀ (by norm_num), zpow_natCast, zpow_natCast,
    div_le_iff₀ (by positivity)]
  exact (by exact_mod_cast hleast : (10 : ℚ) ^ n ≤ scaled).trans h

/-- The whole part of the number times a power of ten. -/
def scaled (shift m : Nat) (q : Int) : Nat :=
  m * Nat.pow 2 q.toNat * Nat.pow 10 shift / Nat.pow 2 (-q).toNat

theorem scaled_le (shift m : Nat) (q : Int) : (scaled shift m q : ℚ) ≤ binary m q * 10 ^ shift := by
  unfold scaled
  simp only [Nat.pow_eq]
  refine Nat.cast_div_le.trans ?_
  rw [div_le_iff₀ (by positivity), binary]
  push_cast
  rw [zpow_toNat two_ne_zero q]
  exact le_of_eq (by ring)

theorem scaled_pos {a b n : Nat} (hm : 0 < m) (hq : (-q).toNat ≤ a * n) (h : 2 ^ a ≤ 10 ^ b) :
    0 < scaled (b * n) m q := by
  have hpow : 2 ^ (-q).toNat ≤ 10 ^ (b * n) := by
    calc 2 ^ (-q).toNat ≤ 2 ^ (a * n) := Nat.pow_le_pow_right two_pos hq
      _ = (2 ^ a) ^ n := Nat.pow_mul 2 a n
      _ ≤ (10 ^ b) ^ n := Nat.pow_le_pow_left h n
      _ = 10 ^ (b * n) := (Nat.pow_mul 10 b n).symm
  have hfactor : 0 < m * 2 ^ q.toNat := Nat.mul_pos hm (Nat.pow_pos two_pos)
  exact Nat.div_pos (hpow.trans (Nat.le_mul_of_pos_left _ hfactor)) (Nat.pow_pos two_pos)

/-- The number is at least the power of ten of its leading digit. On the scale that `leading` takes,
even the least number has a whole part, as `2 ^ 1074 ≤ 10 ^ 330`. -/
theorem leading_le (h : IsBinary64 m q) : (10 : ℚ) ^ leading m q ≤ binary m q := by
  have hleast : (-q).toNat ≤ 179 * 6 := by have := h.least; omega
  have hpos : 0 < scaled (55 * 6) m q := scaled_pos h.pos hleast (by decide)
  exact zpow_length_le hpos (scaled_le (55 * 6) m q)

/-! ## The search -/

/-- The search ends with a point that reads back, if there is one on the last grid. -/
theorem shortestFrom_readsBack {tie : Tie} {e : Int} (last : Nat)
    (hlast : ∃ c, neighbour tie m q (e - last) = some c) (tries count : Nat)
    (hcount : 0 < count ∧ count ≤ last + 1) (htries : last + 1 < count + tries) :
    ∃ c k, shortestFrom tie m q e tries count = .ofPoint c k ∧ readsBack m q k c = true := by
  induction tries generalizing count with
  | zero => omega
  | succ tries ih =>
    unfold shortestFrom
    dsimp only
    split
    · rename_i c hc
      exact ⟨c, _, rfl, neighbour_readsBack hc⟩
    · rename_i hnone
      have hne : count ≠ last + 1 := by
        rintro rfl
        obtain ⟨c, hc⟩ := hlast
        rw [Nat.add_sub_cancel, hc] at hnone
        cases hnone
      exact ih (count + 1) (by omega) (by omega)

theorem shortest_readsBack (tie : Tie) (h : IsBinary64 m q) :
    ∃ c k, shortest tie m q = .ofPoint c k ∧ readsBack m q k c = true := by
  refine shortestFrom_readsBack 16 (exists_neighbour tie h ?_) 17 1 (by omega) (by omega)
  calc 10 ^ 16 * (10 : ℚ) ^ (leading m q - (16 : Nat)) = 10 ^ leading m q := by
        rw [zpow_sub₀ (by norm_num), zpow_natCast]
        field_simp
    _ ≤ binary m q := leading_le h

end SqlCompose.Decimal
