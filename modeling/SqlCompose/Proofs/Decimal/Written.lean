import Mathlib.Data.Nat.Digits.Defs
import SqlCompose.Decimal.Layout
import SqlCompose.Proofs.Decimal.Shortest
import SqlCompose.Proofs.Value.Integer

/-!
# Written numbers

A number is written with an optional minus sign and decimal digits, with at most one point between
them (`Number`). A positional layout writes a scientific form so that the text denotes the same
number (`unsigned_positionalText`), and with the shortest digits, which read back
(`owns_shortest`), the text is read as the floating-point number that was written
(`Layout.IsPositional.exists_number`).
-/

namespace SqlCompose.Decimal

/-! ## The grammar -/

/-- Decimal digits with at most one point between them, and the number that they denote. -/
inductive Unsigned : List Char → ℚ → Prop
  | whole {ds : List Char} {n : Nat} (h : Numeral ds n) : Unsigned ds n
  | pointed {ds es : List Char} {n k : Nat} (h : Numeral ds n) (h' : Numeral es k) :
      Unsigned (ds ++ '.' :: es) (n + k / 10 ^ es.length)

/-- Digits behind an optional minus sign. -/
inductive Number : List Char → ℚ → Prop
  | plain {cs : List Char} {v : ℚ} (h : Unsigned cs v) : Number cs v
  | minus {cs : List Char} {v : ℚ} (h : Unsigned cs v) : Number ('-' :: cs) (-v)

/-- The characters of a number. -/
theorem Number.mem {cs : List Char} {v : ℚ} (h : Number cs v) {c : Char} (hc : c ∈ cs) :
    c.isDigit = true ∨ c = '.' ∨ c = '-' := by
  have hunsigned : ∀ {cs : List Char} {v : ℚ}, Unsigned cs v → ∀ c ∈ cs,
      c.isDigit = true ∨ c = '.' := by
    intro cs v h c hc
    cases h with
    | whole h => exact .inl (h.isDigit c hc)
    | pointed h h' =>
      rcases List.mem_append.1 hc with hc | hc
      · exact .inl (h.isDigit c hc)
      · rcases List.mem_cons.1 hc with hc | hc
        · exact .inr hc
        · exact .inl (h'.isDigit c hc)
  cases h with
  | plain h => exact (hunsigned h c hc).imp_right .inl
  | minus h =>
    rcases List.mem_cons.1 hc with hc | hc
    · exact .inr (.inr hc)
    · exact (hunsigned h c hc).imp_right .inl

theorem Number.ne_nil {cs : List Char} {v : ℚ} (h : Number cs v) : cs ≠ [] := by
  cases h with
  | plain h =>
    cases h with
    | whole h => exact h.ne_nil
    | pointed h h' => simp
  | minus h => simp

theorem number_toString (n : Int) : Number (toString n).toList n := by
  cases n with
  | ofNat m =>
    have hcast : ((Int.ofNat m : Int) : ℚ) = m := Int.cast_natCast m
    rw [hcast]
    exact toList_toString_natCast m ▸ .plain (.whole (numeral_toDigits m))
  | negSucc m =>
    rw [Int.cast_negSucc]
    exact toList_toString_negSucc m ▸ .minus (.whole (numeral_toDigits (m + 1)))

theorem numeral_zero : Numeral ['0'] 0 := Nat.toDigits_zero 10 ▸ numeral_toDigits 0

/-- The sign of a floating-point number in front of what stands for its magnitude. -/
theorem number_sign {s : String} {v : ℚ} (h : Unsigned s.toList v) (negative : Bool) :
    Number ((if negative then "-" else "") ++ s).toList (if negative then -v else v) := by
  cases negative with
  | false => simpa using Number.plain h
  | true => simpa using Number.minus h

/-! ## Digits -/

/-- The number that digits denote, the leading one first. -/
def numberOf (ds : List Nat) : Nat := Nat.ofDigits 10 ds.reverse

theorem numberOf_append (ds es : List Nat) :
    numberOf (ds ++ es) = numberOf ds * 10 ^ es.length + numberOf es := by
  unfold numberOf
  rw [List.reverse_append, Nat.ofDigits_append, List.length_reverse]
  ring

theorem numberOf_zeros (n : Nat) : numberOf (List.replicate n 0) = 0 := by
  simp [numberOf]

theorem natOf_map_digitChar {ds : List Nat} (hds : ∀ d ∈ ds, d < 10) :
    natOf (ds.map Nat.digitChar) = numberOf ds := by
  induction ds using List.reverseRecOn with
  | nil => rfl
  | append_singleton ds d ih =>
    have hlast : d < 10 := hds d (by simp)
    rw [List.map_append, List.map_singleton, natOf_append_digit _ hlast, numberOf_append,
      ih fun e he => hds e (List.mem_append_left _ he)]
    simp [numberOf, mul_comm]

/-- Decimal digits are written as a numeral. -/
theorem numeral_digitText {ds : List Nat} (hne : ds ≠ []) (hds : ∀ d ∈ ds, d < 10) :
    Numeral (digitText ds).toList (numberOf ds) := by
  have hdigits : ∀ c ∈ ds.map Nat.digitChar, c.isDigit = true :=
    List.forall_mem_map.2 fun d hd => isDigit_digitChar (hds d hd)
  have h := numeral_natOf (by simpa using hne) hdigits
  rwa [natOf_map_digitChar hds, ← String.toList_ofList (l := ds.map Nat.digitChar)] at h

theorem digitsOf_lt {n d : Nat} (hd : d ∈ digitsOf n) : d < 10 := by
  obtain ⟨c, hc, rfl⟩ := List.mem_map.1 hd
  have hdigit := isDigit_iff.1 (Nat.isDigit_of_mem_toDigits (by decide) (by decide) hc)
  have hzero : '0'.toNat = 48 := rfl
  omega

theorem numberOf_digitsOf (n : Nat) : numberOf (digitsOf n) = n := by
  have hchars : (digitsOf n).map Nat.digitChar = Nat.toDigits 10 n := by
    unfold digitsOf
    rw [List.map_map]
    refine (List.map_congr_left fun c hc => ?_).trans (List.map_id _)
    exact digitChar_of_isDigit (Nat.isDigit_of_mem_toDigits (by decide) (by decide) hc)
  rw [← natOf_map_digitChar fun d => digitsOf_lt, hchars]
  exact (readNat?_eq_some_iff.1 (readNat?_toDigits n)).2.2

theorem exists_eq_dropZeros_append (ds : List Nat) :
    ∃ n, ds = dropZeros ds ++ List.replicate n 0 := by
  have hzeros : ∀ d ∈ ds.reverse.takeWhile (· == 0), d = 0 := fun d hd => by
    simpa using List.mem_takeWhile_imp hd
  have hsplit := List.takeWhile_append_dropWhile (p := (· == 0)) (l := ds.reverse)
  rw [List.eq_replicate_of_mem hzeros] at hsplit
  refine ⟨(ds.reverse.takeWhile (· == 0)).length, ?_⟩
  unfold dropZeros
  rw [← List.reverse_inj, List.reverse_append, List.reverse_reverse, List.reverse_replicate, hsplit]

/-! ## Scientific form -/

namespace Scientific

/-- The number that a scientific form denotes. -/
def value (s : Scientific) : ℚ := numberOf s.digits * 10 ^ (s.exponent + 1 - s.digits.length)

/-- There are digits, and all of them are decimal. -/
def IsDecimal (s : Scientific) : Prop := s.digits ≠ [] ∧ ∀ d ∈ s.digits, d < 10

theorem value_ofPoint {c : Nat} (hc : 0 < c) (k : Int) :
    (ofPoint c k).value = c * 10 ^ k ∧ (ofPoint c k).IsDecimal := by
  obtain ⟨n, hn⟩ := exists_eq_dropZeros_append (digitsOf c)
  have hnumber : numberOf (dropZeros (digitsOf c)) * 10 ^ n = c := by
    have h := numberOf_digitsOf c
    rwa [hn, numberOf_append, numberOf_zeros, List.length_replicate, Nat.add_zero] at h
  have hlength : (digitsOf c).length = (dropZeros (digitsOf c)).length + n := by
    have h := congrArg List.length hn
    rwa [List.length_append, List.length_replicate] at h
  have hne : dropZeros (digitsOf c) ≠ [] := by
    intro hnil
    rw [hnil] at hnumber
    exact hc.ne ((Nat.zero_mul _).symm.trans hnumber)
  have hpos := List.length_pos_iff.2 hne
  have hexponent : k + ((digitsOf c).length - 1 : Nat) + 1 - (dropZeros (digitsOf c)).length =
      n + k := by omega
  refine ⟨?_, hne, fun d hd => digitsOf_lt (n := c) (hn ▸ List.mem_append_left _ hd)⟩
  show (numberOf (dropZeros (digitsOf c)) : ℚ) *
    10 ^ (k + ((digitsOf c).length - 1 : Nat) + 1 - (dropZeros (digitsOf c)).length) = _
  rw [hexponent, zpow_add₀ (by norm_num), zpow_natCast, ← mul_assoc]
  exact_mod_cast congrArg (fun x : Nat => (x : ℚ) * 10 ^ k) hnumber

end Scientific

/-- **The shortest decimal of a number reads back.** -/
theorem owns_shortest (tie : Tie) {m : Nat} {q : Int} (h : IsBinary64 m q) :
    Owns m q (shortest tie m q).value ∧ (shortest tie m q).IsDecimal := by
  obtain ⟨c, k, hpoint, hback⟩ := shortest_readsBack tie h
  rw [readsBack_iff h.pos] at hback
  have hc : 0 < c := by
    have hpos := hback.pos h
    by_contra hzero
    obtain rfl : c = 0 := by omega
    simp at hpos
  obtain ⟨hvalue, hdecimal⟩ := Scientific.value_ofPoint hc k
  rw [hpoint, hvalue]
  exact ⟨hback, hdecimal⟩

/-! ## The positional layout -/

@[simp] theorem length_digitText (ds : List Nat) : (digitText ds).toList.length = ds.length := by
  simp [digitText]

theorem forall_replicate_zero_lt (n : Nat) : ∀ d ∈ List.replicate n 0, d < 10 := by
  intro d hd
  rw [List.eq_of_mem_replicate hd]
  decide

theorem unsigned_zeroPoint {ds : List Nat} (hne : ds ≠ []) (hds : ∀ d ∈ ds, d < 10) (zeros : Nat) :
    Unsigned ("0." ++ digitText (List.replicate zeros 0 ++ ds)).toList
      (numberOf ds / 10 ^ (zeros + ds.length)) := by
  have hall := List.forall_mem_append.2 ⟨forall_replicate_zero_lt zeros, hds⟩
  have h := Unsigned.pointed numeral_zero (numeral_digitText (by simp [hne]) hall)
  rw [numberOf_append, numberOf_zeros, length_digitText, List.length_append, List.length_replicate,
    Nat.zero_mul, Nat.zero_add, Nat.cast_zero, zero_add] at h
  rwa [String.toList_append]

theorem unsigned_whole {ds : List Nat} (hne : ds ≠ []) (hds : ∀ d ∈ ds, d < 10) (zeros : Nat) :
    Unsigned (digitText (ds ++ List.replicate zeros 0)).toList
      (numberOf ds * 10 ^ zeros) := by
  have hall := List.forall_mem_append.2 ⟨hds, forall_replicate_zero_lt zeros⟩
  have h := Unsigned.whole (numeral_digitText (by simp [hne]) hall)
  rw [numberOf_append, numberOf_zeros, List.length_replicate, Nat.add_zero] at h
  push_cast at h
  exact h

theorem unsigned_pointed {ds : List Nat} (hds : ∀ d ∈ ds, d < 10) {n : Nat} (hn : 0 < n)
    (hlength : n < ds.length) :
    Unsigned (pointed ds n).toList (numberOf ds / 10 ^ (ds.length - n)) := by
  have htake : ds.take n ≠ [] := by
    rw [← List.length_pos_iff, List.length_take]
    omega
  have hdrop : ds.drop n ≠ [] := by
    rw [← List.length_pos_iff, List.length_drop]
    omega
  have h := Unsigned.pointed
    (numeral_digitText htake fun d hd => hds d (List.mem_of_mem_take hd))
    (numeral_digitText hdrop fun d hd => hds d (List.mem_of_mem_drop hd))
  have hnumber := numberOf_append (ds.take n) (ds.drop n)
  rw [List.take_append_drop, List.length_drop] at hnumber
  rw [length_digitText, List.length_drop] at h
  have htext : (pointed ds n).toList =
      (digitText (ds.take n)).toList ++ '.' :: (digitText (ds.drop n)).toList := by
    simp [pointed]
  rw [htext, hnumber]
  push_cast
  rw [add_div, mul_div_cancel_right₀ _ (by positivity)]
  exact h

/-- What a layout without a mark on whole numbers writes in positional form. -/
theorem unsigned_positionalText {l : Layout} (hl : l.wholeMark = "") {s : Scientific}
    (hs : s.IsDecimal) : Unsigned (l.positionalText s).toList s.value := by
  obtain ⟨hne, hdigits⟩ := hs
  have hlength := List.length_pos_iff.2 hne
  unfold Layout.positionalText Scientific.value
  by_cases hexponent : s.exponent < 0
  · have hpower : s.exponent + 1 - s.digits.length =
        -(((-s.exponent - 1).toNat + s.digits.length : Nat) : Int) := by omega
    rw [if_pos hexponent, hpower, zpow_neg, zpow_natCast, ← div_eq_mul_inv]
    exact unsigned_zeroPoint hne hdigits _
  · rw [if_neg hexponent]
    dsimp only
    by_cases hwhole : s.digits.length ≤ s.exponent.toNat + 1
    · have hpower : s.exponent + 1 - s.digits.length =
          ((s.exponent.toNat + 1 - s.digits.length : Nat) : Int) := by omega
      rw [if_pos hwhole, hl, String.append_empty, hpower, zpow_natCast]
      exact unsigned_whole hne hdigits _
    · have hpower : s.exponent + 1 - s.digits.length =
          -((s.digits.length - (s.exponent.toNat + 1) : Nat) : Int) := by omega
      rw [if_neg hwhole, hpower, zpow_neg, zpow_natCast, ← div_eq_mul_inv]
      exact unsigned_pointed hdigits (Nat.succ_pos _) (by omega)

/-- A layout without marks, exponents and names for finite numbers. -/
structure Layout.IsPositional (l : Layout) : Prop where
  positional : ∀ e, l.positional e = true
  wholeMark : l.wholeMark = ""

/-- **What is written is read as what was written**: a positional layout writes a finite number as
a number of the grammar that is read as it. -/
theorem Layout.IsPositional.exists_number {l : Layout} (hl : l.IsPositional) {x : Float}
    (hx : value? x ≠ none) : ∃ v, Number (l.write x).toList v ∧ ReadsAs v x := by
  unfold Layout.write
  unfold value? at hx
  cases hmagnitude : magnitude x with
  | notANumber => simp [hmagnitude] at hx
  | infinite => simp [hmagnitude] at hx
  | zero =>
    have hzero : Unsigned "0".toList 0 := by
      exact_mod_cast Unsigned.whole numeral_zero
    have hsigned : (if isNegative x then -0 else 0 : ℚ) = 0 := by rw [neg_zero, ite_self]
    dsimp only
    rw [hl.wholeMark, String.append_empty]
    exact ⟨0, hsigned ▸ number_sign hzero (isNegative x), readsAs_zero hmagnitude⟩
  | finite m q =>
    have h := (magnitude_eq_finite hmagnitude).1
    obtain ⟨howns, hdecimal⟩ := owns_shortest l.tie h
    dsimp only
    rw [if_pos (hl.positional _)]
    exact ⟨_, number_sign (unsigned_positionalText hl.wholeMark hdecimal) _,
      readsAs_of_owns hmagnitude howns⟩

end SqlCompose.Decimal
