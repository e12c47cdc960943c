import SqlCompose.Proofs.Comparison.Spelling
import SqlCompose.Value
import Mathlib.Data.List.Induction

/-!
# Values that stand for integers

Which values are read as an integer, and as which one. `Decimal.Numeral` and `Decimal.Signed` build
written numbers up digit by digit, without a reader, and `Value.StandsFor` adds the blanks around
them and the bounds of 64 bits. The readers accept exactly these forms, each with its number
(`Decimal.readInt?_eq_some_iff`, `Value.asInt?_eq_some_iff`).
-/

namespace SqlCompose

namespace Decimal

/-- One or more ASCII digits and the number that they denote. -/
inductive Numeral : List Char → Nat → Prop
  | digit {d : Nat} (hd : d < 10) : Numeral [Nat.digitChar d] d
  | append {ds : List Char} {n d : Nat} (h : Numeral ds n) (hd : d < 10) :
      Numeral (ds ++ [Nat.digitChar d]) (10 * n + d)

/-- A numeral behind at most one sign. -/
inductive Signed : List Char → Int → Prop
  | plain {ds : List Char} {n : Nat} (h : Numeral ds n) : Signed ds n
  | plus {ds : List Char} {n : Nat} (h : Numeral ds n) : Signed ('+' :: ds) n
  | minus {ds : List Char} {n : Nat} (h : Numeral ds n) : Signed ('-' :: ds) (-n)

/-! ## Digits -/

theorem isDigit_iff {c : Char} : c.isDigit = true ↔ 48 ≤ c.toNat ∧ c.toNat ≤ 57 := by
  simp only [Char.isDigit, Bool.and_eq_true, decide_eq_true_eq]
  rfl

theorem isDigit_digitChar {d : Nat} (hd : d < 10) : (Nat.digitChar d).isDigit = true := by
  rw [isDigit_iff, Nat.toNat_digitChar_of_lt_ten hd]
  omega

/-- A digit is known by the number that it denotes. -/
theorem digitChar_of_isDigit {c : Char} (hc : c.isDigit = true) :
    Nat.digitChar (c.toNat - 48) = c := by
  rw [isDigit_iff] at hc
  apply Char.toNat_inj.1
  rw [Nat.toNat_digitChar_of_lt_ten (by omega)]
  omega

theorem natOf_append_singleton (ds : List Char) (c : Char) :
    natOf (ds ++ [c]) = 10 * natOf ds + (c.toNat - 48) := by
  simp [natOf, List.foldl_append]

theorem natOf_append_digit (ds : List Char) {d : Nat} (hd : d < 10) :
    natOf (ds ++ [Nat.digitChar d]) = 10 * natOf ds + d := by
  rw [natOf_append_singleton, Nat.toNat_digitChar_of_lt_ten hd]
  omega

/-! ## Numerals -/

theorem Numeral.isDigit {cs : List Char} {n : Nat} (h : Numeral cs n) :
    ∀ c ∈ cs, c.isDigit = true := by
  induction h with
  | digit hd =>
    intro c hc
    rw [List.mem_singleton.1 hc]
    exact isDigit_digitChar hd
  | append _ hd ih =>
    intro c hc
    rcases List.mem_append.1 hc with hc | hc
    · exact ih c hc
    · rw [List.mem_singleton.1 hc]
      exact isDigit_digitChar hd

theorem Numeral.ne_nil {cs : List Char} {n : Nat} (h : Numeral cs n) : cs ≠ [] := by
  cases h <;> simp

theorem Numeral.natOf_eq {cs : List Char} {n : Nat} (h : Numeral cs n) : natOf cs = n := by
  induction h with
  | digit hd =>
    have hdigit := natOf_append_digit [] hd
    simpa [natOf] using hdigit
  | append _ hd ih => rw [natOf_append_digit _ hd, ih]

theorem numeral_natOf {cs : List Char} (hne : cs ≠ []) (hcs : ∀ c ∈ cs, c.isDigit = true) :
    Numeral cs (natOf cs) := by
  induction cs using List.reverseRecOn with
  | nil => exact absurd rfl hne
  | append_singleton ds c ih =>
    have hc : c.isDigit = true := hcs c (List.mem_append_right _ (List.mem_singleton_self c))
    have hlt : c.toNat - 48 < 10 := by
      rw [isDigit_iff] at hc
      omega
    rw [natOf_append_singleton]
    by_cases hds : ds = []
    · subst hds
      have hdigit := Numeral.digit hlt
      rw [digitChar_of_isDigit hc] at hdigit
      simpa [natOf] using hdigit
    · have hmore := (ih hds fun d hd => hcs d (List.mem_append_left _ hd)).append hlt
      rwa [digitChar_of_isDigit hc] at hmore

/-- What is read as a number is a numeral, and the number is the one that it denotes. -/
theorem readNat?_eq_some_iff_numeral {cs : List Char} {n : Nat} :
    readNat? cs = some n ↔ Numeral cs n := by
  rw [readNat?_eq_some_iff, List.all_eq_true]
  constructor
  · rintro ⟨hne, hcs, rfl⟩
    exact numeral_natOf hne hcs
  · intro h
    exact ⟨h.ne_nil, h.isDigit, h.natOf_eq⟩

theorem numeral_toDigits (n : Nat) : Numeral (Nat.toDigits 10 n) n :=
  readNat?_eq_some_iff_numeral.1 (readNat?_toDigits n)

/-! ## Signs -/

theorem signed_toString (n : Int) : Signed (toString n).toList n := by
  cases n with
  | ofNat m => exact toList_toString_natCast m ▸ .plain (numeral_toDigits m)
  | negSucc m => exact toList_toString_negSucc m ▸ .minus (numeral_toDigits (m + 1))

theorem not_numeral_sign {sign : Char} (hsign : sign.isDigit = false) {cs : List Char} {n : Nat} :
    ¬Numeral (sign :: cs) n := by
  intro h
  have hdigit := h.isDigit sign List.mem_cons_self
  rw [hsign] at hdigit
  cases hdigit

theorem readInt?_eq_some_iff {cs : List Char} {n : Int} : readInt? cs = some n ↔ Signed cs n := by
  constructor
  · intro h
    unfold readInt? at h
    split at h
    · obtain ⟨k, hk, rfl⟩ := Option.map_eq_some_iff.1 h
      exact .plus (readNat?_eq_some_iff_numeral.1 hk)
    · obtain ⟨k, hk, rfl⟩ := Option.map_eq_some_iff.1 h
      exact .minus (readNat?_eq_some_iff_numeral.1 hk)
    · obtain ⟨k, hk, rfl⟩ := Option.map_eq_some_iff.1 h
      exact .plain (readNat?_eq_some_iff_numeral.1 hk)
  · intro h
    cases h with
    | plus h => simp [readInt?, readNat?_eq_some_iff_numeral.2 h]
    | minus h => simp [readInt?, readNat?_eq_some_iff_numeral.2 h]
    | plain h =>
      unfold readInt?
      split
      · exact absurd h (not_numeral_sign rfl)
      · exact absurd h (not_numeral_sign rfl)
      · simp [readNat?_eq_some_iff_numeral.2 h]

theorem readInt64?_eq_some_iff {cs : List Char} {k : Int64} :
    readInt64? cs = some k ↔ Signed cs k.toInt := by
  have hmin : Int64.minValue.toInt = -2 ^ 63 := by decide
  have hmax : Int64.maxValue.toInt = 2 ^ 63 - 1 := by decide
  unfold readInt64?
  rw [Option.bind_eq_some_iff, hmin, hmax]
  constructor
  · rintro ⟨n, hn, hk⟩
    split at hk
    · rename_i hrange
      obtain rfl := Option.some.inj hk
      rw [Int64.toInt_ofInt_of_le hrange.1 (by omega)]
      exact readInt?_eq_some_iff.1 hn
    · cases hk
  · intro h
    have hlow : -2 ^ 63 ≤ k.toInt := Int64.le_toInt k
    have hhigh : k.toInt < 2 ^ 63 := Int64.toInt_lt k
    refine ⟨k.toInt, readInt?_eq_some_iff.2 h, ?_⟩
    rw [if_pos ⟨hlow, by omega⟩, Int64.ofInt_toInt]

/-- A written number has no blanks. -/
theorem Signed.isRun {cs : List Char} {n : Int} (h : Signed cs n) : Text.IsRun cs := by
  have hdigits : ∀ {ds : List Char} {k : Nat}, Numeral ds k → ∀ c ∈ ds, Text.isBlank c = false :=
    fun h c hc => Text.isBlank_of_isDigit (h.isDigit c hc)
  cases h with
  | plain h => exact ⟨h.ne_nil, hdigits h⟩
  | plus h => exact ⟨List.cons_ne_nil _ _, List.forall_mem_cons.2 ⟨rfl, hdigits h⟩⟩
  | minus h => exact ⟨List.cons_ne_nil _ _, List.forall_mem_cons.2 ⟨rfl, hdigits h⟩⟩

end Decimal

/-! ## Values -/

namespace Value

/-- The value stands for the integer: it is one, or a truth value, or a text of one in the range of
64 bits with nothing but blanks around it. -/
inductive StandsFor : Value → Int → Prop
  | int (k : Int64) : StandsFor (.int k) k.toInt
  | bool (b : Bool) : StandsFor (.bool b) (if b then 1 else 0)
  | text {s : String} {front written back : List Char} {n : Int}
      (hs : s.toList = front ++ written ++ back) (hfront : Text.IsGap front)
      (hback : Text.IsGap back) (hn : Decimal.Signed written n)
      (hlow : -9223372036854775808 ≤ n) (hhigh : n ≤ 9223372036854775807) : StandsFor (.text s) n

theorem asInt?_eq_some_iff {value : Value} {k : Int64} :
    value.asInt? = some k ↔ value.StandsFor k.toInt := by
  constructor
  · intro h
    cases value with
    | null => cases h
    | bool b =>
      cases h
      cases b <;> exact .bool _
    | int n =>
      cases h
      exact .int _
    | float x => cases h
    | text s =>
      obtain ⟨front, back, hfront, hback, hs⟩ := Text.exists_gaps s.toList
      have hlow : -2 ^ 63 ≤ k.toInt := Int64.le_toInt k
      have hhigh : k.toInt < 2 ^ 63 := Int64.toInt_lt k
      exact .text hs hfront hback (Decimal.readInt64?_eq_some_iff.1 h) hlow (by omega)
    | blob bytes => cases h
  · generalize hn : k.toInt = n
    intro h
    cases h with
    | int k' => rw [asInt?, Int64.toInt_inj.1 hn]
    | bool b =>
      have hk : k = if b then 1 else 0 := by
        apply Int64.toInt_inj.1
        rw [hn]
        cases b <;> rfl
      rw [asInt?, hk]
    | text hs hfront hback hsigned =>
      rw [asInt?, hs, Text.trim_gaps hfront hsigned.isRun hback, Decimal.readInt64?_eq_some_iff, hn]
      exact hsigned

/-- The integers that values stand for have 64 bits. -/
theorem StandsFor.exists_int64 {value : Value} {n : Int} (h : value.StandsFor n) :
    ∃ k : Int64, k.toInt = n := by
  cases h with
  | int k => exact ⟨k, rfl⟩
  | bool b => exact ⟨if b then 1 else 0, by cases b <;> rfl⟩
  | text _ _ _ _ hlow hhigh => exact ⟨.ofInt _, Int64.toInt_ofInt_of_le hlow (by omega)⟩

/-- A value is read as the integer that it stands for, and as nothing if it stands for none. -/
theorem map_asInt?_eq_some_iff {value : Value} {n : Int} :
    value.asInt?.map Int64.toInt = some n ↔ value.StandsFor n := by
  rw [Option.map_eq_some_iff]
  constructor
  · rintro ⟨k, hk, rfl⟩
    exact asInt?_eq_some_iff.1 hk
  · intro h
    obtain ⟨k, rfl⟩ := h.exists_int64
    exact ⟨k, asInt?_eq_some_iff.2 h, rfl⟩

end Value

end SqlCompose
