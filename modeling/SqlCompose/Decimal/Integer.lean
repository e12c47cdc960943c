/-!
# Decimal integers

The written form of integers: an optional sign and one or more ASCII digits. `readInt?` accepts
exactly that form; a reader with bounds checks the value afterwards.
-/

namespace SqlCompose.Decimal

/-- The number that a run of ASCII digits denotes. -/
def natOf (ds : List Char) : Nat := ds.foldl (fun n c => 10 * n + (c.toNat - '0'.toNat)) 0

/-- A number without a sign: one or more ASCII digits and nothing else. -/
def readNat? (cs : List Char) : Option Nat :=
  if cs ≠ [] ∧ cs.all Char.isDigit then some (natOf cs) else none

def readInt? : List Char → Option Int
  | '+' :: cs => (readNat? cs).map Int.ofNat
  | '-' :: cs => (readNat? cs).map (-Int.ofNat ·)
  | cs => (readNat? cs).map Int.ofNat

/-- A number with an optional sign in the range of 64-bit integers. -/
def readInt64? (cs : List Char) : Option Int64 :=
  (readInt? cs).bind fun n =>
    if Int64.minValue.toInt ≤ n ∧ n ≤ Int64.maxValue.toInt then some (.ofInt n) else none

/-! ## Lemmas -/

theorem readNat?_eq_some_iff {cs : List Char} {n : Nat} :
    readNat? cs = some n ↔ cs ≠ [] ∧ cs.all Char.isDigit ∧ natOf cs = n := by
  simp only [readNat?, Option.ite_none_right_eq_some, Option.some.injEq, and_assoc]

/-- The digits of a number are read back. -/
theorem readNat?_toDigits (n : Nat) : readNat? (Nat.toDigits 10 n) = some n := by
  refine readNat?_eq_some_iff.2 ⟨Nat.toDigits_ne_nil, ?_, ?_⟩
  · exact List.all_eq_true.2 fun c => Nat.isDigit_of_mem_toDigits (by decide) (by decide)
  · exact Nat.ofDigitChars_toDigits (by decide) (by decide)

theorem toList_toString_natCast (m : Nat) : (toString (m : Int)).toList = Nat.toDigits 10 m :=
  Nat.toList_repr

theorem toList_toString_negSucc (m : Nat) :
    (toString (Int.negSucc m)).toList = '-' :: Nat.toDigits 10 (m + 1) := by
  show ("-" ++ (m + 1).repr).toList = _
  rw [String.toList_append, Nat.toList_repr]
  rfl

end SqlCompose.Decimal
