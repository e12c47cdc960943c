/-!
# Shortest decimals

The decimal digits that stand for a binary floating-point number: the fewest that read back as the
same number, and of those the nearest to it; of two that are equally near the `Tie` decides. A
number `m * 2 ^ q` owns the interval of reals that round to it, ends included exactly when `m` is
even. On each decimal grid the number has two neighbours; the first grid with a neighbour in the
interval gives the digits.

All of it is exact arithmetic on `Nat`.
-/

namespace SqlCompose.Decimal

/-- What the bits of a binary64 number say. -/
inductive Magnitude
  | notANumber
  | infinite
  | zero
  /-- The number `m * 2 ^ q`, not zero. -/
  | finite (m : Nat) (q : Int)
  deriving DecidableEq, Repr

/-- A decimal number in scientific form: its digits, the leading one first, and the power of ten of
the leading digit. -/
structure Scientific where
  digits : List Nat
  exponent : Int
  deriving DecidableEq, Repr

/-- Which of two equally near decimals stands for a number. -/
inductive Tie
  /-- The one with the even last digit. -/
  | even
  /-- The greater one. -/
  | up
  deriving DecidableEq, Repr

/-! ## Decoding -/

def isNegative (x : Float) : Bool := x.toBits.toNat.testBit 63

/-- The exponent field, eleven bits. -/
def exponentField (x : Float) : Nat := (x.toBits.toNat >>> 52) % 2048

/-- The leading bit of a normal significand, `2 ^ 52`. It has no place in the fraction field. -/
def leadingBit : Nat := 4503599627370496

/-- The fraction field, fifty-two bits. -/
def fractionField (x : Float) : Nat := x.toBits.toNat % leadingBit

def magnitude (x : Float) : Magnitude :=
  let e := exponentField x
  let f := fractionField x
  if e = 2047 then if f = 0 then .infinite else .notANumber
  else if e = 0 then if f = 0 then .zero else .finite f (-1074)
  else .finite (leadingBit + f) (e - 1075)

/-! ## Intervals and grids

Numbers are compared on a common scale: with `u = 2 ^ (q - 2)`, the number is `4 * m * u`, and a
point `c` of the grid of step `10 ^ k` lies at `c * step k q` when `u` lies at `unit k q`. -/

/-- The place of one unit `2 ^ (q - 2)` on the common scale of grid `k`. -/
def unit (k q : Int) : Nat := Nat.pow 2 (q - 2).toNat * Nat.pow 10 (-k).toNat

/-- The place of one step `10 ^ k` on the common scale of grid `k`. -/
def step (k q : Int) : Nat := Nat.pow 2 (2 - q).toNat * Nat.pow 10 k.toNat

/-- The distance, in units, from the number down to the lower end of its interval: half as long
below a power of two. -/
def below (m : Nat) (q : Int) : Nat := if m = leadingBit ∧ q ≠ -1074 then 1 else 2

/-- The grid point `c * 10 ^ k` reads back as `m * 2 ^ q`. -/
def readsBack (m : Nat) (q k : Int) (c : Nat) : Bool :=
  let low := (4 * m - below m q) * unit k q
  let high := (4 * m + 2) * unit k q
  let point := c * step k q
  if m % 2 = 0 then low ≤ point && point ≤ high else low < point && point < high

/-- Of two equally near points `c` and `c + 1`, the one that stands for the number. -/
def Tie.choose (tie : Tie) (c : Nat) : Nat :=
  match tie with
  | even => if c % 2 = 0 then c else c + 1
  | up => c + 1

/-- The grid point next to the number that reads back, the nearer one of two. -/
def neighbour (tie : Tie) (m : Nat) (q k : Int) : Option Nat :=
  let here := 4 * m * unit k q
  let c := here / step k q
  match readsBack m q k c, readsBack m q k (c + 1) with
  | false, false => none
  | true, false => some c
  | false, true => some (c + 1)
  | true, true =>
    let down := here - c * step k q
    let up := (c + 1) * step k q - here
    some (if down < up then c else if up < down then c + 1 else tie.choose c)

/-- The power of ten of the leading digit of `m * 2 ^ q`, which is at least `10 ^ (-330)`. -/
def leading (m : Nat) (q : Int) : Int :=
  let scaled := m * Nat.pow 2 q.toNat * Nat.pow 10 330 / Nat.pow 2 (-q).toNat
  (Nat.toDigits 10 scaled).length - 331

/-! ## Digits -/

/-- The decimal digits of a natural number, the leading one first. -/
def digitsOf (n : Nat) : List Nat := (Nat.toDigits 10 n).map (·.toNat - '0'.toNat)

/-- The digits without the zeros at their end. -/
def dropZeros (ds : List Nat) : List Nat := (ds.reverse.dropWhile (· == 0)).reverse

/-- The scientific form of `c * 10 ^ k`. -/
def Scientific.ofPoint (c : Nat) (k : Int) : Scientific :=
  let ds := digitsOf c
  ⟨dropZeros ds, k + (ds.length - 1 : Nat)⟩

/-- Tries the grids with `count`, `count + 1`, … digits; the seventeenth always has a point that
reads back. -/
def shortestFrom (tie : Tie) (m : Nat) (q e : Int) : (tries count : Nat) → Scientific
  | 0, count => .ofPoint (4 * m * unit (e - count) q / step (e - count) q) (e - count)
  | tries + 1, count =>
    let k := e - (count - 1 : Nat)
    match neighbour tie m q k with
    | some c => .ofPoint c k
    | none => shortestFrom tie m q e tries (count + 1)

/-- The shortest decimal that reads back as `m * 2 ^ q`, and the nearest of those. -/
def shortest (tie : Tie) (m : Nat) (q : Int) : Scientific :=
  shortestFrom tie m q (leading m q) 17 1

end SqlCompose.Decimal
