import SqlCompose.Decimal.Shortest

/-!
# Layouts of floating-point numbers

A format that writes numbers decides which powers of ten it writes positionally, whether a whole
number keeps a fraction, and how it spells the rest. A `Layout` holds those decisions; `write` is
the one printer for all of them.
-/

namespace SqlCompose.Decimal

/-- The decisions of a format that writes floating-point numbers. -/
structure Layout where
  /-- Which of two equally near shortest decimals is written. -/
  tie : Tie
  /-- The powers of ten of a leading digit that are written positionally. -/
  positional : Int → Bool
  /-- Written after a whole number in positional form. -/
  wholeMark : String
  /-- Written before an exponent that is not negative. -/
  exponentPlus : String
  notANumber : String
  infinity : String
  negativeInfinity : String

def digitText (ds : List Nat) : String := String.ofList (ds.map Nat.digitChar)

/-- The digits with a decimal point after the first `n`, where `n` is at most their number. -/
def pointed (ds : List Nat) (n : Nat) : String :=
  digitText (ds.take n) ++ "." ++ digitText (ds.drop n)

namespace Layout

/-- The positional form: zeros fill the places between the digits and the decimal point. -/
def positionalText (l : Layout) (s : Scientific) : String :=
  if s.exponent < 0 then
    "0." ++ digitText (List.replicate (-s.exponent - 1).toNat 0 ++ s.digits)
  else
    let whole := s.exponent.toNat + 1
    if s.digits.length ≤ whole then
      digitText (s.digits ++ List.replicate (whole - s.digits.length) 0) ++ l.wholeMark
    else pointed s.digits whole

/-- The form with an exponent: one digit before the decimal point, none of both for one digit. -/
def exponentText (l : Layout) (s : Scientific) : String :=
  let digits := if s.digits.length ≤ 1 then digitText s.digits else pointed s.digits 1
  let sign := if s.exponent < 0 then "" else l.exponentPlus
  digits ++ "e" ++ sign ++ toString s.exponent

def write (l : Layout) (x : Float) : String :=
  let sign := if isNegative x then "-" else ""
  match magnitude x with
  | .notANumber => l.notANumber
  | .infinite => if isNegative x then l.negativeInfinity else l.infinity
  | .zero => sign ++ "0" ++ l.wholeMark
  | .finite m q =>
    let s := shortest l.tie m q
    sign ++ if l.positional s.exponent then l.positionalText s else l.exponentText s

end Layout

end SqlCompose.Decimal
