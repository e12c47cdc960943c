import SqlCompose.Decimal.Integer

/-!
# Reading JSON from left to right

The scanners from which the readers of particular documents are built. Each takes the rest of a text
and gives what it read and what is left, or the first fault that it meets. A value that nobody asked
for is skipped (`skipValue`): its form is checked, what it says is not.
-/

namespace SqlCompose.Json

/-- What is wrong with a text. -/
inductive Fault
  /-- It breaks the grammar. -/
  | illFormed
  /-- It is well-formed so far, but not what was asked for. -/
  | mismatch
  /-- It ends too early. -/
  | truncated
  deriving DecidableEq, Repr

def Fault.description : Fault → String
  | illFormed => "ill-formed document"
  | mismatch => "unexpected content"
  | truncated => "unexpected end of the document"

/-- Reads from the front of a text. -/
abbrev Reader (α : Type) := List Char → Except Fault (α × List Char)

/-- The blanks between tokens. -/
def isSpace (c : Char) : Bool := c == ' ' || c == '\n' || c == '\t' || c == '\r'

def skipSpace (cs : List Char) : List Char := cs.dropWhile isSpace

/-- Reads the rest of a keyword. -/
def word : List Char → List Char → Except Fault (List Char)
  | [], cs => .ok cs
  | _ :: _, [] => .error .truncated
  | w :: ws, c :: cs => if c = w then word ws cs else .error .illFormed

/-! ## Strings -/

def hexDigit? (c : Char) : Option Nat :=
  if '0' ≤ c ∧ c ≤ '9' then some (c.toNat - '0'.toNat)
  else if 'a' ≤ c ∧ c ≤ 'f' then some (c.toNat - 'a'.toNat + 10)
  else if 'A' ≤ c ∧ c ≤ 'F' then some (c.toNat - 'A'.toNat + 10)
  else none

def hexValue? (a b c d : Char) : Option Nat := do
  let a ← hexDigit? a
  let b ← hexDigit? b
  let c ← hexDigit? c
  let d ← hexDigit? d
  return ((a * 16 + b) * 16 + c) * 16 + d

/-- Reads four hexadecimal digits. Too short is a text of less than four bytes. -/
def hexFour : Reader Nat
  | a :: b :: c :: d :: cs =>
    match hexValue? a b c d with
    | some n => .ok (n, cs)
    | none => .error .illFormed
  | cs => .error (if (String.ofList cs).utf8ByteSize < 4 then .truncated else .illFormed)

def isHighSurrogate (n : Nat) : Bool := 0xD800 ≤ n && n ≤ 0xDBFF

def isLowSurrogate (n : Nat) : Bool := 0xDC00 ≤ n && n ≤ 0xDFFF

/-- Reads the second half of a surrogate pair. -/
def lowHalf (high : Nat) : Reader Char
  | [] => .error .truncated
  | ['\\'] => .error .truncated
  | '\\' :: 'u' :: cs => do
    let (low, cs) ← hexFour cs
    if isLowSurrogate low then
      .ok (Char.ofNat ((high - 0xD800) * 0x400 + (low - 0xDC00) + 0x10000), cs)
    else .error .illFormed
  | _ => .error .illFormed

/-- Reads the code point of an escape. Surrogates must come in pairs, unless the text is `skipped`,
where a surrogate stands for nothing. -/
def codePoint (skipped : Bool) : Reader Char := fun cs => do
  let (n, cs) ← hexFour cs
  if skipped then .ok (Char.ofNat n, cs)
  else if isLowSurrogate n then .error .illFormed
  else if isHighSurrogate n then lowHalf n cs
  else .ok (Char.ofNat n, cs)

/-- The character that an escape of one letter stands for. -/
def letterEscape? : Char → Option Char
  | '"' => some '"'
  | '\\' => some '\\'
  | '/' => some '/'
  | 'b' => some '\x08'
  | 'f' => some '\x0c'
  | 'n' => some '\n'
  | 'r' => some '\r'
  | 't' => some '\t'
  | _ => none

/-- Reads an escape behind its backslash. -/
def escape (skipped : Bool) : Reader Char
  | [] => .error .truncated
  | c :: cs =>
    match letterEscape? c with
    | some d => .ok (d, cs)
    | none => if c = 'u' then codePoint skipped cs else .error .illFormed

theorem length_hexFour {cs rest : List Char} {n : Nat} (h : hexFour cs = .ok (n, rest)) :
    rest.length < cs.length := by
  unfold hexFour at h
  split at h
  · split at h
    · cases h
      simp only [List.length_cons]
      omega
    · cases h
  · cases h

theorem length_lowHalf {high : Nat} {cs rest : List Char} {c : Char}
    (h : lowHalf high cs = .ok (c, rest)) : rest.length < cs.length := by
  unfold lowHalf at h
  split at h
  · cases h
  · cases h
  · next cs' =>
    cases hx : hexFour cs' with
    | error e => simp [hx, bind, Except.bind] at h
    | ok p =>
      obtain ⟨low, r⟩ := p
      have := length_hexFour hx
      simp only [hx, bind, Except.bind] at h
      split at h
      · simp only [Except.ok.injEq, Prod.mk.injEq] at h
        simp only [List.length_cons, ← h.2]
        omega
      · cases h
  · cases h

theorem length_codePoint {skipped : Bool} {cs rest : List Char} {c : Char}
    (h : codePoint skipped cs = .ok (c, rest)) : rest.length < cs.length := by
  unfold codePoint at h
  cases hx : hexFour cs with
  | error e => simp [hx, bind, Except.bind] at h
  | ok p =>
    obtain ⟨n, r⟩ := p
    have hr := length_hexFour hx
    simp only [hx, bind, Except.bind] at h
    split at h
    · cases h
      exact hr
    · split at h
      · cases h
      · split at h
        · have := length_lowHalf h
          omega
        · cases h
          exact hr

theorem length_escape {skipped : Bool} {cs rest : List Char} {c : Char}
    (h : escape skipped cs = .ok (c, rest)) : rest.length < cs.length := by
  cases cs with
  | nil => cases h
  | cons d cs =>
    simp only [escape] at h
    split at h
    · cases h
      simp
    · split at h
      · have := length_codePoint h
        simp only [List.length_cons]
        omega
      · cases h

/-- Reads a string behind its opening quote. -/
def characters (skipped : Bool) (cs : List Char) : Except Fault (List Char × List Char) :=
  match cs with
  | [] => .error .truncated
  | '"' :: cs => .ok ([], cs)
  | '\\' :: cs =>
    match _h : escape skipped cs with
    | .error e => .error e
    | .ok (c, rest) =>
      match characters skipped rest with
      | .error e => .error e
      | .ok (s, rest) => .ok (c :: s, rest)
  | c :: cs =>
    if c.toNat < 0x20 then .error .illFormed
    else
      match characters skipped cs with
      | .error e => .error e
      | .ok (s, rest) => .ok (c :: s, rest)
termination_by cs.length
decreasing_by
  · have := length_escape _h
    simp only [List.length_cons]
    omega
  · simp

/-! ## Numbers -/

/-- A number as it is written. -/
structure Numeral where
  negative : Bool
  whole : List Char
  fraction : Option (List Char)
  exponent : Option Int
  deriving DecidableEq, Repr

/-- Reads a run of at least one digit; `atEnd` is the fault of a text that ends before. -/
def digits (atEnd : Fault) (cs : List Char) : Except Fault (List Char × List Char) :=
  match cs with
  | [] => .error atEnd
  | c :: _ =>
    if c.isDigit then .ok (cs.takeWhile Char.isDigit, cs.dropWhile Char.isDigit)
    else .error .illFormed

/-- Reads the exponent behind its letter. -/
def exponentPart (atEnd : Fault) (cs : List Char) : Except Fault (Int × List Char) :=
  match cs with
  | '+' :: cs => do
    let (ds, cs) ← digits atEnd cs
    return ((Decimal.natOf ds : Int), cs)
  | '-' :: cs => do
    let (ds, cs) ← digits atEnd cs
    return (-(Decimal.natOf ds : Int), cs)
  | cs => do
    let (ds, cs) ← digits atEnd cs
    return ((Decimal.natOf ds : Int), cs)

/-- Reads a number. Its whole part is one zero or starts with another digit. -/
def numeral (atEnd : Fault) (cs : List Char) : Except Fault (Numeral × List Char) := do
  let (negative, cs) := match cs with
    | '-' :: cs => (true, cs)
    | cs => (false, cs)
  let (whole, cs) ← digits atEnd cs
  if whole.length > 1 && whole.head? == some '0' then throw .illFormed
  let (fraction, cs) ← match cs with
    | '.' :: cs => do
      let (ds, cs) ← digits atEnd cs
      pure (some ds, cs)
    | cs => pure (none, cs)
  let (exponent, cs) ← match cs with
    | c :: rest =>
      if c == 'e' || c == 'E' then do
        let (e, cs) ← exponentPart atEnd rest
        pure (some e, cs)
      else pure (none, cs)
    | [] => pure (none, cs)
  return (⟨negative, whole, fraction, exponent⟩, cs)

/-- Appends digits to a significand as long as it fits 64 bits: the result and the digits that were
left out. -/
def takeDigits (s : Nat) : List Char → Nat × List Char
  | [] => (s, [])
  | c :: cs =>
    let longer := 10 * s + (c.toNat - '0'.toNat)
    if longer < UInt64.size then takeDigits longer cs else (s, c :: cs)

/-- The significand of a number, as many of its digits as fit, and the power of ten that goes with
it: a digit left out of the whole part counts up, one taken from the fraction counts down. -/
def Numeral.significand (n : Numeral) : Nat × Int :=
  let fraction := n.fraction.getD []
  let (s, outWhole) := takeDigits 0 n.whole
  let (s, outFraction) := takeDigits s fraction
  (s, outWhole.length - (fraction.length - outFraction.length : Nat) + n.exponent.getD 0)

/-- The number has a value in double precision. -/
def Numeral.isFinite (n : Numeral) : Bool :=
  let (s, e) := n.significand
  if e ≤ 0 || s == 0 then true
  else if e > 308 then false
  else (UInt64.ofNat s).toFloat * Float.ofScientific 1 false e.toNat |>.isFinite

/-- Reads a number that has a value. -/
def number : Reader Numeral := fun cs => do
  let (n, cs) ← numeral .truncated cs
  if n.isFinite then .ok (n, cs) else .error .illFormed

/-! ## Values that are skipped -/

/-- A container whose end has not been reached. -/
inductive Container
  | array
  | object
  deriving DecidableEq, Repr

/-- Skips a keyword, a number or a string. -/
def skipScalar : List Char → Except Fault (List Char)
  | [] => .error .truncated
  | 'n' :: cs => word ['u', 'l', 'l'] cs
  | 't' :: cs => word ['r', 'u', 'e'] cs
  | 'f' :: cs => word ['a', 'l', 's', 'e'] cs
  | '"' :: cs => do
    let (_, cs) ← characters true cs
    return cs
  | c :: cs =>
    if c == '-' || c.isDigit then do
      let (_, cs) ← numeral .illFormed (c :: cs)
      return cs
    else .error .illFormed

/-- Reads the colon of a member. -/
def colon (cs : List Char) : Except Fault (List Char) :=
  match skipSpace cs with
  | ':' :: cs => .ok cs
  | [] => .error .truncated
  | _ => .error .illFormed

/-- Skips the name of a member and its colon. -/
def skipName (cs : List Char) : Except Fault (List Char) :=
  match skipSpace cs with
  | '"' :: cs => do
    let (_, cs) ← characters true cs
    colon cs
  | [] => .error .truncated
  | _ => .error .illFormed

mutual

/-- Skips a value that stands in the open containers, the innermost first, and then the rest of
those containers. Each step takes a character, so the length of the text is fuel enough. -/
def skipWithin : Nat → List Container → List Char → Except Fault (List Char)
  | 0, _, _ => .error .truncated
  | fuel + 1, outer, cs =>
    match skipSpace cs with
    | '[' :: cs =>
      match skipSpace cs with
      | [] => .error .truncated
      | ']' :: cs => skipAfter fuel outer cs
      | cs => skipWithin fuel (.array :: outer) cs
    | '\x7b' :: cs =>
      match skipSpace cs with
      | [] => .error .truncated
      | '\x7d' :: cs => skipAfter fuel outer cs
      | cs => do
        let cs ← skipName cs
        skipWithin fuel (.object :: outer) cs
    | cs => do
      let cs ← skipScalar cs
      skipAfter fuel outer cs

/-- Goes on behind a value. -/
def skipAfter : Nat → List Container → List Char → Except Fault (List Char)
  | _, [], cs => .ok cs
  | 0, _ :: _, _ => .error .truncated
  | fuel + 1, .array :: outer, cs =>
    match skipSpace cs with
    | ',' :: cs => skipWithin fuel (.array :: outer) cs
    | ']' :: cs => skipAfter fuel outer cs
    | [] => .error .truncated
    | _ => .error .illFormed
  | fuel + 1, .object :: outer, cs =>
    match skipSpace cs with
    | ',' :: cs => do
      let cs ← skipName cs
      skipWithin fuel (.object :: outer) cs
    | '\x7d' :: cs => skipAfter fuel outer cs
    | [] => .error .truncated
    | _ => .error .illFormed

end

def skipValue (cs : List Char) : Except Fault (List Char) := skipWithin (cs.length + 1) [] cs

/-! ## Values that are read -/

/-- The fault of a value of another type than the one asked for. A scalar is read to its end before
it is refused, a container is not. -/
def refuse (cs : List Char) : Fault :=
  let read (r : Except Fault Unit) : Fault :=
    match r with
    | .ok () => .mismatch
    | .error e => e
  match cs with
  | [] => .truncated
  | '[' :: _ => .mismatch
  | '\x7b' :: _ => .mismatch
  | '"' :: cs => read ((characters false cs).map fun _ => ())
  | 'n' :: cs => read ((word ['u', 'l', 'l'] cs).map fun _ => ())
  | 't' :: cs => read ((word ['r', 'u', 'e'] cs).map fun _ => ())
  | 'f' :: cs => read ((word ['a', 'l', 's', 'e'] cs).map fun _ => ())
  | c :: cs =>
    if c == '-' || c.isDigit then read ((number (c :: cs)).map fun _ => ()) else .illFormed

def readText : Reader String := fun cs =>
  match skipSpace cs with
  | '"' :: cs => do
    let (s, cs) ← characters false cs
    return (String.ofList s, cs)
  | cs => .error (refuse cs)

def readBool : Reader Bool := fun cs =>
  match skipSpace cs with
  | 't' :: cs => do
    let cs ← word ['r', 'u', 'e'] cs
    return (true, cs)
  | 'f' :: cs => do
    let cs ← word ['a', 'l', 's', 'e'] cs
    return (false, cs)
  | cs => .error (refuse cs)

/-- Reads a number below `bound` that is written without sign, fraction and exponent. -/
def readBelow (bound : Nat) : Reader Nat := fun cs =>
  match skipSpace cs with
  | [] => .error .truncated
  | c :: cs =>
    if c == '-' || c.isDigit then do
      let (n, cs) ← number (c :: cs)
      let value := Decimal.natOf n.whole
      if n.negative || n.fraction.isSome || n.exponent.isSome || bound ≤ value then
        .error .mismatch
      else .ok (value, cs)
    else .error (refuse (c :: cs))

/-- Reads `null` or what `read` reads. -/
def readOptional {α : Type} (read : Reader α) : Reader (Option α) := fun cs =>
  match skipSpace cs with
  | 'n' :: cs => do
    let cs ← word ['u', 'l', 'l'] cs
    return (none, cs)
  | cs => do
    let (a, cs) ← read cs
    return (some a, cs)

def readEnd (cs : List Char) : Except Fault Unit :=
  if (skipSpace cs).isEmpty then .ok () else .error .illFormed

end SqlCompose.Json
