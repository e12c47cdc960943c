import SqlCompose.Decimal.Layout
import SqlCompose.Text.Visible

/-!
# JSON documents

Documents and their text. `Json.write` prints a document in a layout: on one line, or with each
element on a line of its own. Members keep their order.
-/

namespace SqlCompose

/-- A JSON document. -/
inductive Json
  | null
  | bool (b : Bool)
  | integer (n : Int)
  | float (x : Float)
  | text (s : String)
  | array (items : List Json)
  | object (members : List (String × Json))
  deriving Inhabited

namespace Json

/-! ## Scalars -/

/-- JSON numbers are positional for powers of ten from -5 to 15, keep `.0` on whole numbers, sign
every exponent, take the even one of two equally near decimals and have no form for what is not
finite. -/
def floatLayout : Decimal.Layout where
  tie := .even
  positional e := -5 ≤ e && e ≤ 15
  wholeMark := ".0"
  exponentPlus := "+"
  notANumber := "null"
  infinity := "null"
  negativeInfinity := "null"

example : floatLayout.write 0.00001 = "0.00001" ∧ floatLayout.write 0.0000015 = "1.5e-6" := by
  decide +kernel

example : floatLayout.write 1e15 = "1000000000000000.0" ∧ floatLayout.write 1e16 = "1e+16" := by
  decide +kernel

/-- Two decimals of seventeen digits are equally near to `2 ^ (-25)`. -/
example : floatLayout.write 2.98023223876953125e-8 = "2.9802322387695312e-8" := by decide +kernel

/-- A character inside a string: quotes, backslashes and the controls of ASCII are escaped. -/
def escapeChar (c : Char) : List Char :=
  match c with
  | '"' => ['\\', '"']
  | '\\' => ['\\', '\\']
  | '\x08' => ['\\', 'b']
  | '\x0c' => ['\\', 'f']
  | '\n' => ['\\', 'n']
  | '\r' => ['\\', 'r']
  | '\t' => ['\\', 't']
  | c =>
    if c.toNat < 0x20 then
      ['\\', 'u', '0', '0', Nat.digitChar (c.toNat / 16), Nat.digitChar (c.toNat % 16)]
    else [c]

/-- A string in its quotes. -/
def quote (s : String) : String :=
  String.ofList (['"'] ++ s.toList.flatMap escapeChar ++ ['"'])

/-! ## Layouts -/

/-- What stands between the tokens of a document. -/
structure Layout where
  /-- The break before an element, by its depth. -/
  break_ : Nat → String
  /-- Between the name and the value of a member. -/
  colon : String

namespace Layout

/-- All on one line. -/
def compact : Layout where
  break_ _ := ""
  colon := ":"

/-- Each element on a line of its own, two spaces deeper than its container. -/
def pretty : Layout where
  break_ depth := String.ofList ('\n' :: List.replicate (2 * depth) ' ')
  colon := ": "

/-- A container with its brackets; an empty one has no breaks. -/
def container (l : Layout) (depth : Nat) (opening closing : String) : List String → String
  | [] => opening ++ closing
  | elements =>
    opening ++ l.break_ (depth + 1) ++ ("," ++ l.break_ (depth + 1)).intercalate elements ++
      l.break_ depth ++ closing

end Layout

mutual

/-- The text of a document that stands at the given depth. -/
def writeAt (l : Layout) (depth : Nat) : Json → String
  | null => "null"
  | bool b => if b then "true" else "false"
  | integer n => toString n
  | float x => floatLayout.write x
  | text s => quote s
  | array items => l.container depth "[" "]" (writeItems l (depth + 1) items)
  | object members => l.container depth "\x7b" "\x7d" (writeMembers l (depth + 1) members)

/-- The texts of the elements of an array. -/
def writeItems (l : Layout) (depth : Nat) : List Json → List String
  | [] => []
  | j :: js => writeAt l depth j :: writeItems l depth js

/-- The texts of the members of an object. -/
def writeMembers (l : Layout) (depth : Nat) : List (String × Json) → List String
  | [] => []
  | (name, j) :: ms => (quote name ++ l.colon ++ writeAt l depth j) :: writeMembers l depth ms

end

/-- The text of a document. -/
def write (l : Layout) (j : Json) : String := writeAt l 0 j

/-- The text of a document on one line. -/
def compact (j : Json) : String := write .compact j

/-- The text of a document with one element a line. -/
def pretty (j : Json) : String := write .pretty j

end Json

end SqlCompose
