import SqlCompose.CompileError
import SqlCompose.Text.Blank
import SqlCompose.Text.Upper

/-!
# Comparisons, directions and column names

The words that a caller hands in as text and that a statement admits only in a fixed spelling:
comparison operators, sort directions and, for column names, anything that is not blank.
-/

namespace SqlCompose

inductive Comparison
  | equal
  | notEqual
  | lessOrGreater
  | less
  | lessEqual
  | greater
  | greaterEqual
  | like
  | notLike
  deriving DecidableEq, Repr

namespace Comparison

/-- The canonical spelling. -/
def sql : Comparison → String
  | equal => "="
  | notEqual => "!="
  | lessOrGreater => "<>"
  | less => "<"
  | lessEqual => "<="
  | greater => ">"
  | greaterEqual => ">="
  | like => "LIKE"
  | notLike => "NOT LIKE"

def all : List Comparison :=
  [equal, notEqual, lessOrGreater, less, lessEqual, greater, greaterEqual, like, notLike]

/-- The words of the text in upper case, with one space between neighbours. -/
def canonical (operator : String) : List Char :=
  Text.upper ([' '].intercalate (Text.words operator.toList))

/-- The operator that a text spells, in any case and with any blanks around its words. -/
def parse? (operator : String) : Option Comparison :=
  all.find? fun c => c.sql.toList == canonical operator

/-- The operator that a text spells, or the error that quotes the text. -/
def parse (operator : String) : Except CompileError Comparison :=
  match parse? operator with
  | some c => .ok c
  | none => .error (.invalidOperator operator)

end Comparison

inductive Direction
  | ascending
  | descending
  deriving DecidableEq, Repr

namespace Direction

def sql : Direction → String
  | ascending => "ASC"
  | descending => "DESC"

/-- The direction that a text spells: `asc` or `desc` between blanks, in any ASCII case. -/
def parse? (direction : String) : Option Direction :=
  let word := (Text.trim direction.toList).map Char.toLower
  if word = "asc".toList then some ascending
  else if word = "desc".toList then some descending
  else none

/-- The direction that a text spells, or the error that quotes the text. -/
def parse (direction : String) : Except CompileError Direction :=
  match parse? direction with
  | some d => .ok d
  | none => .error (.invalidDirection direction)

end Direction

/-- A column name must have a character that is not blank. -/
def checkColumn (column : String) : Except CompileError Unit :=
  if Text.allBlank column then .error .emptyColumn else .ok ()

end SqlCompose
