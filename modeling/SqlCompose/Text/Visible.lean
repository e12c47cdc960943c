import SqlCompose.Text.Extending
import SqlCompose.Text.Hidden

/-!
# Visible characters

Which characters an inspection text shows as they are: those that have a visible form (`hiddenRuns`
are the others) and that stay apart from the character before them (`extendingRuns` do not).
-/

namespace SqlCompose.Text

/-- An inspection text shows the character as it is. -/
def isVisible (c : Char) : Bool :=
  !(hiddenRuns.any (·.holds c.toNat) || extendingRuns.any (·.holds c.toNat))

example : isVisible ' ' && isVisible '~' && isVisible 'é' && isVisible '𰀀' := by decide +kernel

example : !isVisible '\x7f' && !isVisible '\u0378' && !isVisible '\u115f' := by decide +kernel

example : !isVisible '\u0301' && isVisible '\uff9e' := by decide +kernel

/-- The digits of `n` in lower-case hexadecimal. -/
def hex (n : Nat) : List Char := Nat.toDigits 16 n

/-- A character inside a quoted inspection text: the usual letter escapes, a code point escape for
what is not visible, else the character itself. -/
def inspectChar (c : Char) : List Char :=
  match c with
  | '\x00' => ['\\', '0']
  | '\t' => ['\\', 't']
  | '\r' => ['\\', 'r']
  | '\n' => ['\\', 'n']
  | '"' => ['\\', '"']
  | '\\' => ['\\', '\\']
  | c => if isVisible c then [c] else ['\\', 'u', '\x7b'] ++ hex c.toNat ++ ['\x7d']

/-- The quoted inspection text of a string. -/
def inspect (s : String) : String :=
  String.ofList (['"'] ++ s.toList.flatMap inspectChar ++ ['"'])

end SqlCompose.Text
