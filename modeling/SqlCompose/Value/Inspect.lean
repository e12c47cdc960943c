import SqlCompose.Decimal.Layout
import SqlCompose.Text.Visible
import SqlCompose.Value

/-!
# Inspection text

The text that names a piece of data in messages for people: `Int(7)`, `Text("a\n")`,
`Blob([1, 2])`. Lists, options and records have one spelling each for the whole library.
-/

namespace SqlCompose.Inspect

/-- Inspected numbers are positional from `1e-4` up to below `1e16`, keep `.0` on whole numbers, and
write exponents without a plus sign and take the greater one of two equally near decimals. -/
def floatLayout : Decimal.Layout where
  tie := .up
  positional e := -4 ≤ e && e ≤ 15
  wholeMark := ".0"
  exponentPlus := ""
  notANumber := "NaN"
  infinity := "inf"
  negativeInfinity := "-inf"

example : floatLayout.write 0.0001 = "0.0001" ∧ floatLayout.write 0.00001 = "1e-5" := by
  decide +kernel

example : floatLayout.write 1e15 = "1000000000000000.0" ∧ floatLayout.write 1e16 = "1e16" := by
  decide +kernel

/-- Two decimals of seventeen digits are equally near to `2 ^ (-25)`. -/
example : floatLayout.write 2.98023223876953125e-8 = "2.9802322387695313e-8" := by decide +kernel

def list (items : List String) : String := "[" ++ ", ".intercalate items ++ "]"

def apply (name argument : String) : String := name ++ "(" ++ argument ++ ")"

def option (item : Option String) : String := item.elim "None" (apply "Some")

/-- A record: its name and its fields in order. -/
def record (name : String) (fields : List (String × String)) : String :=
  let shown := fields.map fun (field, item) => field ++ ": " ++ item
  name ++ " \x7b " ++ ", ".intercalate shown ++ " \x7d"

def bool (b : Bool) : String := if b then "true" else "false"

end SqlCompose.Inspect

namespace SqlCompose

def Value.inspect : Value → String
  | null => "Null"
  | bool b => Inspect.apply "Bool" (Inspect.bool b)
  | int n => Inspect.apply "Int" (toString n.toInt)
  | float x => Inspect.apply "Float" (Inspect.floatLayout.write x)
  | text s => Inspect.apply "Text" (Text.inspect s)
  | blob bytes => Inspect.apply "Blob" (Inspect.list (bytes.map fun b => toString b.toNat))

end SqlCompose
