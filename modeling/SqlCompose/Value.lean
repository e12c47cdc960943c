import SqlCompose.Decimal.Integer
import SqlCompose.Text.Blank

/-!
# Values

The scalars that a statement binds to its placeholders and that a result row holds.
-/

namespace SqlCompose

/-- A scalar of the database. -/
inductive Value
  | null
  | bool (b : Bool)
  | int (n : Int64)
  | float (x : Float)
  | text (s : String)
  | blob (bytes : List UInt8)
  deriving BEq, Inhabited

namespace Value

def isNull : Value → Bool
  | null => true
  | _ => false

/-- The integer that a value stands for. Text counts when it is a decimal integer between blanks,
as drivers often return aggregates that way. -/
def asInt? : Value → Option Int64
  | int n => some n
  | bool b => some (if b then 1 else 0)
  | text s => Decimal.readInt64? (Text.trim s.toList)
  | _ => none

def asText? : Value → Option String
  | text s => some s
  | _ => none

end Value

/-! ## Conversions -/

/-- Types whose members can be bound as values. -/
class ToValue (α : Type) where
  toValue : α → Value

export ToValue (toValue)

instance : ToValue Value := ⟨id⟩
instance : ToValue Bool := ⟨.bool⟩
instance : ToValue Int8 := ⟨fun n => .int n.toInt64⟩
instance : ToValue Int16 := ⟨fun n => .int n.toInt64⟩
instance : ToValue Int32 := ⟨fun n => .int n.toInt64⟩
instance : ToValue Int64 := ⟨.int⟩
instance : ToValue UInt8 := ⟨fun n => .int (.ofNat n.toNat)⟩
instance : ToValue UInt16 := ⟨fun n => .int (.ofNat n.toNat)⟩
instance : ToValue UInt32 := ⟨fun n => .int (.ofNat n.toNat)⟩
instance : ToValue Float := ⟨.float⟩

/-- Widening to double precision is exact. -/
instance : ToValue Float32 := ⟨fun x => .float x.toFloat⟩

instance : ToValue String := ⟨.text⟩
instance : ToValue (List UInt8) := ⟨.blob⟩

/-- A missing value is NULL. -/
instance {α : Type} [ToValue α] : ToValue (Option α) := ⟨fun x => x.elim .null toValue⟩

end SqlCompose
