import SqlCompose.Json
import SqlCompose.Value

/-!
# Result rows

A row maps column names to values and remembers the order in which the columns came. No name occurs
twice: inserting a column that is there replaces its value in place.
-/

namespace SqlCompose

/-- Sets the value of a column where it stands, or adds the column at the end. -/
def upsert (column : String) (value : Value) : List (String × Value) → List (String × Value)
  | [] => [(column, value)]
  | (name, old) :: rest =>
    if name = column then (name, value) :: rest else (name, old) :: upsert column value rest

theorem map_fst_upsert (column : String) (value : Value) (es : List (String × Value)) :
    (upsert column value es).map Prod.fst =
      if column ∈ es.map Prod.fst then es.map Prod.fst else es.map Prod.fst ++ [column] := by
  induction es with
  | nil => simp [upsert]
  | cons e es ih =>
    obtain ⟨name, old⟩ := e
    by_cases h : name = column
    · simp [upsert, h]
    · simp only [upsert, h, ↓reduceIte, List.map_cons, ih, List.mem_cons, Ne.symm h, false_or]
      split <;> simp

theorem nodup_upsert {column : String} {value : Value} {es : List (String × Value)}
    (h : (es.map Prod.fst).Nodup) : ((upsert column value es).map Prod.fst).Nodup := by
  rw [map_fst_upsert]
  split
  · exact h
  next hc => exact List.nodup_append.2 ⟨h, by simp, by grind⟩

/-- Columns and their values in the order of the columns' first insertion. -/
structure Row where
  entries : List (String × Value)
  nodup : (entries.map Prod.fst).Nodup

namespace Row

def empty : Row := ⟨[], List.nodup_nil⟩

instance : Inhabited Row := ⟨empty⟩

instance : BEq Row := ⟨fun r s => r.entries == s.entries⟩

/-- Sets a column. A column that is there keeps its place. -/
def insert (r : Row) (column : String) (value : Value) : Row :=
  ⟨upsert column value r.entries, nodup_upsert r.nodup⟩

def ofList (pairs : List (String × Value)) : Row :=
  pairs.foldl (fun r (column, value) => r.insert column value) empty

def get? (r : Row) (column : String) : Option Value :=
  (r.entries.find? (·.1 = column)).map Prod.snd

def columns (r : Row) : List String := r.entries.map Prod.fst

def values (r : Row) : List Value := r.entries.map Prod.snd

def size (r : Row) : Nat := r.entries.length

def isEmpty (r : Row) : Bool := r.entries.isEmpty

end Row

/-! ## JSON -/

/-- A value as a JSON document; a blob is the array of its bytes. -/
def Value.toJson : Value → Json
  | null => .null
  | bool b => .bool b
  | int n => .integer n.toInt
  | float x => .float x
  | text s => .text s
  | blob bytes => .array (bytes.map fun b => .integer b.toNat)

/-- A row as a JSON object with its columns in order. -/
def Row.toJson (r : Row) : Json :=
  .object (r.entries.map fun (column, value) => (column, value.toJson))

end SqlCompose
