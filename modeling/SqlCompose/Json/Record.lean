import SqlCompose.Json.Reader

/-!
# Reading records

A record is written as an object, whose members come in any order and may be missing, or as an array
of its fields in their order, from whose end fields may be missing. Names that are no field are
skipped with their values; a field that occurs twice is a fault. A `Record` says what the fields are
and how each one is read into a value of type `σ`.
-/

namespace SqlCompose.Json

/-- The fields of a record and how they are read. -/
structure Record (ι σ : Type) where
  /-- The fields in order. -/
  order : List ι
  /-- The field of a name. -/
  named : String → Option ι
  /-- Reads the value of a field into what was read before. -/
  read : ι → σ → Reader σ

/-- What was read of a record: the fields that occurred and the value. -/
structure Draft (ι σ : Type) where
  seen : List ι
  value : σ

/-! ## Members and elements -/

/-- Finds the next member of an object behind its brace or behind a value: its name and the text
behind the name, or the text behind the closing brace. -/
def nextMember (first : Bool) (cs : List Char) :
    Except Fault (Option (String × List Char) × List Char) := do
  let name : List Char → Except Fault (Option (String × List Char) × List Char)
    | '"' :: cs => do
      let (s, cs) ← characters false cs
      return (some (String.ofList s, cs), cs)
    | [] => .error .truncated
    | _ => .error .illFormed
  match skipSpace cs with
  | '\x7d' :: cs => return (none, cs)
  | [] => .error .truncated
  | c :: cs =>
    if first then name (c :: cs)
    else if c = ',' then name (skipSpace cs)
    else .error .illFormed

/-- Reads the members of an object behind its brace. `member` reads from the colon on. Each member
takes characters, so the length of the text is fuel enough. -/
def readMembers {σ : Type} (member : String → σ → Reader σ) : Nat → Bool → σ → Reader σ
  | 0, _, _ => fun _ => .error .truncated
  | fuel + 1, first, s => fun cs => do
    match ← nextMember first cs with
    | (none, cs) => return (s, cs)
    | (some (name, cs), _) =>
      let (s, cs) ← member name s cs
      readMembers member fuel false s cs

/-- Finds the next element of an array behind its bracket or behind a value: the text before it, or
the text behind the closing bracket. -/
def nextElement (first : Bool) (cs : List Char) : Except Fault (Bool × List Char) :=
  match skipSpace cs with
  | ']' :: cs => .ok (false, cs)
  | [] => .error .truncated
  | c :: cs =>
    if first then .ok (true, c :: cs)
    else if c = ',' then
      match skipSpace cs with
      | ']' :: _ => .error .illFormed
      | [] => .error .truncated
      | cs => .ok (true, cs)
    else .error .illFormed

/-- Reads the end of an array that has no place for more elements. -/
def readArrayEnd (cs : List Char) : Except Fault (List Char) :=
  match skipSpace cs with
  | ']' :: cs => .ok cs
  | [] => .error .truncated
  | _ => .error .illFormed

/-- Reads the map of an object, whose entries are read one by one into `σ`. -/
def readMap {σ : Type} (entry : String → σ → Reader σ) (start : σ) : Reader σ := fun cs =>
  match skipSpace cs with
  | '\x7b' :: cs =>
    let member := fun name s cs => do
      let cs ← colon cs
      entry name s cs
    readMembers member (cs.length + 1) true start cs
  | cs => .error (refuse cs)

/-! ## Records -/

namespace Record

variable {ι σ : Type} [DecidableEq ι]

/-- Reads a member of a record. That a field occurs twice is known before its value is read. -/
def readMember (r : Record ι σ) (name : String) (d : Draft ι σ) : Reader (Draft ι σ) := fun cs =>
  match r.named name with
  | none => do
    let cs ← colon cs
    let cs ← skipValue cs
    return (d, cs)
  | some field => do
    if field ∈ d.seen then throw .mismatch
    let cs ← colon cs
    let (value, cs) ← r.read field d.value cs
    return (⟨field :: d.seen, value⟩, cs)

/-- Reads the elements of a record that is written as an array. -/
def readElements (r : Record ι σ) : List ι → Bool → Draft ι σ → Reader (Draft ι σ)
  | [], _, d => fun cs => do
    let cs ← readArrayEnd cs
    return (d, cs)
  | field :: fields, first, d => fun cs => do
    let (more, cs) ← nextElement first cs
    if more then
      let (value, cs) ← r.read field d.value cs
      readElements r fields false ⟨field :: d.seen, value⟩ cs
    else return (d, cs)

/-- Reads a record. The fields of `required` must occur; the others start out as in `start`. -/
def parse (r : Record ι σ) (required : List ι) (start : σ) : Reader σ := fun cs => do
  let empty : Draft ι σ := ⟨[], start⟩
  let complete := fun (d : Draft ι σ) (cs : List Char) =>
    if required.all (· ∈ d.seen) then .ok (d.value, cs) else .error .mismatch
  match skipSpace cs with
  | '\x7b' :: cs =>
    let (d, cs) ← readMembers r.readMember (cs.length + 1) true empty cs
    complete d cs
  | '[' :: cs =>
    let (d, cs) ← r.readElements r.order true empty cs
    complete d cs
  | cs => throw (refuse cs)

end Record

end SqlCompose.Json
