import SqlCompose.Proofs.Execution.FirstRow
import SqlCompose.Proofs.Json.Writing
import SqlCompose.Proofs.Value.Integer

/-!
# Rows as JSON

What a reader of JSON output learns: `Json.Document.rows` takes a document for rows, objects for
their columns in order, numbers for integers and arrays for blobs. A value other than a float, a row
of them and a list of rows are what is read back from their document (`exists_document_value`,
`exists_document_row`, `exists_document_rows`), which both formats print. So `toJson` and
`firstToJson` lose nothing (`json_output_lossless`).
-/

namespace SqlCompose

/-! ## Documents as rows -/

namespace Json.Document

/-- What was asked for, if it is there. -/
def asked {α : Type} (x : Option α) : Except Fault α := x.elim (.error .mismatch) .ok

def byte : Document → Except Fault UInt8
  | number t => do
    let n ← asked (Decimal.readNat? t)
    if n < UInt8.size then return .ofNat n else throw .mismatch
  | _ => throw .mismatch

/-- The value that a document stands for. An array stands for a blob, whose bytes are its items. -/
def value : Document → Except Fault Value
  | null => return .null
  | bool b => return .bool b
  | number t => do
    let n ← asked (Decimal.readInt64? t)
    return .int n
  | text s => return .text s
  | array items => do
    let bytes ← items.mapM byte
    return .blob bytes
  | object _ => throw .mismatch

def column (m : String × Document) : Except Fault (String × Value) := do
  let v ← m.2.value
  return (m.1, v)

/-- The row that an object stands for, if no name occurs twice. -/
def row : Document → Except Fault Row
  | object members => do
    let entries ← members.mapM column
    if h : (entries.map Prod.fst).Nodup then return ⟨entries, h⟩ else throw .mismatch
  | _ => throw .mismatch

def rows : Document → Except Fault (List Row)
  | array items => items.mapM row
  | _ => throw .mismatch

end Json.Document

/-! ## Values -/

def Value.FloatFree : Value → Prop
  | float _ => False
  | null | bool _ | int _ | text _ | blob _ => True

/-- No value of the row is a float. -/
def Row.FloatFree (r : Row) : Prop := ∀ e ∈ r.entries, e.2.FloatFree

/-- The document of a byte. -/
def byteDocument (b : UInt8) : Json.Document := .number (toString (b.toNat : Int)).toList

theorem byte_byteDocument (b : UInt8) : (byteDocument b).byte = .ok b := by
  unfold byteDocument Json.Document.byte
  dsimp only
  rw [Decimal.toList_toString_natCast, Decimal.readNat?_toDigits]
  show (if b.toNat < UInt8.size then _ else _) = _
  rw [if_pos b.toNat_lt, UInt8.ofNat_toNat]
  rfl

theorem exists_document_value {v : Value} (hv : v.FloatFree) :
    ∃ d, Json.Writes v.toJson d ∧ d.value = .ok v := by
  cases v with
  | null => exact ⟨_, Json.writes_null, rfl⟩
  | bool b => exact ⟨_, Json.writes_bool b, rfl⟩
  | text s => exact ⟨_, Json.writes_text s, rfl⟩
  | float x => exact hv.elim
  | int n =>
    refine ⟨_, Json.writes_integer n.toInt, ?_⟩
    unfold Json.Document.value
    dsimp only
    rw [Decimal.readInt64?_eq_some_iff.2 (Decimal.signed_toString n.toInt)]
    rfl
  | blob bytes =>
    have hwrites : List.Forall₂ Json.Writes (bytes.map fun b => .integer b.toNat)
        (bytes.map byteDocument) := by
      rw [List.forall₂_map_left_iff, List.forall₂_map_right_iff, List.forall₂_same]
      exact fun b _ => Json.writes_integer b.toNat
    have hbytes : (bytes.map byteDocument).mapM Json.Document.byte = .ok bytes := by
      rw [mapM_eq_ok_iff, List.forall₂_map_left_iff, List.forall₂_same]
      exact fun b _ => byte_byteDocument b
    refine ⟨_, .array hwrites, ?_⟩
    unfold Json.Document.value
    dsimp only
    rw [hbytes]
    rfl

/-! ## Rows -/

theorem exists_document_row {r : Row} (hr : r.FloatFree) :
    ∃ d, Json.Writes r.toJson d ∧ d.row = .ok r := by
  obtain ⟨members, hmembers⟩ := exists_forall₂_iff.2 fun e (he : e ∈ r.entries) =>
    (show ∃ m : String × Json.Document,
        e.1 = m.1 ∧ Json.Writes e.2.toJson m.2 ∧ m.2.value = .ok e.2 by
      obtain ⟨d, hwrites, hvalue⟩ := exists_document_value (hr e he)
      exact ⟨(e.1, d), rfl, hwrites, hvalue⟩)
  have hwrites : List.Forall₂ (fun m d => m.1 = d.1 ∧ Json.Writes m.2 d.2)
      (r.entries.map fun e => (e.1, e.2.toJson)) members := by
    rw [List.forall₂_map_left_iff]
    exact hmembers.imp fun e m h => ⟨h.1, h.2.1⟩
  have hcolumns : members.mapM Json.Document.column = .ok r.entries := by
    rw [mapM_eq_ok_iff]
    refine (hmembers.imp fun e m h => ?_).flip
    show Json.Document.column m = .ok e
    unfold Json.Document.column
    rw [h.2.2, ← h.1]
    rfl
  refine ⟨_, .object hwrites, ?_⟩
  -- A row that could have a name twice would be refused here.
  unfold Json.Document.row
  dsimp only
  rw [hcolumns, ok_bind_eq, dif_pos r.nodup]
  rfl

theorem exists_document_rows {rows : List Row} (hrows : ∀ r ∈ rows, r.FloatFree) :
    ∃ d, Json.Writes (.array (rows.map Row.toJson)) d ∧ d.rows = .ok rows := by
  obtain ⟨items, hitems⟩ := exists_forall₂_iff.2 fun r hr => exists_document_row (hrows r hr)
  have hwrites : List.Forall₂ Json.Writes (rows.map Row.toJson) items := by
    rw [List.forall₂_map_left_iff]
    exact hitems.imp fun r d h => h.1
  refine ⟨_, .array hwrites, ?_⟩
  show items.mapM Json.Document.row = .ok rows
  rw [mapM_eq_ok_iff]
  exact (hitems.imp fun r d h => h.2).flip

/-! ## Output -/

/-- Each format prints the document, and the text is read as it. -/
theorem Json.Writes.render {j : Json} {d : Json.Document} (h : Json.Writes j d)
    (format : JsonFormat) :
    d.IsText (format.render j) ∧ Json.parse (format.render j) = .ok d := by
  have htext : d.IsText (format.render j) := by
    cases format with
    | compact => exact h.isText Json.Layout.blank_compact
    | pretty => exact h.isText Json.Layout.blank_pretty
  exact ⟨htext, Json.parse_isText htext⟩

namespace Database

variable (o : Database) (h : History) (q : Query) (format : JsonFormat)

/-- The JSON that a builder with a query answers behind earlier calls. -/
def toJson : Except Error String := (Attempt.behind (Builder.toJson ⟨o.executor, q⟩ format) h).1

def firstToJson : Except Error String :=
  (Attempt.behind (Builder.firstToJson ⟨o.executor, q⟩ format) h).1

theorem toJson_eq : o.toJson h q format =
    (o.get h q).map fun rows => format.render (.array (rows.map Row.toJson)) := by
  unfold toJson get Builder.toJson
  rw [behind_bind]
  obtain ⟨rows | e, h'⟩ := Attempt.behind (Builder.get ⟨o.executor, q⟩) h <;> rfl

theorem firstToJson_eq : o.firstToJson h q format =
    (o.first h q).map fun row => row.elim "\x7b\x7d" fun r => format.render r.toJson := by
  unfold firstToJson first Builder.firstToJson
  rw [behind_bind]
  obtain ⟨row | e, h'⟩ := Attempt.behind (Builder.first ⟨o.executor, q⟩) h <;> rfl

end Database

/-- **JSON output loses nothing.** For all rows without floats there is one document that stands for
exactly these rows in this order, and in both formats the text of `toJson`, whatever the query that
has the rows, is JSON and says this document. The same holds of a first row and `firstToJson`. -/
theorem json_output_lossless :
    (∀ rows : List Row, (∀ r ∈ rows, r.FloatFree) →
      ∃ d : Json.Document, d.rows = .ok rows ∧ ∀ format, ∃ text,
        d.IsText text ∧ Json.parse text = .ok d ∧
        ∀ (o : Database) h q, o.get h q = .ok rows → o.toJson h q format = .ok text) ∧
    ∀ r : Row, r.FloatFree →
      ∃ d : Json.Document, d.row = .ok r ∧ ∀ format, ∃ text,
        d.IsText text ∧ Json.parse text = .ok d ∧
        ∀ (o : Database) h q, o.first h q = .ok (some r) → o.firstToJson h q format = .ok text := by
  constructor
  · intro rows hrows
    obtain ⟨d, hwrites, hread⟩ := exists_document_rows hrows
    refine ⟨d, hread, fun format => ?_⟩
    obtain ⟨htext, hparse⟩ := hwrites.render format
    refine ⟨_, htext, hparse, fun o h q hget => ?_⟩
    rw [o.toJson_eq, hget]
    rfl
  · intro r hr
    obtain ⟨d, hwrites, hread⟩ := exists_document_row hr
    refine ⟨d, hread, fun format => ?_⟩
    obtain ⟨htext, hparse⟩ := hwrites.render format
    refine ⟨_, htext, hparse, fun o h q hfirst => ?_⟩
    rw [o.firstToJson_eq, hfirst]
    rfl

/-- Names and values at the edges: nothing, escapes, characters above the first plane, the ends of
the integers, and numbers, words and arrays as text. -/
def edgeRow : Row := .ofList [("", .null), ("\x00\x1f\x7f\"\\/", .text "\n\t\x08\x0c 😀"),
  ("[1]", .text "null"), ("least", .int (-9223372036854775808)),
  ("most", .int 9223372036854775807), ("no bytes", .blob []), ("bytes", .blob [0, 255]),
  ("true", .bool false)]

theorem floatFree_edgeRow : edgeRow.FloatFree := by
  intro e he
  have hall : ∀ v ∈ edgeRow.values, v.FloatFree := by
    simp [edgeRow, Row.values, Row.ofList, Row.insert, upsert, Row.empty, Value.FloatFree]
  exact hall e.2 (List.mem_map_of_mem he)

/-- A table with such a row and a row without columns. -/
theorem edge_rows_lossless :
    let o := Database.ofRows MySql.dialect fun _ _ => [edgeRow, .empty]
    (∃ d : Json.Document, d.rows = .ok [edgeRow, .empty] ∧ ∀ format, ∃ text,
      o.toJson [] (.on "edges") format = .ok text ∧ d.IsText text ∧ Json.parse text = .ok d) ∧
    ∃ d : Json.Document, d.row = .ok edgeRow ∧ ∀ format, ∃ text,
      o.firstToJson [] (.on "edges") format = .ok text ∧ d.IsText text ∧
        Json.parse text = .ok d := by
  intro o
  have hrows : ∀ r ∈ [edgeRow, .empty], r.FloatFree := by
    intro r hr
    rcases List.mem_cons.1 hr with rfl | hr
    · exact floatFree_edgeRow
    · obtain rfl := List.mem_singleton.1 hr
      exact nofun
  have hget : o.get [] (.on "edges") = .ok [edgeRow, .empty] := rfl
  have hfirst : o.first [] (.on "edges") = .ok (some edgeRow) := rfl
  obtain ⟨d, hread, hprints⟩ := json_output_lossless.1 [edgeRow, .empty] hrows
  obtain ⟨d₁, hread₁, hprints₁⟩ := json_output_lossless.2 edgeRow floatFree_edgeRow
  refine ⟨⟨d, hread, fun format => ?_⟩, d₁, hread₁, fun format => ?_⟩
  · obtain ⟨text, htext, hparse, hanswer⟩ := hprints format
    exact ⟨text, hanswer o [] (.on "edges") hget, htext, hparse⟩
  · obtain ⟨text, htext, hparse, hanswer⟩ := hprints₁ format
    exact ⟨text, hanswer o [] (.on "edges") hfirst, htext, hparse⟩

end SqlCompose
