import SqlCompose.Column
import SqlCompose.CompileError
import SqlCompose.Decimal.Layout
import SqlCompose.Statement
import SqlCompose.Text.Literal

/-!
# Dialects

What differs between database servers, as one record: type names, literals, pagination, table
options, commands and the queries of the catalog. Fields with a default hold for a server that says
nothing else. The dialects of the library are in `Dialect.MySql` and `Dialect.SqlServer`.
-/

namespace SqlCompose

namespace Dialect

/-- Numbers in SQL text are positional, carry no mark on whole numbers and take the greater one of
two equally near decimals. -/
def floatLayout : Decimal.Layout where
  tie := .up
  positional _ := true
  wholeMark := ""
  exponentPlus := ""
  notANumber := "NaN"
  infinity := "inf"
  negativeInfinity := "-inf"

example :
    floatLayout.write 1e16 = "10000000000000000" ∧ floatLayout.write 1.5e-6 = "0.0000015" := by
  decide +kernel

end Dialect

/-- The literal of a default, given how texts are quoted. -/
def plainDefault (quote : String → String) : DefaultValue → String
  | .null => "NULL"
  | .bool b => if b then "1" else "0"
  | .int n => toString n.toInt
  | .float x => Dialect.floatLayout.write x
  | .text s => quote s

/-- The window of a SELECT as two clauses, each present only if it is set. -/
def plainPagination (limit offset : Option UInt64) (_ordered : Bool) : String :=
  limit.elim "" (fun n => " LIMIT " ++ toString n) ++
    offset.elim "" (fun m => " OFFSET " ++ toString m)

/-- What differs between database servers. -/
structure Dialect where
  name : String
  /-- The tail of a SELECT for a limit and an offset, with the space before it; the flag says
  whether the SELECT has an ORDER BY. -/
  pagination : Option UInt64 → Option UInt64 → Bool → String := plainPagination
  quote : String → String := Text.quoteDoubled
  renderDefault : DefaultValue → String := plainDefault quote
  typeDefinition : Column → Except CompileError String
  autoIncrementKeyword : String
  /-- The keyword before a column that is added to a table. -/
  addColumnKeyword : String := "ADD COLUMN"
  /-- An added column can be placed behind another. -/
  supportsColumnPositioning : Bool := true
  /-- The end of a table definition, with the space before it. -/
  tableOptions : String := ""
  /-- A drop command in the alteration of a table. -/
  tableCommand : TableCommand → Except CompileError String
  /-- The statement that drops a table if there is one. -/
  dropTableIfExists : String → String := ("DROP TABLE IF EXISTS " ++ ·)
  renameTable : String → String → String
  /-- A query with a row if the table exists. -/
  hasTable : String → Statement
  /-- A query with a row if the table has the column. -/
  hasColumn : String → String → Statement

namespace Dialect

/-- The values of an enumeration as literals with commas between them; an enumeration needs one. -/
def enumValues (quote : String → String) (c : Column) : Except CompileError String :=
  if c.parameters.allowed.isEmpty then .error (.emptyEnum c.name)
  else .ok (",".intercalate (c.parameters.allowed.map quote))

theorem enumValues_eq_ok_iff {quote : String → String} {c : Column} {t : String} :
    enumValues quote c = .ok t ↔
      c.parameters.allowed ≠ [] ∧ t = ",".intercalate (c.parameters.allowed.map quote) := by
  unfold enumValues
  cases c.parameters.allowed with
  | nil => simp
  | cons s ss => simp [eq_comm]

end Dialect

end SqlCompose
