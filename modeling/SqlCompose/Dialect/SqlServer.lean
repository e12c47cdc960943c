import SqlCompose.Dialect

/-!
# The SQL Server dialect

SQL Server has no unsigned integers, no enumerations, no LIMIT and no column positions. Types and
windows are expressed by other means; what cannot be expressed is an error.
-/

namespace SqlCompose.SqlServer

def name : String := "sqlsrv"

/-- OFFSET and FETCH need an ORDER BY, which is added if the SELECT has none. -/
def pagination (limit offset : Option UInt64) (ordered : Bool) : String :=
  if limit.isNone && offset.isNone then ""
  else
    (if ordered then "" else " ORDER BY (SELECT NULL)") ++
      " OFFSET " ++ toString (offset.getD 0) ++ " ROWS" ++
      limit.elim "" fun n => " FETCH NEXT " ++ toString n ++ " ROWS ONLY"

/-- The type that holds the values of the named type. -/
def typeDefinition (c : Column) : Except CompileError String :=
  let p := c.parameters
  match c.type with
  | .bigInt => .ok "BIGINT"
  | .int => .ok "INT"
  | .tinyInt => .ok "TINYINT"
  | .varchar => .ok ("NVARCHAR(" ++ toString (p.length.getD 255) ++ ")")
  | .text | .json => .ok "NVARCHAR(MAX)"
  | .date => .ok "DATE"
  | .dateTime | .timestamp => .ok "DATETIME2"
  | .decimal =>
    match p.total, p.places with
    | some total, some places =>
      .ok ("DECIMAL(" ++ toString total ++ "," ++ toString places ++ ")")
    | _, _ => .ok "DECIMAL"
  | .float => .ok "REAL"
  | .double => .ok "FLOAT"
  | .enum => do
    let values ← Dialect.enumValues Text.quoteDoubled c
    return "NVARCHAR(255) CHECK (" ++ c.name ++ " IN (" ++ values ++ "))"

/-- An index has no drop inside the alteration of a table. -/
def tableCommand : TableCommand → Except CompileError String
  | .dropColumn column => .ok ("DROP COLUMN " ++ column)
  | .dropForeign key => .ok ("DROP CONSTRAINT " ++ key)
  | .dropIndex _ => .error (.unsupported name .dropIndexInAlter)

def dialect : Dialect where
  name
  pagination
  typeDefinition
  autoIncrementKeyword := "IDENTITY(1,1)"
  addColumnKeyword := "ADD"
  supportsColumnPositioning := false
  tableCommand
  renameTable source target :=
    "EXEC sp_rename " ++ Text.quoteDoubled source ++ ", " ++ Text.quoteDoubled target
  hasTable table :=
    [.text "SELECT TABLE_NAME FROM INFORMATION_SCHEMA.TABLES WHERE TABLE_NAME = ",
      .bind (.text table)]
  hasColumn table column :=
    [.text "SELECT COLUMN_NAME FROM INFORMATION_SCHEMA.COLUMNS WHERE TABLE_NAME = ",
      .bind (.text table), .text " AND COLUMN_NAME = ", .bind (.text column)]

end SqlCompose.SqlServer
