import SqlCompose.Dialect

/-!
# The MySQL dialect

MySQL and MariaDB: backslash escapes in literals, `LIMIT` before every `OFFSET`, table options at
the end of a definition and `SHOW` for the catalog.
-/

namespace SqlCompose.MySql

structure TableOptions where
  engine : String := "InnoDB"
  charset : String := "utf8mb4"
  collation : String := "utf8mb4_unicode_ci"
  deriving DecidableEq, Repr

namespace TableOptions

/-- The options as the end of a table definition. -/
def sql (o : TableOptions) : String :=
  " ENGINE=" ++ o.engine ++ " DEFAULT CHARSET=" ++ o.charset ++ " COLLATE=" ++ o.collation

end TableOptions

/-- The server admits OFFSET only after LIMIT, so an offset alone comes with the largest row count
that the server allows. -/
def pagination (limit offset : Option UInt64) (_ordered : Bool) : String :=
  match limit, offset with
  | some n, some m => " LIMIT " ++ toString n ++ " OFFSET " ++ toString m
  | some n, none => " LIMIT " ++ toString n
  | none, some m => " LIMIT 18446744073709551615 OFFSET " ++ toString m
  | none, none => ""

/-- The name of the type in upper case and then, each only if it is given: the length, total and
places, the values of an enumeration, UNSIGNED. -/
def typeDefinition (c : Column) : Except CompileError String := do
  let p := c.parameters
  let length := p.length.elim "" fun n => "(" ++ toString n ++ ")"
  let digits :=
    match p.total, p.places with
    | some total, some places => "(" ++ toString total ++ "," ++ toString places ++ ")"
    | _, _ => ""
  let values ←
    if c.type = .enum then do
      let values ← Dialect.enumValues Text.quoteBackslashed c
      pure ("(" ++ values ++ ")")
    else pure ""
  let unsigned := if p.unsigned then " UNSIGNED" else ""
  let name := String.ofList (c.type.name.toList.map Char.toUpper)
  return name ++ length ++ digits ++ values ++ unsigned

def tableCommand : TableCommand → Except CompileError String
  | .dropColumn name => .ok ("DROP COLUMN " ++ name)
  | .dropForeign name => .ok ("DROP FOREIGN KEY " ++ name)
  | .dropIndex name => .ok ("DROP INDEX " ++ name)

/-- The dialect of MySQL with the given options for new tables. -/
def dialect (options : TableOptions := {}) : Dialect where
  name := "mysql"
  pagination
  quote := Text.quoteBackslashed
  typeDefinition
  autoIncrementKeyword := "AUTO_INCREMENT"
  tableOptions := options.sql
  tableCommand
  renameTable source target := "RENAME TABLE " ++ source ++ " TO " ++ target
  hasTable table := [.text "SHOW TABLES LIKE ", .bind (.text table)]
  hasColumn table column :=
    [.text ("SHOW COLUMNS FROM " ++ table ++ " LIKE "), .bind (.text column)]

end SqlCompose.MySql
