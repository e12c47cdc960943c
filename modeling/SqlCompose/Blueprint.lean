import SqlCompose.Column.Definition

/-!
# Blueprints

A blueprint gathers the columns and drop commands of one table and compiles to a single CREATE TABLE
or ALTER TABLE statement. Which of the two is fixed from the start. `Blueprint.Call` is a building
call as data.
-/

namespace SqlCompose

/-- What a blueprint does to its table. -/
inductive Blueprint.Mode
  | create
  | alter
  deriving DecidableEq, Repr

/-- The columns and commands of one table, in the order of their calls. -/
structure Blueprint where
  mode : Blueprint.Mode
  table : String
  columns : List Column := []
  commands : List TableCommand := []
  deriving BEq

namespace Blueprint

/-! ## Column factories -/

/-- The columns with ready parameters. -/
inductive Factory
  /-- An unsigned number that counts up and is the primary key. -/
  | id
  | uuid
  | string (length : UInt32)
  | stringDefault
  | text
  | integer
  | bigInteger
  | boolean
  | date
  | dateTime
  | timestamp
  | decimal (total places : UInt8)
  | float
  | double
  | enumeration (allowed : List String)
  | json
  /-- An unsigned number that refers to the `id` of another table. -/
  | foreignId
  deriving DecidableEq, Repr

def Factory.column (name : String) : Factory → Column
  | id =>
    { type := .bigInt, name, parameters := { unsigned := true }, autoIncrement := true,
      primary := true }
  | uuid => { type := .varchar, name, parameters := { length := some 36 } }
  | string length => { type := .varchar, name, parameters := { length := some length } }
  | stringDefault => { type := .varchar, name, parameters := { length := some 255 } }
  | text => { type := .text, name }
  | integer => { type := .int, name }
  | bigInteger => { type := .bigInt, name }
  | boolean => { type := .tinyInt, name, parameters := { length := some 1 } }
  | date => { type := .date, name }
  | dateTime => { type := .dateTime, name }
  | timestamp => { type := .timestamp, name }
  | decimal total places =>
    { type := .decimal, name, parameters := { total := some total, places := some places } }
  | float => { type := .float, name }
  | double => { type := .double, name }
  | enumeration allowed => { type := .enum, name, parameters := { allowed } }
  | json => { type := .json, name }
  | foreignId => { type := .bigInt, name, parameters := { unsigned := true } }

def nullableTimestamp (name : String) : Column :=
  { Factory.timestamp.column name with nullable := true }

/-! ## Building calls -/

inductive Call
  /-- A column of a factory with its modifiers. -/
  | column (factory : Factory) (name : String) (modifiers : List Column.Modifier)
  /-- The times of creation and of the last change. -/
  | timestamps
  /-- The time of a deletion that keeps the row. -/
  | softDeletes
  | drop (command : TableCommand)
  deriving BEq

def Call.columns : Call → List Column
  | column factory name modifiers => [(factory.column name).modifyAll modifiers]
  | timestamps => [nullableTimestamp "created_at", nullableTimestamp "updated_at"]
  | softDeletes => [nullableTimestamp "deleted_at"]
  | drop _ => []

def Call.commands : Call → List TableCommand
  | drop command => [command]
  | _ => []

def call (b : Blueprint) (c : Call) : Blueprint :=
  { b with columns := b.columns ++ c.columns, commands := b.commands ++ c.commands }

def calls (b : Blueprint) (cs : List Call) : Blueprint := cs.foldl call b

/-! ## Compilation -/

/-- One part of a statement on a line of its own. -/
def indent (part : String) : String := "  " ++ part

/-- The parts with a comma and a line break between neighbours. -/
def lines (parts : List String) : String := ",\n".intercalate (parts.map indent)

/-- The statement that creates the table. Drop commands have no place in it. -/
def createSql (b : Blueprint) (d : Dialect) : Except CompileError String := do
  if !b.commands.isEmpty then throw (.commandsOutsideAlter b.table)
  if b.columns.isEmpty then throw (.emptyBlueprint b.table)
  let definitions ← b.columns.mapM (Column.definition · d)
  return "CREATE TABLE " ++ b.table ++ " (\n" ++ lines definitions ++ "\n)" ++ d.tableOptions

/-- The statement that alters the table: its new columns, then its drops. -/
def alterSql (b : Blueprint) (d : Dialect) : Except CompileError String := do
  if b.columns.isEmpty && b.commands.isEmpty then throw (.emptyBlueprint b.table)
  let definitions ← b.columns.mapM (Column.definition · d)
  let drops ← b.commands.mapM d.tableCommand
  let adds := definitions.map fun definition => d.addColumnKeyword ++ " " ++ definition
  return "ALTER TABLE " ++ b.table ++ "\n" ++ lines (adds ++ drops)

def sql (b : Blueprint) (d : Dialect) : Except CompileError String :=
  match b.mode with
  | .create => b.createSql d
  | .alter => b.alterSql d

end Blueprint

end SqlCompose
