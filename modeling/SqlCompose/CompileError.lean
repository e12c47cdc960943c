/-!
# Compile errors

The reasons why a query or a blueprint has no statement. They arise before anything reaches a
database; `CompileError.message` is the only place that words them.
-/

namespace SqlCompose

/-- A construct that some dialects cannot express. -/
inductive Feature
  | columnPosition
  | dropIndexInAlter
  deriving DecidableEq, Repr

def Feature.description : Feature → String
  | columnPosition => "AFTER column positioning"
  | dropIndexInAlter => "DROP INDEX inside ALTER TABLE"

/-- Why a query or a blueprint has no statement. -/
inductive CompileError
  | emptyInsert
  /-- The row at this index has no columns. -/
  | emptyInsertRow (row : Nat)
  /-- The row at this index names other columns than the first row, or in another order. -/
  | mismatchedInsertRow (row : Nat)
  | emptyUpdate
  | emptyColumn
  | invalidOperator (operator : String)
  | invalidDirection (direction : String)
  /-- A blueprint with nothing to emit. -/
  | emptyBlueprint (table : String)
  /-- Drop commands on a table that is being created. -/
  | commandsOutsideAlter (table : String)
  | emptyEnum (column : String)
  | incompleteForeignKey (column : String)
  | unsupported (dialect : String) (feature : Feature)
  deriving DecidableEq, Repr

def CompileError.message : CompileError → String
  | emptyInsert => "cannot compile an INSERT without rows"
  | emptyInsertRow row => "insert row " ++ toString row ++ " has no columns"
  | mismatchedInsertRow row =>
    "insert row " ++ toString row ++ " does not match the columns of the first row"
  | emptyUpdate => "cannot compile an UPDATE without assignments"
  | emptyColumn => "empty column name"
  | invalidOperator operator => "unsupported comparison operator '" ++ operator ++ "'"
  | invalidDirection direction => "unsupported sort direction '" ++ direction ++ "'"
  | emptyBlueprint table => "blueprint for table '" ++ table ++ "' has nothing to compile"
  | commandsOutsideAlter table =>
    "drop commands on table '" ++ table ++ "' require an ALTER blueprint"
  | emptyEnum column => "enum column '" ++ column ++ "' has no allowed values"
  | incompleteForeignKey column =>
    "foreign key on column '" ++ column ++ "' needs both a referenced table and column"
  | unsupported dialect feature => dialect ++ " does not support " ++ feature.description

end SqlCompose
