import SqlCompose.Query

/-!
# INSERT, UPDATE and DELETE

An INSERT takes rows of named values, all with the columns of the first row in its order. UPDATE and
DELETE use the WHERE clause of the query and nothing else of it.
-/

namespace SqlCompose.Query

def names (row : List (String × Value)) : List String := row.map Prod.fst

/-- Checks the row at an index behind the first against the columns of the first row. -/
def checkRow (columns : List String) (index : Nat) (row : List (String × Value)) :
    Except CompileError Unit :=
  if row.isEmpty then .error (.emptyInsertRow index)
  else if names row = columns then .ok ()
  else .error (.mismatchedInsertRow index)

/-- Checks the rows behind the first, the first of which has the given index. -/
def checkRows (columns : List String) :
    Nat → List (List (String × Value)) → Except CompileError Unit
  | _, [] => .ok ()
  | index, row :: rows => do
    checkRow columns index row
    checkRows columns (index + 1) rows

/-- The group of placeholders for one row. -/
def rowGroup (row : List (String × Value)) : Statement :=
  [.text "("] ++ Statement.placeholders ", " (row.map Prod.snd) ++ [.text ")"]

def toInsert (q : Query) (rows : List (List (String × Value))) : Except CompileError Statement := do
  match rows with
  | [] => throw .emptyInsert
  | first :: rest =>
    if first.isEmpty then throw (.emptyInsertRow 0)
    let columns := names first
    columns.forM checkColumn
    checkRows columns 1 rest
    let head := "INSERT INTO " ++ q.table ++ " (" ++ ", ".intercalate columns ++ ") VALUES "
    return .text head :: Statement.joinWith ", " (rows.map rowGroup)

/-- An assignment of a value to a column. -/
def assignment (column : String) (value : Value) : Statement :=
  [.text (column ++ " = "), .bind value]

/-- An UPDATE of the matching rows. The assignments are checked before the conditions. -/
def toUpdate (q : Query) (values : List (String × Value)) : Except CompileError Statement := do
  (names values).forM checkColumn
  if values.isEmpty then throw .emptyUpdate
  let wheres ← Condition.clause "WHERE" q.wheres
  let sets := values.map fun (column, value) => assignment column value
  return .text ("UPDATE " ++ q.table ++ " SET ") :: Statement.joinWith ", " sets ++ wheres

/-- A DELETE of the matching rows; of every row if there are no conditions. -/
def toDelete (q : Query) : Except CompileError Statement := do
  let wheres ← Condition.clause "WHERE" q.wheres
  return .text ("DELETE FROM " ++ q.table) :: wheres

end SqlCompose.Query
