import SqlCompose.Dialect
import SqlCompose.Error
import SqlCompose.Row

/-!
# Executors

The library reaches a database only through an `Executor`, which prepares statements in some monad
`m`. `Executor.execute` and `Executor.fetch` are all the traffic there is: one statement is prepared
and executed once, and rows are fetched once and only after a success.
-/

namespace SqlCompose

/-- A computation that may end in an error. -/
abbrev Attempt (m : Type → Type) (α : Type) := ExceptT Error m α

/-- A prepared statement. -/
structure PreparedStatement (m : Type → Type) where
  /-- Runs the statement with values for its placeholders; says whether it succeeded. -/
  execute : List Value → Attempt m Bool
  /-- The rows of the last run. -/
  fetchAll : Attempt m (List Row)

/-- An open database. -/
structure Executor (m : Type → Type) where
  /-- The dialect in which the database takes its statements. -/
  dialect : Dialect
  prepare : String → Attempt m (PreparedStatement m)

namespace Executor

variable {m : Type → Type} [Monad m]

def execute (e : Executor m) (sql : String) (params : List Value) : Attempt m Bool := do
  let statement ← e.prepare sql
  statement.execute params

/-- Prepares and runs a query and fetches its rows. A run without success is an error. -/
def fetch (e : Executor m) (sql : String) (params : List Value) : Attempt m (List Row) := do
  let statement ← e.prepare sql
  if ← statement.execute params then statement.fetchAll
  else throw (.unexpectedResult (.notExecuted sql))

end Executor

/-- A compiled result as part of a computation. -/
def compiled {m : Type → Type} [Monad m] {α : Type} (r : Except CompileError α) : Attempt m α :=
  ExceptT.mk (pure (r.mapError Error.compile))

end SqlCompose
