import SqlCompose.Blueprint
import SqlCompose.Executor

/-!
# Schemas

The tables of a database: creating, altering, dropping and renaming them and asking for them. A
blueprint is compiled in the dialect of the database before anything is sent.
-/

namespace SqlCompose

/-- The tables of a database. -/
structure Schema (m : Type → Type) where
  executor : Executor m

namespace Schema

variable {m : Type → Type}

def inspect (s : Schema m) : String :=
  Inspect.record "Schema" [("dialect", Text.inspect s.executor.dialect.name)]

/-- The statement of a blueprint that building calls fill. -/
def blueprintSql (s : Schema m) (mode : Blueprint.Mode) (table : String)
    (calls : List Blueprint.Call) : Except CompileError String :=
  (Blueprint.calls { mode, table } calls).sql s.executor.dialect

def createSql (s : Schema m) : String → List Blueprint.Call → Except CompileError String :=
  s.blueprintSql .create

def alterSql (s : Schema m) : String → List Blueprint.Call → Except CompileError String :=
  s.blueprintSql .alter

/-! ## Running -/

variable [Monad m]

/-- Runs a statement without placeholders. -/
def run (s : Schema m) (sql : String) : Attempt m Bool := s.executor.execute sql []

/-- Whether a query of the catalog has a row. -/
def hasRow (s : Schema m) (query : Statement) : Attempt m Bool := do
  let rows ← s.executor.fetch (Statement.sql query) (Statement.params query)
  return !rows.isEmpty

def create (s : Schema m) (table : String) (calls : List Blueprint.Call) : Attempt m Bool := do
  let sql ← compiled (s.createSql table calls)
  s.run sql

def alter (s : Schema m) (table : String) (calls : List Blueprint.Call) : Attempt m Bool := do
  let sql ← compiled (s.alterSql table calls)
  s.run sql

/-- Drops a table if there is one. -/
def drop (s : Schema m) (table : String) : Attempt m Bool :=
  s.run (s.executor.dialect.dropTableIfExists table)

def dropIfExists (s : Schema m) (table : String) : Attempt m Bool := s.drop table

def rename (s : Schema m) (source target : String) : Attempt m Bool :=
  s.run (s.executor.dialect.renameTable source target)

def hasTable (s : Schema m) (table : String) : Attempt m Bool :=
  s.hasRow (s.executor.dialect.hasTable table)

def hasColumn (s : Schema m) (table column : String) : Attempt m Bool :=
  s.hasRow (s.executor.dialect.hasColumn table column)

end Schema

end SqlCompose
