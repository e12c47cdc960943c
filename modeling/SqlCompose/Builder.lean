import SqlCompose.Executor
import SqlCompose.Query.Inspect
import SqlCompose.Query.Select
import SqlCompose.Query.Write

/-!
# Query builders

A query together with the database it is for. The fluent calls are those of the query; every other
operation compiles the query in the dialect of the database, and only if that succeeds, runs the
statement.
-/

namespace SqlCompose

/-- The layout of rows as JSON. -/
inductive JsonFormat
  | compact
  | pretty
  deriving DecidableEq, Repr

instance : Inhabited JsonFormat := ⟨.compact⟩

/-- The text of a document in a format. -/
def JsonFormat.render : JsonFormat → Json → String
  | compact, j => j.compact
  | pretty, j => j.pretty

/-- The number that the answer to a COUNT holds: the value of its column `aggregate` or, without
such a column, of its first column. -/
def readCount (rows : List Row) : Except UnexpectedResult Nat :=
  match rows with
  | [] => .error .noCountRow
  | row :: _ =>
    match (row.get? "aggregate").or row.values.head? with
    | none => .error .noCountColumn
    | some value =>
      match value.asInt? with
      | some n => if 0 ≤ n.toInt then .ok n.toInt.toNat else .error (.notACount value)
      | none => .error (.notACount value)

/-- A query and the database it is for. -/
structure Builder (m : Type → Type) where
  executor : Executor m
  query : Query

namespace Builder

variable {m : Type → Type}

def on (executor : Executor m) (table : String) : Builder m := ⟨executor, .on table⟩

def call (b : Builder m) (c : Query.Call) : Builder m := { b with query := b.query.call c }

def toSelect (b : Builder m) : Except CompileError Statement :=
  b.query.toSelect b.executor.dialect

def inspect (b : Builder m) : String :=
  Inspect.record "QueryBuilder"
    [("dialect", Text.inspect b.executor.dialect.name), ("query", b.query.inspect)]

/-! ## Running -/

variable [Monad m]

/-- Compiles a query and fetches its rows. -/
def fetch (b : Builder m) (statement : Except CompileError Statement) : Attempt m (List Row) := do
  let s ← compiled statement
  b.executor.fetch (Statement.sql s) (Statement.params s)

/-- Compiles a statement and runs it. -/
def run (b : Builder m) (statement : Except CompileError Statement) : Attempt m Bool := do
  let s ← compiled statement
  b.executor.execute (Statement.sql s) (Statement.params s)

/-! ## Reading -/

def get (b : Builder m) : Attempt m (List Row) := b.fetch b.toSelect

/-- The first row, asked for with a limit of one in place of the limit of the builder. -/
def first (b : Builder m) : Attempt m (Option Row) := do
  let rows ← b.fetch (b.call (.limit 1)).toSelect
  return rows.head?

def count (b : Builder m) : Attempt m Nat := do
  let rows ← b.fetch (b.query.toCount b.executor.dialect)
  match readCount rows with
  | .ok n => return n
  | .error r => throw (.unexpectedResult r)

/-- Whether there is a row. -/
def anyRow (b : Builder m) : Attempt m Bool := do
  let n ← b.count
  return n > 0

/-- All rows as a JSON array. -/
def toJson (b : Builder m) (format : JsonFormat) : Attempt m String := do
  let rows ← b.get
  return format.render (.array (rows.map Row.toJson))

/-- The first row as a JSON object, the empty object if there is none. -/
def firstToJson (b : Builder m) (format : JsonFormat) : Attempt m String := do
  let row ← b.first
  return row.elim "\x7b\x7d" fun r => format.render r.toJson

/-! ## Writing -/

/-- Inserts rows in one statement. -/
def insert (b : Builder m) (rows : List (List (String × Value))) : Attempt m Bool :=
  b.run (b.query.toInsert rows)

def update (b : Builder m) (values : List (String × Value)) : Attempt m Bool :=
  b.run (b.query.toUpdate values)

def delete (b : Builder m) : Attempt m Bool := b.run b.query.toDelete

end Builder

end SqlCompose
