import SqlCompose.Builder
import SqlCompose.Config
import SqlCompose.Schema

/-!
# Connection managers

A manager holds a configuration and at most one open connection. Connecting checks the name, the
driver and the maintenance mode before the connector is asked; a manager changes only when a
connection is opened or closed.
-/

namespace SqlCompose

/-- Opens databases: from the settings of a connection and its data source name. -/
abbrev Connector (m : Type → Type) := ConnectionConfig → String → Attempt m (Executor m)

/-- A configuration and the open connection, with its name. -/
structure Manager (m : Type → Type) where
  config : DatabaseConfig
  connection : Option (String × Executor m) := none

namespace Manager

variable {m : Type → Type}

def connectionName (g : Manager m) : Option String := g.connection.map Prod.fst

def isConnected (g : Manager m) : Bool := g.connection.isSome

/-- What is needed to open a connection: its settings and its driver. -/
def target (g : Manager m) (name : String) : Except Error (ConnectionConfig × Driver) := do
  let c ← g.config.connection name
  let driver ← c.parseDriver
  if c.maintenanceMode then throw (.maintenanceMode name)
  return (c, driver)

def inspect (g : Manager m) : String :=
  Inspect.record "DatabaseManager"
    [("default", Text.inspect g.config.default),
      ("connected", Inspect.option (g.connectionName.map Text.inspect))]

def executor (g : Manager m) : Except Error (Executor m) :=
  match g.connection with
  | some (_, e) => .ok e
  | none => .error .connectionUnavailable

/-- A builder for a table of the open database. -/
def table (g : Manager m) (name : String) : Except Error (Builder m) :=
  g.executor.map (Builder.on · name)

def schema (g : Manager m) : Except Error (Schema m) := g.executor.map Schema.mk

/-! ## Connecting -/

/-- Whether there was an open connection, and the manager without it. -/
def disconnect (g : Manager m) : Bool × Manager m :=
  (g.isConnected, { g with connection := none })

variable [Monad m]

/-- The manager with the named connection open. A manager with an open connection keeps it, whatever
the name. -/
def connectNamed (g : Manager m) (connector : Connector m) (name : String) :
    Attempt m (Manager m) := do
  if g.isConnected then return g
  let (c, driver) ← ExceptT.mk (pure (g.target name))
  let executor ← connector c (driver.dsn c)
  return { g with connection := some (name, executor) }

/-- The manager with the default connection open. -/
def connect (g : Manager m) (connector : Connector m) : Attempt m (Manager m) :=
  g.connectNamed connector g.config.default

/-! ## Statements -/

/-- The rows of a query in SQL. -/
def query (g : Manager m) (sql : String) (params : List Value) : Attempt m (List Row) := do
  let e ← ExceptT.mk (pure g.executor)
  e.fetch sql params

/-- Runs a statement in SQL. -/
def execute (g : Manager m) (sql : String) (params : List Value) : Attempt m Bool := do
  let e ← ExceptT.mk (pure g.executor)
  e.execute sql params

end Manager

end SqlCompose
