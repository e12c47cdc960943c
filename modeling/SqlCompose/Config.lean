import SqlCompose.Dialect.MySql
import SqlCompose.Dialect.SqlServer
import SqlCompose.Error
import SqlCompose.Json

/-!
# Configuration

The settings of named connections and the name of the default one. A connection names its driver as
text; that the driver is supported matters only when the connection is used.
-/

namespace SqlCompose

structure ConnectionConfig where
  driver : String
  host : String := "localhost"
  port : Option UInt16 := none
  database : String := ""
  username : Option String := none
  password : Option String := none
  charset : Option String := none
  collation : Option String := none
  /-- Connecting is refused. -/
  maintenanceMode : Bool := false
  deriving DecidableEq, Repr

/-! ## Drivers -/

inductive Driver
  | mySql
  | sqlServer
  deriving DecidableEq, Repr

namespace Driver

/-- The name of a driver in a configuration. -/
def name : Driver → String
  | mySql => "mysql"
  | sqlServer => "sqlsrv"

def parse (name : String) : Except Error Driver :=
  if name = mySql.name then .ok mySql
  else if name = sqlServer.name then .ok sqlServer
  else .error (.unsupportedDriver name)

/-- The options of tables created over a connection. -/
def tableOptions (c : ConnectionConfig) : MySql.TableOptions :=
  let default : MySql.TableOptions := {}
  { charset := c.charset.getD default.charset, collation := c.collation.getD default.collation }

/-- The data source name of a connection; a port that is not set is left out. -/
def dsn (c : ConnectionConfig) : Driver → String
  | mySql =>
    "mysql:host=" ++ c.host ++ c.port.elim "" (fun p => ";port=" ++ toString p) ++
      ";dbname=" ++ c.database ++ ";charset=" ++ (tableOptions c).charset
  | sqlServer =>
    "sqlsrv:Server=" ++ c.host ++ c.port.elim "" (fun p => "," ++ toString p) ++
      ";Database=" ++ c.database

/-- The dialect of statements sent over a connection. -/
def dialect (c : ConnectionConfig) : Driver → Dialect
  | mySql => MySql.dialect (tableOptions c)
  | sqlServer => SqlServer.dialect

end Driver

/-! ## Connections -/

namespace ConnectionConfig

inductive Setting
  | host (s : String)
  | port (n : UInt16)
  | credentials (username password : String)
  | charset (s : String)
  | collation (s : String)
  | maintenanceMode (b : Bool)
  deriving DecidableEq, Repr

def set (c : ConnectionConfig) : Setting → ConnectionConfig
  | .host s => { c with host := s }
  | .port n => { c with port := some n }
  | .credentials username password =>
    { c with username := some username, password := some password }
  | .charset s => { c with charset := some s }
  | .collation s => { c with collation := some s }
  | .maintenanceMode b => { c with maintenanceMode := b }

/-- The driver that the settings name. -/
def parseDriver (c : ConnectionConfig) : Except Error Driver := Driver.parse c.driver

/-- The data source name of the connection. -/
def dsn (c : ConnectionConfig) : Except Error String := do
  let driver ← c.parseDriver
  return driver.dsn c

theorem dsn_of_parse {c : ConnectionConfig} {driver : Driver} (h : c.parseDriver = .ok driver) :
    c.dsn = .ok (driver.dsn c) := by
  unfold dsn
  rw [h]
  rfl

/-- The settings as a JSON object; settings that are missing are null. -/
def toJson (c : ConnectionConfig) : Json :=
  let text := fun (s : Option String) => s.elim Json.null Json.text
  .object [
    ("driver", .text c.driver),
    ("host", .text c.host),
    ("port", c.port.elim .null fun p => .integer p.toNat),
    ("database", .text c.database),
    ("username", text c.username),
    ("password", text c.password),
    ("charset", text c.charset),
    ("collation", text c.collation),
    ("maintenance_mode", .bool c.maintenanceMode)]

end ConnectionConfig

/-- Sets the connection of a name in a list that is sorted by names. -/
def insertSorted (name : String) (c : ConnectionConfig) :
    List (String × ConnectionConfig) → List (String × ConnectionConfig)
  | [] => [(name, c)]
  | (other, d) :: rest =>
    if name < other then (name, c) :: (other, d) :: rest
    else if name = other then (name, c) :: rest
    else (other, d) :: insertSorted name c rest

theorem mem_map_fst_insertSorted {name x : String} {c : ConnectionConfig}
    {es : List (String × ConnectionConfig)} :
    x ∈ (insertSorted name c es).map Prod.fst ↔ x = name ∨ x ∈ es.map Prod.fst := by
  induction es with
  | nil => simp [insertSorted]
  | cons e es ih =>
    obtain ⟨other, d⟩ := e
    simp only [insertSorted]
    split
    · simp
    · split
      next h => simp [h]
      next => simp only [List.map_cons, List.mem_cons, ih]; grind

theorem sorted_insertSorted {name : String} {c : ConnectionConfig}
    {es : List (String × ConnectionConfig)} (h : (es.map Prod.fst).Pairwise (· < ·)) :
    ((insertSorted name c es).map Prod.fst).Pairwise (· < ·) := by
  induction es with
  | nil => simp [insertSorted]
  | cons e es ih =>
    obtain ⟨other, d⟩ := e
    simp only [List.map_cons, List.pairwise_cons] at h
    simp only [insertSorted]
    split
    next hlt =>
      simp only [List.map_cons, List.pairwise_cons, List.mem_cons]
      exact ⟨fun x hx => hx.elim (fun e => e ▸ hlt) fun hm => String.lt_trans hlt (h.1 x hm), h⟩
    · split
      next heq =>
        subst heq
        simpa using h
      next hlt hne =>
        simp only [List.map_cons, List.pairwise_cons]
        refine ⟨fun x hx => ?_, ih h.2⟩
        rcases mem_map_fst_insertSorted.1 hx with rfl | hm
        · grind
        · exact h.1 x hm

/-- Connections by name, in the order of the names' code points, which is also the order of their
UTF-8 bytes. -/
structure Connections where
  entries : List (String × ConnectionConfig)
  sorted : (entries.map Prod.fst).Pairwise (· < ·)
  deriving DecidableEq

namespace Connections

def empty : Connections := ⟨[], List.Pairwise.nil⟩

def insert (cs : Connections) (name : String) (c : ConnectionConfig) : Connections :=
  ⟨insertSorted name c cs.entries, sorted_insertSorted cs.sorted⟩

def get? (cs : Connections) (name : String) : Option ConnectionConfig :=
  (cs.entries.find? (·.1 = name)).map Prod.snd

end Connections

/-! ## Databases -/

/-- All connections and the name of the default one. -/
structure DatabaseConfig where
  default : String
  connections : Connections := .empty
  deriving DecidableEq

namespace DatabaseConfig

/-- One connection, which is also the default. -/
def single (name : String) (c : ConnectionConfig) : DatabaseConfig where
  default := name
  connections := Connections.empty.insert name c

def connection (d : DatabaseConfig) (name : String) : Except Error ConnectionConfig :=
  match d.connections.get? name with
  | some c => .ok c
  | none => .error (.unknownConnection name)

def defaultConnection (d : DatabaseConfig) : Except Error ConnectionConfig :=
  d.connection d.default

/-- Checks that the default connection is among the connections. -/
def validate (d : DatabaseConfig) : Except Error Unit :=
  match d.connections.get? d.default with
  | some _ => .ok ()
  | none => .error (.configuration (.undefinedDefault d.default))

def toJson (d : DatabaseConfig) : Json :=
  .object [
    ("default", .text d.default),
    ("connections", .object (d.connections.entries.map fun (name, c) => (name, c.toJson)))]

end DatabaseConfig

end SqlCompose
