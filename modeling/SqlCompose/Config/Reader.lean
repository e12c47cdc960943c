import SqlCompose.Config
import SqlCompose.Json.Record

/-!
# Reading configurations

A configuration document is a record with the fields `default` and `connections`; each connection is
a record of its settings, of which only the driver is required. What a document says is checked
while it is read, so of several faults the one that comes first in the text decides.
-/

namespace SqlCompose

namespace ConnectionConfig

inductive Field
  | driver
  | host
  | port
  | database
  | username
  | password
  | charset
  | collation
  | maintenanceMode
  deriving DecidableEq, Repr

namespace Field

def all : List Field :=
  [driver, host, port, database, username, password, charset, collation, maintenanceMode]

/-- The field of a name. The maintenance mode has three names. -/
def named : String → Option Field
  | "driver" => some driver
  | "host" => some host
  | "port" => some port
  | "database" => some database
  | "username" => some username
  | "password" => some password
  | "charset" => some charset
  | "collation" => some collation
  | "maintenance_mode" => some maintenanceMode
  | "maintenanceMode" => some maintenanceMode
  | "maintanceMode" => some maintenanceMode
  | _ => none

def read : Field → ConnectionConfig → Json.Reader ConnectionConfig
  | driver, c, cs => do
    let (s, cs) ← Json.readText cs
    return ({ c with driver := s }, cs)
  | host, c, cs => do
    let (s, cs) ← Json.readText cs
    return ({ c with host := s }, cs)
  | port, c, cs => do
    let (n, cs) ← Json.readOptional (Json.readBelow UInt16.size) cs
    return ({ c with port := n.map UInt16.ofNat }, cs)
  | database, c, cs => do
    let (s, cs) ← Json.readText cs
    return ({ c with database := s }, cs)
  | username, c, cs => do
    let (s, cs) ← Json.readOptional Json.readText cs
    return ({ c with username := s }, cs)
  | password, c, cs => do
    let (s, cs) ← Json.readOptional Json.readText cs
    return ({ c with password := s }, cs)
  | charset, c, cs => do
    let (s, cs) ← Json.readOptional Json.readText cs
    return ({ c with charset := s }, cs)
  | collation, c, cs => do
    let (s, cs) ← Json.readOptional Json.readText cs
    return ({ c with collation := s }, cs)
  | maintenanceMode, c, cs => do
    let (b, cs) ← Json.readBool cs
    return ({ c with maintenanceMode := b }, cs)

end Field

def record : Json.Record Field ConnectionConfig where
  order := Field.all
  named := Field.named
  read := Field.read

def read : Json.Reader ConnectionConfig := record.parse [.driver] { driver := "" }

end ConnectionConfig

namespace DatabaseConfig

inductive Field
  | default
  | connections
  deriving DecidableEq, Repr

namespace Field

def named : String → Option Field
  | "default" => some default
  | "connections" => some connections
  | _ => none

/-- Reads a connection into the ones before it. -/
def readConnection (name : String) (connections : Connections) : Json.Reader Connections :=
  fun cs => do
    let (c, cs) ← ConnectionConfig.read cs
    return (connections.insert name c, cs)

def read : Field → DatabaseConfig → Json.Reader DatabaseConfig
  | default, d, cs => do
    let (s, cs) ← Json.readText cs
    return ({ d with default := s }, cs)
  | connections, d, cs => do
    let (entries, cs) ← Json.readMap readConnection .empty cs
    return ({ d with connections := entries }, cs)

end Field

def record : Json.Record Field DatabaseConfig where
  order := [.default, .connections]
  named := Field.named
  read := Field.read

/-- Reads a configuration document. -/
def readDocument (cs : List Char) : Except Json.Fault DatabaseConfig := do
  let (d, cs) ← record.parse [.default] { default := "" } cs
  Json.readEnd cs
  return d

/-- The configuration of a document, whose default connection must be among its connections. -/
def ofText (text : String) : Except Error DatabaseConfig := do
  let d ← (readDocument text.toList).mapError fun fault => Error.document (.json fault)
  d.validate
  return d

/-- The configuration in a file, given the bytes of the file or why there are none. -/
def ofFile (content : Except FileFault ByteArray) : Except Error DatabaseConfig :=
  match content with
  | .error fault => .error (.file fault)
  | .ok bytes =>
    match String.fromUTF8? bytes with
    | some text => ofText text
    | none => .error (.file .notUtf8)

end DatabaseConfig

end SqlCompose
