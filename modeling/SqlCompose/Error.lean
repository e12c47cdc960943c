import SqlCompose.CompileError
import SqlCompose.Json.Reader
import SqlCompose.Value.Inspect

/-!
# Errors

What can go wrong between a call and its result: a state that does not compile, a database that
cannot be reached or refuses, an answer of the wrong shape, a configuration that cannot be used.
Databases and connectors answer with errors too, and may state each of them in words of their own.
`Error.message` words them all.
-/

namespace SqlCompose

/-- An answer of a database that has the wrong shape. -/
inductive UnexpectedResult
  /-- A query that did not succeed and gave no reason. -/
  | notExecuted (sql : String)
  | noCountRow
  | noCountColumn
  /-- The value of a count that is no number of rows. -/
  | notACount (value : Value)
  | stated (description : String)

def UnexpectedResult.description : UnexpectedResult → String
  | notExecuted sql => "executor reported failure without an error for: " ++ sql
  | noCountRow => "COUNT(*) returned no row"
  | noCountColumn => "COUNT(*) returned no column"
  | notACount value => "COUNT(*) returned " ++ value.inspect
  | stated description => description

/-- A configuration that cannot be used. -/
inductive ConfigurationFault
  /-- The default connection is not among the connections. -/
  | undefinedDefault (name : String)
  | stated (description : String)
  deriving DecidableEq, Repr

def ConfigurationFault.description : ConfigurationFault → String
  | undefinedDefault name => "default connection '" ++ name ++ "' is not defined"
  | stated description => description

/-- Why a file has no text. -/
inductive FileFault
  | notFound
  | isDirectory
  | notUtf8
  | stated (description : String)
  deriving DecidableEq, Repr

def FileFault.description : FileFault → String
  | notFound => "no such file"
  | isDirectory => "is a directory"
  | notUtf8 => "not valid UTF-8"
  | stated description => description

/-- A document that cannot be read or written. -/
inductive DocumentFault
  | json (fault : Json.Fault)
  | stated (description : String)
  deriving DecidableEq, Repr

def DocumentFault.description : DocumentFault → String
  | json fault => fault.description
  | stated description => description

/-- What can go wrong between a call and its result. -/
inductive Error
  | connectionUnavailable
  | unsupportedDriver (name : String)
  | unknownConnection (name : String)
  | maintenanceMode (name : String)
  | compile (e : CompileError)
  /-- What the database says about a statement that it could not run. -/
  | execution (message : String)
  | unexpectedResult (r : UnexpectedResult)
  | configuration (fault : ConfigurationFault)
  | file (fault : FileFault)
  | document (fault : DocumentFault)

/-- The text of an error. -/
def Error.message : Error → String
  | connectionUnavailable => "Database connection not established. Call connect() first"
  | unsupportedDriver name => "Unsupported database driver: " ++ name
  | unknownConnection name => "Database connection '" ++ name ++ "' is not configured"
  | maintenanceMode name => "Database connection '" ++ name ++ "' is in maintenance mode"
  | compile e => "Compile error: " ++ e.message
  | execution message => "Execution error: " ++ message
  | unexpectedResult r => "Unexpected result: " ++ r.description
  | configuration fault => "Configuration error: " ++ fault.description
  | file fault => "IO error: " ++ fault.description
  | document fault => "Serialization error: " ++ fault.description

end SqlCompose
