import SqlCompose.Dialect

/-!
# Column definitions

The definition of a column is a list of parts in a fixed order: name, type, nullability, default,
auto-increment, UNIQUE, PRIMARY KEY, position, relation. `Column.parts` gives the parts that a
column has or the first reason why it has no definition; `Column.definition` writes them with one
space between neighbours.
-/

namespace SqlCompose.Column

/-- A part of a column definition. -/
inductive Part
  | name (column : String)
  | type (definition : String)
  | nullability (nullable : Bool)
  | default (value : DefaultValue)
  | autoIncrement
  | unique
  | primaryKey
  | after (column : String)
  /-- The relation of `source` to a column of a table. -/
  | reference (source table column : String) (onDelete onUpdate : Option ReferentialAction)
  deriving BEq

def Part.sql (d : Dialect) : Part → String
  | name column => column
  | type definition => definition
  | nullability nullable => if nullable then "NULL" else "NOT NULL"
  | default value => "DEFAULT " ++ d.renderDefault value
  | autoIncrement => d.autoIncrementKeyword
  | unique => "UNIQUE"
  | primaryKey => "PRIMARY KEY"
  | after column => "AFTER " ++ column
  | reference source table column onDelete onUpdate =>
    "FOREIGN KEY (" ++ source ++ ") REFERENCES " ++ table ++ "(" ++ column ++ ")" ++
      onDelete.elim "" (fun a => " ON DELETE " ++ a.sql) ++
      onUpdate.elim "" (fun a => " ON UPDATE " ++ a.sql)

/-- The position of the column, if it has one and the dialect has positions. -/
def positionPart (c : Column) (d : Dialect) : Except CompileError (List Part) :=
  match c.after with
  | none => .ok []
  | some column =>
    if d.supportsColumnPositioning then .ok [.after column]
    else .error (.unsupported d.name .columnPosition)

/-- The relation of the column, if it has one; it must be complete. -/
def referencePart (c : Column) : Except CompileError (List Part) :=
  match c.foreignKey with
  | none => .ok []
  | some k =>
    match k.table, k.column with
    | some table, some column => .ok [.reference c.name table column k.onDelete k.onUpdate]
    | _, _ => .error (.incompleteForeignKey c.name)

/-- The parts of the definition, in order. -/
def parts (c : Column) (d : Dialect) : Except CompileError (List Part) := do
  if c.name.isEmpty then throw .emptyColumn
  let type ← d.typeDefinition c
  let position ← c.positionPart d
  let reference ← c.referencePart
  return [.name c.name, .type type, .nullability c.nullable] ++
    (c.default.map Part.default).toList ++
    (if c.autoIncrement then [.autoIncrement] else []) ++
    (if c.unique then [.unique] else []) ++
    (if c.primary then [.primaryKey] else []) ++
    position ++ reference

def definition (c : Column) (d : Dialect) : Except CompileError String := do
  let ps ← c.parts d
  return " ".intercalate (ps.map (Part.sql d))

end SqlCompose.Column
