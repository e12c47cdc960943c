import SqlCompose.Value

/-!
# Columns

A column of a table definition: its type, its name and the attributes that modifiers add one by one.
`Column.Modifier` is a modifier call as data. The definition text is in `Column.Definition`.
-/

namespace SqlCompose

inductive ColumnType
  | bigInt
  | varchar
  | text
  | int
  | tinyInt
  | date
  | dateTime
  | timestamp
  | decimal
  | float
  | double
  | enum
  | json
  deriving DecidableEq, Repr

namespace ColumnType

/-- The name of a type, in lower case. -/
def name : ColumnType → String
  | bigInt => "bigint"
  | varchar => "varchar"
  | text => "text"
  | int => "int"
  | tinyInt => "tinyint"
  | date => "date"
  | dateTime => "datetime"
  | timestamp => "timestamp"
  | decimal => "decimal"
  | float => "float"
  | double => "double"
  | enum => "enum"
  | json => "json"

def all : List ColumnType :=
  [bigInt, varchar, text, int, tinyInt, date, dateTime, timestamp, decimal, float, double, enum,
    json]

end ColumnType

/-- What a type takes besides its name. -/
structure ColumnParameters where
  length : Option UInt32 := none
  /-- The digits of a decimal. -/
  total : Option UInt8 := none
  /-- The digits of a decimal after the point. -/
  places : Option UInt8 := none
  /-- The values of an enumeration. -/
  allowed : List String := []
  unsigned : Bool := false
  deriving DecidableEq, Repr

/-- What happens to a row whose referenced row changes. -/
inductive ReferentialAction
  | noAction
  | restrict
  | cascade
  | setNull
  | setDefault
  deriving DecidableEq, Repr

def ReferentialAction.sql : ReferentialAction → String
  | noAction => "NO ACTION"
  | restrict => "RESTRICT"
  | cascade => "CASCADE"
  | setNull => "SET NULL"
  | setDefault => "SET DEFAULT"

/-- The one relation that a column may carry. It is complete when it has a table and a column. -/
structure ForeignKey where
  column : Option String := none
  table : Option String := none
  onDelete : Option ReferentialAction := none
  onUpdate : Option ReferentialAction := none
  deriving DecidableEq, Repr

/-- The value of a column in a row that gives none. -/
inductive DefaultValue
  | null
  | bool (b : Bool)
  | int (n : Int64)
  | float (x : Float)
  | text (s : String)
  deriving BEq

/-- A column of a table definition. -/
structure Column where
  type : ColumnType
  name : String
  parameters : ColumnParameters := {}
  nullable : Bool := false
  unique : Bool := false
  primary : Bool := false
  autoIncrement : Bool := false
  default : Option DefaultValue := none
  after : Option String := none
  foreignKey : Option ForeignKey := none
  deriving BEq

namespace Column

inductive Modifier
  | nullable
  | unique
  | primary
  | autoIncrement
  | unsigned
  | default (value : DefaultValue)
  /-- The position behind another column. -/
  | after (column : String)
  | references (column : String)
  | on (table : String)
  | onDelete (action : ReferentialAction)
  | onUpdate (action : ReferentialAction)
  deriving BEq

/-- Changes the relation of a column, which starts out empty. -/
def relate (c : Column) (change : ForeignKey → ForeignKey) : Column :=
  { c with foreignKey := some (change (c.foreignKey.getD {})) }

/-- The column after one modifier. A flag stays set; of other modifiers the last one counts. -/
def modify (c : Column) : Modifier → Column
  | .nullable => { c with nullable := true }
  | .unique => { c with unique := true }
  | .primary => { c with primary := true }
  | .autoIncrement => { c with autoIncrement := true }
  | .unsigned => { c with parameters := { c.parameters with unsigned := true } }
  | .default value => { c with default := some value }
  | .after column => { c with after := some column }
  | .references column => c.relate fun k => { k with column := some column }
  | .on table => c.relate fun k => { k with table := some table }
  | .onDelete action => c.relate fun k => { k with onDelete := some action }
  | .onUpdate action => c.relate fun k => { k with onUpdate := some action }

def modifyAll (c : Column) (ms : List Modifier) : Column := ms.foldl modify c

end Column

/-- A drop queued on a table. -/
inductive TableCommand
  | dropColumn (name : String)
  | dropForeign (name : String)
  | dropIndex (name : String)
  deriving DecidableEq, Repr

end SqlCompose
