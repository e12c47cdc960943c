import SqlCompose.Proofs.Dialect.Pagination
import SqlCompose.Proofs.Query.Layout

/-!
# What a server answers to a SELECT

The SELECT and the COUNT of a query as a server reads them: clause by clause, and a COUNT either as
a SELECT of its own or as the number of rows of a derived table. `Server.answer` evaluates such a
reading; what a server makes of the single clauses is left open in `Server`.
-/

namespace SqlCompose

def countProjection : String := "COUNT(*) AS aggregate"

/-- The clauses of a SELECT, with the values bound in them. -/
structure Clauses where
  projection : String
  /-- The text from FROM to WHERE. -/
  source : String
  sourceValues : List Value
  groups : List String
  having : Option (String × List Value)
  orders : List String
  limit : Option UInt64
  offset : Option UInt64

namespace Clauses

def sql (c : Clauses) (d : Dialect) : String :=
  "SELECT " ++ c.projection ++ " FROM " ++ c.source ++
    (if c.groups.isEmpty then "" else " GROUP BY " ++ ", ".intercalate c.groups) ++
    c.having.elim "" (fun h => " HAVING " ++ h.1) ++
    (if c.orders.isEmpty then "" else " ORDER BY " ++ ", ".intercalate c.orders) ++
    d.pagination c.limit c.offset !c.orders.isEmpty

def params (c : Clauses) : List Value := c.sourceValues ++ c.having.elim [] Prod.snd

end Clauses

/-- A statement as a server reads it. -/
inductive Reading
  | select (c : Clauses)
  /-- The number of rows of a derived table. -/
  | countOf (c : Clauses)

namespace Reading

def sql (d : Dialect) : Reading → String
  | select c => c.sql d
  | countOf c => "SELECT " ++ countProjection ++ " FROM (" ++ c.sql d ++ ") AS aggregate_table"

def params : Reading → List Value
  | select c => c.params
  | countOf c => c.params

/-- The statement has the text and the bindings of the reading. -/
def Of (r : Reading) (d : Dialect) (s : Statement) : Prop :=
  s.sql = r.sql d ∧ s.params = r.params

end Reading

/-! ## Servers -/

/-- What a projection makes of a list of rows that is not grouped. -/
inductive ProjectionKind
  /-- One row for each row. -/
  | rowWise
  /-- One row for all, their number. -/
  | count
  /-- Anything else, such as an aggregate or DISTINCT. -/
  | other
  deriving DecidableEq

/-- A row of an answer: projected columns, or a number of rows. -/
inductive Answer (Out : Type)
  | row (columns : Out)
  | number (n : Nat)

/-- What a server makes of the clauses of a SELECT. -/
structure Server (Row Out : Type) where
  source : String → List Value → List Row
  grouping : List String → List Row → List (List Row)
  kind : String → ProjectionKind
  kind_count : kind countProjection = .count
  kind_constant : kind "1" = .rowWise
  /-- The columns that a projection gives for a group or, without groups, for a single row. -/
  columns : String → List Row → Out
  /-- The rows of a projection that is neither row-wise nor a bare count. -/
  special : String → List Row → List (Answer Out)
  /-- The condition of HAVING on a projected row. -/
  keeps : String → List Value → Answer Out → Bool
  order : List String → List (Answer Out) → List (Answer Out)
  order_perm : ∀ columns rows, (order columns rows).Perm rows

namespace Server

variable {Row Out : Type} (v : Server Row Out) (w : WindowStyle)

/-- The rows before HAVING. -/
def projected (c : Clauses) : List (Answer Out) :=
  let rows := v.source c.source c.sourceValues
  if c.groups.isEmpty then
    match v.kind c.projection with
    | .rowWise => rows.map fun row => .row (v.columns c.projection [row])
    | .count => [.number rows.length]
    | .other => v.special c.projection rows
  else (v.grouping c.groups rows).map fun rows => .row (v.columns c.projection rows)

/-- The rows after HAVING. -/
def kept (c : Clauses) : List (Answer Out) :=
  match c.having with
  | none => v.projected c
  | some (condition, values) => (v.projected c).filter (v.keeps condition values)

def rows (c : Clauses) : List (Answer Out) :=
  w.apply c.limit c.offset (v.order c.orders (v.kept c))

def answer : Reading → List (Answer Out)
  | .select c => v.rows w c
  | .countOf c => [.number (v.rows w c).length]

end Server

/-! ## The readings of a query -/

namespace Query

/-- The clauses of a query under a projection, with or without its order. -/
def clauses (q : Query) (projection : String) (ordered : Bool) : Clauses where
  projection
  source := Layout.sql (.copied q.table :: q.joins.flatMap Join.layout ++
    Condition.clauseLayout "WHERE" q.wheres)
  sourceValues := q.wheres.flatMap Predicate.values
  groups := q.groups
  having :=
    if q.havings.isEmpty then none
    else some (Layout.sql (Condition.layout q.havings), q.havings.flatMap Predicate.values)
  orders := if ordered then q.orders.map fun o => Layout.sql o.layout else []
  limit := q.limit
  offset := q.offset

def selectReading (q : Query) : Reading := .select (q.clauses q.projection.expression true)

/-- The projection of the derived table of a COUNT. -/
def innerProjection (q : Query) : String :=
  if q.groups.isEmpty then "1" else q.projection.expression

def countReading (q : Query) : Reading :=
  if q.groups.isEmpty && !q.isPaginated then .select (q.clauses countProjection false)
  else .countOf (q.clauses q.innerProjection q.isPaginated)

end Query

end SqlCompose
