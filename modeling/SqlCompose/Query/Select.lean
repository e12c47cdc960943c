import SqlCompose.Dialect
import SqlCompose.Query

/-!
# SELECT and COUNT

The clauses of a SELECT come in the order SELECT, FROM, JOIN, WHERE, GROUP BY, HAVING, ORDER BY and
the window, and the first invalid clause in that order decides the error. COUNT is a SELECT of a
number over the same rows.
-/

namespace SqlCompose

/-- The text of a join, checked from left to right. -/
def Join.sql (j : Join) : Except CompileError String := do
  checkColumn j.first
  checkColumn j.second
  let operator ← Comparison.parse j.operator
  return " " ++ j.kind.sql ++ " " ++ j.table ++ " ON " ++ j.first ++ " " ++ operator.sql ++ " " ++
    j.second

/-- The text of a column to sort by. -/
def Order.sql (o : Order) : Except CompileError String := do
  checkColumn o.column
  let direction ← Direction.parse o.direction
  return o.column ++ " " ++ direction.sql

namespace Query

/-- The GROUP BY clause, with the space before it. -/
def groupSql (q : Query) : String :=
  if q.groups.isEmpty then "" else " GROUP BY " ++ ", ".intercalate q.groups

/-- The ORDER BY clause, with the space before it. -/
def orderSql (q : Query) : Except CompileError String := do
  let orders ← q.orders.mapM Order.sql
  return if orders.isEmpty then "" else " ORDER BY " ++ ", ".intercalate orders

/-- The statement up to HAVING. -/
def body (q : Query) (projection : String) : Except CompileError Statement := do
  let joins ← q.joins.mapM Join.sql
  let wheres ← Condition.clause "WHERE" q.wheres
  let havings ← Condition.clause "HAVING" q.havings
  return [.text ("SELECT " ++ projection ++ " FROM " ++ q.table ++ String.join joins)] ++ wheres ++
    [.text q.groupSql] ++ havings

/-- The order and the window. -/
def tail (q : Query) (d : Dialect) : Except CompileError String := do
  let orders ← q.orderSql
  return orders ++ d.pagination q.limit q.offset !q.orders.isEmpty

/-- A SELECT of `projection`, with or without the order and the window. -/
def selectWith (q : Query) (d : Dialect) (projection : String) (withTail : Bool) :
    Except CompileError Statement := do
  let body ← q.body projection
  if withTail then
    let tail ← q.tail d
    return body ++ [.text tail]
  else return body

def toSelect (q : Query) (d : Dialect) : Except CompileError Statement :=
  q.selectWith d q.projection.expression true

/-- The number of rows of the SELECT. With groups or a window the SELECT becomes a derived table,
so that each of its rows counts once. Groups keep the projection, whose aliases HAVING may use;
otherwise a constant stands for it, since joined tables may share column names. The order matters
only to a window. -/
def toCount (q : Query) (d : Dialect) : Except CompileError Statement := do
  if q.groups.isEmpty && !q.isPaginated then
    q.selectWith d "COUNT(*) AS aggregate" false
  else
    let projection := if q.groups.isEmpty then "1" else q.projection.expression
    let inner ← q.selectWith d projection q.isPaginated
    return [.text "SELECT COUNT(*) AS aggregate FROM ("] ++ inner ++ [.text ") AS aggregate_table"]

end Query

end SqlCompose
