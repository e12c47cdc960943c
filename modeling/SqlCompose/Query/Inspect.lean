import SqlCompose.Query
import SqlCompose.Value.Inspect

/-!
# Inspection text of queries

The inspection text of a query names each of its clauses and shows everything that a caller handed
in as it was handed in.
-/

namespace SqlCompose

def Connective.inspect : Connective → String
  | and => "And"
  | or => "Or"

def Test.inspect : Test → String
  | compare operator value =>
    Inspect.record "Basic" [("operator", Text.inspect operator), ("value", value.inspect)]
  | among values negated =>
    Inspect.record "In"
      [("values", Inspect.list (values.map Value.inspect)), ("negated", Inspect.bool negated)]
  | missing negated => Inspect.record "Null" [("negated", Inspect.bool negated)]

def Predicate.inspect (p : Predicate) : String :=
  Inspect.record "Predicate"
    [("column", Text.inspect p.column), ("kind", p.test.inspect),
      ("connector", p.connective.inspect)]

def Condition.inspect (ps : Condition) : String :=
  Inspect.record "PredicateList" [("predicates", Inspect.list (ps.map Predicate.inspect))]

def JoinKind.inspect : JoinKind → String
  | inner => "Inner"
  | left => "Left"
  | right => "Right"

def Join.inspect (j : Join) : String :=
  Inspect.record "Join"
    [("kind", j.kind.inspect), ("table", Text.inspect j.table), ("first", Text.inspect j.first),
      ("operator", Text.inspect j.operator), ("second", Text.inspect j.second)]

def Order.inspect (o : Order) : String :=
  Inspect.record "Order"
    [("column", Text.inspect o.column), ("direction", Text.inspect o.direction)]

def Query.inspect (q : Query) : String :=
  let number := fun (n : Option UInt64) => Inspect.option (n.map toString)
  Inspect.record "Query"
    [("table", Text.inspect q.table),
      ("columns", Inspect.apply "Projection" (Text.inspect q.projection.expression)),
      ("joins", Inspect.list (q.joins.map Join.inspect)),
      ("wheres", Condition.inspect q.wheres),
      ("groups", Inspect.list (q.groups.map Text.inspect)),
      ("havings", Condition.inspect q.havings),
      ("orders", Inspect.list (q.orders.map Order.inspect)),
      ("limit", number q.limit),
      ("offset", number q.offset)]

end SqlCompose
