import SqlCompose.Query.Select
import SqlCompose.Query.Write

/-!
# Who wrote which text of a statement

A layout is the text of a statement cut into spans by their author: the compiler's own words, text
copied from the caller, and the placeholders. The layouts of the statements of a query are given
here clause by clause, without regard to faults. `Supplier` pairs the layout of a predicate or an
assignment with the values that it supplies, and `Woven` says that such parts stand in a layout in
their order, each around its own placeholders (`Woven.append`, `Woven.placed`).
-/

namespace SqlCompose

/-! ## Spans -/

/-- A stretch of the text of a statement. -/
inductive Span
  /-- Words of the compiler. -/
  | own (words : String)
  /-- Text of the caller, as it is. -/
  | copied (text : String)
  /-- A placeholder. -/
  | mark
  deriving DecidableEq

def Span.sql : Span → String
  | own words => words
  | copied text => text
  | mark => "?"

/-- The text of the caller in a span. -/
def Span.copied? : Span → Option String
  | copied text => some text
  | _ => none

/-- The compiler's own words have no question mark. -/
def Span.Plain : Span → Prop
  | own words => '?' ∉ words.toList
  | _ => True

/-- The text of a statement, span by span. -/
abbrev Layout := List Span

def questionMarks (text : String) : Nat := text.toList.count '?'

namespace Layout

def sql (l : Layout) : String := String.join (l.map Span.sql)

def marks (l : Layout) : Nat := l.count .mark

/-- The texts of the caller, in order. -/
def copied (l : Layout) : List String := l.filterMap Span.copied?

def Plain (l : Layout) : Prop := ∀ x ∈ l, x.Plain

/-- Parts one after the other, with a separator of the compiler between neighbours. -/
def separated (separator : String) (parts : List Layout) : Layout :=
  [Span.own separator].intercalate parts

/-- Placeholders with a separator between neighbours. -/
def placeholders (separator : String) (count : Nat) : Layout :=
  separated separator (List.replicate count [.mark])

end Layout

/-! ## Layouts of clauses -/

/-- The canonical spelling of the operator that a text spells. -/
def Comparison.word (operator : String) : String := (parse? operator).elim "" sql

/-- The canonical spelling of the direction that a text spells. -/
def Direction.word (direction : String) : String := (parse? direction).elim "" sql

def Predicate.layout (p : Predicate) : Layout :=
  match p.test with
  | .compare operator _ =>
    [.copied p.column, .own (" " ++ Comparison.word operator ++ " "), .mark]
  | .among [] negated => [.own (if negated then "1 = 1" else "0 = 1")]
  | .among values negated =>
    [.copied p.column, .own (if negated then " NOT IN (" else " IN (")] ++
      Layout.placeholders "," values.length ++ [.own ")"]
  | .missing negated =>
    [.copied p.column, .own (if negated then " IS NOT NULL" else " IS NULL")]

def Predicate.values (p : Predicate) : List Value :=
  match p.test with
  | .compare _ value => [value]
  | .among values _ => values
  | .missing _ => []

/-- The column of a predicate where it is written: a membership test without values names none. -/
def Predicate.texts (p : Predicate) : List String :=
  match p.test with
  | .among [] _ => []
  | _ => [p.column]

namespace Condition

def followingLayout (ps : Condition) : Layout :=
  ps.flatMap fun p => .own (" " ++ p.connective.sql ++ " ") :: p.layout

def layout : Condition → Layout
  | [] => []
  | p :: ps => p.layout ++ followingLayout ps

def clauseLayout (keyword : String) (ps : Condition) : Layout :=
  if ps.isEmpty then [] else .own (" " ++ keyword ++ " ") :: layout ps

def texts (ps : Condition) : List String := ps.flatMap Predicate.texts

end Condition

def Join.layout (j : Join) : Layout :=
  [.own (" " ++ j.kind.sql ++ " "), .copied j.table, .own " ON ", .copied j.first,
    .own (" " ++ Comparison.word j.operator ++ " "), .copied j.second]

def Join.texts (j : Join) : List String := [j.table, j.first, j.second]

def Order.layout (o : Order) : Layout :=
  [.copied o.column, .own (" " ++ Direction.word o.direction)]

/-! ## Layouts of statements -/

namespace Query

def groupLayout (q : Query) : Layout :=
  if q.groups.isEmpty then []
  else .own " GROUP BY " :: Layout.separated ", " (q.groups.map fun column => [.copied column])

def orderLayout (q : Query) : Layout :=
  if q.orders.isEmpty then []
  else .own " ORDER BY " :: Layout.separated ", " (q.orders.map Order.layout)

def bodyLayout (q : Query) (projection : Span) : Layout :=
  [.own "SELECT ", projection, .own " FROM ", .copied q.table] ++ q.joins.flatMap Join.layout ++
    Condition.clauseLayout "WHERE" q.wheres ++ q.groupLayout ++
    Condition.clauseLayout "HAVING" q.havings

def tailLayout (q : Query) (d : Dialect) : Layout :=
  q.orderLayout ++ [.own (d.pagination q.limit q.offset !q.orders.isEmpty)]

def selectLayout (q : Query) (d : Dialect) : Layout :=
  q.bodyLayout (.copied q.projection.expression) ++ q.tailLayout d

def countLayout (q : Query) (d : Dialect) : Layout :=
  if q.groups.isEmpty && !q.isPaginated then q.bodyLayout (.own "COUNT(*) AS aggregate")
  else
    [.own "SELECT COUNT(*) AS aggregate FROM ("] ++
      q.bodyLayout (if q.groups.isEmpty then .own "1" else .copied q.projection.expression) ++
      (if q.isPaginated then q.tailLayout d else []) ++ [.own ") AS aggregate_table"]

def assignmentLayout (column : String) : Layout := [.copied column, .own " = ", .mark]

def updateLayout (q : Query) (values : List (String × Value)) : Layout :=
  [.own "UPDATE ", .copied q.table, .own " SET "] ++
    Layout.separated ", " (values.map fun v => assignmentLayout v.1) ++
    Condition.clauseLayout "WHERE" q.wheres

def deleteLayout (q : Query) : Layout :=
  [.own "DELETE FROM ", .copied q.table] ++ Condition.clauseLayout "WHERE" q.wheres

/-! ## Texts of the caller -/

/-- The texts of FROM, JOIN, WHERE, GROUP BY and HAVING. -/
def bodyTexts (q : Query) : List String :=
  q.table :: q.joins.flatMap Join.texts ++ Condition.texts q.wheres ++ q.groups ++
    Condition.texts q.havings

def selectTexts (q : Query) : List String :=
  q.projection.expression :: q.bodyTexts ++ q.orders.map Order.column

/-- The texts of a COUNT: the projection only with groups, the order only with a window. -/
def countTexts (q : Query) : List String :=
  (if q.groups.isEmpty then [] else [q.projection.expression]) ++ q.bodyTexts ++
    (if q.isPaginated then q.orders.map Order.column else [])

def updateTexts (q : Query) (values : List (String × Value)) : List String :=
  q.table :: names values ++ Condition.texts q.wheres

def deleteTexts (q : Query) : List String := q.table :: Condition.texts q.wheres

end Query

/-! ## Suppliers of values -/

/-- A part of a statement that supplies values: its text and its values. -/
structure Supplier where
  layout : Layout
  values : List Value

def Predicate.supplier (p : Predicate) : Supplier := ⟨p.layout, p.values⟩

def Query.assignmentSupplier (column : String) (value : Value) : Supplier :=
  ⟨assignmentLayout column, [value]⟩

/-- The suppliers of a SELECT: the predicates of WHERE, then those of HAVING. -/
def Query.suppliers (q : Query) : List Supplier :=
  q.wheres.map Predicate.supplier ++ q.havings.map Predicate.supplier

/-- The suppliers of an UPDATE: the assignments, then the predicates of WHERE. -/
def Query.updateSuppliers (q : Query) (values : List (String × Value)) : List Supplier :=
  values.map (fun v => assignmentSupplier v.1 v.2) ++
    q.wheres.map Predicate.supplier

def suppliedValues (xs : List Supplier) : List Value := xs.flatMap Supplier.values

/-- The parts stand in the layout in their order, each with a placeholder for each of its values,
and there is no other placeholder. -/
inductive Woven : Layout → List Supplier → Prop
  | nil {l : Layout} : l.marks = 0 → Woven l []
  | cons {l r : Layout} {x : Supplier} {xs : List Supplier} :
      l.marks = 0 → x.layout.marks = x.values.length → Woven r xs →
      Woven (l ++ x.layout ++ r) (x :: xs)

/-- The placeholder behind `k` others belongs to value `k` of the suppliers: it stands in the text
of a supplier, behind the placeholders of all suppliers before that one and the `a.marks` of its
own whose values come before. -/
def Placed (l : Layout) (xs : List Supplier) (k : Nat) : Prop :=
  ∃ (front back : List Supplier) (x : Supplier) (before a b after : Layout),
    xs = front ++ x :: back ∧ l = before ++ x.layout ++ after ∧ x.layout = a ++ .mark :: b ∧
      before.marks = (suppliedValues front).length ∧ before.marks + a.marks = k ∧
      a.marks < x.values.length ∧ (suppliedValues xs)[k]? = x.values[a.marks]?

/-- The text of a statement is the layout, written by the compiler in plain words around the given
texts of the caller; its bindings are the values of the suppliers in order, and each placeholder
stands in the part that supplies its binding. -/
structure Aligned (l : Layout) (xs : List Supplier) (texts : List String) (s : Statement) :
    Prop where
  sql : s.sql = l.sql
  plain : l.Plain
  copied : l.copied = texts
  params : s.params = suppliedValues xs
  marks : l.marks = s.params.length
  placed : ∀ k < s.params.length, Placed l xs k
  questionMarks : questionMarks s.sql = s.params.length + questionMarks (String.join texts)

end SqlCompose
