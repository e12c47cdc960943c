import SqlCompose.Comparison
import SqlCompose.Statement

/-!
# Predicates

The conditions of WHERE and HAVING: a list of predicates in the order of their insertion, each with
the connective that joins it to the one before. Compilation keeps that order in text and bindings;
the connective of the first predicate is never written.
-/

namespace SqlCompose

/-- How a predicate joins the one before it. -/
inductive Connective
  | and
  | or
  deriving DecidableEq, Repr

def Connective.sql : Connective → String
  | and => "AND"
  | or => "OR"

/-- What a predicate asks of its column. -/
inductive Test
  /-- A comparison with a bound value; the operator is as the caller wrote it. -/
  | compare (operator : String) (value : Value)
  /-- Membership in a list of bound values. -/
  | among (values : List Value) (negated : Bool)
  /-- Absence of a value. -/
  | missing (negated : Bool)
  deriving BEq

/-- One condition on a column or an expression. -/
structure Predicate where
  column : String
  test : Test
  connective : Connective
  deriving BEq

namespace Predicate

/-- The statement of a predicate. A membership test without values names no column: nothing is a
member of the empty list. -/
def statement (p : Predicate) : Except CompileError Statement := do
  checkColumn p.column
  match p.test with
  | .compare operator value =>
    let c ← Comparison.parse operator
    return [.text (p.column ++ " " ++ c.sql ++ " "), .bind value]
  | .among [] negated => return [.text (if negated then "1 = 1" else "0 = 1")]
  | .among values negated =>
    let keyword := if negated then " NOT IN (" else " IN ("
    return .text (p.column ++ keyword) :: Statement.placeholders "," values ++ [.text ")"]
  | .missing negated =>
    return [.text (p.column ++ if negated then " IS NOT NULL" else " IS NULL")]

end Predicate

/-- A list of predicates in the order of their insertion. -/
abbrev Condition := List Predicate

namespace Condition

/-- The statements of the predicates after the first, each behind its connective. -/
def following : Condition → Except CompileError Statement
  | [] => return []
  | p :: ps => do
    let s ← p.statement
    let rest ← following ps
    return .text (" " ++ p.connective.sql ++ " ") :: s ++ rest

/-- The body of a clause, without its keyword. -/
def statement : Condition → Except CompileError Statement
  | [] => return []
  | p :: ps => do
    let s ← p.statement
    let rest ← following ps
    return s ++ rest

/-- A clause with its keyword and the space before it; nothing for an empty list. -/
def clause (keyword : String) (ps : Condition) : Except CompileError Statement :=
  if ps.isEmpty then return []
  else do
    let body ← statement ps
    return .text (" " ++ keyword ++ " ") :: body

end Condition

end SqlCompose
