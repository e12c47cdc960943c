import SqlCompose.Predicate

/-!
# Queries

A query gathers the clauses of one statement on one table. The fluent functions add to it and never
fail; whatever a caller hands in is checked when the query is compiled (`Query.Select`,
`Query.Write`). `Query.Call` is a fluent call as data, so that runs of calls can be spoken about.
-/

namespace SqlCompose

/-- The expression between SELECT and FROM. -/
structure Projection where
  expression : String
  deriving DecidableEq, Repr

namespace Projection

def all : Projection := ⟨"*"⟩

instance : Inhabited Projection := ⟨all⟩

def ofColumns (columns : List String) : Projection := ⟨", ".intercalate columns⟩

end Projection

inductive JoinKind
  | inner
  | left
  | right
  deriving DecidableEq, Repr

def JoinKind.sql : JoinKind → String
  | inner => "INNER JOIN"
  | left => "LEFT JOIN"
  | right => "RIGHT JOIN"

/-- A join on a comparison of two columns. -/
structure Join where
  kind : JoinKind
  table : String
  first : String
  operator : String
  second : String
  deriving DecidableEq, Repr

/-- A column to sort by; the direction is as the caller wrote it. -/
structure Order where
  column : String
  direction : String
  deriving DecidableEq, Repr

/-- The clauses of one statement on one table. -/
structure Query where
  table : String
  projection : Projection := .all
  joins : List Join := []
  wheres : Condition := []
  groups : List String := []
  havings : Condition := []
  orders : List Order := []
  limit : Option UInt64 := none
  offset : Option UInt64 := none
  deriving BEq

namespace Query

/-- A query on a table, with no clauses yet. -/
def on (table : String) : Query where
  table

/-! ## Fluent calls -/

def addWhere (q : Query) (connective : Connective) (column : String) (test : Test) : Query :=
  { q with wheres := q.wheres ++ [⟨column, test, connective⟩] }

def addHaving (q : Query) (connective : Connective) (column : String) (test : Test) : Query :=
  { q with havings := q.havings ++ [⟨column, test, connective⟩] }

def addJoin (q : Query) (kind : JoinKind) (table first operator second : String) : Query :=
  { q with joins := q.joins ++ [⟨kind, table, first, operator, second⟩] }

/-- One fluent call. Calls named `…Eq` and `orderByDesc` abbreviate others. -/
inductive Call
  | select (projection : Projection)
  | andWhere (column operator : String) (value : Value)
  | andWhereEq (column : String) (value : Value)
  | orWhere (column operator : String) (value : Value)
  | orWhereEq (column : String) (value : Value)
  | andWhereIn (column : String) (values : List Value)
  | orWhereIn (column : String) (values : List Value)
  | andWhereNotIn (column : String) (values : List Value)
  | andWhereNull (column : String)
  | andWhereNotNull (column : String)
  | join (table first operator second : String)
  | leftJoin (table first operator second : String)
  | rightJoin (table first operator second : String)
  | orderBy (column direction : String)
  | orderByDesc (column : String)
  | limit (n : UInt64)
  | offset (n : UInt64)
  | groupBy (columns : List String)
  | andHaving (column operator : String) (value : Value)
  | andHavingEq (column : String) (value : Value)
  | orHaving (column operator : String) (value : Value)
  deriving BEq

def call (q : Query) : Call → Query
  | .select projection => { q with projection }
  | .andWhere column operator value => q.addWhere .and column (.compare operator value)
  | .andWhereEq column value => q.addWhere .and column (.compare "=" value)
  | .orWhere column operator value => q.addWhere .or column (.compare operator value)
  | .orWhereEq column value => q.addWhere .or column (.compare "=" value)
  | .andWhereIn column values => q.addWhere .and column (.among values false)
  | .orWhereIn column values => q.addWhere .or column (.among values false)
  | .andWhereNotIn column values => q.addWhere .and column (.among values true)
  | .andWhereNull column => q.addWhere .and column (.missing false)
  | .andWhereNotNull column => q.addWhere .and column (.missing true)
  | .join table first operator second => q.addJoin .inner table first operator second
  | .leftJoin table first operator second => q.addJoin .left table first operator second
  | .rightJoin table first operator second => q.addJoin .right table first operator second
  | .orderBy column direction => { q with orders := q.orders ++ [⟨column, direction⟩] }
  | .orderByDesc column => { q with orders := q.orders ++ [⟨column, "desc"⟩] }
  | .limit n => { q with limit := some n }
  | .offset n => { q with offset := some n }
  | .groupBy columns => { q with groups := q.groups ++ columns }
  | .andHaving column operator value => q.addHaving .and column (.compare operator value)
  | .andHavingEq column value => q.addHaving .and column (.compare "=" value)
  | .orHaving column operator value => q.addHaving .or column (.compare operator value)

def calls (q : Query) (cs : List Call) : Query := cs.foldl call q

/-- Whether a window of the rows was asked for. -/
def isPaginated (q : Query) : Bool := q.limit.isSome || q.offset.isSome

end Query

end SqlCompose
