import SqlCompose.Proofs.Query.ValueFree

/-!
# Calls of different clauses are independent

A run of fluent calls is known by what it does to each clause on its own: which joins, conditions
and sort keys it adds in which order, which columns it groups by, and its last projection, limit and
offset. `Call.Alike` compares two runs that way. They leave one query exactly if they are alike, so
calls of different clauses can be exchanged freely. The step is `call_eq`, which says what a call
adds to each clause and that it sets no other; `calls_eq` carries it through a run.
-/

namespace SqlCompose.Query

/-- The clauses of a query. -/
inductive Clause
  | projection
  | joins
  | wheres
  | groups
  | havings
  | orders
  | limit
  | offset
  deriving DecidableEq, Repr

namespace Call

/-- The call that a call abbreviates, or else the call itself. -/
def expand : Call → Call
  | andWhereEq column value => andWhere column "=" value
  | orWhereEq column value => orWhere column "=" value
  | andHavingEq column value => andHaving column "=" value
  | orderByDesc column => orderBy column "desc"
  | c => c

/-- The clause that a call is about. -/
def clause : Call → Clause
  | select _ => .projection
  | join .. | leftJoin .. | rightJoin .. => .joins
  | andWhere .. | andWhereEq .. | orWhere .. | orWhereEq .. | andWhereIn .. | orWhereIn ..
  | andWhereNotIn .. | andWhereNull _ | andWhereNotNull _ => .wheres
  | groupBy _ => .groups
  | andHaving .. | andHavingEq .. | orHaving .. => .havings
  | orderBy .. | orderByDesc _ => .orders
  | limit _ => .limit
  | offset _ => .offset

/-- The columns that a call groups by. -/
def groups : Call → List String
  | groupBy columns => columns
  | _ => []

end Call

/-- The calls of a run that are about a clause, without abbreviations. -/
def within (k : Clause) (cs : List Call) : List Call :=
  (cs.map Call.expand).filter (·.clause = k)

/-- The two runs do the same to each clause. Without a `select` all columns are selected. -/
structure Call.Alike (cs cs' : List Call) : Prop where
  joins : within .joins cs = within .joins cs'
  wheres : within .wheres cs = within .wheres cs'
  groups : cs.flatMap Call.groups = cs'.flatMap Call.groups
  havings : within .havings cs = within .havings cs'
  orders : within .orders cs = within .orders cs'
  projection : (within .projection cs).getLast?.getD (.select .all) =
    (within .projection cs').getLast?.getD (.select .all)
  limit : (within .limit cs).getLast? = (within .limit cs').getLast?
  offset : (within .offset cs).getLast? = (within .offset cs').getLast?

/-! ## What a call adds -/

namespace Call

def projection? : Call → Option Projection
  | select projection => some projection
  | _ => none

def join? : Call → Option Join
  | join table first operator second => some ⟨.inner, table, first, operator, second⟩
  | leftJoin table first operator second => some ⟨.left, table, first, operator, second⟩
  | rightJoin table first operator second => some ⟨.right, table, first, operator, second⟩
  | _ => none

def where? : Call → Option Predicate
  | andWhere column operator value => some ⟨column, .compare operator value, .and⟩
  | orWhere column operator value => some ⟨column, .compare operator value, .or⟩
  | andWhereIn column values => some ⟨column, .among values false, .and⟩
  | orWhereIn column values => some ⟨column, .among values false, .or⟩
  | andWhereNotIn column values => some ⟨column, .among values true, .and⟩
  | andWhereNull column => some ⟨column, .missing false, .and⟩
  | andWhereNotNull column => some ⟨column, .missing true, .and⟩
  | _ => none

def having? : Call → Option Predicate
  | andHaving column operator value => some ⟨column, .compare operator value, .and⟩
  | orHaving column operator value => some ⟨column, .compare operator value, .or⟩
  | _ => none

def order? : Call → Option Order
  | orderBy column direction => some ⟨column, direction⟩
  | _ => none

def limit? : Call → Option UInt64
  | limit n => some n
  | _ => none

def offset? : Call → Option UInt64
  | offset n => some n
  | _ => none

end Call

/-- The entries that a run adds to a clause, given what one call adds. -/
def added {β : Type} (part? : Call → Option β) (cs : List Call) : List β :=
  (cs.map Call.expand).filterMap part?

/-- What a call adds to each clause of a query. -/
theorem call_eq (q : Query) (c : Call) :
    q.call c = {
      table := q.table
      projection := c.expand.projection?.getD q.projection
      joins := q.joins ++ c.expand.join?.toList
      wheres := q.wheres ++ c.expand.where?.toList
      groups := q.groups ++ c.groups
      havings := q.havings ++ c.expand.having?.toList
      orders := q.orders ++ c.expand.order?.toList
      limit := c.expand.limit?.or q.limit
      offset := c.expand.offset?.or q.offset } := by
  cases c <;>
    simp [call, addWhere, addHaving, addJoin, Call.expand, Call.projection?, Call.join?,
      Call.where?, Call.groups, Call.having?, Call.order?, Call.limit?, Call.offset?]

section
variable {β : Type} (part? : Call → Option β)

theorem added_cons (c : Call) (cs : List Call) :
    added part? (c :: cs) = (part? c.expand).toList ++ added part? cs := by
  unfold added
  cases h : part? c.expand <;> simp [h]

/-- The last entry counts. -/
theorem getLast?_added_cons (c : Call) (cs : List Call) :
    (added part? (c :: cs)).getLast? = (added part? cs).getLast?.or (part? c.expand) := by
  rw [added_cons, List.getLast?_append]
  cases part? c.expand <;> simp

end

/-- What a run adds to each clause of a query. -/
theorem calls_eq (q : Query) (cs : List Call) :
    q.calls cs = {
      table := q.table
      projection := (added Call.projection? cs).getLast?.getD q.projection
      joins := q.joins ++ added Call.join? cs
      wheres := q.wheres ++ added Call.where? cs
      groups := q.groups ++ cs.flatMap Call.groups
      havings := q.havings ++ added Call.having? cs
      orders := q.orders ++ added Call.order? cs
      limit := (added Call.limit? cs).getLast?.or q.limit
      offset := (added Call.offset? cs).getLast?.or q.offset } := by
  induction cs generalizing q with
  | nil => simp [calls, added]
  | cons c cs ih =>
    have hstep : q.calls (c :: cs) = (q.call c).calls cs := rfl
    rw [hstep, ih, call_eq]
    simp only [getLast?_added_cons, Option.or_assoc, Option.getD_or]
    simp only [added_cons, List.flatMap_cons, List.append_assoc]

/-! ## Subsequences and entries -/

section
variable {β : Type} {k : Clause} {part? : Call → Option β} {cs cs' : List Call}

/-- The calls of a clause are those that add an entry to it, and `write` gives back the call that
added an entry. -/
def Clause.IsOf (k : Clause) (part? : Call → Option β) (write : β → Call) : Prop :=
  ∀ c : Call, (part? c.expand).map write = if c.expand.clause = k then some c.expand else none

variable {write : β → Call} (h : k.IsOf part? write)
include h

theorem within_eq (cs : List Call) : within k cs = (added part? cs).map write := by
  induction cs with
  | nil => rfl
  | cons c cs ih =>
    have hc := h c
    rw [added_cons, List.map_append, ← ih]
    unfold within
    rw [List.map_cons, List.filter_cons]
    split <;> cases hp : part? c.expand <;> simp_all

theorem added_eq (cs : List Call) : added part? cs = (within k cs).filterMap part? := by
  unfold within added
  rw [List.filterMap_filter]
  refine List.filterMap_congr fun c hc => ?_
  obtain ⟨c, -, rfl⟩ := List.mem_map.1 hc
  have := h c
  split <;> simp_all

theorem within_eq_iff : within k cs = within k cs' ↔ added part? cs = added part? cs' := by
  constructor
  · intro heq
    rw [added_eq h, added_eq h, heq]
  · intro heq
    rw [within_eq h, within_eq h, heq]

theorem getLast?_within (cs : List Call) :
    (within k cs).getLast? = (added part? cs).getLast?.map write := by
  rw [within_eq h, List.getLast?_map]

theorem getLast?_within_eq_iff (hw : ∀ a b, write a = write b → a = b) :
    (within k cs).getLast? = (within k cs').getLast? ↔
      (added part? cs).getLast? = (added part? cs').getLast? := by
  rw [getLast?_within h, getLast?_within h]
  exact Option.map_inj_right hw

end

/-! ## Each clause has its calls -/

/-- The call that adds a join. -/
def joinCall (j : Join) : Call :=
  match j.kind with
  | .inner => .join j.table j.first j.operator j.second
  | .left => .leftJoin j.table j.first j.operator j.second
  | .right => .rightJoin j.table j.first j.operator j.second

/-- The call that adds a condition to WHERE; the connective counts where calls have the choice. -/
def whereCall (p : Predicate) : Call :=
  match p.test, p.connective with
  | .compare operator value, .and => .andWhere p.column operator value
  | .compare operator value, .or => .orWhere p.column operator value
  | .among values false, .and => .andWhereIn p.column values
  | .among values false, .or => .orWhereIn p.column values
  | .among values true, _ => .andWhereNotIn p.column values
  | .missing false, _ => .andWhereNull p.column
  | .missing true, _ => .andWhereNotNull p.column

/-- The call that adds a condition to HAVING; tests other than comparisons, which no call adds,
come from a call without effect. -/
def havingCall (p : Predicate) : Call :=
  match p.test, p.connective with
  | .compare operator value, .and => .andHaving p.column operator value
  | .compare operator value, .or => .orHaving p.column operator value
  | _, _ => .groupBy []

def orderCall (o : Order) : Call := .orderBy o.column o.direction

theorem isOf_projection : Clause.projection.IsOf Call.projection? .select := by
  intro c
  cases c <;> rfl

theorem isOf_joins : Clause.joins.IsOf Call.join? joinCall := by
  intro c
  cases c <;> rfl

theorem isOf_wheres : Clause.wheres.IsOf Call.where? whereCall := by
  intro c
  cases c <;> rfl

theorem isOf_havings : Clause.havings.IsOf Call.having? havingCall := by
  intro c
  cases c <;> rfl

theorem isOf_orders : Clause.orders.IsOf Call.order? orderCall := by
  intro c
  cases c <;> rfl

theorem isOf_limit : Clause.limit.IsOf Call.limit? .limit := by
  intro c
  cases c <;> rfl

theorem isOf_offset : Clause.offset.IsOf Call.offset? .offset := by
  intro c
  cases c <;> rfl

/-- The last projection of a run that starts out with all columns. -/
theorem projection_eq_iff (cs cs' : List Call) :
    (within .projection cs).getLast?.getD (.select .all) =
        (within .projection cs').getLast?.getD (.select .all) ↔
      (added Call.projection? cs).getLast?.getD .all =
        (added Call.projection? cs').getLast?.getD .all := by
  rw [getLast?_within isOf_projection, getLast?_within isOf_projection, Option.getD_map,
    Option.getD_map, Call.select.injEq]

/-- **Calls of different clauses are independent.** Two runs of calls on one table give the same
query if and only if they do the same to each clause. Then every statement of the queries is the
same, or the error in its place. -/
theorem independent_calls (table : String) (cs cs' : List Call) :
    ((on table).calls cs = (on table).calls cs' ↔ Call.Alike cs cs') ∧
      (Call.Alike cs cs' → ∀ r : Request,
        answer (((on table).calls cs).compile r) = answer (((on table).calls cs').compile r)) := by
  have hiff : (on table).calls cs = (on table).calls cs' ↔ Call.Alike cs cs' := by
    rw [calls_eq, calls_eq, mk.injEq]
    simp only [on, List.nil_append, Option.or_none, true_and]
    constructor
    · rintro ⟨hprojection, hjoins, hwheres, hgroups, hhavings, horders, hlimit, hoffset⟩
      exact {
        joins := (within_eq_iff isOf_joins).2 hjoins
        wheres := (within_eq_iff isOf_wheres).2 hwheres
        groups := hgroups
        havings := (within_eq_iff isOf_havings).2 hhavings
        orders := (within_eq_iff isOf_orders).2 horders
        projection := (projection_eq_iff cs cs').2 hprojection
        limit := (getLast?_within_eq_iff isOf_limit fun _ _ => Call.limit.inj).2 hlimit
        offset := (getLast?_within_eq_iff isOf_offset fun _ _ => Call.offset.inj).2 hoffset }
    · intro h
      exact ⟨(projection_eq_iff cs cs').1 h.projection, (within_eq_iff isOf_joins).1 h.joins,
        (within_eq_iff isOf_wheres).1 h.wheres, h.groups, (within_eq_iff isOf_havings).1 h.havings,
        (within_eq_iff isOf_orders).1 h.orders,
        (getLast?_within_eq_iff isOf_limit fun _ _ => Call.limit.inj).1 h.limit,
        (getLast?_within_eq_iff isOf_offset fun _ _ => Call.offset.inj).1 h.offset⟩
  exact ⟨hiff, fun h r => by rw [hiff.2 h]⟩

/-- Calls of every clause, with repetitions and abbreviations. -/
def scatteredCalls : List Call :=
  [.limit 1, .orWhereEq "a" (.int 1), .groupBy ["g"], .orderByDesc "o", .join "u" "x" "=" "y",
    .select ⟨"b"⟩, .andHavingEq "h" .null, .andWhereIn "c" [.int 2], .groupBy [], .offset 7,
    .leftJoin "v" "x" "<" "y", .select ⟨"s"⟩, .limit 5, .groupBy ["k", "l"], .orderBy "p" "asc"]

/-- The same calls sorted by clauses and spelled out. -/
def sortedCalls : List Call :=
  [.select ⟨"s"⟩, .join "u" "x" "=" "y", .leftJoin "v" "x" "<" "y", .orWhere "a" "=" (.int 1),
    .andWhereIn "c" [.int 2], .groupBy ["g", "k"], .groupBy ["l"], .andHaving "h" "=" .null,
    .orderBy "o" "desc", .orderBy "p" "asc", .offset 7, .limit 5]

theorem scatteredCalls_alike :
    Call.Alike scatteredCalls sortedCalls ∧
      (on "t").calls scatteredCalls = (on "t").calls sortedCalls ∧
      ∀ r : Request, answer (((on "t").calls scatteredCalls).compile r) =
        answer (((on "t").calls sortedCalls).compile r) := by
  have h : Call.Alike scatteredCalls sortedCalls := ⟨rfl, rfl, rfl, rfl, rfl, rfl, rfl, rfl⟩
  have hall := independent_calls "t" scatteredCalls sortedCalls
  exact ⟨h, hall.1.2 h, hall.2 h⟩

end SqlCompose.Query
