import SqlCompose.Dialect.MySql
import SqlCompose.Dialect.SqlServer

/-!
# The known windows

The three styles of a window that occur: that of MySQL, that of SQL Server, and the plain one of a
dialect that says nothing else. `WindowStyle.apply` is what the text of a window asks of a list of
rows; it differs between the styles only in the row count that MySQL states for an offset alone.
-/

namespace SqlCompose

inductive WindowStyle
  | mySql
  | sqlServer
  | plain
  deriving DecidableEq

namespace WindowStyle

/-- The text of a window. -/
def pagination : WindowStyle → Option UInt64 → Option UInt64 → Bool → String
  | mySql => MySql.pagination
  | sqlServer => SqlServer.pagination
  | plain => plainPagination

/-- The row count that the text of a window states, if it states one. -/
def rowCount (w : WindowStyle) (limit offset : Option UInt64) : Option Nat :=
  match w, limit, offset with
  | _, some n, _ => some n.toNat
  | mySql, none, some _ => some 18446744073709551615
  | _, none, _ => none

/-- The rows that a window leaves: first the offset is dropped, then the row count is kept. -/
def apply {α : Type} (w : WindowStyle) (limit offset : Option UInt64) (rows : List α) : List α :=
  let rest := rows.drop (offset.elim 0 UInt64.toNat)
  (w.rowCount limit offset).elim rest rest.take

variable (w : WindowStyle)

@[simp] theorem pagination_none (ordered : Bool) : w.pagination none none ordered = "" := by
  cases w <;> rfl

@[simp] theorem apply_none {α : Type} (rows : List α) : w.apply none none rows = rows := by
  cases w <;> rfl

/-- How many rows a window leaves depends on how many there are. -/
theorem length_apply {α β : Type} {rows : List α} {rows' : List β}
    (h : rows.length = rows'.length) (limit offset : Option UInt64) :
    (w.apply limit offset rows).length = (w.apply limit offset rows').length := by
  unfold apply
  cases w.rowCount limit offset <;> simp [h]

theorem length_apply_le {α : Type} (limit offset : Option UInt64) (rows : List α) :
    (w.apply limit offset rows).length ≤ rows.length := by
  unfold apply
  cases w.rowCount limit offset with
  | none => exact (List.drop_sublist _ _).length_le
  | some n => exact ((List.take_sublist _ _).trans (List.drop_sublist _ _)).length_le

@[simp] theorem apply_nil {α : Type} (limit offset : Option UInt64) :
    w.apply limit offset ([] : List α) = [] := by
  unfold apply
  cases w.rowCount limit offset <;> simp

theorem rowCount_ne_zero {limit : Option UInt64} (h : limit ≠ some 0) (offset : Option UInt64) :
    w.rowCount limit offset ≠ some 0 := by
  match w, limit, offset with
  | _, some n, _ =>
    intro hn
    have hz : n = 0 := UInt64.toNat_inj.1 (Option.some.inj hn)
    exact h (congrArg some hz)
  | mySql, none, some _ => simp [rowCount]
  | mySql, none, none | sqlServer, none, _ | plain, none, _ => simp [rowCount]

/-- A window over more rows than its offset is not empty, unless it is asked to be. -/
theorem apply_ne_nil {α : Type} {limit offset : Option UInt64} {rows : List α}
    (hl : limit ≠ some 0) (ho : offset.elim 0 UInt64.toNat < rows.length) :
    w.apply limit offset rows ≠ [] := by
  have hr : rows.drop (offset.elim 0 UInt64.toNat) ≠ [] := by
    rw [ne_eq, List.drop_eq_nil_iff]
    omega
  have hc := w.rowCount_ne_zero hl offset
  unfold apply
  cases hn : w.rowCount limit offset with
  | none => exact hr
  | some n =>
    have hz : n ≠ 0 := fun hz => hc (by rw [hn, hz])
    simpa [List.take_eq_nil_iff, hz] using hr

theorem map_apply {α β : Type} (f : α → β) (limit offset : Option UInt64) (rows : List α) :
    (w.apply limit offset rows).map f = w.apply limit offset (rows.map f) := by
  unfold apply
  cases w.rowCount limit offset <;> simp

theorem apply_limit_zero {α : Type} (offset : Option UInt64) (rows : List α) :
    w.apply (some 0) offset rows = [] := by
  simp [apply, rowCount]

/-- A window that may keep a row begins right behind its offset. -/
theorem head?_apply {α : Type} {limit : Option UInt64} (hl : limit ≠ some 0)
    (offset : Option UInt64) (rows : List α) :
    (w.apply limit offset rows).head? = (rows.drop (offset.elim 0 UInt64.toNat)).head? := by
  have hc := w.rowCount_ne_zero hl offset
  unfold apply
  cases hn : w.rowCount limit offset with
  | none => rfl
  | some n =>
    have hz : n ≠ 0 := fun hz => hc (by rw [hn, hz])
    show (List.take n _).head? = _
    rw [List.head?_take, if_neg hz]

/-! ## Characters -/

theorem not_mem_toString {c : Char} (hc : c.isDigit = false) (n : UInt64) :
    c ∉ (toString n).toList := by
  intro h
  have hd : c.isDigit := Nat.isDigit_of_mem_toDigits (by decide) (by decide)
    (Nat.toList_repr (n := n.toNat) ▸ h)
  exact absurd hd (by simp [hc])

theorem questionMark_not_mem_pagination (limit offset : Option UInt64) (ordered : Bool) :
    '?' ∉ (w.pagination limit offset ordered).toList := by
  have hn : ∀ n : UInt64, '?' ∉ (toString n).toList := not_mem_toString (by decide)
  cases w with
  | mySql =>
    show '?' ∉ (MySql.pagination limit offset ordered).toList
    unfold MySql.pagination
    split <;> simp [hn]
  | sqlServer =>
    show '?' ∉ (SqlServer.pagination limit offset ordered).toList
    unfold SqlServer.pagination
    split
    · decide
    · have hl : '?' ∉ (limit.elim "" fun n =>
          " FETCH NEXT " ++ toString n ++ " ROWS ONLY").toList := by
        cases limit <;> simp [hn]
      have hb : '?' ∉ (if ordered then "" else " ORDER BY (SELECT NULL)").toList := by
        cases ordered <;> decide
      simp [hn, hl, hb]
  | plain =>
    show '?' ∉ (plainPagination limit offset ordered).toList
    unfold plainPagination
    cases limit <;> cases offset <;> simp [hn]

end WindowStyle

/-- The windows of the dialect have the given style. -/
def Dialect.HasStyle (d : Dialect) (w : WindowStyle) : Prop := d.pagination = w.pagination

theorem Dialect.hasStyle_mySql (options : MySql.TableOptions) :
    (MySql.dialect options).HasStyle .mySql := rfl

theorem Dialect.hasStyle_sqlServer : SqlServer.dialect.HasStyle .sqlServer := rfl

end SqlCompose
