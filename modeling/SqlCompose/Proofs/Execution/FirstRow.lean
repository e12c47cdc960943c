import SqlCompose.Proofs.Dialect.Reading
import SqlCompose.Proofs.Execution.CountAnswer
import SqlCompose.Proofs.Query.Counting
import SqlCompose.Proofs.Query.FirstDefect

/-!
# Three ways to ask for a row

`get` asks for the rows of a query, `first` asks for them with a limit of one, and `anyRow` asks for
their number. `Server.Backs` ties the statements behind them to the rows of one server. There the
three agree on whether there is a row, and `first` is the first row of `get`, for every limit but
zero: `first` does not tighten the limit of its builder but replaces it (`first_agrees_iff`).
-/

namespace SqlCompose

/-! ## Windows and their first rows -/

namespace WindowStyle

variable {α : Type} (w : WindowStyle) (limit offset : Option UInt64) (rows : List α)

/-- A window begins with the first row behind its offset, except that no row is in a window of
length zero. -/
theorem head?_apply_eq_iff :
    (w.apply limit offset rows).head? = (rows.drop (offset.elim 0 UInt64.toNat)).head? ↔
      limit ≠ some 0 ∨ rows.length ≤ offset.elim 0 UInt64.toNat := by
  by_cases hl : limit = some 0
  · rw [hl, apply_limit_zero, List.head?_nil, eq_comm, List.head?_eq_none_iff,
      List.drop_eq_nil_iff]
    simp
  · exact iff_of_true (w.head?_apply hl offset rows) (.inl hl)

theorem isSome_head?_eq_iff :
    (rows.drop (offset.elim 0 UInt64.toNat)).head?.isSome =
        decide (0 < (w.apply limit offset rows).length) ↔
      limit ≠ some 0 ∨ rows.length ≤ offset.elim 0 UInt64.toNat := by
  by_cases hl : limit = some 0
  · rw [hl, apply_limit_zero]
    simp
  · refine iff_of_true ?_ (.inl hl)
    rw [← w.head?_apply hl]
    cases w.apply limit offset rows <;> simp

end WindowStyle

/-! ## Databases in front of a server -/

namespace Database

variable (o : Database) (h : History) (q : Query)

/-- What a builder with a query answers behind earlier calls. -/
def get : Except Error (List Row) := (Attempt.behind (Builder.get ⟨o.executor, q⟩) h).1

def first : Except Error (Option Row) := (Attempt.behind (Builder.first ⟨o.executor, q⟩) h).1

def count : Except Error Nat := (Attempt.behind (Builder.count ⟨o.executor, q⟩) h).1

def anyRow : Except Error Bool := (Attempt.behind (Builder.anyRow ⟨o.executor, q⟩) h).1

theorem get_eq : o.get h q =
    (Attempt.behind (Builder.fetch ⟨o.executor, q⟩ (q.toSelect o.dialect)) h).1 := rfl

theorem first_eq : o.first h q =
    (Attempt.behind (Builder.fetch ⟨o.executor, q⟩
      ({ q with limit := some 1 }.toSelect o.dialect)) h).1.map List.head? := by
  show (Attempt.behind (Builder.fetch ⟨o.executor, q⟩
    ({ q with limit := some 1 }.toSelect o.dialect) >>= _) h).1 = _
  rw [behind_bind]
  obtain ⟨rows | e, h'⟩ := Attempt.behind (Builder.fetch ⟨o.executor, q⟩ _) h <;> rfl

theorem anyRow_eq : o.anyRow h q = (o.count h q).map fun n => decide (0 < n) := by
  show (Attempt.behind (Builder.count ⟨o.executor, q⟩ >>= _) h).1 = _
  unfold count
  rw [behind_bind]
  obtain ⟨n | e, h'⟩ := Attempt.behind (Builder.count ⟨o.executor, q⟩) h <;> rfl

/-- The statement always runs and is answered by the rows. -/
def Answers (s : Statement) (rows : List Row) : Prop :=
  ∀ history, o.prepare history s.sql = .ok () ∧
    o.execute (history ++ [.prepare s.sql]) s.params = .ok true ∧
    o.fetchAll (history ++ [.prepare s.sql, .execute s.params]) = .ok rows

end Database

namespace Server

variable {Source Out : Type} (v : Server Source Out) (w : WindowStyle)
variable (encode : Answer Out → Row)

/-- The database is one in front of a server, as far as a query is concerned: the SELECT, whatever
its limit, and the COUNT are answered by the rows of their readings. A row for a number is one that
counts it. -/
structure Backs (o : Database) (q : Query) : Prop where
  style : o.dialect.HasStyle w
  selected : ∀ limit s, { q with limit }.selectReading.Of o.dialect s →
    o.Answers s ((v.answer w { q with limit }.selectReading).map encode)
  counted : ∀ s, q.countReading.Of o.dialect s →
    o.Answers s ((v.answer w q.countReading).map encode)
  readable : ∀ n, v.answer w q.countReading = [.number n] → Counts [encode (.number n)] n

/-- The rows of a query in their order, before its window. -/
def allRows (q : Query) : List Row :=
  let c := q.clauses q.projection.expression true
  (v.order c.orders (v.kept c)).map encode

theorem map_answer_selectReading (q : Query) (limit : Option UInt64) :
    (v.answer w { q with limit }.selectReading).map encode =
      w.apply limit q.offset (v.allRows encode q) :=
  w.map_apply encode limit q.offset _

theorem length_answer_selectReading (q : Query) :
    (v.answer w q.selectReading).length =
      (w.apply q.limit q.offset (v.allRows encode q)).length := by
  rw [← v.map_answer_selectReading w encode q q.limit, List.length_map]

end Server

/-! ## The three answers -/

/-- The limit has no part in what is checked. -/
theorem Query.toSelect_limit_eq_error_iff (q : Query) (d : Dialect) (limit : Option UInt64)
    {e : CompileError} : { q with limit }.toSelect d = .error e ↔ q.toSelect d = .error e :=
  (Query.makes_toSelect { q with limit } d e).trans (q.makes_toSelect d e).symm

theorem Query.exists_toSelect_limit {q : Query} {d : Dialect} {s : Statement}
    (hs : q.toSelect d = .ok s) (limit : Option UInt64) :
    ∃ s', { q with limit }.toSelect d = .ok s' :=
  (Query.makes_toSelect { q with limit } d).exists_ok_iff.2
    ((q.makes_toSelect d).exists_ok_iff.1 ⟨s, hs⟩)

section
variable {Source Out : Type} {v : Server Source Out} {w : WindowStyle} {encode : Answer Out → Row}
variable {o : Database} {q : Query} {s : Statement} {rows : List Row}

theorem Database.Answers.fetch (ha : o.Answers s rows) (h : History) :
    Attempt.behind (Builder.fetch ⟨o.executor, q⟩ (.ok s)) h =
      (.ok rows, h ++ [.prepare s.sql, .execute s.params, .fetchAll]) := by
  obtain ⟨hprepare, hexecute, hfetch⟩ := ha h
  show Attempt.behind (o.executor.fetch s.sql s.params) h = _
  rw [o.behind_fetch, hprepare]
  simp only [hexecute, hfetch]

namespace Server.Backs

/-- The SELECT with any limit leaves the window with that limit. -/
theorem fetch_select (hv : v.Backs w encode o q) (limit : Option UInt64)
    (hs : { q with limit }.toSelect o.dialect = .ok s) (h : History) :
    ∃ h', Attempt.behind (Builder.fetch ⟨o.executor, q⟩ (.ok s)) h =
      (.ok (w.apply limit q.offset (v.allRows encode q)), h') := by
  have ha := hv.selected limit s (Query.selectReading_of hs)
  rw [map_answer_selectReading] at ha
  exact ⟨_, ha.fetch h⟩

theorem get (hv : v.Backs w encode o q) (hs : q.toSelect o.dialect = .ok s) (h : History) :
    o.get h q = .ok (w.apply q.limit q.offset (v.allRows encode q)) := by
  obtain ⟨h', hfetch⟩ := hv.fetch_select q.limit hs h
  rw [Database.get_eq, hs, hfetch]

theorem first (hv : v.Backs w encode o q) (hs : q.toSelect o.dialect = .ok s) (h : History) :
    o.first h q =
      .ok ((v.allRows encode q).drop (q.offset.elim 0 UInt64.toNat)).head? := by
  obtain ⟨s', hs'⟩ := Query.exists_toSelect_limit hs (some 1)
  obtain ⟨h', hfetch⟩ := hv.fetch_select (some 1) hs' h
  have hone : (some 1 : Option UInt64) ≠ some 0 := by decide
  rw [Database.first_eq, hs', hfetch, ← w.head?_apply hone]
  rfl

theorem count (hv : v.Backs w encode o q) (hs : q.toSelect o.dialect = .ok s)
    (hr : v.kind q.projection.expression = .rowWise) (hc : q.CountsItsRows) (h : History) :
    o.count h q = .ok (w.apply q.limit q.offset (v.allRows encode q)).length := by
  obtain ⟨c, hcount⟩ := Query.exists_toCount hs
  have hagrees : q.CountAgrees v w := Query.countAgrees_of_countsItsRows hr hc
  have hfetch := (hv.counted c (Query.countReading_of hv.style hcount)).fetch (q := q) h
  have hread := hv.readable _ hagrees
  rw [hagrees, ← hcount] at hfetch
  unfold Database.count
  rw [behind_count hfetch, List.map_singleton, readCount_eq_ok_iff.2 hread,
    v.length_answer_selectReading w encode]
  rfl

end Server.Backs

/-- **The first row.** A query that does not compile fails in `get` and `first` alike. Otherwise
`get` leaves the window of all rows, and `first` the first row behind the offset. That is the first
row of `get`, and there is one exactly if there are rows in the window, unless the limit is zero and
the offset leaves rows. The number of rows in the window is what `anyRow` tests. -/
theorem first_agrees_iff (hv : v.Backs w encode o q) (h h' h'' : History) :
    (∀ e, q.toSelect o.dialect = .error e →
      o.get h q = .error (.compile e) ∧ o.first h' q = .error (.compile e)) ∧
    (∀ s, q.toSelect o.dialect = .ok s →
      let all := v.allRows encode q
      let rows := w.apply q.limit q.offset all
      let start := q.offset.elim 0 UInt64.toNat
      o.get h q = .ok rows ∧ o.first h' q = .ok (all.drop start).head? ∧
      (o.first h' q = (o.get h q).map List.head? ↔ q.limit ≠ some 0 ∨ all.length ≤ start) ∧
      ((o.first h' q).map Option.isSome = .ok (decide (0 < rows.length)) ↔
        q.limit ≠ some 0 ∨ all.length ≤ start) ∧
      (v.kind q.projection.expression = .rowWise → q.CountsItsRows →
        o.count h'' q = .ok rows.length)) ∧
    o.anyRow h'' q = (o.count h'' q).map fun n => decide (0 < n) := by
  refine ⟨fun e he => ?_, fun s hs => ?_, o.anyRow_eq h'' q⟩
  · have he' := (q.toSelect_limit_eq_error_iff o.dialect (some 1)).2 he
    rw [Database.get_eq, he, Database.first_eq, he']
    exact ⟨rfl, rfl⟩
  · intro all rows start
    have hget : o.get h q = .ok rows := hv.get hs h
    have hfirst : o.first h' q = .ok (all.drop start).head? := hv.first hs h'
    refine ⟨hget, hfirst, ?_, ?_, fun hr hc => hv.count hs hr hc h''⟩
    · rw [hfirst, hget, ← w.head?_apply_eq_iff, eq_comm]
      exact Iff.of_eq (Except.ok.injEq _ _)
    · rw [hfirst, ← w.isSome_head?_eq_iff]
      exact Iff.of_eq (Except.ok.injEq _ _)

end

/-! ## A table of users -/

/-- The kind of a projection to columns or to a bare count. -/
def simpleKind (projection : String) : ProjectionKind :=
  if projection = countProjection then .count else .rowWise

/-- A server that holds one table and gives its rows out as they are. -/
def tableServer (rows : List Row) : Server Row Row where
  source _ _ := rows
  grouping _ rows := [rows]
  kind := simpleKind
  kind_count := rfl
  kind_constant := rfl
  columns _ group := group.headD .empty
  special _ _ := []
  keeps _ _ _ := true
  order _ rows := rows
  order_perm _ _ := .refl _

def Answer.toRow : Answer Row → Row
  | row columns => columns
  | number n => .ofList [("aggregate", .int (.ofNat n))]

/-- All users, or a window of them. -/
def Query.users (limit offset : Option UInt64) : Query := { on "users" with limit, offset }

/-- The window that the text of a SELECT of users asks for. -/
def usersWindow? (sql : String) : Option Window :=
  WindowStyle.mySql.read (String.ofList (sql.toList.drop "SELECT * FROM users".length))

/-- The database of a table of users, which knows the COUNT of one query. -/
def Database.ofUsers (rows : List Row) (q : Query) : Database :=
  .ofRows MySql.dialect fun sql _ =>
    if sql = q.countReading.sql MySql.dialect then
      ((tableServer rows).answer .mySql q.countReading).map Answer.toRow
    else (usersWindow? sql).elim [] (·.apply rows)

section
variable (rows : List Row) (limit offset : Option UInt64)

theorem kind_users :
    (tableServer rows).kind (Query.users limit offset).projection.expression = .rowWise := by
  show simpleKind "*" = .rowWise
  decide

theorem allRows_users : (tableServer rows).allRows Answer.toRow (.users limit offset) = rows := by
  have hkept : (tableServer rows).kept ((Query.users limit offset).clauses "*" true) =
      rows.map .row := by
    have hkind : (tableServer rows).kind "*" = .rowWise := kind_users rows limit offset
    rw [Query.kept_clauses rfl]
    simp only [Server.projected, Query.clauses, hkind]
    rfl
  show ((tableServer rows).kept ((Query.users limit offset).clauses "*" true)).map Answer.toRow =
    rows
  rw [hkept, List.map_map]
  exact List.map_id rows

theorem sql_selectReading_users : (Query.users limit offset).selectReading.sql MySql.dialect =
    "SELECT * FROM users" ++ WindowStyle.mySql.pagination limit offset true := by
  have hhead : "SELECT " ++ "*" ++ " FROM " ++ Layout.sql [.copied "users"] ++ "" ++ "" ++ "" =
    "SELECT * FROM users" := by decide +kernel
  rw [← hhead]
  rfl

theorem usersWindow?_append :
    usersWindow? ("SELECT * FROM users" ++ WindowStyle.mySql.pagination limit offset true) =
      some ⟨offset.elim 0 UInt64.toNat, WindowStyle.mySql.rowCount limit offset⟩ := by
  unfold usersWindow?
  rw [String.toList_append, List.drop_left' String.length_toList, String.ofList_toList,
    WindowStyle.read_pagination]

/-- A COUNT of users has not the text of a SELECT of users. -/
theorem sql_countReading_users_ne (tail : String) :
    "SELECT * FROM users" ++ tail ≠ (Query.users limit offset).countReading.sql MySql.dialect := by
  have hcount : ((Query.users limit offset).countReading.sql MySql.dialect).toList.take 8 =
      "SELECT C".toList := by
    unfold Query.countReading
    split <;> simp [Reading.sql, Clauses.sql, Query.clauses, countProjection]
  intro h
  rw [← h, String.toList_append] at hcount
  exact absurd hcount (by simp)

theorem counts_toRow_number {n : Nat} (hn : n < 9223372036854775808) :
    Counts [Answer.toRow (.number n)] n := by
  have hvalue : (Value.int (.ofNat n)).StandsFor n := by
    have hint := Value.StandsFor.int (.ofNat n)
    rwa [Int64.toInt_ofNat_of_lt hn] at hint
  exact .first (.aggregate rfl) hvalue

theorem backs_ofUsers (hrows : rows.length < 9223372036854775808) :
    (tableServer rows).Backs .mySql Answer.toRow (.ofUsers rows (.users limit offset))
      (.users limit offset) where
  style := Dialect.hasStyle_mySql {}
  selected l s hs := by
    intro history
    have htext : s.sql = "SELECT * FROM users" ++ WindowStyle.mySql.pagination l offset true :=
      hs.1.trans (sql_selectReading_users l offset)
    refine ⟨rfl, rfl, ?_⟩
    rw [Server.map_answer_selectReading, allRows_users, Database.ofUsers,
      Database.fetchAll_ofRows, htext, usersWindow?_append,
      if_neg (sql_countReading_users_ne limit offset _)]
    rfl
  counted s hs := by
    intro history
    refine ⟨rfl, rfl, ?_⟩
    have htext : s.sql = (Query.users limit offset).countReading.sql MySql.dialect := hs.1
    rw [Database.ofUsers, Database.fetchAll_ofRows, if_pos htext]
  readable n hn := by
    have hagrees := (Query.countAgrees_of_no_havings (w := .mySql)
      (kind_users rows limit offset) rfl rfl).symm.trans hn
    have hlength : (WindowStyle.mySql.apply limit offset rows).length = n := by
      injection hagrees with hnumber
      injection hnumber with hnumber
      rwa [Server.length_answer_selectReading _ _ Answer.toRow, allRows_users] at hnumber
    have hle := WindowStyle.mySql.length_apply_le limit offset rows
    exact counts_toRow_number (by omega)

end

/-- A user with nothing but an identity. -/
def user (n : Int64) : Row := .ofList [("id", .int n)]

/-- The second and the third of three users. -/
theorem first_agrees_on_second_user :
    let q := Query.users (some 2) (some 1)
    let o := Database.ofUsers [user 7, user 8, user 9] q
    (tableServer [user 7, user 8, user 9]).Backs .mySql Answer.toRow o q ∧
      o.get [] q = .ok [user 8, user 9] ∧ o.first [] q = (o.get [] q).map List.head? ∧
      o.count [] q = .ok 2 := by
  intro q o
  have hv := backs_ofUsers [user 7, user 8, user 9] (some 2) (some 1) (by decide)
  obtain ⟨hget, -, hfirst, -, hcount⟩ := (first_agrees_iff hv [] [] []).2.1 _ rfl
  have hrow := kind_users [user 7, user 8, user 9] (some 2) (some 1)
  rw [allRows_users] at hget hcount
  exact ⟨hv, hget, hfirst.2 (.inl (by decide)), hcount hrow (.inl rfl)⟩

/-- With a limit of zero there is no user to get, but there is a first one. -/
theorem first_under_limit_zero :
    let q := Query.users (some 0) none
    let o := Database.ofUsers [user 7] q
    (tableServer [user 7]).Backs .mySql Answer.toRow o q ∧ q.groups = [] ∧ q.havings = [] ∧
      o.get [] q = .ok [] ∧ o.anyRow [] q = .ok false ∧ o.first [] q = .ok (some (user 7)) := by
  intro q o
  have hv := backs_ofUsers [user 7] (some 0) none (by decide)
  have hget := hv.get rfl []
  have hfirst := hv.first rfl []
  have hcount := hv.count rfl (kind_users [user 7] (some 0) none) (.inl rfl) []
  rw [allRows_users] at hget hfirst hcount
  have hany : o.anyRow [] q = .ok false := by
    rw [Database.anyRow_eq, hcount]
    rfl
  exact ⟨hv, rfl, rfl, hget, hany, hfirst⟩

end SqlCompose
