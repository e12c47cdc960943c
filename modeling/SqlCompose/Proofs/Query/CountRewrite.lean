import SqlCompose.Proofs.Query.Counting
import SqlCompose.Proofs.Query.FirstDefect
import SqlCompose.Proofs.Query.Portable
import SqlCompose.Proofs.Query.ValueFree
import SqlCompose.Proofs.Query.Vocabulary

/-!
# A COUNT is the SELECT of a rewritten query

Without groups and without a window a COUNT is the SELECT of `Query.counting`, otherwise the count
of a derived table, the SELECT of `Query.derived` (`answer_toCount_counting`,
`answer_toCount_derived`). What a COUNT checks is what its SELECT checks, short of an order that it
drops (`countChecks`), so the two fail alike as far as they share their clauses. The words of the
compiler up to HAVING (`sourceWords`) have no ORDER BY, so one in a derived table comes with a
window. The main theorem is `count_is_select`.
-/

namespace SqlCompose

namespace Query

/-! ## The rewritten queries -/

/-- The query whose own SELECT is the COUNT. -/
def counting (q : Query) : Query := { q with projection := ⟨countProjection⟩, orders := [] }

/-- The query whose SELECT is the derived table of the COUNT. -/
def derived (q : Query) : Query :=
  { q with
    projection := ⟨q.innerProjection⟩
    orders := if q.isPaginated then q.orders else [] }

/-- The window of the derived table. -/
def derivedWindow (q : Query) (d : Dialect) : String :=
  d.pagination q.limit q.offset !q.derived.orders.isEmpty

/-- The count of a derived table, with the bindings of the table. -/
def tableCount : String × List Value → String × List Value
  | (sql, params) =>
    ("SELECT COUNT(*) AS aggregate FROM (" ++ sql ++ ") AS aggregate_table", params)

variable {q : Query} {d : Dialect} {w : WindowStyle}

/-- A last step is known by what it does to text and bindings. -/
theorem answer_bind_pure {f : Statement → Statement} {g : String × List Value → String × List Value}
    (h : ∀ s, (f s).view = g s.view) (x : Except CompileError Statement) :
    answer (x >>= fun s => pure (f s)) = g <$> answer x := by
  cases x with
  | error e => rfl
  | ok s => exact congrArg Except.ok (h s)

theorem tail_unordered (hd : d.HasStyle w) (ho : q.orders = []) (hp : q.isPaginated = false) :
    q.tail d = .ok "" := by
  obtain ⟨hLimit, hOffset⟩ : q.limit = none ∧ q.offset = none := by simpa [isPaginated] using hp
  have hw : d.pagination none none false = "" := by rw [hd, WindowStyle.pagination_none]
  simp [tail, orderSql, ho, hLimit, hOffset, hw, pure, Except.pure, bind, Except.bind]

/-- Without order and window nothing comes behind HAVING. -/
theorem answer_toSelect_unordered (hd : d.HasStyle w) (ho : q.orders = [])
    (hp : q.isPaginated = false) :
    answer (q.toSelect d) = answer (q.selectWith d q.projection.expression false) := by
  have hEq : q.toSelect d = do
      let body ← q.body q.projection.expression
      return body ++ [.text ""] := by
    simp only [toSelect, selectWith, tail_unordered hd ho hp, if_true, ok_bind_eq]
  rw [hEq, answer_bind_pure (g := id) fun s => by simp [Statement.view]]
  simp [selectWith]

theorem answer_toCount_counting (hd : d.HasStyle w) (hg : q.groups = [])
    (hp : q.isPaginated = false) : answer (q.toCount d) = answer (q.counting.toSelect d) := by
  rw [answer_toSelect_unordered (q := q.counting) hd rfl hp, toCount,
    if_pos (by simp [hg, hp])]
  rfl

theorem answer_derived (hd : d.HasStyle w) (q : Query) :
    answer (q.derived.toSelect d) =
      answer (q.selectWith d q.innerProjection q.isPaginated) := by
  cases hp : q.isPaginated with
  | true =>
    have ho : q.derived = { q with projection := ⟨q.innerProjection⟩ } := by
      simp [derived, hp]
    rw [ho]
    rfl
  | false =>
    have ho : q.derived.orders = [] := by simp [derived, hp]
    rw [answer_toSelect_unordered hd ho hp]
    rfl

theorem view_tableCount (s : Statement) :
    Statement.view ([.text "SELECT COUNT(*) AS aggregate FROM ("] ++ s ++
      [.text ") AS aggregate_table"]) = tableCount s.view := by
  refine Prod.ext ?_ ?_
  · simp only [Statement.view, Statement.sql_append, Statement.sql_text, Statement.sql_nil,
      String.append_empty]
    rfl
  · simp only [Statement.view, Statement.params_append, Statement.params_text,
      Statement.params_nil, List.nil_append, List.append_nil]
    rfl

theorem answer_toCount_derived (hd : d.HasStyle w) (h : q.groups ≠ [] ∨ q.isPaginated = true) :
    answer (q.toCount d) = tableCount <$> answer (q.derived.toSelect d) := by
  have hc : ¬(q.groups.isEmpty && !q.isPaginated) = true := by simpa [or_iff_not_imp_left] using h
  have hEq : q.toCount d = do
      let inner ← q.selectWith d q.innerProjection q.isPaginated
      return [.text "SELECT COUNT(*) AS aggregate FROM ("] ++ inner ++
        [.text ") AS aggregate_table"] := by
    rw [toCount, if_neg hc]
    rfl
  rw [hEq, answer_derived hd]
  exact answer_bind_pure view_tableCount _

/-! ## Which queries have a COUNT -/

theorem exists_toCount_params {s : Statement} (h : q.toSelect d = .ok s) :
    ∃ c, q.toCount d = .ok c ∧ c.params = s.params := by
  obtain ⟨c, hc⟩ := exists_toCount h
  exact ⟨c, hc, (view_toCount hc).2.trans (view_toSelect h).2.symm⟩

theorem toSelect_eq_error_iff_toCount (hp : q.isPaginated = true) (e : CompileError) :
    q.toSelect d = .error e ↔ q.toCount d = .error e := by
  rw [q.makes_toSelect d e, q.makes_toCount d e, selectChecks, countChecks, if_pos hp]

theorem exists_toCount_iff (hp : q.isPaginated = false) :
    (∃ c, q.toCount d = .ok c) ↔ q.HasSoundSource := by
  rw [(q.makes_toCount d).exists_ok_iff, ← source_passes_iff, countChecks]
  simp [hp]

/-! ## The window of the derived table -/

theorem pagination_ne_empty (hd : d.HasStyle w) (hp : q.isPaginated = true) :
    d.pagination q.limit q.offset (!q.orders.isEmpty) ≠ "" := by
  rw [hd, pagination_eq]
  intro hEmpty
  have hWindow := (String.append_eq_empty_iff.1 hEmpty).2
  rw [pagination_eq_empty_iff, hp] at hWindow
  cases hWindow

/-- An ORDER BY of the compiler in a derived table comes with a window behind it. -/
theorem derivedWindow_ne_of_orderBy (hd : d.HasStyle w) {words : String}
    (hWords : .own words ∈ q.derived.selectLayout d)
    (hOrder : "ORDER BY".toList <:+: words.toList) : q.derivedWindow d ≠ "" := by
  cases hp : q.isPaginated with
  | true => exact pagination_ne_empty (q := q.derived) hd hp
  | false =>
    exfalso
    obtain ⟨hLimit, hOffset⟩ : q.limit = none ∧ q.offset = none := by simpa [isPaginated] using hp
    have hTail : q.derived.tailLayout d = [.own ""] := by
      have hWindow : d.pagination none none false = "" := by rw [hd, WindowStyle.pagination_none]
      simp [tailLayout, orderLayout, derived, hp, hLimit, hOffset, hWindow]
    rw [selectLayout, hTail, List.mem_append, List.mem_singleton] at hWords
    rcases hWords with hBody | hTail
    · exact q.derived.unordered_bodyLayout _ words hBody hOrder
    · obtain rfl := Span.own.inj hTail
      exact absurd hOrder (by decide)

/-- The window ends the derived table. -/
theorem derivedWindow_suffix (q : Query) (d : Dialect) :
    (q.derivedWindow d).toList <:+ (q.derived.selectLayout d).sql.toList := by
  have hTail : (q.derived.tailLayout d).sql = q.derived.orderLayout.sql ++ q.derivedWindow d := by
    rw [tailLayout, Layout.sql_append, Layout.sql_cons, Layout.sql_nil, String.append_empty]
    rfl
  rw [selectLayout, Layout.sql_append, hTail, String.toList_append, String.toList_append]
  exact (List.suffix_append _ _).trans (List.suffix_append _ _)

/-! ## The COUNT of a query -/

/-- The COUNT of the query is the SELECT of a rewritten one. -/
structure CountsBySelect (q : Query) (d : Dialect) : Prop where
  /-- Without groups and window it is the SELECT of the number of rows. -/
  counting : q.groups = [] → q.isPaginated = false →
    answer (q.toCount d) = answer (q.counting.toSelect d)
  /-- Otherwise it counts a derived table. -/
  derived : q.groups ≠ [] ∨ q.isPaginated = true →
    answer (q.toCount d) = tableCount <$> answer (q.derived.toSelect d)
  params : ∀ s, q.toSelect d = .ok s → ∃ c, q.toCount d = .ok c ∧ c.params = s.params
  errors : q.isPaginated = true → ∀ e, q.toSelect d = .error e ↔ q.toCount d = .error e
  /-- Without a window the order is not looked at. -/
  compiles : q.isPaginated = false → ((∃ c, q.toCount d = .ok c) ↔ q.HasSoundSource)
  /-- The derived table has an ORDER BY of the compiler only if it ends in a window. -/
  ordered : ∀ s, q.derived.toSelect d = .ok s → s.sql = (q.derived.selectLayout d).sql ∧
    ∀ words, .own words ∈ q.derived.selectLayout d → "ORDER BY".toList <:+: words.toList →
      q.derivedWindow d ≠ "" ∧ (q.derivedWindow d).toList <:+ s.sql.toList

/-- **A COUNT is the SELECT of a rewritten query**, on its own or as a derived table. -/
theorem count_is_select (q : Query) (hd : d.HasStyle w) : q.CountsBySelect d where
  counting := answer_toCount_counting hd
  derived := answer_toCount_derived hd
  params _ := exists_toCount_params
  errors := toSelect_eq_error_iff_toCount
  compiles := exists_toCount_iff
  ordered s hs := by
    have hSql : s.sql = (q.derived.selectLayout d).sql := (view_toSelect hs).1
    refine ⟨hSql, fun words hWords hOrder => ⟨derivedWindow_ne_of_orderBy hd hWords hOrder, ?_⟩⟩
    rw [hSql]
    exact q.derivedWindow_suffix d

/-- Groups with an order that is not one, and with or without a limit. -/
def misorderedQuery (limit : Option UInt64) : Query :=
  { on "t" with groups := ["g"], orders := [⟨"o", "up"⟩], limit }

/-- The order counts with the window alone. -/
theorem misorderedQuery_count :
    SqlServer.dialect.HasStyle .sqlServer ∧
      answer ((misorderedQuery none).toCount SqlServer.dialect) =
        tableCount <$> answer ((misorderedQuery none).derived.toSelect SqlServer.dialect) ∧
      (∃ c, (misorderedQuery none).toCount SqlServer.dialect = .ok c ∧ c.sql =
        "SELECT COUNT(*) AS aggregate FROM (SELECT * FROM t GROUP BY g) AS aggregate_table") ∧
      (misorderedQuery (some 3)).toCount SqlServer.dialect = .error (.invalidDirection "up") := by
  have hd : SqlServer.dialect.HasStyle .sqlServer := Dialect.hasStyle_sqlServer
  have hPlain := count_is_select (misorderedQuery none) hd
  have hLimited := count_is_select (misorderedQuery (some 3)) hd
  obtain ⟨c, hc⟩ := (hPlain.compiles rfl).2 ⟨nofun, nofun, nofun⟩
  refine ⟨hd, hPlain.derived (.inl (by decide)), ⟨c, hc, ?_⟩, (hLimited.errors rfl _).1 rfl⟩
  cases hc
  decide +kernel

end Query

end SqlCompose
