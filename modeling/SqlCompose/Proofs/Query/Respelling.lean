import SqlCompose.Dialect.MySql
import SqlCompose.Proofs.Query.FirstDefect
import SqlCompose.Proofs.Query.ValueFree

/-!
# Operators and directions reach the text as fixed words

`Query.respell` puts the canonical spelling in the place of every operator and direction that spells
one. Each clause is written as before (`Join.sql_respell` and its companions), so every statement of
the query stays as it is, and so do its errors (`compile_respell`). The checks of a respelled query
are the respelled checks (`checks_respell`): what a statement says of an operator is one of nine
words, and of a direction one of two.
-/

namespace SqlCompose

/-! ## Canonical spellings -/

def Join.respell (j : Join) : Join := { j with operator := Comparison.respell j.operator }

def Test.respell : Test → Test
  | compare operator value => compare (Comparison.respell operator) value
  | test => test

def Predicate.respell (p : Predicate) : Predicate := { p with test := p.test.respell }

def Order.respell (o : Order) : Order := { o with direction := Direction.respell o.direction }

def Check.respell : Check → Check
  | operator text => operator (Comparison.respell text)
  | direction text => direction (Direction.respell text)
  | c => c

namespace Query

/-- The query with the canonical spelling of each operator and each direction that has one. -/
def respell (q : Query) : Query :=
  { q with
    joins := q.joins.map Join.respell
    wheres := q.wheres.map Predicate.respell
    havings := q.havings.map Predicate.respell
    orders := q.orders.map Order.respell }

/-- What a statement of the query is checked for. An INSERT has no operators and no directions. -/
def checks (q : Query) : Request → List Check
  | .select _ => q.selectChecks
  | .count _ => q.countChecks
  | .insert _ => []
  | .update values => q.updateChecks values
  | .delete => q.wheres.checks

end Query

/-! ## Clauses -/

theorem Join.sql_respell (j : Join) : j.respell.sql = j.sql := by
  simp only [sql, respell, Comparison.parse_respell]

theorem Order.sql_respell (o : Order) : o.respell.sql = o.sql := by
  simp only [sql, respell, Direction.parse_respell]

theorem Predicate.statement_respell (p : Predicate) : p.respell.statement = p.statement := by
  obtain ⟨column, test, connective⟩ := p
  cases test with
  | compare operator value =>
    simp only [statement, respell, Test.respell, Comparison.parse_respell]
  | among values negated => rfl
  | missing negated => rfl

namespace Condition

theorem following_respell (ps : Condition) :
    following (ps.map Predicate.respell) = following ps := by
  induction ps with
  | nil => rfl
  | cons p ps ih =>
    have hk : p.respell.connective = p.connective := rfl
    simp only [List.map_cons, following, Predicate.statement_respell, ih, hk]

theorem clause_respell (keyword : String) (ps : Condition) :
    clause keyword (ps.map Predicate.respell) = clause keyword ps := by
  cases ps with
  | nil => rfl
  | cons p ps =>
    simp only [List.map_cons, clause, statement, Predicate.statement_respell, following_respell,
      List.isEmpty_cons]

end Condition

/-! ## Statements -/

namespace Query

theorem body_respell (q : Query) (projection : String) :
    q.respell.body projection = q.body projection := by
  have hJoins : Join.sql ∘ Join.respell = Join.sql := funext Join.sql_respell
  have hGroups : q.respell.groupSql = q.groupSql := rfl
  rw [body, body, hGroups]
  simp only [respell, Condition.clause_respell, List.mapM_map, hJoins]

theorem tail_respell (q : Query) (d : Dialect) : q.respell.tail d = q.tail d := by
  have hOrders : Order.sql ∘ Order.respell = Order.sql := funext Order.sql_respell
  simp only [tail, orderSql, respell, List.mapM_map, hOrders, List.isEmpty_map]

theorem selectWith_respell (q : Query) (d : Dialect) (projection : String) (withTail : Bool) :
    q.respell.selectWith d projection withTail = q.selectWith d projection withTail := by
  simp only [selectWith, body_respell, tail_respell]

theorem compile_respell (q : Query) (r : Request) : q.respell.compile r = q.compile r := by
  cases r with
  | select d => exact q.selectWith_respell d _ true
  | count d =>
    have hg : q.respell.groups = q.groups := rfl
    have hp : q.respell.isPaginated = q.isPaginated := rfl
    have he : q.respell.projection = q.projection := rfl
    simp only [compile, toCount, selectWith_respell, hg, hp, he]
  | insert rows => rfl
  | update values =>
    have ht : q.respell.table = q.table := rfl
    have hw : q.respell.wheres = q.wheres.map Predicate.respell := rfl
    simp only [compile, toUpdate, ht, hw, Condition.clause_respell]
  | delete =>
    have ht : q.respell.table = q.table := rfl
    have hw : q.respell.wheres = q.wheres.map Predicate.respell := rfl
    simp only [compile, toDelete, ht, hw, Condition.clause_respell]

end Query

/-! ## Checks -/

theorem Predicate.checks_respell (p : Predicate) :
    p.respell.checks = p.checks.map Check.respell := by
  obtain ⟨column, test, connective⟩ := p
  cases test <;> rfl

theorem Condition.checks_respell (ps : Condition) :
    Condition.checks (ps.map Predicate.respell) = ps.checks.map Check.respell := by
  simp only [Condition.checks, List.flatMap_map, List.map_flatMap, Predicate.checks_respell]

namespace Query

theorem sourceChecks_respell (q : Query) :
    q.respell.sourceChecks = q.sourceChecks.map Check.respell := by
  have hJoin : ∀ j : Join, j.respell.checks = j.checks.map Check.respell := fun _ => rfl
  simp only [sourceChecks, respell, List.map_append, Condition.checks_respell, List.flatMap_map,
    List.map_flatMap, hJoin]

theorem orderChecks_respell (q : Query) :
    q.respell.orderChecks = q.orderChecks.map Check.respell := by
  have hOrder : ∀ o : Order, o.respell.checks = o.checks.map Check.respell := fun _ => rfl
  simp only [orderChecks, respell, List.flatMap_map, List.map_flatMap, hOrder]

theorem checks_respell (q : Query) (r : Request) :
    q.respell.checks r = (q.checks r).map Check.respell := by
  cases r with
  | select d =>
    simp only [checks, selectChecks, sourceChecks_respell, orderChecks_respell, List.map_append]
  | count d =>
    have hp : q.respell.isPaginated = q.isPaginated := rfl
    simp only [checks, countChecks, sourceChecks_respell, orderChecks_respell, List.map_append, hp]
    split <;> rfl
  | insert rows => rfl
  | update values =>
    have hw : q.respell.wheres.checks = q.wheres.checks.map Check.respell :=
      Condition.checks_respell q.wheres
    simp only [checks, updateChecks, hw, List.map_append, List.map_cons, List.map_map]
    rfl
  | delete => exact Condition.checks_respell q.wheres

/-- A query with a statement has passed its checks. -/
theorem passes_of_compile {q : Query} {r : Request} {s : Statement} (h : q.compile r = .ok s) :
    ∀ c ∈ q.checks r, c.Passes := by
  cases r with
  | select d => exact (q.makes_toSelect d).exists_ok_iff.1 ⟨s, h⟩
  | count d => exact (q.makes_toCount d).exists_ok_iff.1 ⟨s, h⟩
  | insert rows => nofun
  | update values => exact (q.makes_toUpdate values).exists_ok_iff.1 ⟨s, h⟩
  | delete => exact q.makes_toDelete.exists_ok_iff.1 ⟨s, h⟩

/-- A check of a respelled query comes from a check that is passed. -/
theorem exists_passed {q : Query} {r : Request} {s : Statement} (h : q.compile r = .ok s)
    {c : Check} (hc : c ∈ q.respell.checks r) : ∃ c' : Check, c'.Passes ∧ c'.respell = c := by
  rw [checks_respell] at hc
  obtain ⟨c', hc', hText⟩ := List.mem_map.1 hc
  exact ⟨c', passes_of_compile h c' hc', hText⟩

theorem operator_mem_of_compile {q : Query} {r : Request} {s : Statement}
    (h : q.compile r = .ok s) {operator : String} (ho : .operator operator ∈ q.respell.checks r) :
    operator ∈ Comparison.all.map Comparison.sql := by
  obtain ⟨check, hPasses, hText⟩ := exists_passed h ho
  cases check with
  | operator text =>
    obtain ⟨c, hSpells⟩ := hPasses
    obtain rfl := Check.operator.inj hText
    rw [Comparison.respell_of_spells hSpells]
    exact List.mem_map_of_mem (Comparison.mem_all c)
  | column name | direction text | assignments values => cases hText

theorem direction_mem_of_compile {q : Query} {r : Request} {s : Statement}
    (h : q.compile r = .ok s) {direction : String}
    (ho : .direction direction ∈ q.respell.checks r) : direction = "ASC" ∨ direction = "DESC" := by
  obtain ⟨check, hPasses, hText⟩ := exists_passed h ho
  cases check with
  | direction text =>
    obtain ⟨d, hSpells⟩ := hPasses
    obtain rfl := Check.direction.inj hText
    rw [Direction.respell_of_spells hSpells]
    cases d
    · exact .inl rfl
    · exact .inr rfl
  | column name | operator text | assignments values => cases hText

/-! ## Fixed words -/

/-- **Operators and directions reach the text as fixed words.** A text is read as the operator that
its words spell in upper case, one of nine that each spell themselves. A statement and its error are
those of the respelled query, so queries that are respelled alike have the same; what a statement is
checked for is then one of the nine operators or one of the two directions. -/
theorem only_fixed_words :
    (∀ (operator : String) (c : Comparison),
      Comparison.parse operator = .ok c ↔ Comparison.Spells operator c) ∧
    Comparison.all.map Comparison.sql =
      ["=", "!=", "<>", "<", "<=", ">", ">=", "LIKE", "NOT LIKE"] ∧
    (∀ c : Comparison, c ∈ Comparison.all ∧ Comparison.parse c.sql = .ok c) ∧
    (∀ (q : Query) (r : Request), q.respell.compile r = q.compile r) ∧
    (∀ (q q' : Query) (r : Request), q.respell = q'.respell → q.compile r = q'.compile r) ∧
    ∀ (q : Query) (r : Request) (s : Statement), q.compile r = .ok s →
      (∀ operator, .operator operator ∈ q.respell.checks r →
        operator ∈ Comparison.all.map Comparison.sql) ∧
      ∀ direction, .direction direction ∈ q.respell.checks r →
        direction = "ASC" ∨ direction = "DESC" := by
  refine ⟨fun _ _ => Comparison.parse_eq_ok_iff, rfl, fun c => ?_, compile_respell,
    fun q q' r h => ?_, fun q r s h => ?_⟩
  · exact ⟨Comparison.mem_all c, Comparison.parse_eq_ok_iff.2 (Comparison.spells_sql c)⟩
  · rw [← compile_respell q, h, compile_respell]
  · exact ⟨fun _ => operator_mem_of_compile h, fun _ => direction_mem_of_compile h⟩

/-- A condition and an order whose operator and direction are given. -/
def spelledQuery (operator direction : String) : Query :=
  { on "t" with
    wheres := [⟨"a", .compare operator (.int 1), .and⟩]
    orders := [⟨"o", direction⟩] }

/-- Unusual blanks and a letter beyond ASCII whose upper case is `I`. -/
theorem spelledQuery_fixed :
    let q := spelledQuery "\u2003not\u00a0l\u0131ke" "\tdeSC "
    let q' := spelledQuery "NOT LIKE" "DESC"
    let r := Request.select MySql.dialect
    q.respell = q'.respell ∧ q.compile r = q'.compile r ∧
      ∃ s, q.compile r = .ok s ∧
        s.sql = "SELECT * FROM t WHERE a NOT LIKE ? ORDER BY o DESC" ∧
        .operator (Comparison.respell "\u2003not\u00a0l\u0131ke") ∈ q.respell.checks r ∧
        Comparison.respell "\u2003not\u00a0l\u0131ke" ∈ Comparison.all.map Comparison.sql := by
  have hOperator : Comparison.respell "\u2003not\u00a0l\u0131ke" =
      Comparison.respell "NOT LIKE" := by decide +kernel
  have hDirection : Direction.respell "\tdeSC " = Direction.respell "DESC" := by decide +kernel
  have hAlike : (spelledQuery "\u2003not\u00a0l\u0131ke" "\tdeSC ").respell =
      (spelledQuery "NOT LIKE" "DESC").respell := by
    simp [spelledQuery, respell, Predicate.respell, Test.respell, Order.respell, hOperator,
      hDirection]
  obtain ⟨-, -, -, -, hSame, hFixed⟩ := only_fixed_words
  have hCompile := hSame _ _ (.select MySql.dialect) hAlike
  have hOk : _ = Except.ok _ := hCompile.trans rfl
  have hMem : Check.operator (Comparison.respell "\u2003not\u00a0l\u0131ke") ∈
      (spelledQuery "\u2003not\u00a0l\u0131ke" "\tdeSC ").respell.checks
        (.select MySql.dialect) := .tail _ (.head _)
  exact ⟨hAlike, hCompile, _, hOk, by decide +kernel, hMem, (hFixed _ _ _ hOk).1 _ hMem⟩

end Query

end SqlCompose
