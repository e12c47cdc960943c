import SqlCompose.Dialect.MySql
import SqlCompose.Dialect.SqlServer
import SqlCompose.Proofs.Execution.Recording
import SqlCompose.Proofs.Schema.Pattern
import SqlCompose.Schema

/-!
# Asking for tables and columns

What the existence checks of a schema answer when the database serves a `Catalog`. SQL Server
compares the bound names (`SqlServer.Serves`), MySQL reads them as patterns (`MySql.Serves`).
`existence_exact_iff`: the answers of SQL Server are those of the catalog, whatever the names. The
answers of MySQL are those of every catalog for the names that are patterns of themselves alone, and
for no others.
-/

namespace SqlCompose

/-! ## Databases that serve a catalog -/

/-- The tables of a database, and the columns of a table. -/
structure Catalog where
  tables : List String
  columns : String → List String

namespace Database

/-- A statement that always runs and answers `n` rows. -/
def Replies (o : Database) (sql : String) (params : List Value) (n : Nat) : Prop :=
  ∀ history, o.prepare history sql = .ok () ∧
    o.execute (history ++ [.prepare sql]) params = .ok true ∧
    ∃ rows, o.fetchAll (history ++ [.prepare sql, .execute params]) = .ok rows ∧ rows.length = n

/-- What a schema says about a table behind earlier calls. -/
def hasTable (o : Database) (history : History) (table : String) : Except Error Bool :=
  (Attempt.behind (Schema.hasTable ⟨o.executor⟩ table) history).1

def hasColumn (o : Database) (history : History) (table column : String) : Except Error Bool :=
  (Attempt.behind (Schema.hasColumn ⟨o.executor⟩ table column) history).1

/-- The database that always runs its statements and answers one row for each of some names. -/
def ofNames (dialect : Dialect) (names : String → List Value → List String) : Database where
  dialect
  prepare _ _ := .ok ()
  execute _ _ := .ok true
  fetchAll history :=
    match history.reverse with
    | .execute params :: .prepare sql :: _ =>
      .ok ((names sql params).map fun name => .ofList [("name", .text name)])
    | _ => .ok []

end Database

/-- MySQL answers one row for each name that matches a pattern. -/
structure MySql.Serves (options : MySql.TableOptions) (o : Database) (c : Catalog) : Prop where
  dialect : o.dialect = MySql.dialect options
  tables : ∀ p, o.Replies "SHOW TABLES LIKE ?" [.text p] (c.tables.countP (Like.accepts p))
  columns : ∀ t ∈ c.tables, ∀ p, o.Replies ("SHOW COLUMNS FROM " ++ t ++ " LIKE ?") [.text p]
    ((c.columns t).countP (Like.accepts p))

/-- SQL Server answers one row for each name that is the bound one. -/
structure SqlServer.Serves (o : Database) (c : Catalog) : Prop where
  dialect : o.dialect = SqlServer.dialect
  tables : ∀ t, o.Replies
    "SELECT TABLE_NAME FROM INFORMATION_SCHEMA.TABLES WHERE TABLE_NAME = ?" [.text t]
    (c.tables.countP (· == t))
  columns : ∀ t ∈ c.tables, ∀ column, o.Replies
    ("SELECT COLUMN_NAME FROM INFORMATION_SCHEMA.COLUMNS " ++
      "WHERE TABLE_NAME = ? AND COLUMN_NAME = ?") [.text t, .text column]
    ((c.columns t).countP (· == column))

/-! ## What the checks answer -/

section
variable {o : Database} {c : Catalog} {history : History}

/-- A query for some of the names finds a row if there is a name to find. -/
theorem Database.Replies.hasRow {sql : String} {params : List Value} {names : List String}
    {f : String → Bool} (hr : o.Replies sql params (names.countP f)) {q : Statement}
    (hq : q.sql = sql) (hp : q.params = params) :
    (Attempt.behind (Schema.hasRow ⟨o.executor⟩ q) history).1 = .ok (names.any f) := by
  obtain ⟨hprepare, hexecute, rows, hfetch, hrows⟩ := hr history
  have hany : names.any f = !rows.isEmpty := by
    rw [Bool.eq_iff_iff, List.any_eq_true, ← List.countP_pos_iff, ← hrows, List.length_pos_iff,
      Bool.not_eq_true', List.isEmpty_eq_false_iff]
  show (Attempt.behind (o.executor.fetch q.sql q.params >>= _) history).1 = _
  rw [hq, hp, hany, behind_bind, Database.behind_fetch, hprepare]
  simp only [hexecute, hfetch, behind_pure]

theorem Database.hasTable_eq {d : Dialect} (hd : o.dialect = d) (t : String) :
    o.hasTable history t =
      (Attempt.behind (Schema.hasRow ⟨o.executor⟩ (d.hasTable t)) history).1 := by
  rw [← hd]
  rfl

theorem Database.hasColumn_eq {d : Dialect} (hd : o.dialect = d) (t column : String) :
    o.hasColumn history t column =
      (Attempt.behind (Schema.hasRow ⟨o.executor⟩ (d.hasColumn t column)) history).1 := by
  rw [← hd]
  rfl

theorem SqlServer.Serves.hasTable (hs : SqlServer.Serves o c) (t : String) :
    o.hasTable history t = .ok (c.tables.any (· == t)) := by
  rw [Database.hasTable_eq hs.dialect]
  exact (hs.tables t).hasRow rfl rfl

theorem SqlServer.Serves.hasColumn (hs : SqlServer.Serves o c) {t : String} (ht : t ∈ c.tables)
    (column : String) : o.hasColumn history t column = .ok ((c.columns t).any (· == column)) := by
  rw [Database.hasColumn_eq hs.dialect]
  exact (hs.columns t ht column).hasRow rfl rfl

variable {options : MySql.TableOptions}

theorem MySql.sql_hasColumn (t column : String) :
    ((MySql.dialect options).hasColumn t column).sql = "SHOW COLUMNS FROM " ++ t ++ " LIKE ?" := by
  show Statement.sql [.text ("SHOW COLUMNS FROM " ++ t ++ " LIKE "), .bind (.text column)] = _
  rw [Statement.sql_text, Statement.sql_bind, Statement.sql_nil, String.append_assoc,
    String.append_assoc]
  rfl

theorem MySql.Serves.hasTable (hs : MySql.Serves options o c) (t : String) :
    o.hasTable history t = .ok (c.tables.any (Like.accepts t)) := by
  rw [Database.hasTable_eq hs.dialect]
  exact (hs.tables t).hasRow rfl rfl

theorem MySql.Serves.hasColumn (hs : MySql.Serves options o c) {t : String} (ht : t ∈ c.tables)
    (column : String) :
    o.hasColumn history t column = .ok ((c.columns t).any (Like.accepts column)) := by
  rw [Database.hasColumn_eq hs.dialect]
  exact (hs.columns t ht column).hasRow (MySql.sql_hasColumn t column) rfl

end

/-! ## Serving any catalog -/

namespace Catalog

/-- The names that the queries of MySQL ask for. -/
def mySqlNames (c : Catalog) (sql : String) : List Value → List String
  | [.text p] =>
    if sql = "SHOW TABLES LIKE ?" then c.tables.filter (Like.accepts p)
    else
      match c.tables.find? fun t => sql = "SHOW COLUMNS FROM " ++ t ++ " LIKE ?" with
      | some t => (c.columns t).filter (Like.accepts p)
      | none => []
  | _ => []

/-- The names that the queries of SQL Server ask for. -/
def sqlServerNames (c : Catalog) (sql : String) : List Value → List String
  | [.text t] =>
    if sql = "SELECT TABLE_NAME FROM INFORMATION_SCHEMA.TABLES WHERE TABLE_NAME = ?" then
      c.tables.filter (· == t)
    else []
  | [.text t, .text column] =>
    if sql = "SELECT COLUMN_NAME FROM INFORMATION_SCHEMA.COLUMNS " ++
        "WHERE TABLE_NAME = ? AND COLUMN_NAME = ?" ∧ t ∈ c.tables then
      (c.columns t).filter (· == column)
    else []
  | _ => []

def mySql (c : Catalog) (options : MySql.TableOptions) : Database :=
  .ofNames (MySql.dialect options) c.mySqlNames

def sqlServer (c : Catalog) : Database := .ofNames SqlServer.dialect c.sqlServerNames

end Catalog

theorem Database.replies_ofNames (dialect : Dialect) (names : String → List Value → List String)
    {sql : String} {params : List Value} {candidates : List String} {f : String → Bool}
    (hn : names sql params = candidates.filter f) :
    (Database.ofNames dialect names).Replies sql params (candidates.countP f) := by
  intro history
  refine ⟨rfl, rfl, (names sql params).map fun name => .ofList [("name", .text name)], ?_, ?_⟩
  · show (Database.ofNames dialect names).fetchAll _ = _
    simp [Database.ofNames]
  · rw [List.length_map, hn, List.countP_eq_length_filter]

theorem MySql.showColumns_inj {t t' : String}
    (h : "SHOW COLUMNS FROM " ++ t ++ " LIKE ?" = "SHOW COLUMNS FROM " ++ t' ++ " LIKE ?") :
    t = t' := by
  have hl := congrArg String.toList h
  rw [String.toList_append, String.toList_append, String.toList_append, String.toList_append] at hl
  exact String.toList_inj.1 (List.append_cancel_left (List.append_cancel_right hl))

theorem MySql.showColumns_ne (t : String) :
    "SHOW COLUMNS FROM " ++ t ++ " LIKE ?" ≠ "SHOW TABLES LIKE ?" := by
  intro h
  have hl := congrArg (fun s => s.toList.take 6) h
  rw [String.toList_append, String.toList_append] at hl
  exact absurd hl (by simp)

namespace Catalog

theorem serves_sqlServer (c : Catalog) : SqlServer.Serves c.sqlServer c where
  dialect := rfl
  tables t := Database.replies_ofNames _ _ (by rw [sqlServerNames, if_pos rfl])
  columns t ht column := Database.replies_ofNames _ _ (by rw [sqlServerNames, if_pos ⟨rfl, ht⟩])

theorem mySqlNames_columns (c : Catalog) {t : String} (ht : t ∈ c.tables) (p : String) :
    c.mySqlNames ("SHOW COLUMNS FROM " ++ t ++ " LIKE ?") [.text p] =
      (c.columns t).filter (Like.accepts p) := by
  rw [mySqlNames, if_neg (MySql.showColumns_ne t)]
  split
  · rename_i t' hf
    have heq : t = t' := MySql.showColumns_inj (by simpa using List.find?_some hf)
    rw [heq]
  · rename_i hf
    exact absurd (List.find?_eq_none.1 hf t ht) (by simp)

theorem serves_mySql (c : Catalog) (options : MySql.TableOptions) :
    MySql.Serves options (c.mySql options) c where
  dialect := rfl
  tables p := Database.replies_ofNames _ _ (by rw [mySqlNames, if_pos rfl])
  columns _ ht p := Database.replies_ofNames _ _ (c.mySqlNames_columns ht p)

end Catalog

/-! ## Exactness -/

theorem any_beq_eq (names : List String) (name : String) :
    names.any (· == name) = decide (name ∈ names) := by
  rw [List.any_beq', List.contains_eq_mem]

theorem any_accepts_eq {name : String} (h : Like.Literal name) (names : List String) :
    names.any (Like.accepts name) = decide (name ∈ names) := by
  rw [← any_beq_eq]
  congr 1
  funext other
  rw [Bool.eq_iff_iff, h.accepts_iff, beq_iff_eq]

/-- Any other name is found where there is only a name that matches it. -/
theorem any_accepts_filled_ne {name : String} (h : ¬ Like.Literal name) :
    [Like.filled name].any (Like.accepts name) ≠ decide (name ∈ [Like.filled name]) := by
  have hfound : [Like.filled name].any (Like.accepts name) = true :=
    List.any_eq_true.2 ⟨_, List.mem_singleton_self _, Like.accepts_filled name⟩
  have hmem : name ∉ [Like.filled name] := fun hm =>
    Like.filled_ne h (List.mem_singleton.1 hm).symm
  rw [hfound, decide_eq_false hmem]
  exact Bool.noConfusion

/-- **Existence checks.** On SQL Server they answer what the catalog holds, for all names. On MySQL
they do so for every catalog exactly if the name that is asked for is a pattern of itself alone. -/
theorem existence_exact_iff (options : MySql.TableOptions) (t column : String) :
    (∀ (o : Database) (c : Catalog) (history : History), SqlServer.Serves o c →
      o.hasTable history t = .ok (decide (t ∈ c.tables)) ∧
      (t ∈ c.tables → o.hasColumn history t column = .ok (decide (column ∈ c.columns t)))) ∧
    ((∀ (o : Database) (c : Catalog) (history : History), MySql.Serves options o c →
      o.hasTable history t = .ok (decide (t ∈ c.tables))) ↔ Like.Literal t) ∧
    ((∀ (o : Database) (c : Catalog) (history : History), MySql.Serves options o c →
      t ∈ c.tables → o.hasColumn history t column = .ok (decide (column ∈ c.columns t))) ↔
        Like.Literal column) := by
  refine ⟨fun o c history hs => ⟨?_, fun ht => ?_⟩, ⟨fun h => ?_, fun h o c history hs => ?_⟩,
    ⟨fun h => ?_, fun h o c history hs ht => ?_⟩⟩
  · rw [hs.hasTable, any_beq_eq]
  · rw [hs.hasColumn ht, any_beq_eq]
  · -- a catalog with only a table that matches the name
    by_contra hn
    have hs := Catalog.serves_mySql ⟨[Like.filled t], fun _ => []⟩ options
    have heq := (hs.hasTable t).symm.trans (h _ _ [] hs)
    exact any_accepts_filled_ne hn (Except.ok.inj heq)
  · rw [hs.hasTable, any_accepts_eq h]
  · -- a table with only a column that matches the name
    by_contra hn
    have hs := Catalog.serves_mySql ⟨[t], fun _ => [Like.filled column]⟩ options
    have ht : t ∈ [t] := List.mem_singleton_self t
    have heq := (hs.hasColumn ht column).symm.trans (h _ _ [] hs ht)
    exact any_accepts_filled_ne hn (Except.ok.inj heq)
  · rw [hs.hasColumn ht, any_accepts_eq h]

/-- A catalog with a table whose name an underscore matches. -/
def camelCatalog : Catalog := ⟨["userAx"], fun _ => ["id", "e-mail"]⟩

/-- SQL Server does not take the underscore for another character. The other two names are patterns
of themselves alone. -/
theorem existence_exact_camelCatalog :
    camelCatalog.sqlServer.hasTable [] "user_x" = .ok false ∧
      (camelCatalog.mySql {}).hasTable [] "userAx" = .ok true ∧
      (camelCatalog.mySql {}).hasColumn [] "userAx" "email" = .ok false := by
  have hl : Like.Literal "userAx" ∧ Like.Literal "email" := by decide +kernel
  have hs := camelCatalog.serves_mySql {}
  refine ⟨?_, ?_, ?_⟩
  · exact ((existence_exact_iff {} "user_x" "id").1 _ _ [] camelCatalog.serves_sqlServer).1
  · exact (existence_exact_iff {} "userAx" "email").2.1.2 hl.1 _ _ [] hs
  · exact (existence_exact_iff {} "userAx" "email").2.2.2 hl.2 _ _ [] hs (List.mem_singleton_self _)

/-- A check that is not exact: the table `userAx` passes for `user_x`. -/
theorem hasTable_user_x :
    MySql.Serves {} (camelCatalog.mySql {}) camelCatalog ∧
      (camelCatalog.mySql {}).hasTable [] "user_x" = .ok true ∧
      "user_x" ∉ camelCatalog.tables := by
  have hs := camelCatalog.serves_mySql {}
  have hmatch : camelCatalog.tables.any (Like.accepts "user_x") = true := by decide +kernel
  refine ⟨hs, ?_, by decide +kernel⟩
  rw [hs.hasTable, hmatch]

end SqlCompose
