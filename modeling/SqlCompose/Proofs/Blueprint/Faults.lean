import SqlCompose.Proofs.Blueprint.Independence
import SqlCompose.Proofs.Dialect.ReadBack

/-!
# Which fault of a blueprint decides its error

A column can be at fault in four ways, and the first of them counts (`Column.Fault`). A command is
at fault if the server has no such command in an alteration (`TableCommand.Fault`). A blueprint
fails for what it is made of, or for its first column at fault, or for its first command at fault
(`Blueprint.Fails`). `Blueprint.first_fault_decides` says that these are the errors of compilation
and that there is a statement if there is no fault. How the calls of a blueprint were mixed does not
matter: its columns come before its commands.
-/

namespace SqlCompose

/-! ## Columns -/

/-- Why a server cannot have the column. Each way to be at fault counts only without the ones
before it. -/
inductive Column.Fault (v : Vendor) (c : Column) : CompileError → Prop
  | unnamed (hn : c.name = "") : Fault v c .emptyColumn
  /-- An enumeration without values. -/
  | valueless (hn : c.name ≠ "") (ht : c.type = .enum) (hv : c.parameters.allowed = []) :
      Fault v c (.emptyEnum c.name)
  /-- SQL Server cannot place a column behind another. -/
  | misplaced (hn : c.name ≠ "") (hv : c.HasValues) (hs : v = .sqlServer) (ha : c.after ≠ none) :
      Fault v c (.unsupported "sqlsrv" .columnPosition)
  /-- A relation without a table or without a column. -/
  | unrelated (hn : c.name ≠ "") (hv : c.HasValues) (hp : v = .sqlServer → c.after = none)
      {k : ForeignKey} (hk : c.foreignKey = some k) (hr : k.table = none ∨ k.column = none) :
      Fault v c (.incompleteForeignKey c.name)

namespace Column

variable {c : Column} {d : Dialect} {e : CompileError}

theorem enumValues_eq_error_iff {quote : String → String} :
    Dialect.enumValues quote c = .error e ↔
      c.parameters.allowed = [] ∧ e = .emptyEnum c.name := by
  unfold Dialect.enumValues
  cases c.parameters.allowed with
  | nil => simp [eq_comm]
  | cons s ss => simp

theorem not_hasValues_iff : ¬c.HasValues ↔ c.type = .enum ∧ c.parameters.allowed = [] := by
  simp [HasValues]

/-- The type of a column fails for lack of values and for nothing else. -/
theorem typeDefinition_eq_error_iff (v : Vendor) :
    v.dialect.typeDefinition c = .error e ↔ ¬c.HasValues ∧ e = .emptyEnum c.name := by
  rw [not_hasValues_iff]
  cases v with
  | mySql options =>
    show MySql.typeDefinition c = .error e ↔ _
    unfold MySql.typeDefinition
    simp only [pure_bind]
    by_cases ht : c.type = .enum
    · rw [if_pos ht, bind_pure_eq_error_iff, enumValues_eq_error_iff]
      simp [ht]
    · rw [if_neg ht]
      simp [ht, pure, Except.pure]
  | sqlServer =>
    show SqlServer.typeDefinition c = .error e ↔ _
    unfold SqlServer.typeDefinition
    dsimp only
    cases c.type with
    | enum =>
      rw [bind_pure_eq_error_iff, enumValues_eq_error_iff]
      simp
    | decimal => cases c.parameters.total <;> cases c.parameters.places <;> simp
    | bigInt | varchar | text | int | tinyInt | date | dateTime | timestamp | float | double
    | json => simp

theorem positionPart_eq_error_iff : c.positionPart d = .error e ↔
    (c.after ≠ none ∧ d.supportsColumnPositioning = false) ∧
      e = .unsupported d.name .columnPosition := by
  unfold positionPart
  cases c.after with
  | none => simp
  | some column => cases d.supportsColumnPositioning <;> simp [eq_comm]

theorem referencePart_eq_error_iff : c.referencePart = .error e ↔
    (∃ k, c.foreignKey = some k ∧ (k.table = none ∨ k.column = none)) ∧
      e = .incompleteForeignKey c.name := by
  unfold referencePart
  cases c.foreignKey with
  | none => simp
  | some k => cases ht : k.table <;> cases hc : k.column <;> simp [ht, hc, eq_comm]

/-- The checks of a definition, in the order in which they are made. -/
theorem definition_eq_error_iff : c.definition d = .error e ↔
    (c.name = "" ∧ e = .emptyColumn) ∨ (c.name ≠ "" ∧
      (d.typeDefinition c = .error e ∨ (∃ type, d.typeDefinition c = .ok type) ∧
        (c.positionPart d = .error e ∨ (∃ position, c.positionPart d = .ok position) ∧
          c.referencePart = .error e))) := by
  unfold definition parts
  rw [bind_pure_eq_error_iff]
  dsimp only
  rw [check_eq_error_iff, bind_eq_error_iff]
  simp only [bind_eq_error_iff (x := c.positionPart d), bind_pure_eq_error_iff, exists_and_right,
    String.isEmpty_iff, ne_eq]

/-- The name of the dialect and its positions, as far as they decide a fault. -/
theorem positionPart_vendor_iff (v : Vendor) : c.positionPart v.dialect = .error e ↔
    (v = .sqlServer ∧ c.after ≠ none) ∧ e = .unsupported "sqlsrv" .columnPosition := by
  rw [positionPart_eq_error_iff]
  cases v with
  | mySql options =>
    have hd : (Vendor.mySql options).dialect.supportsColumnPositioning = true := rfl
    simp [hd]
  | sqlServer =>
    have hd : Vendor.sqlServer.dialect.supportsColumnPositioning = false := rfl
    have hname : Vendor.sqlServer.dialect.name = "sqlsrv" := rfl
    simp [hd, hname]

/-- A definition fails exactly with the fault of its column. -/
theorem definition_eq_error_iff_fault (v : Vendor) :
    c.definition v.dialect = .error e ↔ c.Fault v e := by
  have htype : (∃ type, v.dialect.typeDefinition c = .ok type) ↔ c.HasValues := by
    rw [exists_ok_iff_of_error_iff fun e => typeDefinition_eq_error_iff v]
    simp
  have hposition : (∃ position, c.positionPart v.dialect = .ok position) ↔
      (v = .sqlServer → c.after = none) := by
    rw [exists_ok_iff_of_error_iff fun e => positionPart_vendor_iff v]
    constructor
    · intro h hs
      by_contra ha
      exact h _ ⟨⟨hs, ha⟩, rfl⟩
    · rintro h e ⟨⟨hs, ha⟩, -⟩
      exact ha (h hs)
  rw [definition_eq_error_iff, typeDefinition_eq_error_iff, htype, positionPart_vendor_iff,
    hposition, referencePart_eq_error_iff, not_hasValues_iff]
  constructor
  · rintro (⟨hn, rfl⟩ | ⟨hn, ⟨⟨ht, hv⟩, rfl⟩ | ⟨hv, ⟨⟨hs, ha⟩, rfl⟩ | ⟨hp, ⟨k, hk, hr⟩, rfl⟩⟩⟩)
    · exact .unnamed hn
    · exact .valueless hn ht hv
    · exact .misplaced hn hv hs ha
    · exact .unrelated hn hv hp hk hr
  · intro h
    cases h with
    | unnamed hn => exact .inl ⟨hn, rfl⟩
    | valueless hn ht hv => exact .inr ⟨hn, .inl ⟨⟨ht, hv⟩, rfl⟩⟩
    | misplaced hn hv hs ha => exact .inr ⟨hn, .inr ⟨hv, .inl ⟨⟨hs, ha⟩, rfl⟩⟩⟩
    | unrelated hn hv hp hk hr => exact .inr ⟨hn, .inr ⟨hv, .inr ⟨hp, ⟨_, hk, hr⟩, rfl⟩⟩⟩

end Column

/-! ## Commands -/

/-- Why a server cannot alter a table by the command. -/
inductive TableCommand.Fault : Vendor → TableCommand → CompileError → Prop
  /-- SQL Server drops an index by a statement of its own. -/
  | dropIndex (index : String) :
      Fault .sqlServer (.dropIndex index) (.unsupported "sqlsrv" .dropIndexInAlter)

theorem TableCommand.eq_error_iff_fault (v : Vendor) {k : TableCommand} {e : CompileError} :
    v.dialect.tableCommand k = .error e ↔ k.Fault v e := by
  constructor
  · intro h
    cases v with
    | mySql options =>
      change MySql.tableCommand k = .error e at h
      cases k <;> cases h
    | sqlServer =>
      change SqlServer.tableCommand k = .error e at h
      cases k with
      | dropColumn name => cases h
      | dropForeign name => cases h
      | dropIndex index =>
        cases h
        exact .dropIndex index
  · rintro ⟨index⟩
    rfl

/-! ## Blueprints -/

namespace Blueprint

/-- Why a server cannot have the table. What the blueprint is made of counts first, then the columns
in their order, then the commands in theirs. -/
inductive Fails (v : Vendor) (mode : Mode) (table : String) (columns : List Column)
    (commands : List TableCommand) : CompileError → Prop
  | commandsOutside (hm : mode = .create) (hk : commands ≠ []) :
      Fails v mode table columns commands (.commandsOutsideAlter table)
  | empty (hc : columns = []) (hk : commands = []) :
      Fails v mode table columns commands (.emptyBlueprint table)
  | column {e : CompileError} (hm : mode = .create → commands = [])
      (hc : FirstFault (Column.Fault v) columns e) : Fails v mode table columns commands e
  | command {e : CompileError} (hm : mode = .alter) (hc : ∀ c ∈ columns, ∀ e, ¬c.Fault v e)
      (hk : FirstFault (TableCommand.Fault v) commands e) : Fails v mode table columns commands e

/-- There is nothing that keeps the server from having the table. -/
structure IsSound (v : Vendor) (b : Blueprint) : Prop where
  content : b.HasContent
  columns : ∀ c ∈ b.columns, ∀ e, ¬c.Fault v e
  commands : ∀ k ∈ b.commands, ∀ e, ¬k.Fault v e

variable {b : Blueprint} {v : Vendor} {e : CompileError}

theorem mapM_definition_eq_error_iff {columns : List Column} :
    columns.mapM (Column.definition · v.dialect) = .error e ↔
      FirstFault (Column.Fault v) columns e :=
  mapM_eq_error_iff fun _ _ => Column.definition_eq_error_iff_fault v

theorem mapM_tableCommand_eq_error_iff {commands : List TableCommand} :
    commands.mapM v.dialect.tableCommand = .error e ↔
      FirstFault (TableCommand.Fault v) commands e :=
  mapM_eq_error_iff fun _ _ => TableCommand.eq_error_iff_fault v

/-- All columns have definitions if none is at fault. -/
theorem exists_mapM_definition_iff {columns : List Column} :
    (∃ ts, columns.mapM (Column.definition · v.dialect) = .ok ts) ↔
      ∀ c ∈ columns, ∀ e, ¬c.Fault v e := by
  rw [exists_ok_iff_of_error_iff fun e => mapM_definition_eq_error_iff, ← not_exists,
    exists_firstFault_iff]
  simp only [not_exists, not_and]

theorem createSql_eq_error_iff : b.createSql v.dialect = .error e ↔
    (b.commands ≠ [] ∧ e = .commandsOutsideAlter b.table) ∨ (b.commands = [] ∧
      ((b.columns = [] ∧ e = .emptyBlueprint b.table) ∨
        FirstFault (Column.Fault v) b.columns e)) := by
  have hsome : FirstFault (Column.Fault v) b.columns e → b.columns ≠ [] := FirstFault.ne_nil
  unfold createSql
  dsimp only
  rw [check_eq_error_iff, check_eq_error_iff, bind_pure_eq_error_iff, mapM_definition_eq_error_iff]
  simp only [Bool.not_eq_true', List.isEmpty_eq_false_iff, List.isEmpty_iff, not_not, ← ne_eq,
    and_iff_right_of_imp hsome]

theorem alterSql_eq_error_iff : b.alterSql v.dialect = .error e ↔
    ((b.columns = [] ∧ b.commands = []) ∧ e = .emptyBlueprint b.table) ∨
      FirstFault (Column.Fault v) b.columns e ∨ ((∀ c ∈ b.columns, ∀ e, ¬c.Fault v e) ∧
        FirstFault (TableCommand.Fault v) b.commands e) := by
  have hsome : FirstFault (Column.Fault v) b.columns e ∨ ((∀ c ∈ b.columns, ∀ e, ¬c.Fault v e) ∧
      FirstFault (TableCommand.Fault v) b.commands e) → ¬(b.columns = [] ∧ b.commands = []) := by
    rintro (hfirst | ⟨-, hfirst⟩) ⟨hc, hk⟩
    · exact hfirst.ne_nil hc
    · exact hfirst.ne_nil hk
  unfold alterSql
  dsimp only
  rw [check_eq_error_iff, bind_eq_error_iff]
  simp only [bind_pure_eq_error_iff, mapM_definition_eq_error_iff, mapM_tableCommand_eq_error_iff,
    exists_and_right, exists_mapM_definition_iff, Bool.and_eq_true, List.isEmpty_iff,
    and_iff_right_of_imp hsome]

theorem sql_eq_error_iff :
    b.sql v.dialect = .error e ↔ Fails v b.mode b.table b.columns b.commands e := by
  unfold sql
  cases hm : b.mode with
  | create =>
    dsimp only
    rw [createSql_eq_error_iff]
    constructor
    · rintro (⟨hk, rfl⟩ | ⟨hk, ⟨hc, rfl⟩ | hfirst⟩)
      · exact .commandsOutside rfl hk
      · exact .empty hc hk
      · exact .column (fun _ => hk) hfirst
    · intro h
      cases h with
      | commandsOutside _ hk => exact .inl ⟨hk, rfl⟩
      | empty hc hk => exact .inr ⟨hk, .inl ⟨hc, rfl⟩⟩
      | column hk hfirst => exact .inr ⟨hk rfl, .inr hfirst⟩
      | command hm => cases hm
  | alter =>
    dsimp only
    rw [alterSql_eq_error_iff]
    constructor
    · rintro (⟨⟨hc, hk⟩, rfl⟩ | hfirst | ⟨hc, hfirst⟩)
      · exact .empty hc hk
      · exact .column nofun hfirst
      · exact .command rfl hc hfirst
    · intro h
      cases h with
      | commandsOutside hm => cases hm
      | empty hc hk => exact .inl ⟨⟨hc, hk⟩, rfl⟩
      | column _ hfirst => exact .inr (.inl hfirst)
      | command _ hc hfirst => exact .inr (.inr ⟨hc, hfirst⟩)

/-- The faults of columns are not those of a blueprint. -/
theorem ne_of_firstFault_columns {columns : List Column} (h : FirstFault (Column.Fault v) columns e)
    (table : String) : e ≠ .commandsOutsideAlter table ∧ e ≠ .emptyBlueprint table := by
  obtain ⟨_, c, _, -, -, hfault⟩ := h
  cases hfault <;> exact ⟨nofun, nofun⟩

theorem ne_of_firstFault_commands {commands : List TableCommand}
    (h : FirstFault (TableCommand.Fault v) commands e) (table : String) :
    e ≠ .commandsOutsideAlter table ∧ e ≠ .emptyBlueprint table := by
  obtain ⟨_, k, _, -, -, hfault⟩ := h
  cases hfault
  exact ⟨nofun, nofun⟩

theorem exists_sql_iff_isSound : (∃ s, b.sql v.dialect = .ok s) ↔ b.IsSound v := by
  have hdefinition : ∀ c : Column, (∃ t, c.definition v.dialect = .ok t) ↔ ∀ e, ¬c.Fault v e :=
    fun c => exists_ok_iff_of_error_iff fun e => Column.definition_eq_error_iff_fault v
  have hcommand : ∀ k, (∃ t, v.dialect.tableCommand k = .ok t) ↔ ∀ e, ¬TableCommand.Fault v k e :=
    fun k => exists_ok_iff_of_error_iff fun e => TableCommand.eq_error_iff_fault v
  rw [exists_sql_iff]
  simp only [hdefinition, hcommand]
  exact ⟨fun ⟨hcontent, hc, hk⟩ => ⟨hcontent, hc, hk⟩, fun h => ⟨h.content, h.columns, h.commands⟩⟩

theorem sql_eq_commandsOutsideAlter_iff :
    b.sql v.dialect = .error (.commandsOutsideAlter b.table) ↔
      b.mode = .create ∧ b.commands ≠ [] := by
  rw [sql_eq_error_iff]
  constructor
  · generalize he : CompileError.commandsOutsideAlter b.table = e
    intro h
    cases h with
    | commandsOutside hm hk => exact ⟨hm, hk⟩
    | empty => cases he
    | column _ hfirst => exact absurd he.symm (ne_of_firstFault_columns hfirst _).1
    | command _ _ hfirst => exact absurd he.symm (ne_of_firstFault_commands hfirst _).1
  · rintro ⟨hm, hk⟩
    exact .commandsOutside hm hk

theorem sql_eq_emptyBlueprint_iff :
    b.sql v.dialect = .error (.emptyBlueprint b.table) ↔ b.columns = [] ∧ b.commands = [] := by
  rw [sql_eq_error_iff]
  constructor
  · generalize he : CompileError.emptyBlueprint b.table = e
    intro h
    cases h with
    | commandsOutside => cases he
    | empty hc hk => exact ⟨hc, hk⟩
    | column _ hfirst => exact absurd he.symm (ne_of_firstFault_columns hfirst _).2
    | command _ _ hfirst => exact absurd he.symm (ne_of_firstFault_commands hfirst _).2
  · rintro ⟨hc, hk⟩
    exact .empty hc hk

/-- **The first fault decides.** A column has a definition unless it is at fault, and a blueprint
compiles exactly if it is sound. Otherwise the error is that of the first fault: drops in a new
table, nothing to compile, the first column at fault, the first command at fault. The first two
have errors of their own. After a run of calls the columns and the commands count in their own
order, however they were mixed. -/
theorem first_fault_decides (v : Vendor) :
    (∀ (c : Column) (e : CompileError), c.definition v.dialect = .error e ↔ c.Fault v e) ∧
    (∀ (b : Blueprint) (e : CompileError),
      b.sql v.dialect = .error e ↔ Fails v b.mode b.table b.columns b.commands e) ∧
    (∀ b : Blueprint, (∃ s, b.sql v.dialect = .ok s) ↔ b.IsSound v) ∧
    (∀ b : Blueprint, b.sql v.dialect = .error (.commandsOutsideAlter b.table) ↔
      b.mode = .create ∧ b.commands ≠ []) ∧
    (∀ b : Blueprint, b.sql v.dialect = .error (.emptyBlueprint b.table) ↔
      b.columns = [] ∧ b.commands = []) ∧
    ∀ (mode : Mode) (table : String) (cs : List Call) (e : CompileError),
      ((start mode table).calls cs).sql v.dialect = .error e ↔
        Fails v mode table ((cs.filter (!·.isDrop)).flatMap Call.columns)
          ((cs.filter (·.isDrop)).flatMap Call.commands) e := by
  refine ⟨fun c e => Column.definition_eq_error_iff_fault v, fun b e => sql_eq_error_iff,
    fun b => exists_sql_iff_isSound, fun b => sql_eq_commandsOutsideAlter_iff,
    fun b => sql_eq_emptyBlueprint_iff, fun mode table cs e => ?_⟩
  rw [sql_eq_error_iff, calls_eq, flatMap_columns_filter, flatMap_commands_filter]
  simp only [start, List.nil_append]

/-- A nameless enumeration behind a column that has no place and no complete relation, and an index
to drop in front of both: the place comes first on SQL Server, the relation on MySQL. -/
example :
    let b := (start .alter "t").calls [.drop (.dropIndex "i"),
      .column .text "a" [.after "z", .on "u"], .column (.enumeration []) "" []]
    b.sql SqlServer.dialect = .error (.unsupported "sqlsrv" .columnPosition) ∧
      b.sql MySql.dialect = .error (.incompleteForeignKey "a") := by
  decide +kernel

end Blueprint

end SqlCompose
