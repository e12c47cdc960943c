import SqlCompose.Blueprint
import SqlCompose.Dialect.SqlServer
import SqlCompose.Proofs.Column.Unambiguous

/-!
# A blueprint is portable across dialects

SQL Server takes the blueprints that MySQL takes, but for positions of columns and for dropped
indexes (`ddl_portable`). What a blueprint comes to in a dialect is said once, for all dialects
(`sql_eq_ok_iff`): its content, and a definition for each column and a text for each command. So the
dialects are compared column by column and command by command, and a column part by part: the two
definitions of a column differ in their types, in the quotes around a text and in the keyword of a
number that counts up (`Column.Part.Ported`).
-/

namespace SqlCompose

open List (Forall₂)

/-- Two lists of partners as one list of pairs. -/
theorem exists_pairs {α β γ : Type} {r : α → β → Prop} {s : α → γ → Prop} {as : List α}
    {bs : List β} {cs : List γ} (hr : Forall₂ r as bs) (hs : Forall₂ s as cs) :
    ∃ ps : List (β × γ), ps.map Prod.fst = bs ∧ ps.map Prod.snd = cs ∧
      Forall₂ (fun a p => r a p.1 ∧ s a p.2) as ps := by
  induction hr generalizing cs with
  | nil =>
    cases hs
    exact ⟨[], rfl, rfl, .nil⟩
  | @cons a b as bs hb _ ih =>
    obtain _ | ⟨hc, hcs⟩ := hs
    obtain ⟨ps, rfl, rfl, hps⟩ := ih hcs
    exact ⟨(b, _) :: ps, rfl, rfl, .cons ⟨hb, hc⟩ hps⟩

/-! ## Columns -/

namespace Column

/-- Enumerations have values. -/
def HasValues (c : Column) : Prop := c.type = .enum → c.parameters.allowed ≠ []

/-- A part in MySQL and in SQL Server: types are those of the dialects, texts have the quotes of the
dialects, numbers that count up their keywords; every other part is the same text. -/
inductive Part.Ported (c : Column) : Part → Part → Prop
  | type {t t' : String} (h : MySql.typeDefinition c = .ok t)
    (h' : SqlServer.typeDefinition c = .ok t') : Ported c (.type t) (.type t')
  | text (s : String) : Ported c (.default (.text s)) (.default (.text s))
  | autoIncrement : Ported c .autoIncrement .autoIncrement
  | same {p : Part} (h : p.sql MySql.dialect = p.sql SqlServer.dialect) : Ported c p p

/-- The definitions of a column in MySQL and in SQL Server: the same parts in the same order. -/
def Ported (o : MySql.TableOptions) (c : Column) (t t' : String) : Prop :=
  ∃ ps ps' : List Part, c.parts (MySql.dialect o) = .ok ps ∧ c.parts SqlServer.dialect = .ok ps' ∧
    Forall₂ (Part.Ported c) ps ps' ∧ t = " ".intercalate (ps.map (Part.sql (MySql.dialect o))) ∧
    t' = " ".intercalate (ps'.map (Part.sql SqlServer.dialect))

theorem exists_enumValues_iff {c : Column} {quote : String → String} :
    (∃ t, Dialect.enumValues quote c = .ok t) ↔ c.parameters.allowed ≠ [] := by
  simp [Dialect.enumValues_eq_ok_iff]

end Column

theorem MySql.exists_typeDefinition_iff {c : Column} :
    (∃ t, typeDefinition c = .ok t) ↔ c.HasValues := by
  unfold typeDefinition Column.HasValues
  simp only [pure_bind]
  by_cases he : c.type = .enum
  · rw [if_pos he, exists_bind_pure_iff, imp_iff_right he]
    exact Column.exists_enumValues_iff
  · rw [if_neg he]
    exact ⟨fun _ h => absurd h he, fun _ => ⟨_, rfl⟩⟩

theorem SqlServer.exists_typeDefinition_iff {c : Column} :
    (∃ t, typeDefinition c = .ok t) ↔ c.HasValues := by
  unfold typeDefinition Column.HasValues
  dsimp only
  cases c.type with
  | enum =>
    rw [imp_iff_right rfl, exists_bind_pure_iff]
    exact Column.exists_enumValues_iff
  | decimal => cases c.parameters.total <;> cases c.parameters.places <;> simp
  | bigInt | varchar | text | int | tinyInt | date | dateTime | timestamp | float | double | json =>
    simp

namespace Column

variable {c : Column} {o : MySql.TableOptions}

theorem exists_definition_sqlServer_iff : (∃ t, c.definition SqlServer.dialect = .ok t) ↔
    (∃ t, c.definition (MySql.dialect o) = .ok t) ∧ c.after = none := by
  have hmy : (∃ t, (MySql.dialect o).typeDefinition c = .ok t) ↔ c.HasValues :=
    MySql.exists_typeDefinition_iff
  have hserver : (∃ t, SqlServer.dialect.typeDefinition c = .ok t) ↔ c.HasValues :=
    SqlServer.exists_typeDefinition_iff
  have hpositions : (MySql.dialect o).supportsColumnPositioning = true := rfl
  have hnone : SqlServer.dialect.supportsColumnPositioning = false := rfl
  rw [exists_definition_iff, exists_definition_iff, hmy, hserver, hpositions, hnone]
  by_cases ha : c.after = none <;> simp [ha]

/-- Behind the type the two definitions have the same parts. -/
theorem forall₂_ported_tail : Forall₂ (Part.Ported c) c.tail c.tail := by
  refine List.forall₂_same.2 fun p hp => ?_
  rcases mem_tail_iff.1 hp with rfl | ⟨v, -, rfl⟩ | ⟨-, rfl⟩ | ⟨-, rfl⟩ | ⟨-, rfl⟩ |
    ⟨x, -, rfl⟩ | ⟨k, table, column, -, -, -, rfl⟩
  · exact .same rfl
  · cases v with
    | null | bool | int | float => exact .same rfl
    | text s => exact .text s
  · exact .autoIncrement
  · exact .same rfl
  · exact .same rfl
  · exact .same rfl
  · exact .same rfl

theorem ported_of_definition {t t' : String} (h : c.definition (MySql.dialect o) = .ok t)
    (h' : c.definition SqlServer.dialect = .ok t') : c.Ported o t t' := by
  obtain ⟨ps, hps, ht⟩ := definition_eq_ok_iff.1 h
  obtain ⟨ps', hps', ht'⟩ := definition_eq_ok_iff.1 h'
  refine ⟨ps, ps', hps, hps', ?_, ht, ht'⟩
  obtain ⟨-, -, -, type, htype, rfl⟩ := parts_eq_ok_iff.1 hps
  obtain ⟨-, -, -, type', htype', rfl⟩ := parts_eq_ok_iff.1 hps'
  exact .cons (.same rfl) (.cons (.type htype htype') forall₂_ported_tail)

end Column

/-! ## Commands -/

theorem exists_tableCommand_sqlServer_iff {k : TableCommand} :
    (∃ t, SqlServer.tableCommand k = .ok t) ↔
      (∃ t, MySql.tableCommand k = .ok t) ∧ ∀ index, k ≠ .dropIndex index := by
  cases k <;> simp [SqlServer.tableCommand, MySql.tableCommand]

/-! ## Blueprints -/

namespace Blueprint

/-- There is something to compile: columns and nothing else for a new table, columns or commands
for another. -/
def HasContent (b : Blueprint) : Prop :=
  match b.mode with
  | .create => b.commands = [] ∧ b.columns ≠ []
  | .alter => b.columns ≠ [] ∨ b.commands ≠ []

/-- The statement around the definitions of the columns and the texts of the commands. -/
def layout (b : Blueprint) (d : Dialect) (definitions drops : List String) : String :=
  match b.mode with
  | .create => "CREATE TABLE " ++ b.table ++ " (\n" ++
      ",\n".intercalate (definitions.map ("  " ++ ·)) ++ "\n)" ++ d.tableOptions
  | .alter => "ALTER TABLE " ++ b.table ++ "\n" ++ ",\n".intercalate
      ((definitions.map (d.addColumnKeyword ++ " " ++ ·) ++ drops).map ("  " ++ ·))

/-- The statements of a blueprint in MySQL and in SQL Server list its columns and its commands in
the same order. -/
def Ported (b : Blueprint) (o : MySql.TableOptions) (s s' : String) : Prop :=
  ∃ definitions drops : List (String × String),
    Forall₂ (fun c p => Column.Ported o c p.1 p.2) b.columns definitions ∧
    Forall₂ (fun k p => MySql.tableCommand k = .ok p.1 ∧ SqlServer.tableCommand k = .ok p.2)
      b.commands drops ∧
    s = b.layout (MySql.dialect o) (definitions.map Prod.fst) (drops.map Prod.fst) ∧
    s' = b.layout SqlServer.dialect (definitions.map Prod.snd) (drops.map Prod.snd)

variable {b : Blueprint} {d : Dialect} {o : MySql.TableOptions}

theorem lines_eq (parts : List String) :
    lines parts = ",\n".intercalate (parts.map ("  " ++ ·)) := rfl

theorem createSql_eq_ok_iff {s : String} : b.createSql d = .ok s ↔
    (b.commands = [] ∧ b.columns ≠ []) ∧
      ∃ definitions, Forall₂ (fun c t => c.definition d = .ok t) b.columns definitions ∧
        s = "CREATE TABLE " ++ b.table ++ " (\n" ++ lines definitions ++ "\n)" ++
          d.tableOptions := by
  unfold createSql
  dsimp only
  cases b.commands with
  | cons k ks => simp
  | nil =>
    cases hc : b.columns with
    | nil => simp
    | cons c cs =>
      simp only [List.isEmpty_nil, Bool.not_true, List.isEmpty_cons, Bool.false_eq_true, ↓reduceIte,
        bind_eq_ok_iff, mapM_eq_ok_iff, pure_eq_ok_iff, @eq_comm _ s]
      simp

theorem alterSql_eq_ok_iff {s : String} : b.alterSql d = .ok s ↔
    (b.columns ≠ [] ∨ b.commands ≠ []) ∧
      ∃ definitions, Forall₂ (fun c t => c.definition d = .ok t) b.columns definitions ∧
        ∃ drops, Forall₂ (fun k t => d.tableCommand k = .ok t) b.commands drops ∧
          s = "ALTER TABLE " ++ b.table ++ "\n" ++
            lines (definitions.map (d.addColumnKeyword ++ " " ++ ·) ++ drops) := by
  unfold alterSql
  dsimp only
  have hempty : (b.columns.isEmpty && b.commands.isEmpty) = false ↔
      b.columns ≠ [] ∨ b.commands ≠ [] := by
    cases b.columns <;> cases b.commands <;> simp
  cases he : b.columns.isEmpty && b.commands.isEmpty with
  | true => simp [← hempty, he]
  | false =>
    simp only [← hempty, he, Bool.false_eq_true, ↓reduceIte, bind_eq_ok_iff, mapM_eq_ok_iff,
      pure_eq_ok_iff, @eq_comm _ s, true_and]

/-- The statement of a blueprint with content has a definition for each column and a text for each
command. -/
theorem sql_eq_ok_iff {s : String} : b.sql d = .ok s ↔ b.HasContent ∧
    ∃ definitions, Forall₂ (fun c t => c.definition d = .ok t) b.columns definitions ∧
      ∃ drops, Forall₂ (fun k t => d.tableCommand k = .ok t) b.commands drops ∧
        s = b.layout d definitions drops := by
  unfold sql HasContent layout
  cases b.mode with
  | create =>
    dsimp only
    rw [createSql_eq_ok_iff]
    refine and_congr_right fun ⟨hk, _⟩ => ?_
    simp [hk, lines_eq]
  | alter =>
    rw [alterSql_eq_ok_iff]
    simp only [lines_eq]

theorem exists_sql_iff : (∃ s, b.sql d = .ok s) ↔ b.HasContent ∧
    (∀ c ∈ b.columns, ∃ t, c.definition d = .ok t) ∧
      ∀ k ∈ b.commands, ∃ t, d.tableCommand k = .ok t := by
  simp only [sql_eq_ok_iff, ← exists_forall₂_iff]
  constructor
  · rintro ⟨s, hcontent, definitions, hd, drops, hk, -⟩
    exact ⟨hcontent, ⟨definitions, hd⟩, drops, hk⟩
  · rintro ⟨hcontent, ⟨definitions, hd⟩, drops, hk⟩
    exact ⟨_, hcontent, definitions, hd, drops, hk, rfl⟩

theorem exists_sql_sqlServer_iff : (∃ s, b.sql SqlServer.dialect = .ok s) ↔
    (∃ s, b.sql (MySql.dialect o) = .ok s) ∧ (∀ c ∈ b.columns, c.after = none) ∧
      ∀ index, .dropIndex index ∉ b.commands := by
  have hindex : (∀ k ∈ b.commands, ∀ index, k ≠ .dropIndex index) ↔
      ∀ index, .dropIndex index ∉ b.commands :=
    ⟨fun h index hk => h _ hk index rfl, fun h k hk index he => h index (he ▸ hk)⟩
  have hcommands : (∀ k ∈ b.commands, ∃ t, SqlServer.dialect.tableCommand k = .ok t) ↔
      (∀ k ∈ b.commands, ∃ t, (MySql.dialect o).tableCommand k = .ok t) ∧
        ∀ index, .dropIndex index ∉ b.commands := by
    rw [← hindex, ← forall₂_and]
    exact forall₂_congr fun k _ => exists_tableCommand_sqlServer_iff
  have hcolumns : (∀ c ∈ b.columns, ∃ t, c.definition SqlServer.dialect = .ok t) ↔
      (∀ c ∈ b.columns, ∃ t, c.definition (MySql.dialect o) = .ok t) ∧
        ∀ c ∈ b.columns, c.after = none := by
    rw [← forall₂_and]
    exact forall₂_congr fun c _ => Column.exists_definition_sqlServer_iff
  rw [exists_sql_iff, exists_sql_iff, hcolumns, hcommands]
  tauto

theorem ported_of_sql {s s' : String} (h : b.sql (MySql.dialect o) = .ok s)
    (h' : b.sql SqlServer.dialect = .ok s') : b.Ported o s s' := by
  obtain ⟨-, definitions, hd, drops, hk, hs⟩ := sql_eq_ok_iff.1 h
  obtain ⟨-, definitions', hd', drops', hk', hs'⟩ := sql_eq_ok_iff.1 h'
  obtain ⟨ds, rfl, rfl, hds⟩ := exists_pairs hd hd'
  obtain ⟨ks, rfl, rfl, hks⟩ := exists_pairs hk hk'
  exact ⟨ds, ks, hds.imp fun c p hp => Column.ported_of_definition hp.1 hp.2, hks, hs, hs'⟩

/-- **A blueprint is portable across dialects.** SQL Server takes it if and only if MySQL does and
it has no position and no dropped index. Then the two statements list the same columns and commands
in the same order, and the definitions of a column have the same parts, but for types, quotes and
the keyword of a number that counts up. -/
theorem ddl_portable (b : Blueprint) (o : MySql.TableOptions) :
    ((∃ s, b.sql SqlServer.dialect = .ok s) ↔
      (∃ s, b.sql (MySql.dialect o) = .ok s) ∧ (∀ c ∈ b.columns, c.after = none) ∧
        ∀ index, .dropIndex index ∉ b.commands) ∧
    ∀ s s', b.sql (MySql.dialect o) = .ok s → b.sql SqlServer.dialect = .ok s' →
      b.Ported o s s' :=
  ⟨exists_sql_sqlServer_iff, fun _ _ => ported_of_sql⟩

/-- An alteration with a column of each kind of difference, a relation and two drops. -/
def orderChanges : Blueprint :=
  calls { mode := .alter, table := "orders" } [
    .column .id "id" [],
    .column (.enumeration ["it's", "new"]) "state" [.default (.text "it's"), .unique],
    .column .foreignId "user_id" [.nullable, .default .null, .references "id", .on "users",
      .onDelete .cascade],
    .drop (.dropColumn "total"), .drop (.dropForeign "orders_user")]

theorem orderChanges_ported :
    let s := "ALTER TABLE orders\n  ADD COLUMN id BIGINT UNSIGNED NOT NULL AUTO_INCREMENT " ++
      "PRIMARY KEY,\n  ADD COLUMN state ENUM('it\\'s','new') NOT NULL DEFAULT 'it\\'s' UNIQUE,\n" ++
      "  ADD COLUMN user_id BIGINT UNSIGNED NULL DEFAULT NULL FOREIGN KEY (user_id) " ++
      "REFERENCES users(id) ON DELETE CASCADE,\n  DROP COLUMN total,\n" ++
      "  DROP FOREIGN KEY orders_user"
    let s' := "ALTER TABLE orders\n  ADD id BIGINT NOT NULL IDENTITY(1,1) PRIMARY KEY,\n" ++
      "  ADD state NVARCHAR(255) CHECK (state IN ('it''s','new')) NOT NULL DEFAULT 'it''s' " ++
      "UNIQUE,\n  ADD user_id BIGINT NULL DEFAULT NULL FOREIGN KEY (user_id) " ++
      "REFERENCES users(id) ON DELETE CASCADE,\n  DROP COLUMN total,\n" ++
      "  DROP CONSTRAINT orders_user"
    orderChanges.sql MySql.dialect = .ok s ∧ orderChanges.sql SqlServer.dialect = .ok s' ∧
      orderChanges.Ported {} s s' ∧ ∀ index, .dropIndex index ∉ orderChanges.commands := by
  intro s s'
  have h : orderChanges.sql MySql.dialect = .ok s := by decide +kernel
  have h' : orderChanges.sql SqlServer.dialect = .ok s' := by decide +kernel
  have hall := ddl_portable orderChanges {}
  exact ⟨h, h', hall.2 s s' h h', (hall.1.1 ⟨s', h'⟩).2.2⟩

end Blueprint

end SqlCompose
