import Mathlib.Data.List.ModifyLast
import SqlCompose.Proofs.Blueprint.Portable

/-!
# Columns and drops are independent

A run of building calls is known by the columns that it adds and the drops that it queues, each in
order (`calls_eq`). So calls of the two kinds can be exchanged freely, and the statement lists the
columns of each call, as the modifiers of that call left them, and behind them the drops
(`independent_kinds`). What a call does to its columns is also said one step at a time, where a
factory puts a bare column behind the others and every modifier reaches the column that is last:
`steps_eq_calls` shows that no later step reaches an earlier column.
-/

namespace SqlCompose.Blueprint

open List (Forall₂)

/-- A blueprint without columns and commands. -/
def start (mode : Mode) (table : String) : Blueprint where
  mode
  table

/-! ## What a run adds -/

namespace Call

def isDrop : Call → Bool
  | drop _ => true
  | _ => false

/-- The number of columns that a call adds. -/
def width : Call → Nat
  | column .. | softDeletes => 1
  | timestamps => 2
  | drop _ => 0

theorem length_columns (c : Call) : c.columns.length = c.width := by
  cases c <;> rfl

theorem columns_of_isDrop {c : Call} (h : c.isDrop = true) : c.columns = [] := by
  cases c with
  | drop command => rfl
  | column | timestamps | softDeletes => cases h

theorem commands_of_not_isDrop {c : Call} (h : c.isDrop = false) : c.commands = [] := by
  cases c with
  | drop command => cases h
  | column | timestamps | softDeletes => rfl

end Call

theorem calls_cons (b : Blueprint) (c : Call) (cs : List Call) :
    b.calls (c :: cs) = (b.call c).calls cs := rfl

theorem calls_eq (b : Blueprint) (cs : List Call) :
    b.calls cs = { b with
      columns := b.columns ++ cs.flatMap Call.columns
      commands := b.commands ++ cs.flatMap Call.commands } := by
  induction cs generalizing b with
  | nil => simp [calls]
  | cons c cs ih =>
    rw [calls_cons, ih]
    simp [call]

/-- Elements that give nothing can be left out. -/
theorem flatMap_filter_eq {α β : Type} {p : α → Bool} {f : α → List β}
    (h : ∀ a, p a = false → f a = []) (as : List α) : (as.filter p).flatMap f = as.flatMap f := by
  induction as with
  | nil => rfl
  | cons a as ih =>
    cases hp : p a with
    | true => rw [List.filter_cons_of_pos hp, List.flatMap_cons, List.flatMap_cons, ih]
    | false =>
      rw [List.filter_cons_of_neg (by simp [hp]), List.flatMap_cons, h a hp, ih, List.nil_append]

theorem flatMap_columns_filter (cs : List Call) :
    (cs.filter (!·.isDrop)).flatMap Call.columns = cs.flatMap Call.columns :=
  flatMap_filter_eq (fun _ h => Call.columns_of_isDrop (by simpa using h)) cs

theorem flatMap_commands_filter (cs : List Call) :
    (cs.filter (·.isDrop)).flatMap Call.commands = cs.flatMap Call.commands :=
  flatMap_filter_eq (fun _ => Call.commands_of_not_isDrop) cs

/-! ## One step at a time -/

/-- What a building call does, one step at a time. -/
inductive Step
  /-- A bare column goes behind the others. -/
  | add (type : ColumnType) (name : String) (parameters : ColumnParameters)
  /-- A modifier reaches the last column. -/
  | modify (modifier : Column.Modifier)
  | queue (command : TableCommand)

def step (b : Blueprint) : Step → Blueprint
  | .add type name parameters => { b with columns := b.columns ++ [{ type, name, parameters }] }
  | .modify modifier => { b with columns := b.columns.modifyLast (·.modify modifier) }
  | .queue command => { b with commands := b.commands ++ [command] }

def steps (b : Blueprint) (ss : List Step) : Blueprint := ss.foldl step b

/-- A factory adds a bare column; two of them call modifiers on it. -/
def Factory.steps (name : String) : Factory → List Step
  | id =>
    [.add .bigInt name {}, .modify .unsigned, .modify .autoIncrement, .modify .primary]
  | uuid => [.add .varchar name { length := some 36 }]
  | string length => [.add .varchar name { length := some length }]
  | stringDefault => [.add .varchar name { length := some 255 }]
  | text => [.add .text name {}]
  | integer => [.add .int name {}]
  | bigInteger => [.add .bigInt name {}]
  | boolean => [.add .tinyInt name { length := some 1 }]
  | date => [.add .date name {}]
  | dateTime => [.add .dateTime name {}]
  | timestamp => [.add .timestamp name {}]
  | decimal total places => [.add .decimal name { total := some total, places := some places }]
  | float => [.add .float name {}]
  | double => [.add .double name {}]
  | enumeration allowed => [.add .enum name { allowed }]
  | json => [.add .json name {}]
  | foreignId => [.add .bigInt name {}, .modify .unsigned]

def Call.steps : Call → List Step
  | column factory name modifiers => factory.steps name ++ modifiers.map .modify
  | timestamps =>
    Factory.timestamp.steps "created_at" ++ [.modify .nullable] ++
      (Factory.timestamp.steps "updated_at" ++ [.modify .nullable])
  | softDeletes => Factory.timestamp.steps "deleted_at" ++ [.modify .nullable]
  | drop command => [.queue command]

theorem steps_append (b : Blueprint) (ss ss' : List Step) :
    b.steps (ss ++ ss') = (b.steps ss).steps ss' := List.foldl_append

/-- Modifiers behind a column leave the columns before it as they are. -/
theorem steps_modify (b : Blueprint) (before : List Column) (c : Column)
    (ms : List Column.Modifier) :
    steps { b with columns := before ++ [c] } (ms.map .modify) =
      { b with columns := before ++ [c.modifyAll ms] } := by
  induction ms generalizing c with
  | nil => rfl
  | cons m ms ih =>
    have hstep : step { b with columns := before ++ [c] } (.modify m) =
        { b with columns := before ++ [c.modify m] } := by
      simp [step, List.modifyLast_concat]
    rw [List.map_cons, steps, List.foldl_cons, hstep]
    exact ih (c.modify m)

theorem steps_factory (b : Blueprint) (factory : Factory) (name : String) :
    b.steps (factory.steps name) = { b with columns := b.columns ++ [factory.column name] } := by
  cases factory with
  | id => exact steps_modify b b.columns _ [.unsigned, .autoIncrement, .primary]
  | foreignId => exact steps_modify b b.columns _ [.unsigned]
  | uuid | string | stringDefault | text | integer | bigInteger | boolean | date | dateTime
  | timestamp | decimal | float | double | enumeration | json => rfl

/-- A factory and modifiers add one column, the one of the factory with the modifiers applied. -/
theorem steps_column (b : Blueprint) (factory : Factory) (name : String)
    (ms : List Column.Modifier) :
    b.steps (factory.steps name ++ ms.map .modify) =
      { b with columns := b.columns ++ [(factory.column name).modifyAll ms] } := by
  rw [steps_append, steps_factory, steps_modify]

theorem steps_nullableTimestamp (b : Blueprint) (name : String) :
    b.steps (Factory.timestamp.steps name ++ [.modify .nullable]) =
      { b with columns := b.columns ++ [nullableTimestamp name] } :=
  b.steps_column .timestamp name [.nullable]

theorem steps_call (b : Blueprint) (c : Call) : b.steps c.steps = b.call c := by
  cases c with
  | column factory name modifiers =>
    rw [Call.steps, steps_column]
    simp [call, Call.columns, Call.commands]
  | timestamps =>
    rw [Call.steps, steps_append, steps_nullableTimestamp, steps_nullableTimestamp]
    simp [call, Call.columns, Call.commands]
  | softDeletes =>
    rw [Call.steps, steps_nullableTimestamp]
    simp [call, Call.columns, Call.commands]
  | drop command => simp [Call.steps, call, Call.columns, Call.commands, steps, step]

/-- **No later step reaches an earlier column**: a run of steps gives the columns of its calls, each
with the modifiers of its own call. -/
theorem steps_eq_calls (b : Blueprint) (cs : List Call) :
    b.steps (cs.flatMap Call.steps) = b.calls cs := by
  induction cs generalizing b with
  | nil => rfl
  | cons c cs ih =>
    rw [List.flatMap_cons, steps_append, steps_call, ih, calls_cons]

/-! ## What a statement lists -/

/-- The parts of a statement that a call gives: a definition for each of its columns. -/
structure Call.Defines (d : Dialect) (c : Call) (parts : List String) : Prop where
  definitions : Forall₂ (fun column part => column.definition d = .ok part) c.columns parts
  length : parts.length = c.width

/-- The part of a statement that a drop gives. -/
def Call.Drops (d : Dialect) (c : Call) (part : String) : Prop :=
  ∃ command, c = .drop command ∧ d.tableCommand command = .ok part

/-- The statement lists, with commas between neighbours, the columns of each call that adds some, in
the order of the calls, and behind them each drop, in the order of the drops. A statement that
creates a table lists no drops. -/
def Lists (mode : Mode) (table : String) (d : Dialect) (cs : List Call) (s : String) : Prop :=
  ∃ (definitions : List (List String)) (drops : List String),
    Forall₂ (Call.Defines d) (cs.filter (!·.isDrop)) definitions ∧
    Forall₂ (Call.Drops d) (cs.filter (·.isDrop)) drops ∧
    match mode with
    | .create => drops = [] ∧ s = "CREATE TABLE " ++ table ++ " (\n" ++
        ",\n".intercalate (definitions.flatten.map ("  " ++ ·)) ++ "\n)" ++ d.tableOptions
    | .alter => s = "ALTER TABLE " ++ table ++ "\n" ++ ",\n".intercalate
        ((definitions.flatten.map (d.addColumnKeyword ++ " " ++ ·) ++ drops).map ("  " ++ ·))

/-- Partners of a concatenation are a concatenation of partners. -/
theorem exists_forall₂_flatMap {α β γ : Type} {f : α → List β} {r : β → γ → Prop} {as : List α}
    {cs : List γ} (h : Forall₂ r (as.flatMap f) cs) :
    ∃ parts : List (List γ), parts.flatten = cs ∧
      Forall₂ (fun a ps => Forall₂ r (f a) ps) as parts := by
  induction as generalizing cs with
  | nil =>
    cases h
    exact ⟨[], rfl, .nil⟩
  | cons a as ih =>
    rw [List.flatMap_cons] at h
    have hfirst := List.forall₂_take (f a).length h
    have hothers := List.forall₂_drop (f a).length h
    rw [List.take_left] at hfirst
    rw [List.drop_left] at hothers
    obtain ⟨parts, hparts, hall⟩ := ih hothers
    refine ⟨cs.take (f a).length :: parts, ?_, .cons hfirst hall⟩
    rw [List.flatten_cons, hparts, List.take_append_drop]

/-- A run of drops queues one command each. -/
theorem forall₂_drops {d : Dialect} {cs : List Call} (hcs : ∀ c ∈ cs, c.isDrop = true)
    {drops : List String}
    (h : Forall₂ (fun k t => d.tableCommand k = .ok t) (cs.flatMap Call.commands) drops) :
    Forall₂ (Call.Drops d) cs drops := by
  induction cs generalizing drops with
  | nil =>
    cases h
    exact .nil
  | cons c cs ih =>
    have hothers : ∀ c ∈ cs, c.isDrop = true := fun c hc => hcs c (List.mem_cons_of_mem _ hc)
    cases c with
    | drop command =>
      obtain _ | ⟨hcommand, hdrops⟩ := h
      exact .cons ⟨command, rfl, hcommand⟩ (ih hothers hdrops)
    | column | timestamps | softDeletes =>
      exact absurd (hcs _ List.mem_cons_self) (by simp [Call.isDrop])

/-- The definitions of the columns of a call, one for each. -/
theorem Call.defines {d : Dialect} {c : Call} {parts : List String}
    (h : Forall₂ (fun column part => column.definition d = .ok part) c.columns parts) :
    c.Defines d parts where
  definitions := h
  length := by rw [← h.length_eq, c.length_columns]

theorem lists_of_sql {mode : Mode} {table : String} {d : Dialect} {cs : List Call} {s : String}
    (h : ((start mode table).calls cs).sql d = .ok s) : Lists mode table d cs s := by
  obtain ⟨hcontent, definitions, hdefinitions, drops, hdrops, hs⟩ := sql_eq_ok_iff.1 h
  rw [calls_eq] at hcontent hdefinitions hdrops hs
  simp only [start, List.nil_append] at hcontent hdefinitions hdrops hs
  rw [← flatMap_columns_filter] at hdefinitions
  obtain ⟨parts, rfl, hparts⟩ := exists_forall₂_flatMap hdefinitions
  have hqueued := hdrops
  rw [← flatMap_commands_filter] at hqueued
  refine ⟨parts, drops, hparts.imp fun c ps => Call.defines,
    forall₂_drops (fun c hc => (List.mem_filter.1 hc).2) hqueued, ?_⟩
  cases mode with
  | create =>
    obtain ⟨hnone, -⟩ : cs.flatMap Call.commands = [] ∧ _ := hcontent
    rw [hnone] at hdrops
    exact ⟨List.forall₂_nil_left_iff.1 hdrops, hs⟩
  | alter => exact hs

/-- **Calls that add columns and calls that queue drops are independent.** Runs with the same calls
of each kind in the same order have one statement, or one error in its place, however the two kinds
are mixed. The columns are those that the steps of the calls leave, and the statement lists them and
the drops. -/
theorem independent_kinds (mode : Mode) (table : String) {cs cs' : List Call}
    (hcolumns : cs.filter (!·.isDrop) = cs'.filter (!·.isDrop))
    (hdrops : cs.filter (·.isDrop) = cs'.filter (·.isDrop)) (d : Dialect) :
    ((start mode table).calls cs).sql d = ((start mode table).calls cs').sql d ∧
      (start mode table).steps (cs.flatMap Call.steps) = (start mode table).calls cs ∧
      ∀ s, ((start mode table).calls cs).sql d = .ok s → Lists mode table d cs s := by
  have hsame : (start mode table).calls cs = (start mode table).calls cs' := by
    rw [calls_eq, calls_eq, ← flatMap_columns_filter cs, ← flatMap_columns_filter cs', hcolumns,
      ← flatMap_commands_filter cs, ← flatMap_commands_filter cs', hdrops]
  exact ⟨by rw [hsame], steps_eq_calls _ cs, fun _ => lists_of_sql⟩

/-- Drops between columns, modifiers before and behind other calls. -/
def mixedCalls : List Call :=
  [.drop (.dropIndex "i"), .column (.string 9) "name" [.default (.text "a, b"), .unique],
    .drop (.dropColumn "old"), .timestamps, .column .foreignId "user_id" [.nullable, .after "name"],
    .drop (.dropForeign "k"), .softDeletes]

/-- The same calls, columns last. -/
def partedCalls : List Call :=
  [.drop (.dropIndex "i"), .drop (.dropColumn "old"), .drop (.dropForeign "k"),
    .column (.string 9) "name" [.default (.text "a, b"), .unique], .timestamps,
    .column .foreignId "user_id" [.nullable, .after "name"], .softDeletes]

theorem mixedCalls_independent :
    let b := start .alter "t"
    let s := "ALTER TABLE t\n  ADD COLUMN name VARCHAR(9) NOT NULL DEFAULT 'a, b' UNIQUE,\n" ++
      "  ADD COLUMN created_at TIMESTAMP NULL,\n  ADD COLUMN updated_at TIMESTAMP NULL,\n" ++
      "  ADD COLUMN user_id BIGINT UNSIGNED NULL AFTER name,\n" ++
      "  ADD COLUMN deleted_at TIMESTAMP NULL,\n  DROP INDEX i,\n  DROP COLUMN old,\n" ++
      "  DROP FOREIGN KEY k"
    mixedCalls.filter (!·.isDrop) = partedCalls.filter (!·.isDrop) ∧
      mixedCalls.filter (·.isDrop) = partedCalls.filter (·.isDrop) ∧
      (b.calls mixedCalls).sql MySql.dialect = (b.calls partedCalls).sql MySql.dialect ∧
      b.steps (mixedCalls.flatMap Call.steps) = b.calls mixedCalls ∧
      (b.calls mixedCalls).sql MySql.dialect = .ok s ∧
      Lists .alter "t" MySql.dialect mixedCalls s := by
  intro b s
  have hcolumns : mixedCalls.filter (!·.isDrop) = partedCalls.filter (!·.isDrop) := rfl
  have hdrops : mixedCalls.filter (·.isDrop) = partedCalls.filter (·.isDrop) := rfl
  have hs : (b.calls mixedCalls).sql MySql.dialect = .ok s := by decide +kernel
  have hall := independent_kinds .alter "t" hcolumns hdrops MySql.dialect
  exact ⟨hcolumns, hdrops, hall.1, hall.2.1, hs, hall.2.2 s hs⟩

end SqlCompose.Blueprint
