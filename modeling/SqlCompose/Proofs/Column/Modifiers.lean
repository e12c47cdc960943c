import SqlCompose.Proofs.Column.Unambiguous
import Mathlib.Data.List.Induction

/-!
# Modifiers in any order

What a run of modifiers makes of a bare column is known by the flags that occur in it and by the
last argument given to each of the other modifiers (`Column.settled`). The step is
`settled_append_singleton`; `modifyAll_bare` carries it through a run. So runs with the same flags
and the same last arguments make the same column, in particular runs that only differ in the order
of different modifiers or in how often a flag is set (`modifiers_in_any_order`). The four modifiers
of a relation fill one and the same relation, which the first of them creates (`lastRelation`).
-/

namespace SqlCompose.Column

namespace Modifier

/-- The kinds of modifiers. -/
inductive Kind
  | nullable
  | unique
  | primary
  | autoIncrement
  | unsigned
  | default
  | after
  | references
  | on
  | onDelete
  | onUpdate
  deriving DecidableEq, Repr

/-- A modifier of the kind takes no argument. -/
def Kind.isFlag : Kind → Bool
  | nullable | unique | primary | autoIncrement | unsigned => true
  | default | after | references | on | onDelete | onUpdate => false

/-- A modifier of the kind fills the relation. -/
def Kind.relates : Kind → Bool
  | references | on | onDelete | onUpdate => true
  | nullable | unique | primary | autoIncrement | unsigned | default | after => false

def kind : Modifier → Kind
  | nullable => .nullable
  | unique => .unique
  | primary => .primary
  | autoIncrement => .autoIncrement
  | unsigned => .unsigned
  | default _ => .default
  | after _ => .after
  | references _ => .references
  | on _ => .on
  | onDelete _ => .onDelete
  | onUpdate _ => .onUpdate

/-! ## Arguments -/

def default? : Modifier → Option DefaultValue
  | default value => some value
  | _ => none

def after? : Modifier → Option String
  | after column => some column
  | _ => none

def references? : Modifier → Option String
  | references column => some column
  | _ => none

def on? : Modifier → Option String
  | on table => some table
  | _ => none

def onDelete? : Modifier → Option ReferentialAction
  | onDelete action => some action
  | _ => none

def onUpdate? : Modifier → Option ReferentialAction
  | onUpdate action => some action
  | _ => none

/-- The modifiers of the kind are those with an argument of this sort. -/
def Kind.Gives {β : Type} (k : Kind) (argument? : Modifier → Option β) : Prop :=
  ∀ m : Modifier, m.kind = k ↔ argument? m ≠ none

theorem Kind.Gives.eq_none {β : Type} {k : Kind} {argument? : Modifier → Option β}
    (hk : k.Gives argument?) {m : Modifier} (hm : m.kind ≠ k) : argument? m = none := by
  by_contra hsome
  exact hm ((hk m).2 hsome)

theorem gives_default : Kind.default.Gives default? := by
  intro m
  cases m <;> simp [kind, default?]

theorem gives_after : Kind.after.Gives after? := by
  intro m
  cases m <;> simp [kind, after?]

theorem gives_references : Kind.references.Gives references? := by
  intro m
  cases m <;> simp [kind, references?]

theorem gives_on : Kind.on.Gives on? := by
  intro m
  cases m <;> simp [kind, on?]

theorem gives_onDelete : Kind.onDelete.Gives onDelete? := by
  intro m
  cases m <;> simp [kind, onDelete?]

theorem gives_onUpdate : Kind.onUpdate.Gives onUpdate? := by
  intro m
  cases m <;> simp [kind, onUpdate?]

end Modifier

open Modifier (Kind)

/-! ## What counts in a run -/

/-- A modifier of the kind occurs in the run. -/
def occurs (k : Kind) (ms : List Modifier) : Bool := ms.any (·.kind = k)

/-- The last argument that the run gives. -/
def last {β : Type} (argument? : Modifier → Option β) (ms : List Modifier) : Option β :=
  (ms.filterMap argument?).getLast?

/-- What the modifiers of a run fill in a relation. -/
def filled (ms : List Modifier) : ForeignKey where
  column := last Modifier.references? ms
  table := last Modifier.on? ms
  onDelete := last Modifier.onDelete? ms
  onUpdate := last Modifier.onUpdate? ms

/-- The relation that a run leaves, if one of its modifiers fills a relation. -/
def lastRelation (ms : List Modifier) : Option ForeignKey :=
  if ms.any (·.kind.relates) then some (filled ms) else none

/-- A column before its modifiers. -/
def bare (type : ColumnType) (name : String) (parameters : ColumnParameters) : Column where
  type
  name
  parameters

/-- The column that a run of modifiers comes to. -/
def settled (type : ColumnType) (name : String) (parameters : ColumnParameters)
    (ms : List Modifier) : Column where
  type
  name
  parameters := { parameters with unsigned := parameters.unsigned || occurs .unsigned ms }
  nullable := occurs .nullable ms
  unique := occurs .unique ms
  primary := occurs .primary ms
  autoIncrement := occurs .autoIncrement ms
  default := last Modifier.default? ms
  after := last Modifier.after? ms
  foreignKey := lastRelation ms

/-- Two runs set the same flags and give the same last arguments. -/
structure Modifier.Alike (ms ms' : List Modifier) : Prop where
  flags : ∀ k : Kind, k.isFlag = true →
    ((∃ m ∈ ms, m.kind = k) ↔ ∃ m ∈ ms', m.kind = k)
  default : last default? ms = last default? ms'
  after : last after? ms = last after? ms'
  references : last references? ms = last references? ms'
  on : last on? ms = last on? ms'
  onDelete : last onDelete? ms = last onDelete? ms'
  onUpdate : last onUpdate? ms = last onUpdate? ms'

section
variable {ms ms' : List Modifier} {k : Kind}

theorem occurs_iff : occurs k ms = true ↔ ∃ m ∈ ms, m.kind = k := by
  simp [occurs]

theorem occurs_append_singleton (m : Modifier) :
    occurs k (ms ++ [m]) = (occurs k ms || decide (m.kind = k)) := by
  simp [occurs]

variable {β : Type} {argument? : Modifier → Option β}

/-- The last argument counts. -/
theorem last_append_singleton (m : Modifier) :
    last argument? (ms ++ [m]) = (argument? m).or (last argument? ms) := by
  unfold last
  rw [List.filterMap_append, List.getLast?_append]
  cases h : argument? m <;> simp [h]

theorem last_eq_none_iff (hk : k.Gives argument?) :
    last argument? ms = none ↔ ∀ m ∈ ms, m.kind ≠ k := by
  simp only [last, List.getLast?_eq_none_iff, List.filterMap_eq_nil_iff, ne_eq, hk _, not_not]

/-- The last argument is found among the modifiers of its kind. -/
theorem last_filter (hk : k.Gives argument?) (ms : List Modifier) :
    last argument? (ms.filter (·.kind = k)) = last argument? ms := by
  unfold last
  rw [List.filterMap_filter]
  congr 1
  refine List.filterMap_congr fun m _ => ?_
  by_cases hm : m.kind = k
  · simp [hm]
  · simp [hm, hk.eq_none hm]

/-- Flags give no arguments. -/
theorem last_insert_flag (hk : k.Gives argument?) {m : Modifier} (hm : m.kind ≠ k)
    (front back : List Modifier) :
    last argument? (front ++ m :: back) = last argument? (front ++ back) := by
  unfold last
  rw [List.filterMap_append, List.filterMap_cons_none (hk.eq_none hm), List.filterMap_append]

end

/-! ## Runs of modifiers -/

section
variable {ms ms' : List Modifier}

theorem relates_iff : (ms.any fun m => m.kind.relates) = true ↔
    last Modifier.references? ms ≠ none ∨ last Modifier.on? ms ≠ none ∨
      last Modifier.onDelete? ms ≠ none ∨ last Modifier.onUpdate? ms ≠ none := by
  have hkind : ∀ k : Kind, k.relates = true ↔
      k = .references ∨ k = .on ∨ k = .onDelete ∨ k = .onUpdate := by
    intro k
    cases k <;> simp [Kind.relates]
  simp only [ne_eq, last_eq_none_iff Modifier.gives_references, last_eq_none_iff Modifier.gives_on,
    last_eq_none_iff Modifier.gives_onDelete, last_eq_none_iff Modifier.gives_onUpdate, not_forall,
    not_not, exists_prop, List.any_eq_true, hkind, and_or_left, exists_or]

/-- The relation that a run leaves to the next modifier, which creates it if there is none. -/
theorem getD_lastRelation (ms : List Modifier) : (lastRelation ms).getD {} = filled ms := by
  unfold lastRelation
  split
  · rfl
  · rename_i hnone
    rw [relates_iff] at hnone
    simp only [not_or, ne_eq, not_not] at hnone
    obtain ⟨hreferences, hon, honDelete, honUpdate⟩ := hnone
    rw [filled, hreferences, hon, honDelete, honUpdate]
    rfl

theorem lastRelation_append_singleton (ms : List Modifier) (m : Modifier) :
    lastRelation (ms ++ [m]) =
      if m.kind.relates then some (filled (ms ++ [m])) else lastRelation ms := by
  cases hm : m.kind.relates with
  | true => simp [lastRelation, hm]
  | false =>
    have hsame : filled (ms ++ [m]) = filled ms := by
      cases m with
      | references | on | onDelete | onUpdate => cases hm
      | nullable | unique | primary | autoIncrement | unsigned | default | after =>
        simp [filled, last_append_singleton, Modifier.references?, Modifier.on?,
          Modifier.onDelete?, Modifier.onUpdate?]
    simp [lastRelation, hm, hsame]

variable (type : ColumnType) (name : String) (parameters : ColumnParameters)

/-- One more modifier. -/
theorem settled_append_singleton (ms : List Modifier) (m : Modifier) :
    settled type name parameters (ms ++ [m]) = (settled type name parameters ms).modify m := by
  have hrelation := getD_lastRelation ms
  simp only [settled, lastRelation_append_singleton, occurs_append_singleton,
    last_append_singleton]
  cases m <;>
    simp [modify, relate, hrelation, filled, last_append_singleton, Modifier.kind, Kind.relates,
      Modifier.default?, Modifier.after?, Modifier.references?, Modifier.on?, Modifier.onDelete?,
      Modifier.onUpdate?]

/-- What a run of modifiers makes of a bare column. -/
theorem modifyAll_bare (ms : List Modifier) :
    (bare type name parameters).modifyAll ms = settled type name parameters ms := by
  induction ms using List.reverseRecOn with
  | nil => simp [modifyAll, bare, settled, occurs, last, lastRelation]
  | append_singleton ms m ih =>
    rw [settled_append_singleton, ← ih]
    simp [modifyAll]

end

/-! ## Runs that come to the same -/

section
variable {ms ms' : List Modifier}

theorem Modifier.Alike.lastRelation_eq (h : Alike ms ms') : lastRelation ms = lastRelation ms' := by
  have hfilled : filled ms = filled ms' := by
    rw [filled, filled, h.references, h.on, h.onDelete, h.onUpdate]
  have hrelates : (ms.any fun m => m.kind.relates) = ms'.any fun m => m.kind.relates := by
    rw [Bool.eq_iff_iff, relates_iff, relates_iff, h.references, h.on, h.onDelete, h.onUpdate]
  rw [lastRelation, lastRelation, hfilled, hrelates]

theorem Modifier.Alike.settled_eq (h : Alike ms ms') (type : ColumnType) (name : String)
    (parameters : ColumnParameters) :
    settled type name parameters ms = settled type name parameters ms' := by
  have hflag : ∀ k : Kind, k.isFlag = true → occurs k ms = occurs k ms' := by
    intro k hk
    rw [Bool.eq_iff_iff, occurs_iff, occurs_iff]
    exact h.flags k hk
  rw [settled, settled, hflag .unsigned rfl, hflag .nullable rfl, hflag .unique rfl,
    hflag .primary rfl, hflag .autoIncrement rfl, h.default, h.after, h.lastRelation_eq]

/-- Modifiers of different kinds can be exchanged. -/
theorem Modifier.alike_of_filter_eq
    (h : ∀ k : Kind, ms.filter (·.kind = k) = ms'.filter (·.kind = k)) : Alike ms ms' := by
  have hlast : ∀ {β : Type} {k : Kind} {argument? : Modifier → Option β}, k.Gives argument? →
      last argument? ms = last argument? ms' := by
    intro β k argument? hk
    rw [← last_filter hk, h k, last_filter hk]
  refine ⟨fun k _ => ?_, hlast gives_default, hlast gives_after, hlast gives_references,
    hlast gives_on, hlast gives_onDelete, hlast gives_onUpdate⟩
  have hmem : ∀ m : Modifier, m.kind = k → (m ∈ ms ↔ m ∈ ms') := by
    intro m hm
    have hfilter : m ∈ ms.filter (·.kind = k) ↔ m ∈ ms'.filter (·.kind = k) := by rw [h k]
    simpa [hm] using hfilter
  constructor
  · rintro ⟨m, hms, hm⟩
    exact ⟨m, (hmem m hm).1 hms, hm⟩
  · rintro ⟨m, hms, hm⟩
    exact ⟨m, (hmem m hm).2 hms, hm⟩

/-- A flag that is set anyway can be set once more at any place. -/
theorem Modifier.alike_of_repeated_flag {m : Modifier} (hm : m.kind.isFlag = true)
    {front back : List Modifier} (hmem : m ∈ front ++ back) :
    Alike (front ++ m :: back) (front ++ back) := by
  have hlast : ∀ {β : Type} {k : Kind} {argument? : Modifier → Option β}, k.Gives argument? →
      k.isFlag = false →
      last argument? (front ++ m :: back) = last argument? (front ++ back) := by
    intro β k argument? hk hflag
    refine last_insert_flag hk ?_ front back
    rintro rfl
    rw [hm] at hflag
    cases hflag
  refine ⟨fun k _ => ?_, hlast gives_default rfl, hlast gives_after rfl,
    hlast gives_references rfl, hlast gives_on rfl, hlast gives_onDelete rfl,
    hlast gives_onUpdate rfl⟩
  constructor
  · rintro ⟨m', hm', hk⟩
    rcases List.mem_append.1 hm' with hfront | hback
    · exact ⟨m', List.mem_append_left _ hfront, hk⟩
    · rcases List.mem_cons.1 hback with rfl | hback
      · exact ⟨m', hmem, hk⟩
      · exact ⟨m', List.mem_append_right _ hback, hk⟩
  · rintro ⟨m', hm', hk⟩
    rcases List.mem_append.1 hm' with hfront | hback
    · exact ⟨m', List.mem_append_left _ hfront, hk⟩
    · exact ⟨m', List.mem_append_right _ (List.mem_cons_of_mem _ hback), hk⟩

end

/-! ## The relation of a run -/

section
variable {ms : List Modifier}

theorem lastRelation_ne_none_iff :
    lastRelation ms ≠ none ↔ ∃ m ∈ ms, m.kind.relates = true := by
  simp [lastRelation]

/-- The relation of a run lacks a column or a table if one of the two was never given. -/
theorem not_hasCompleteRelation_iff {c : Column} (hc : c.foreignKey = lastRelation ms) :
    ¬c.HasCompleteRelation ↔ (∃ m ∈ ms, m.kind.relates = true) ∧
      ((∀ m ∈ ms, m.kind ≠ .references) ∨ ∀ m ∈ ms, m.kind ≠ .on) := by
  rw [← last_eq_none_iff Modifier.gives_references, ← last_eq_none_iff Modifier.gives_on,
    ← lastRelation_ne_none_iff]
  unfold HasCompleteRelation
  rw [hc]
  cases hr : lastRelation ms with
  | none => simp
  | some k =>
    obtain rfl : filled ms = k := by rw [← getD_lastRelation, hr, Option.getD_some]
    have hcolumn : (filled ms).column = last Modifier.references? ms := rfl
    have htable : (filled ms).table = last Modifier.on? ms := rfl
    cases hreferences : last Modifier.references? ms <;> cases hon : last Modifier.on? ms <;>
      simp [hcolumn, htable, hreferences, hon]

end

/-- **Modifiers in any order.** A run of modifiers makes of a bare column what its flags and its
last arguments say. So runs that agree in these make one column, with one definition in each
dialect; in particular runs with the same modifiers of each kind in the same order, and runs of
which one repeats a flag. The column has a relation exactly if a modifier fills one. It is then
filled with the last arguments, and incomplete exactly if no modifier gave a column or none gave a
table. -/
theorem modifiers_in_any_order (type : ColumnType) (name : String) (parameters : ColumnParameters)
    (ms : List Modifier) :
    let made := (bare type name parameters).modifyAll
    made ms = settled type name parameters ms ∧
    (∀ ms', Modifier.Alike ms ms' →
      made ms' = made ms ∧ ∀ d : Dialect, (made ms').definition d = (made ms).definition d) ∧
    (∀ ms', (∀ k : Kind, ms.filter (·.kind = k) = ms'.filter (·.kind = k)) → made ms' = made ms) ∧
    (∀ (m : Modifier) (front back : List Modifier), ms = front ++ back → m.kind.isFlag = true →
      m ∈ ms → made (front ++ m :: back) = made ms) ∧
    ((made ms).foreignKey ≠ none ↔ ∃ m ∈ ms, m.kind.relates = true) ∧
    (∀ k, (made ms).foreignKey = some k → k = filled ms) ∧
    (¬(made ms).HasCompleteRelation ↔ (∃ m ∈ ms, m.kind.relates = true) ∧
      ((∀ m ∈ ms, m.kind ≠ .references) ∨ ∀ m ∈ ms, m.kind ≠ .on)) := by
  intro made
  have hmade : ∀ ms, made ms = settled type name parameters ms :=
    modifyAll_bare type name parameters
  have halike : ∀ {ms ms'}, Modifier.Alike ms ms' → made ms' = made ms := by
    intro ms ms' h
    rw [hmade, hmade, h.settled_eq]
  have hrelation : (made ms).foreignKey = lastRelation ms := by rw [hmade, settled]
  refine ⟨hmade ms, fun ms' h => ⟨halike h, fun d => by rw [halike h]⟩, fun ms' h => ?_,
    fun m front back hms hm hmem => ?_, ?_, fun k hk => ?_, not_hasCompleteRelation_iff hrelation⟩
  · exact halike (Modifier.alike_of_filter_eq h)
  · subst hms
    exact (halike (Modifier.alike_of_repeated_flag hm hmem)).symm
  · rw [hrelation]
    exact lastRelation_ne_none_iff
  · rw [← getD_lastRelation, ← hrelation, hk, Option.getD_some]

/-- Two flags, two columns for the relation and an action in front of them. -/
def tangledRun : List Modifier :=
  [.onDelete .cascade, .nullable, .references "id", .after "a", .unsigned, .references "uuid",
    .default (.int 1), .on "teams", .default .null]

/-- The same by kinds. -/
def partedRun : List Modifier :=
  [.unsigned, .nullable, .default (.int 1), .default .null, .after "a", .references "id",
    .references "uuid", .on "teams", .onDelete .cascade]

/-- The last arguments alone, and a flag twice. -/
def shortRun : List Modifier :=
  [.on "teams", .unsigned, .default .null, .nullable, .after "a", .references "uuid", .nullable,
    .onDelete .cascade]

theorem tangledRun_in_any_order :
    let made := (bare .bigInt "team_id" {}).modifyAll
    Modifier.Alike tangledRun shortRun ∧ made shortRun = made tangledRun ∧
      (∀ d : Dialect, (made shortRun).definition d = (made tangledRun).definition d) ∧
      (∀ k : Kind, tangledRun.filter (·.kind = k) = partedRun.filter (·.kind = k)) ∧
      made partedRun = made tangledRun ∧
      made (tangledRun ++ [.nullable]) = made tangledRun ∧
      (made tangledRun).foreignKey =
        some { column := some "uuid", table := some "teams", onDelete := some .cascade } ∧
      (made tangledRun).definition MySql.dialect =
        .ok ("team_id BIGINT UNSIGNED NULL DEFAULT NULL AFTER a FOREIGN KEY (team_id) " ++
          "REFERENCES teams(uuid) ON DELETE CASCADE") := by
  intro made
  have halike : Modifier.Alike tangledRun shortRun := by
    refine ⟨fun k _ => ?_, rfl, rfl, rfl, rfl, rfl, rfl⟩
    cases k <;> simp [tangledRun, shortRun, Modifier.kind]
  have hparted : ∀ k : Kind, tangledRun.filter (·.kind = k) = partedRun.filter (·.kind = k) := by
    intro k
    cases k <;> rfl
  have hmem : Modifier.nullable ∈ tangledRun := .tail _ (.head _)
  obtain ⟨-, hdetermined, hreordered, hrepeated, -⟩ :=
    modifiers_in_any_order .bigInt "team_id" {} tangledRun
  obtain ⟨hsame, hdefinition⟩ := hdetermined shortRun halike
  exact ⟨halike, hsame, hdefinition, hparted, hreordered partedRun hparted,
    hrepeated .nullable tangledRun [] (List.append_nil _).symm rfl hmem, by decide +kernel,
    by decide +kernel⟩

end SqlCompose.Column
