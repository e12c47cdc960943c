import SqlCompose.Proofs.Blueprint.Independence
import SqlCompose.Proofs.Column.Containment
import SqlCompose.Proofs.Column.Modifiers

/-!
# Positions of columns in a statement

A column with a position has one AFTER clause in its definition, and any other column has none
(`Column.hasPositions_of_definition`). The clause stands in the definition that the column would
have without it (`Column.placedBehind_of_definition`). A column does not know whether its table is
new, so this holds of CREATE TABLE as well as of ALTER TABLE, and a statement is free of AFTER
clauses exactly if no building call gave a position (`Blueprint.positions_shown`).
-/

namespace SqlCompose

open List (Forall₂)

namespace Column

variable {c : Column} {d : Dialect} {t : String}

/-! ## One definition -/

/-- The column that an AFTER clause names. -/
def Part.position? : Part → Option String
  | after column => some column
  | _ => none

/-- The text is the definition of the column, and its AFTER clauses name these columns. -/
def HasPositions (c : Column) (d : Dialect) (t : String) (xs : List String) : Prop :=
  ∃ ps, c.parts d = .ok ps ∧ t = " ".intercalate (ps.map (Part.sql d)) ∧
    ps.filterMap Part.position? = xs

theorem HasPositions.unique {xs ys : List String} (h : c.HasPositions d t xs)
    (h' : c.HasPositions d t ys) : xs = ys := by
  obtain ⟨ps, hps, -, rfl⟩ := h
  obtain ⟨qs, hqs, -, rfl⟩ := h'
  rw [Except.ok.inj (hps.symm.trans hqs)]

/-- The parts between the type and the position. -/
def beforePosition (c : Column) : List Part :=
  [.nullability c.nullable] ++ (c.default.map Part.default).toList ++
    (if c.autoIncrement then [.autoIncrement] else []) ++
    (if c.unique then [.unique] else []) ++ (if c.primary then [.primaryKey] else [])

theorem tail_eq (c : Column) :
    c.tail = c.beforePosition ++ (c.after.map Part.after).toList ++ c.relation.toList := rfl

theorem filterMap_beforePosition (c : Column) : c.beforePosition.filterMap Part.position? = [] := by
  refine List.filterMap_eq_nil_iff.2 fun p hp => ?_
  unfold beforePosition at hp
  simp only [List.mem_append, Option.mem_toList, Option.map_eq_some_iff, List.mem_singleton,
    List.mem_ite_nil_right, or_assoc] at hp
  rcases hp with rfl | ⟨v, -, rfl⟩ | ⟨-, rfl⟩ | ⟨-, rfl⟩ | ⟨-, rfl⟩ <;> rfl

theorem filterMap_relation (c : Column) : c.relation.toList.filterMap Part.position? = [] := by
  refine List.filterMap_eq_nil_iff.2 fun p hp => ?_
  obtain ⟨k, table, column, -, -, -, rfl⟩ := relation_eq_some_iff.1 (Option.mem_toList.1 hp)
  rfl

/-- A column with a position has one AFTER clause, and any other column has none. -/
theorem hasPositions_of_definition (h : c.definition d = .ok t) :
    c.HasPositions d t c.after.toList := by
  obtain ⟨ps, hps, ht⟩ := definition_eq_ok_iff.1 h
  obtain ⟨-, -, -, type, -, rfl⟩ := parts_eq_ok_iff.1 hps
  refine ⟨_, hps, ht, ?_⟩
  have hname : Part.position? (.name c.name) = none := rfl
  have htype : Part.position? (.type type) = none := rfl
  rw [List.filterMap_cons_none hname, List.filterMap_cons_none htype, tail_eq,
    List.filterMap_append, List.filterMap_append, filterMap_beforePosition, filterMap_relation]
  cases c.after <;> rfl

theorem hasPositions_nil_iff (h : c.definition d = .ok t) :
    c.HasPositions d t [] ↔ c.after = none := by
  have hpositions := hasPositions_of_definition h
  rw [← Option.toList_eq_nil_iff]
  exact ⟨fun hnone => hpositions.unique hnone, fun hnone => hnone ▸ hpositions⟩

theorem forall₂_hasPositions_nil_iff {columns : List Column} {definitions : List String}
    (h : Forall₂ (fun c t => c.definition d = .ok t) columns definitions) :
    Forall₂ (fun c t => c.HasPositions d t []) columns definitions ↔
      ∀ c ∈ columns, c.after = none := by
  induction h with
  | nil => simp
  | cons ht _ ih => rw [List.forall₂_cons, List.forall_mem_cons, hasPositions_nil_iff ht, ih]

/-- The column without its position. -/
def unplaced (c : Column) : Column := { c with after := none }

theorem partText_append (d : Dialect) (ps qs : List Part) :
    partText d (ps ++ qs) = partText d ps ++ partText d qs := by
  refine String.toList_injective ?_
  simp [partText]

/-- The text is the definition of the column with an AFTER clause for `x` set into the definition
that the column has without a position. -/
def PlacedBehind (c : Column) (d : Dialect) (t x : String) : Prop :=
  ∃ front back, t = front ++ " AFTER " ++ x ++ back ∧
    (d.typeDefinition c.unplaced = d.typeDefinition c →
      c.unplaced.definition d = .ok (front ++ back))

theorem placedBehind_of_definition {x : String} (hx : c.after = some x)
    (h : c.definition d = .ok t) : c.PlacedBehind d t x := by
  obtain ⟨hn, hposition, hr, type, htype⟩ := exists_definition_iff.1 ⟨t, h⟩
  refine ⟨c.name ++ " " ++ type ++ partText d c.beforePosition, partText d c.relation.toList,
    ?_, fun hsame => ?_⟩
  · have ht := definition_eq_of_typeDefinition hn hposition hr htype
    have hclause : partText d [.after x] = " AFTER " ++ x := by
      have hafter : (Part.after x).sql d = "AFTER " ++ x := rfl
      have hspace : " AFTER " = " " ++ "AFTER " := rfl
      have hnil : partText d [] = "" := rfl
      rw [partText_cons, hafter, hnil, hspace, String.append_empty, String.append_assoc]
    rw [h, tail_eq, hx, partText_append, partText_append] at ht
    rw [Except.ok.inj ht, Option.map_some, Option.toList_some, hclause]
    simp only [String.append_assoc]
  · have hnone : c.unplaced.after = none := rfl
    have htail : c.unplaced.tail = c.beforePosition ++ c.relation.toList := by
      simp [tail_eq, unplaced, beforePosition, relation]
    rw [definition_eq_of_typeDefinition (c := c.unplaced) hn (fun hsome => absurd hnone hsome) hr
      (hsame.trans htype), htail, partText_append]
    simp only [String.append_assoc]
    rfl

/-! ## Modifiers -/

theorem after_modify (c : Column) (m : Modifier) : (c.modify m).after = m.after?.or c.after := by
  cases m <;> rfl

/-- The last position that a run of modifiers gives is the one that counts. -/
theorem after_modifyAll (c : Column) (ms : List Modifier) :
    (c.modifyAll ms).after = (last Modifier.after? ms).or c.after := by
  induction ms using List.reverseRecOn with
  | nil => rfl
  | append_singleton ms m ih =>
    have hstep : c.modifyAll (ms ++ [m]) = (c.modifyAll ms).modify m := by simp [modifyAll]
    rw [hstep, after_modify, ih, last_append_singleton, Option.or_assoc]

end Column

namespace Blueprint

/-! ## Building calls -/

theorem after_factory (factory : Factory) (name : String) : (factory.column name).after = none := by
  cases factory <;> rfl

/-- The positions that a building call gives, in the order of its modifiers. -/
def Call.positions : Call → List String
  | column _ _ modifiers => modifiers.filterMap Column.Modifier.after?
  | _ => []

/-- Only the last position of a call reaches its column. -/
theorem Call.flatMap_after (c : Call) :
    c.columns.flatMap (·.after.toList) = c.positions.getLast?.toList := by
  cases c with
  | column factory name ms =>
    simp [columns, positions, Column.after_modifyAll, after_factory, Column.last]
  | timestamps | softDeletes | drop => rfl

theorem Call.after_eq_none_iff (c : Call) :
    (∀ column ∈ c.columns, column.after = none) ↔ c.positions = [] := by
  rw [← List.getLast?_eq_none_iff, ← Option.toList_eq_nil_iff, ← c.flatMap_after,
    List.flatMap_eq_nil_iff]
  simp only [Option.toList_eq_nil_iff]

/-! ## Statements -/

/-- **Positions are shown whether or not the table is new.** A statement lists a definition for each
column. The definition of a column with a position has exactly one AFTER clause, set into what the
definition is without it, and the dialect has positions; any other definition has none. So no
definition has one exactly if no building call gave a position. -/
theorem positions_shown (mode : Mode) (table : String) (cs : List Call) (d : Dialect) {s : String}
    (h : ((start mode table).calls cs).sql d = .ok s) :
    let b := (start mode table).calls cs
    ∃ definitions drops, s = b.layout d definitions drops ∧
      Forall₂ (fun c t => c.definition d = .ok t ∧ c.HasPositions d t c.after.toList ∧
        ∀ x, c.after = some x → d.supportsColumnPositioning = true ∧ c.PlacedBehind d t x)
        b.columns definitions ∧
      (Forall₂ (fun c t => c.HasPositions d t []) b.columns definitions ↔
        ∀ call ∈ cs, call.positions = []) := by
  intro b
  obtain ⟨-, definitions, hdefinitions, drops, -, hs⟩ := sql_eq_ok_iff.1 h
  refine ⟨definitions, drops, hs, hdefinitions.imp fun c t ht => ?_, ?_⟩
  · have hposition := (Column.exists_definition_iff.1 ⟨t, ht⟩).2.1
    refine ⟨ht, Column.hasPositions_of_definition ht, fun x hx => ?_⟩
    exact ⟨hposition (by simp [hx]), Column.placedBehind_of_definition hx ht⟩
  · rw [Column.forall₂_hasPositions_nil_iff hdefinitions, calls_eq]
    simp only [start, List.nil_append, List.forall_mem_flatMap, Call.after_eq_none_iff]

/-- A column with two positions, of which the last counts, and one without. -/
theorem positions_shown_alter :
    let b := (start .alter "t").calls
      [.column .integer "n" [.after "k", .default (.int 0), .after "id"], .softDeletes]
    let s := "ALTER TABLE t\n  ADD COLUMN n INT NOT NULL DEFAULT 0 AFTER id,\n" ++
      "  ADD COLUMN deleted_at TIMESTAMP NULL"
    b.sql MySql.dialect = .ok s ∧
      ∃ definitions drops, s = b.layout MySql.dialect definitions drops ∧
        ¬Forall₂ (fun c t => c.HasPositions MySql.dialect t []) b.columns definitions := by
  intro b s
  have hs : b.sql MySql.dialect = .ok s := by decide +kernel
  obtain ⟨definitions, drops, hlayout, -, hiff⟩ := positions_shown .alter "t" _ MySql.dialect hs
  refine ⟨hs, definitions, drops, hlayout, fun hnone => ?_⟩
  have hpositions := hiff.1 hnone _ List.mem_cons_self
  cases hpositions

/-- A statement that creates a table shows a position too. -/
theorem position_shown_create :
    let b := (start .create "t").calls [.column .integer "n" [.after "id"]]
    let definition := "n INT NOT NULL AFTER id"
    b.sql MySql.dialect = .ok ("CREATE TABLE t (\n  " ++ definition ++
        "\n) ENGINE=InnoDB DEFAULT CHARSET=utf8mb4 COLLATE=utf8mb4_unicode_ci") ∧
      ∃ c, b.columns = [c] ∧ c.definition MySql.dialect = .ok definition ∧
        c.HasPositions MySql.dialect definition ["id"] := by
  intro b definition
  let c := (Factory.integer.column "n").modify (.after "id")
  have hc : c.definition MySql.dialect = .ok definition := by decide +kernel
  exact ⟨by decide +kernel, c, rfl, hc, Column.hasPositions_of_definition hc⟩

end Blueprint

end SqlCompose
