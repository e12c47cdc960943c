import SqlCompose.Proofs.Column.Parts
import SqlCompose.Proofs.Dialect.MySqlType

/-!
# A MySQL definition shows the whole column

Two columns with one definition agree on everything that a definition is about
(`Agree`, `definition_unambiguous`). A definition is a name, a type and the parts of `Column.tail`
(`view_definition`); each ends where a reader sees it, and every attribute stands in a part of its
own, so the parts give the attributes back (`agree_of_tail`).
-/

namespace SqlCompose.Column

/-- The names in a column have no spaces and no brackets, as words of letters, digits and
underscores have none. -/
structure HasWords (c : Column) : Prop where
  name : Text.IsWord c.name
  after : ∀ x, c.after = some x → Text.IsWord x
  table : ∀ k x, c.foreignKey = some k → k.table = some x → Text.IsWord x
  column : ∀ k x, c.foreignKey = some k → k.column = some x → Text.IsWord x

/-- Agreement on the attributes that a definition shows. Values are compared for enumerations, which
alone have them in their text, and defaults by their literals. -/
structure Agree (d : Dialect) (c c' : Column) : Prop extends MySql.SameType c c' where
  name : c.name = c'.name
  nullable : c.nullable = c'.nullable
  default : c.default.map d.renderDefault = c'.default.map d.renderDefault
  text : ∀ s, c.default = some (.text s) ↔ c'.default = some (.text s)
  autoIncrement : c.autoIncrement = c'.autoIncrement
  unique : c.unique = c'.unique
  primary : c.primary = c'.primary
  after : c.after = c'.after
  foreignKey : c.foreignKey = c'.foreignKey

/-- The relation, if there is one, has a table and a column. -/
def HasCompleteRelation (c : Column) : Prop :=
  ∀ k, c.foreignKey = some k → ∃ table column, k.table = some table ∧ k.column = some column

/-- The relation as a part, if it is complete. -/
def relation (c : Column) : Option Part :=
  c.foreignKey.bind fun k => k.table.bind fun table => k.column.map fun column =>
    .reference c.name table column k.onDelete k.onUpdate

/-- The parts behind the type. -/
def tail (c : Column) : List Part :=
  [.nullability c.nullable] ++ (c.default.map Part.default).toList ++
    (if c.autoIncrement then [.autoIncrement] else []) ++
    (if c.unique then [.unique] else []) ++
    (if c.primary then [.primaryKey] else []) ++
    (c.after.map Part.after).toList ++ c.relation.toList

variable {c c' : Column} {d : Dialect}

/-! ## The parts of a definition -/

theorem positionPart_eq_ok_iff {position : List Part} : c.positionPart d = .ok position ↔
    (c.after ≠ none → d.supportsColumnPositioning = true) ∧
      position = (c.after.map Part.after).toList := by
  unfold positionPart
  rw [@eq_comm _ position]
  cases c.after with
  | none => simp
  | some column => cases d.supportsColumnPositioning <;> simp

theorem referencePart_eq_ok_iff {reference : List Part} : c.referencePart = .ok reference ↔
    c.HasCompleteRelation ∧ reference = c.relation.toList := by
  unfold referencePart relation HasCompleteRelation
  rw [@eq_comm _ reference]
  cases c.foreignKey with
  | none => simp
  | some k => cases ht : k.table <;> cases hc : k.column <;> simp [ht, hc]

/-- The parts of a definition are the name, the type and the tail. There are none without a name or
a type, with a position that the dialect cannot express or with an incomplete relation. -/
theorem parts_eq_ok_iff {ps : List Part} : c.parts d = .ok ps ↔
    c.name.isEmpty = false ∧ (c.after ≠ none → d.supportsColumnPositioning = true) ∧
      c.HasCompleteRelation ∧
      ∃ type, d.typeDefinition c = .ok type ∧ ps = .name c.name :: .type type :: c.tail := by
  unfold parts
  dsimp only
  cases hn : c.name.isEmpty with
  | true => simp
  | false =>
    simp only [Bool.false_eq_true, ↓reduceIte, bind_eq_ok_iff, pure_eq_ok_iff,
      positionPart_eq_ok_iff, referencePart_eq_ok_iff, true_and]
    constructor
    · rintro ⟨type, ht, _, ⟨hposition, rfl⟩, _, ⟨hcomplete, rfl⟩, rfl⟩
      exact ⟨hposition, hcomplete, type, ht, rfl⟩
    · rintro ⟨hposition, hcomplete, type, ht, rfl⟩
      exact ⟨type, ht, _, ⟨hposition, rfl⟩, _, ⟨hcomplete, rfl⟩, rfl⟩

theorem definition_eq_ok_iff {t : String} : c.definition d = .ok t ↔
    ∃ ps, c.parts d = .ok ps ∧ t = " ".intercalate (ps.map (Part.sql d)) := by
  unfold definition
  simp only [bind_eq_ok_iff, pure_eq_ok_iff, @eq_comm _ t]

theorem exists_definition_iff : (∃ t, c.definition d = .ok t) ↔
    c.name.isEmpty = false ∧ (c.after ≠ none → d.supportsColumnPositioning = true) ∧
      c.HasCompleteRelation ∧ ∃ type, d.typeDefinition c = .ok type := by
  simp only [definition_eq_ok_iff, parts_eq_ok_iff]
  constructor
  · rintro ⟨t, ps, ⟨hn, ha, hr, type, ht, -⟩, -⟩
    exact ⟨hn, ha, hr, type, ht⟩
  · rintro ⟨hn, ha, hr, type, ht⟩
    exact ⟨_, _, ⟨hn, ha, hr, type, ht, rfl⟩, rfl⟩

/-- A definition is the name, the type and the parts behind it. -/
theorem view_definition {t : String} (h : c.definition d = .ok t) :
    ∃ type, d.typeDefinition c = .ok type ∧
      c.HasCompleteRelation ∧
      t.toList = c.name.toList ++ ' ' :: (type.toList ++ c.tail.flatMap (Part.chars d)) := by
  obtain ⟨ps, hps, ht⟩ := bind_eq_ok_iff.1 h
  obtain ⟨-, -, hcomplete, type, htype, rfl⟩ := parts_eq_ok_iff.1 hps
  obtain rfl := pure_eq_ok_iff.1 ht
  refine ⟨type, htype, hcomplete, ?_⟩
  rw [String.toList_intercalate, List.map_cons, List.map_cons, Text.intercalate_cons]
  have hname : (Part.name c.name).sql d = c.name := rfl
  have htypeText : (Part.type type).sql d = type := rfl
  simp [hname, htypeText, List.flatMap_map]
  rfl

theorem relation_eq_some_iff {p : Part} : c.relation = some p ↔ ∃ k table column,
    c.foreignKey = some k ∧ k.table = some table ∧ k.column = some column ∧
      p = .reference c.name table column k.onDelete k.onUpdate := by
  simp only [relation, Option.bind_eq_some_iff, Option.map_eq_some_iff]
  constructor
  · rintro ⟨k, hk, table, ht, column, hc, rfl⟩
    exact ⟨k, table, column, hk, ht, hc, rfl⟩
  · rintro ⟨k, table, column, hk, ht, hc, rfl⟩
    exact ⟨k, hk, table, ht, column, hc, rfl⟩

/-- Every attribute stands in a part of its own. -/
theorem mem_tail_iff {p : Part} : p ∈ c.tail ↔ p = .nullability c.nullable ∨
    (∃ v, c.default = some v ∧ p = .default v) ∨ (c.autoIncrement = true ∧ p = .autoIncrement) ∨
    (c.unique = true ∧ p = .unique) ∨ (c.primary = true ∧ p = .primaryKey) ∨
    (∃ x, c.after = some x ∧ p = .after x) ∨ ∃ k table column, c.foreignKey = some k ∧
      k.table = some table ∧ k.column = some column ∧
      p = .reference c.name table column k.onDelete k.onUpdate := by
  rw [← relation_eq_some_iff]
  simp only [tail, List.mem_append, Option.mem_toList, Option.map_eq_some_iff, List.mem_singleton,
    List.mem_ite_nil_right, or_assoc, eq_comm (a := p)]

theorem isPlain_of_mem_tail (h : c.HasWords) : ∀ p ∈ c.tail, p.IsPlain := by
  intro p hp
  rcases mem_tail_iff.1 hp with rfl | ⟨v, -, rfl⟩ | ⟨-, rfl⟩ | ⟨-, rfl⟩ | ⟨-, rfl⟩ |
    ⟨x, hx, rfl⟩ | ⟨k, table, column, hk, ht, hc, rfl⟩
  · trivial
  · trivial
  · trivial
  · trivial
  · trivial
  · exact h.after x hx
  · exact ⟨h.name, h.table k table hk ht, h.column k column hk hc⟩

/-! ## Agreement of the parts -/

theorem exists_alike {ps qs : List Part} (h : List.Forall₂ (Part.Alike d) ps qs) {p : Part}
    (hp : p ∈ ps) : ∃ q ∈ qs, p.Alike d q := by
  induction h with
  | nil => cases hp
  | @cons a b as bs hab _ ih =>
    rcases List.mem_cons.1 hp with rfl | hp
    · exact ⟨b, List.mem_cons_self, hab⟩
    · obtain ⟨q, hq, hpq⟩ := ih hp
      exact ⟨q, List.mem_cons_of_mem _ hq, hpq⟩

theorem alike_symm {ps qs : List Part} (h : List.Forall₂ (Part.Alike d) ps qs) :
    List.Forall₂ (Part.Alike d) qs ps := (h.imp fun _ _ => Part.Alike.symm).flip

/-- Alike lists have the same parts, but for defaults. -/
theorem mem_of_alike {ps qs : List Part} (h : List.Forall₂ (Part.Alike d) ps qs) {p : Part}
    (hd : ∀ v, p ≠ .default v) (hp : p ∈ ps) : p ∈ qs := by
  obtain ⟨q, hq, hpq⟩ := exists_alike h hp
  rwa [hpq.eq hd]

theorem mem_iff_of_alike {ps qs : List Part} (h : List.Forall₂ (Part.Alike d) ps qs) {p : Part}
    (hd : ∀ v, p ≠ .default v) : p ∈ ps ↔ p ∈ qs :=
  ⟨mem_of_alike h hd, mem_of_alike (alike_symm h) hd⟩

/-- The default of one column is the default of the other, in another form at most. -/
theorem exists_default_of_alike (h : List.Forall₂ (Part.Alike d) c.tail c'.tail)
    {v : DefaultValue} (hv : c.default = some v) :
    ∃ v', c'.default = some v' ∧ v.SameLiteral d v' := by
  have hmem : Part.default v ∈ c.tail := mem_tail_iff.2 (.inr (.inl ⟨v, hv, rfl⟩))
  obtain ⟨q, hq, hsame⟩ := exists_alike h hmem
  obtain ⟨v', rfl, hv'⟩ := hsame.exists_default
  refine ⟨v', ?_, hv'⟩
  simpa [mem_tail_iff] using hq

theorem literal_of_alike (h : List.Forall₂ (Part.Alike d) c.tail c'.tail) {l : String}
    (hl : c.default.map d.renderDefault = some l) : c'.default.map d.renderDefault = some l := by
  obtain ⟨v, hv, rfl⟩ := Option.map_eq_some_iff.1 hl
  obtain ⟨v', hv', hsame⟩ := exists_default_of_alike h hv
  rw [hv', Option.map_some, hsame.1]

theorem text_of_alike (h : List.Forall₂ (Part.Alike d) c.tail c'.tail) {s : String}
    (hs : c.default = some (.text s)) : c'.default = some (.text s) := by
  obtain ⟨v', hv', hsame⟩ := exists_default_of_alike h hs
  rw [hv', (hsame.2 s).1 rfl]

theorem foreignKey_of_alike (h : List.Forall₂ (Part.Alike d) c.tail c'.tail)
    (hc : c.HasCompleteRelation) {k : ForeignKey} (hk : c.foreignKey = some k) :
    c'.foreignKey = some k := by
  obtain ⟨table, column, ht, hcol⟩ := hc k hk
  have hmem : Part.reference c.name table column k.onDelete k.onUpdate ∈ c'.tail :=
    mem_of_alike h (by simp) (by simp [mem_tail_iff, hk, ht, hcol])
  obtain ⟨k', table', column', hk', ht', hcol', heq⟩ :
      ∃ k' table' column', c'.foreignKey = some k' ∧ k'.table = some table' ∧
        k'.column = some column' ∧ Part.reference c.name table column k.onDelete k.onUpdate =
          .reference c'.name table' column' k'.onDelete k'.onUpdate := by
    simpa [mem_tail_iff] using hmem
  obtain ⟨-, rfl, rfl, hdelete, hupdate⟩ := Part.reference.inj heq
  rw [hk']
  obtain ⟨kcolumn, ktable, konDelete, konUpdate⟩ := k
  obtain ⟨kcolumn', ktable', konDelete', konUpdate'⟩ := k'
  simp_all

/-- The parts behind the type give the attributes back. -/
theorem agree_of_tail (htype : MySql.SameType c c') (hname : c.name = c'.name)
    (hc : c.HasCompleteRelation) (hc' : c'.HasCompleteRelation)
    (h : List.Forall₂ (Part.Alike d) c.tail c'.tail) : Agree d c c' where
  toSameType := htype
  name := hname
  nullable := by
    have hmem := mem_of_alike h (p := .nullability c.nullable) (by simp) (by simp [mem_tail_iff])
    simpa [mem_tail_iff] using hmem
  default := by
    refine Option.ext fun l => ?_
    exact ⟨literal_of_alike h, literal_of_alike (alike_symm h)⟩
  text s := ⟨text_of_alike h, text_of_alike (alike_symm h)⟩
  autoIncrement := by
    refine Bool.eq_iff_iff.2 ?_
    simpa [mem_tail_iff] using mem_iff_of_alike h (p := .autoIncrement) (by simp)
  unique := by
    refine Bool.eq_iff_iff.2 ?_
    simpa [mem_tail_iff] using mem_iff_of_alike h (p := .unique) (by simp)
  primary := by
    refine Bool.eq_iff_iff.2 ?_
    simpa [mem_tail_iff] using mem_iff_of_alike h (p := .primaryKey) (by simp)
  after := by
    refine Option.ext fun x => ?_
    simpa [mem_tail_iff] using mem_iff_of_alike h (p := .after x) (by simp)
  foreignKey := by
    refine Option.ext fun k => ?_
    exact ⟨foreignKey_of_alike h hc, foreignKey_of_alike (alike_symm h) hc'⟩

/-! ## The definition -/

/-- **A MySQL definition shows the whole column.** Columns with one definition agree on their names
and types, on the arguments of the types and on every attribute behind them; a default that is a
text is the same text, any other default has the same literal. -/
theorem definition_unambiguous (options : MySql.TableOptions) {t : String} (hw : c.HasWords)
    (hw' : c'.HasWords) (h : c.definition (MySql.dialect options) = .ok t)
    (h' : c'.definition (MySql.dialect options) = .ok t) : Agree (MySql.dialect options) c c' := by
  obtain ⟨type, htype, hc, ht⟩ := view_definition h
  obtain ⟨type', htype', hc', ht'⟩ := view_definition h'
  have hspace : ∀ u, Text.NotAt (· ∉ [' ', '(', ')']) (' ' :: u) := Text.notAt_cons (by decide)
  have htail : ∀ c : Column, MySql.BeforeNullability
      (c.tail.flatMap (Part.chars (MySql.dialect options))) := by
    intro c
    obtain ⟨cs, hcs⟩ := Part.exists_lead (d := MySql.dialect options) rfl
      (p := .nullability c.nullable) trivial (c.tail.tail.flatMap (Part.chars _))
    exact ⟨_, hcs⟩
  obtain ⟨hname, hrest⟩ := Text.Avoids.append_inj hw.name hw'.name (hspace _) (hspace _)
    (ht.symm.trans ht')
  obtain ⟨hsame, hparts⟩ := MySql.typeDefinition_append_inj htype htype' (List.cons.inj hrest).2
    (htail c) (htail c')
  exact agree_of_tail hsame hname hc hc' (parts_append_inj rfl rfl (isPlain_of_mem_tail hw)
    (isPlain_of_mem_tail hw') hparts)

/-- A decimal with most of what a definition can show. -/
def numbered (default : DefaultValue) (allowed : List String) : Column where
  type := .decimal
  name := "total_sum"
  parameters := { total := some 8, places := some 2, allowed, unsigned := true }
  default := some default
  after := some "id"
  foreignKey := some { column := some "id", table := some "sums", onUpdate := some .setNull }

/-- Different columns with one definition: the defaults are a flag and a number with one literal,
and values are not shown outside an enumeration. -/
theorem numbered_agree :
    let c := numbered (.bool true) []
    let c' := numbered (.int 1) ["a"]
    let t := "total_sum DECIMAL(8,2) UNSIGNED NOT NULL DEFAULT 1 AFTER id " ++
      "FOREIGN KEY (total_sum) REFERENCES sums(id) ON UPDATE SET NULL"
    c.HasWords ∧ c'.HasWords ∧ c.definition MySql.dialect = .ok t ∧
      c'.definition MySql.dialect = .ok t ∧ Agree MySql.dialect c c' := by
  have hwords : ∀ default allowed, (numbered default allowed).HasWords := by
    intro default allowed
    have hname : Text.IsWord "total_sum" := by decide +kernel
    refine ⟨hname, ?_, ?_, ?_⟩
    · rintro _ ⟨⟩
      decide +kernel
    · rintro _ _ ⟨⟩ ⟨⟩
      decide +kernel
    · rintro _ _ ⟨⟩ ⟨⟩
      decide +kernel
  have h : (numbered (.bool true) []).definition MySql.dialect = .ok
    ("total_sum DECIMAL(8,2) UNSIGNED NOT NULL DEFAULT 1 AFTER id " ++
      "FOREIGN KEY (total_sum) REFERENCES sums(id) ON UPDATE SET NULL") := by rfl
  have h' : (numbered (.int 1) ["a"]).definition MySql.dialect = .ok
    ("total_sum DECIMAL(8,2) UNSIGNED NOT NULL DEFAULT 1 AFTER id " ++
      "FOREIGN KEY (total_sum) REFERENCES sums(id) ON UPDATE SET NULL") := by rfl
  exact ⟨hwords _ _, hwords _ _, h, h', definition_unambiguous {} (hwords _ _) (hwords _ _) h h'⟩

end SqlCompose.Column
