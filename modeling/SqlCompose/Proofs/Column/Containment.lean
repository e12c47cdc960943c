import SqlCompose.Proofs.Blueprint.Portable
import SqlCompose.Proofs.Dialect.ReadBack

/-!
# Texts of a caller stay inside their literals

A definition shows two kinds of text that a caller may choose freely, the default and the values of
an enumeration; the names of a renamed table stand in a statement of their own. Around the literal
of a default the definition is the same for every text (`Vendor.definition_default`), around the
values of an enumeration the same for every list of values (`Vendor.definition_values`), and what
stands behind a literal never continues it. So the server reads back what the caller wrote, and goes
on where the literal was meant to end (`Vendor.caller_texts_contained`).
-/

namespace SqlCompose

namespace Column

variable {c : Column} {d : Dialect}

/-! ## Around the type and the default -/

/-- The text of parts, each with the space before it. -/
def partText (d : Dialect) (ps : List Part) : String := String.ofList (ps.flatMap (Part.chars d))

theorem partText_cons (d : Dialect) (p : Part) (ps : List Part) :
    partText d (p :: ps) = " " ++ p.sql d ++ partText d ps := by
  refine String.toList_injective ?_
  simp [partText, Part.chars]

/-- No part is glued to what stands before it. -/
theorem notAt_partText {p : Char → Prop} (hp : ¬p ' ') (d : Dialect) (ps : List Part) :
    Text.NotAt p (partText d ps).toList := by
  cases ps with
  | nil => exact Text.notAt_nil p
  | cons part ps =>
    rw [partText_cons]
    simpa using Text.notAt_cons hp _

/-- A definition is written around the type. -/
theorem definition_eq_of_typeDefinition {type : String} (hn : c.name.isEmpty = false)
    (ha : c.after ≠ none → d.supportsColumnPositioning = true) (hr : c.HasCompleteRelation)
    (ht : d.typeDefinition c = .ok type) :
    c.definition d = .ok (c.name ++ " " ++ type ++ partText d c.tail) := by
  obtain ⟨t, h⟩ := exists_definition_iff.2 ⟨hn, ha, hr, type, ht⟩
  obtain ⟨type', ht', -, htext⟩ := view_definition h
  obtain rfl := Except.ok.inj (ht.symm.trans ht')
  rw [h]
  refine congrArg Except.ok (String.toList_injective ?_)
  simp [htext, partText]

/-- The parts behind the default. -/
def behindDefault (c : Column) : List Part :=
  (if c.autoIncrement then [.autoIncrement] else []) ++ (if c.unique then [.unique] else []) ++
    (if c.primary then [.primaryKey] else []) ++ (c.after.map Part.after).toList ++
    c.relation.toList

@[simp] theorem name_default (c : Column) (value : DefaultValue) :
    (c.modify (.default value)).name = c.name := rfl

theorem tail_default (c : Column) (value : DefaultValue) :
    (c.modify (.default value)).tail =
      .nullability c.nullable :: .default value :: c.behindDefault := rfl

theorem modify_default_eq_self {value : DefaultValue} (h : c.default = some value) :
    c.modify (.default value) = c := by
  show { c with default := some value } = c
  rw [← h]

theorem partText_tail_default (c : Column) (d : Dialect) (value : DefaultValue) :
    partText d (c.modify (.default value)).tail =
      " " ++ (Part.nullability c.nullable).sql d ++ " DEFAULT " ++ d.renderDefault value ++
        partText d c.behindDefault := by
  have hdefault : (Part.default value).sql d = "DEFAULT " ++ d.renderDefault value := rfl
  have hspace : " DEFAULT " = " " ++ "DEFAULT " := rfl
  rw [tail_default, partText_cons, partText_cons, hdefault, hspace]
  simp only [String.append_assoc]

/-- The column with other values to choose from. -/
def allowing (c : Column) (values : List String) : Column :=
  { c with parameters := { c.parameters with allowed := values } }

@[simp] theorem name_allowing (c : Column) (values : List String) :
    (c.allowing values).name = c.name := rfl

@[simp] theorem allowed_allowing (c : Column) (values : List String) :
    (c.allowing values).parameters.allowed = values := rfl

@[simp] theorem tail_allowing (c : Column) (values : List String) :
    (c.allowing values).tail = c.tail := rfl

theorem allowing_allowed (c : Column) : c.allowing c.parameters.allowed = c := rfl

end Column

namespace Vendor

variable (v : Vendor) {c : Column}

/-! ## The default -/

theorem typeDefinition_default (c : Column) (value : DefaultValue) :
    v.dialect.typeDefinition (c.modify (.default value)) = v.dialect.typeDefinition c := by
  cases v <;> rfl

/-- What a definition says of a default: the same before and behind its literal, whatever the value,
and a space or nothing follows the literal. -/
theorem definition_value {t : String} (h : c.definition v.dialect = .ok t) :
    ∃ front back, Text.NotAt (· ∉ [' ']) back.toList ∧ ∀ value : DefaultValue,
      (c.modify (.default value)).definition v.dialect =
        .ok (front ++ " DEFAULT " ++ v.dialect.renderDefault value ++ back) := by
  obtain ⟨hn, ha, hr, type, ht⟩ := Column.exists_definition_iff.1 ⟨t, h⟩
  refine ⟨c.name ++ " " ++ type ++ " " ++ (Column.Part.nullability c.nullable).sql v.dialect,
    Column.partText v.dialect c.behindDefault,
    Column.notAt_partText (by decide) v.dialect _, fun value => ?_⟩
  have hvalue := Column.definition_eq_of_typeDefinition (c := c.modify (.default value)) hn ha hr
    ((v.typeDefinition_default c _).trans ht)
  rw [hvalue, Column.partText_tail_default, Column.name_default]
  simp only [String.append_assoc]

/-- What a definition says of a default that is a text: nothing behind its literal continues it. -/
theorem definition_default {t : String} (h : c.definition v.dialect = .ok t) :
    ∃ front back, ∀ s : String,
      (c.modify (.default (.text s))).definition v.dialect =
        .ok (front ++ " DEFAULT " ++ v.dialect.quote s ++ back) ∧
      v.quoting.read (v.dialect.quote s ++ back).toList = some (s, back.toList) := by
  obtain ⟨front, back, hback, hdefinition⟩ := v.definition_value h
  have hquote : Text.NotAt (· = '\'') back.toList := fun c hc heq =>
    hback c hc (by simp [heq])
  rw [v.renderDefault_eq] at hdefinition
  refine ⟨front, back, fun s => ⟨hdefinition (.text s), ?_⟩⟩
  rw [String.toList_append]
  exact v.read_quote s hquote

/-! ## The values of an enumeration -/

/-- What a type says in front of the values of an enumeration. -/
def valuesFront (v : Vendor) (c : Column) : String :=
  match v with
  | mySql _ =>
    "ENUM" ++ c.parameters.length.elim "" (fun n => (MySql.TypeArgument.length n).sql) ++
      c.parameters.digits.elim "" (fun p => (MySql.TypeArgument.digits p.1 p.2).sql)
  | sqlServer => "NVARCHAR(255) CHECK (" ++ c.name ++ " IN "

/-- What a type says behind the values of an enumeration. -/
def valuesBack (v : Vendor) (c : Column) : String :=
  match v with
  | mySql _ => if c.parameters.unsigned then " UNSIGNED" else ""
  | sqlServer => ")"

/-- The literals of some values with commas between them, in brackets. -/
def valueList (v : Vendor) (values : List String) : String :=
  "(" ++ ",".intercalate (values.map v.dialect.quote) ++ ")"

theorem read_valueList {values : List String} (hv : values ≠ []) (rest : String) :
    v.quoting.readBracketed (v.valueList values ++ rest).toList = some (values, rest.toList) := by
  have hlist := Text.Quoting.readBracketed_write (q := v.quoting) hv rest.toList
  rw [← v.quote_eq] at hlist
  simpa [valueList] using hlist

theorem typeDefinition_enum (hc : c.type = .enum) (hv : c.parameters.allowed ≠ []) :
    v.dialect.typeDefinition c =
      .ok (v.valuesFront c ++ v.valueList c.parameters.allowed ++ v.valuesBack c) := by
  cases v with
  | mySql options =>
    have hquote : (mySql options).dialect.quote = Text.quoteBackslashed := rfl
    have hname : String.ofList (c.type.name.toList.map Char.toUpper) = "ENUM" := by
      rw [hc]
      decide +kernel
    show MySql.typeDefinition c = _
    unfold MySql.typeDefinition
    simp only [pure_bind]
    rw [if_pos hc, Dialect.enumValues_eq_ok_iff.2 ⟨hv, rfl⟩, ok_bind_eq, pure_eq_ok_iff, hname]
    unfold valuesFront valueList valuesBack ColumnParameters.digits
    rw [hquote]
    cases c.parameters.total <;> cases c.parameters.places <;>
      simp [MySql.TypeArgument.sql, String.append_assoc]
  | sqlServer =>
    have hquote : sqlServer.dialect.quote = Text.quoteDoubled := rfl
    have hopen : " IN (" = " IN " ++ "(" := rfl
    have hclose : "))" = ")" ++ ")" := rfl
    show SqlServer.typeDefinition c = _
    unfold SqlServer.typeDefinition
    simp only [hc]
    rw [Dialect.enumValues_eq_ok_iff.2 ⟨hv, rfl⟩, ok_bind_eq, pure_eq_ok_iff]
    unfold valuesFront valueList valuesBack
    rw [hquote, hopen, hclose]
    simp only [String.append_assoc]

theorem exists_typeDefinition_iff : (∃ type, v.dialect.typeDefinition c = .ok type) ↔
    c.HasValues := by
  cases v with
  | mySql options => exact MySql.exists_typeDefinition_iff
  | sqlServer => exact SqlServer.exists_typeDefinition_iff

theorem valuesFront_allowing (c : Column) (values : List String) :
    v.valuesFront (c.allowing values) = v.valuesFront c := by
  cases v <;> rfl

theorem valuesBack_allowing (c : Column) (values : List String) :
    v.valuesBack (c.allowing values) = v.valuesBack c := by
  cases v <;> rfl

/-- What a definition says of an enumeration, which has values: the same before and behind them,
whatever they are, and reading stops behind their closing bracket. -/
theorem definition_values {t : String} (hc : c.type = .enum) (h : c.definition v.dialect = .ok t) :
    c.parameters.allowed ≠ [] ∧ ∃ back, ∀ values ≠ [],
      (c.allowing values).definition v.dialect =
        .ok (c.name ++ " " ++ v.valuesFront c ++ v.valueList values ++ back) ∧
      v.quoting.readBracketed (v.valueList values ++ back).toList =
        some (values, back.toList) := by
  obtain ⟨hn, ha, hr, type, ht⟩ := Column.exists_definition_iff.1 ⟨t, h⟩
  refine ⟨v.exists_typeDefinition_iff.1 ⟨type, ht⟩ hc,
    v.valuesBack c ++ Column.partText v.dialect c.tail, fun values hv => ⟨?_, ?_⟩⟩
  · have htype := v.typeDefinition_enum (c := c.allowing values) hc hv
    have hvalues := Column.definition_eq_of_typeDefinition (c := c.allowing values) hn ha hr htype
    rw [hvalues, valuesFront_allowing, valuesBack_allowing, Column.name_allowing,
      Column.allowed_allowing, Column.tail_allowing]
    simp only [String.append_assoc]
  · exact v.read_valueList hv _

/-! ## All texts of a caller -/

/-- The definition `t` of a column holds the default `s` as a literal: around it stands what stands
around every other text, and the server reads each text from its literal and goes on behind it. -/
def HoldsDefault (v : Vendor) (c : Column) (s t : String) : Prop :=
  ∃ front back, t = front ++ " DEFAULT " ++ v.dialect.quote s ++ back ∧
    ∀ s', (c.modify (.default (.text s'))).definition v.dialect =
        .ok (front ++ " DEFAULT " ++ v.dialect.quote s' ++ back) ∧
      v.quoting.read (v.dialect.quote s' ++ back).toList = some (s', back.toList)

/-- The definition `t` of an enumeration holds its values as a list of literals in brackets: around
it stands what stands around every other list, and the server reads the values of each. -/
def HoldsValues (v : Vendor) (c : Column) (t : String) : Prop :=
  c.parameters.allowed ≠ [] ∧ ∃ back,
    t = c.name ++ " " ++ v.valuesFront c ++ v.valueList c.parameters.allowed ++ back ∧
    ∀ values ≠ [], (c.allowing values).definition v.dialect =
        .ok (c.name ++ " " ++ v.valuesFront c ++ v.valueList values ++ back) ∧
      v.quoting.readBracketed (v.valueList values ++ back).toList = some (values, back.toList)

theorem holdsDefault {s t : String} (hs : c.default = some (.text s))
    (h : c.definition v.dialect = .ok t) : v.HoldsDefault c s t := by
  obtain ⟨front, back, hall⟩ := v.definition_default h
  have ht := (hall s).1
  rw [Column.modify_default_eq_self hs, h] at ht
  exact ⟨front, back, Except.ok.inj ht, hall⟩

theorem holdsValues {t : String} (hc : c.type = .enum) (h : c.definition v.dialect = .ok t) :
    v.HoldsValues c t := by
  obtain ⟨hv, back, hall⟩ := v.definition_values hc h
  have ht := (hall c.parameters.allowed hv).1
  rw [Column.allowing_allowed, h] at ht
  exact ⟨hv, back, Except.ok.inj ht, hall⟩

/-- The names in the renaming of a table are read back. -/
theorem renameTable_names (source target : String) : ∃ names,
    SqlServer.dialect.renameTable source target = "EXEC sp_rename " ++ names ∧
      sqlServer.quoting.readList names.toList = some ([source, target], []) := by
  refine ⟨", ".intercalate ([source, target].map sqlServer.quoting.write), ?_, ?_⟩
  · show "EXEC sp_rename " ++ Text.quoteDoubled source ++ ", " ++ Text.quoteDoubled target = _
    have hwrite : sqlServer.quoting.write = Text.quoteDoubled := rfl
    simp [hwrite, String.append_assoc]
  · have hcomma : Text.Quoting.IsComma ", " := ⟨[' '], rfl, by simp⟩
    have hlist := Text.Quoting.readList_write (q := sqlServer.quoting) hcomma
      (List.cons_ne_nil source [target]) (Text.notAt_nil _)
    rwa [List.append_nil] at hlist

/-- **Texts of a caller stay inside their literals**: the default of a column, the values of an
enumeration, and on SQL Server the names of a renamed table. -/
theorem caller_texts_contained (v : Vendor) :
    (∀ (c : Column) (t : String), c.definition v.dialect = .ok t →
      (∀ s, c.default = some (.text s) → v.HoldsDefault c s t) ∧
      (c.type = .enum → v.HoldsValues c t)) ∧
    ∀ source target, ∃ names,
      SqlServer.dialect.renameTable source target = "EXEC sp_rename " ++ names ∧
      sqlServer.quoting.readList names.toList = some ([source, target], []) :=
  ⟨fun _ _ h => ⟨fun _ hs => v.holdsDefault hs h, fun hc => v.holdsValues hc h⟩,
    renameTable_names⟩

/-- An enumeration with separators, brackets and quotes in its values and its default. -/
def hostileEnum : Column where
  type := .enum
  name := "state"
  parameters := { allowed := ["it's", "a','b", "')", ""], unsigned := true }
  default := some (.text "' UNIQUE --")
  unique := true

theorem caller_texts_contained_hostileEnum :
    let s := "' UNIQUE --"
    let t := "state ENUM('it\\'s','a\\',\\'b','\\')','') UNSIGNED NOT NULL " ++
      "DEFAULT '\\' UNIQUE --' UNIQUE"
    let t' := "state NVARCHAR(255) CHECK (state IN ('it''s','a'',''b',''')','')) NOT NULL " ++
      "DEFAULT ''' UNIQUE --' UNIQUE"
    hostileEnum.default = some (.text s) ∧ hostileEnum.type = .enum ∧
      hostileEnum.definition (mySql {}).dialect = .ok t ∧
      (mySql {}).HoldsDefault hostileEnum s t ∧ (mySql {}).HoldsValues hostileEnum t ∧
      hostileEnum.definition sqlServer.dialect = .ok t' ∧
      sqlServer.HoldsDefault hostileEnum s t' ∧ sqlServer.HoldsValues hostileEnum t' := by
  intro s t t'
  have h : hostileEnum.definition (mySql {}).dialect = .ok t := by decide +kernel
  have h' : hostileEnum.definition sqlServer.dialect = .ok t' := by decide +kernel
  have hheld := (caller_texts_contained (mySql {})).1 hostileEnum t h
  have hheld' := (caller_texts_contained sqlServer).1 hostileEnum t' h'
  exact ⟨rfl, rfl, h, hheld.1 s rfl, hheld.2 rfl, h', hheld'.1 s rfl, hheld'.2 rfl⟩

end Vendor

end SqlCompose
