import SqlCompose.Proofs.Column.Containment
import SqlCompose.Proofs.Decimal.Written
import SqlCompose.Proofs.Dialect.DefaultLiteral

/-!
# What a server reads of a default

A default is written as a literal: the keyword NULL, a number, or a text in quotes. What a server
reads at the start of a text is one literal at most (`Vendor.Reads.unique`), and in a definition it
reads the literal that the default means (`Vendor.reads_renderDefault`). Floats that are infinite or
no number have none: their names are words that the server reads as something else
(`Vendor.default_read`).
-/

namespace SqlCompose

open Text (NotAt IsBare)

/-- A literal of SQL; a number is known by its word. -/
inductive Literal
  | null
  | number (word : String)
  | text (s : String)

namespace DefaultValue

/-- A default that has a literal: floats have one if they are finite. -/
def IsFinite : DefaultValue → Prop
  | float x => Decimal.value? x ≠ none
  | null | bool _ | int _ | text _ => True

/-- The literal means the default. -/
inductive MeantBy : DefaultValue → Literal → Prop
  | null : MeantBy .null .null
  | bool (b : Bool) : MeantBy (.bool b) (.number (if b then "1" else "0"))
  | int {n : Int64} {word : String} (h : Decimal.Number word.toList n.toInt) :
      MeantBy (.int n) (.number word)
  | float {x : Float} {word : String} {v : ℚ} (h : Decimal.Number word.toList v)
      (hx : Decimal.ReadsAs v x) : MeantBy (.float x) (.number word)
  | text (s : String) : MeantBy (.text s) (.text s)

end DefaultValue

/-! ## Words -/

/-- The word is a literal without quotes. -/
inductive Literal.IsWord : Literal → String → Prop
  | null : IsWord .null "NULL"
  | number {word : String} {v : ℚ} (h : Decimal.Number word.toList v) : IsWord (.number word) word

namespace Vendor

/-- The server reads a literal at the start of a text and goes on behind it. A word ends at a space
or with the text, a literal in quotes where the quotes end. -/
inductive Reads (v : Vendor) : List Char → Literal → List Char → Prop
  | word {l : Literal} {word : String} {rest : List Char} (h : l.IsWord word)
      (hrest : NotAt (· ∉ [' ']) rest) : Reads v (word.toList ++ rest) l rest
  | text {cs : List Char} {s : String} {rest : List Char} (h : v.quoting.read cs = some (s, rest)) :
      Reads v cs (.text s) rest

end Vendor

/-! ## One reading -/

namespace Literal.IsWord

variable {l l' : Literal} {word : String}

theorem ne_nil (h : l.IsWord word) : word.toList ≠ [] := by
  cases h with
  | null => decide
  | number h => exact h.ne_nil

theorem isBare (h : l.IsWord word) : IsBare word := by
  cases h with
  | null => decide +kernel
  | number h =>
    intro c hc hmem
    have hchar := h.mem hc
    obtain rfl | rfl : c = ' ' ∨ c = '\'' := by simpa using hmem
    · exact absurd hchar (by decide)
    · exact absurd hchar (by decide)

/-- A word other than NULL has no letters. -/
theorem mem (h : l.IsWord word) (hnull : word ≠ "NULL") {c : Char} (hc : c ∈ word.toList) :
    c.isDigit = true ∨ c = '.' ∨ c = '-' := by
  cases h with
  | null => exact absurd rfl hnull
  | number h => exact h.mem hc

theorem not_number_null {v : ℚ} : ¬Decimal.Number "NULL".toList v := fun h =>
  absurd (h.mem (c := 'N') (by decide)) (by decide)

theorem unique (h : l.IsWord word) (h' : l'.IsWord word) : l = l' := by
  cases h with
  | null =>
    cases h' with
    | null => rfl
    | number h' => exact absurd h' not_number_null
  | number h =>
    cases h' with
    | null => exact absurd h not_number_null
    | number h' => rfl

end Literal.IsWord

namespace Vendor

variable {v : Vendor} {l l' : Literal} {cs rest rest' : List Char}

/-- A word is not taken for the start of a literal in quotes. -/
theorem read_word {word : String} (hne : word.toList ≠ []) (h : IsBare word) (rest : List Char) :
    v.quoting.read (word.toList ++ rest) = none := by
  obtain ⟨c, w, hw⟩ := List.exists_cons_of_ne_nil hne
  have hc : c ≠ '\'' := by
    rintro rfl
    exact h _ (hw ▸ List.mem_cons_self) (by decide)
  rw [hw, List.cons_append]
  unfold Text.Quoting.read
  split
  · rename_i heq
    exact absurd (List.cons.inj heq).1 hc
  · rfl

/-- A text begins with one literal at most, and it ends at one place. -/
theorem Reads.unique (h : v.Reads cs l rest) (h' : v.Reads cs l' rest') :
    l = l' ∧ rest = rest' := by
  cases h with
  | @word _ word _ hword hrest =>
    generalize hcs : word.toList ++ rest = cs at h'
    cases h' with
    | word hword' hrest' =>
      have hspace : [' '] ⊆ [' ', '\''] := by decide
      obtain ⟨rfl, hend⟩ := Text.Avoids.append_inj (hword.isBare.mono hspace)
        (hword'.isBare.mono hspace) hrest hrest' hcs
      exact ⟨hword.unique hword', hend⟩
    | text hread =>
      rw [← hcs, read_word hword.ne_nil hword.isBare] at hread
      cases hread
  | text hread =>
    cases h' with
    | word hword hrest =>
      rw [read_word hword.ne_nil hword.isBare] at hread
      cases hread
    | text hread' =>
      obtain ⟨rfl, rfl⟩ := Prod.mk.inj (Option.some.inj (hread.symm.trans hread'))
      exact ⟨rfl, rfl⟩

/-! ## Defaults -/

theorem isPositional_floatLayout : Dialect.floatLayout.IsPositional := ⟨fun _ => rfl, rfl⟩

/-- What the literal of a default is read for. -/
theorem reads_renderDefault {value : DefaultValue} (hvalue : value.IsFinite)
    (hrest : NotAt (· ∉ [' ']) rest) :
    ∃ l, value.MeantBy l ∧ v.Reads ((v.dialect.renderDefault value).toList ++ rest) l rest := by
  rw [v.renderDefault_eq]
  cases value with
  | null => exact ⟨.null, .null, .word .null hrest⟩
  | bool b =>
    have hnumber : Decimal.Number (if b then "1" else "0").toList ((if b then 1 else 0 : Int)) := by
      cases b with
      | false => exact Decimal.number_toString 0
      | true => exact Decimal.number_toString 1
    exact ⟨_, .bool b, .word (.number hnumber) hrest⟩
  | int n =>
    have hnumber := Decimal.number_toString n.toInt
    exact ⟨_, .int hnumber, .word (.number hnumber) hrest⟩
  | float x =>
    obtain ⟨r, hnumber, hreads⟩ := isPositional_floatLayout.exists_number hvalue
    exact ⟨_, .float hnumber hreads, .word (.number hnumber) hrest⟩
  | text s =>
    have hquote : NotAt (· = '\'') rest := fun c hc heq => hrest c hc (by simp [heq])
    exact ⟨_, .text s, .text (v.read_quote s hquote)⟩

/-- The names of the floats that are not finite. -/
def floatNames : List String := ["NaN", "inf", "-inf"]

theorem write_mem_floatNames {x : Float} (hx : Decimal.value? x = none) :
    Dialect.floatLayout.write x ∈ floatNames := by
  unfold Decimal.value? at hx
  unfold Decimal.Layout.write floatNames
  cases hmagnitude : Decimal.magnitude x with
  | notANumber => exact List.mem_cons_self
  | infinite =>
    dsimp only
    split
    · exact .tail _ (.tail _ List.mem_cons_self)
    · exact .tail _ List.mem_cons_self
  | zero | finite => simp [hmagnitude] at hx

theorem exists_letter_of_mem_floatNames {name : String} (hname : name ∈ floatNames) :
    name ≠ "NULL" ∧ ∃ c ∈ name.toList, ¬(c.isDigit = true ∨ c = '.' ∨ c = '-') := by
  simp only [floatNames, List.mem_cons, List.not_mem_nil, or_false] at hname
  rcases hname with rfl | rfl | rfl
  · exact ⟨by decide, 'N', by decide, by decide⟩
  · exact ⟨by decide, 'i', by decide, by decide⟩
  · exact ⟨by decide, 'i', by decide, by decide⟩

/-- No literal is read at the name of a float that is not finite. -/
theorem not_reads_renderDefault {value : DefaultValue} (hvalue : ¬value.IsFinite)
    (hrest : NotAt (· ∉ [' ']) rest) (l : Literal) (rest' : List Char) :
    ¬v.Reads ((v.dialect.renderDefault value).toList ++ rest) l rest' := by
  cases value with
  | null | bool b | int n | text s => exact absurd trivial hvalue
  | float x =>
    obtain ⟨hnull, c, hc, hchar⟩ :=
      exists_letter_of_mem_floatNames (write_mem_floatNames (not_not.1 hvalue))
    have hbare := Decimal.isBare_write x
    rw [v.renderDefault_eq]
    show ¬v.Reads ((Dialect.floatLayout.write x).toList ++ rest) l rest'
    generalize Dialect.floatLayout.write x = name at hnull hc hbare
    intro hreads
    generalize hcs : name.toList ++ rest = cs at hreads
    cases hreads with
    | word hword hrest' =>
      have hspace : [' '] ⊆ [' ', '\''] := by decide
      obtain ⟨rfl, -⟩ := Text.Avoids.append_inj (hbare.mono hspace) (hword.isBare.mono hspace)
        hrest hrest' hcs
      exact hchar (hword.mem hnull hc)
    | text hread =>
      rw [← hcs, read_word (List.ne_nil_of_mem hc) hbare] at hread
      cases hread

/-! ## Definitions -/

/-- **Defaults are read as what they mean.** Around the literal of a default the definition of a
column is the same for every default. The server reads there one literal, which means the default,
and goes on where it was meant to end; of a float that is infinite or no number it reads none. -/
theorem default_read (v : Vendor) {c : Column} {value : DefaultValue} {t : String}
    (hc : c.default = some value) (h : c.definition v.dialect = .ok t) :
    ∃ front back, t = front ++ " DEFAULT " ++ v.dialect.renderDefault value ++ back ∧
      (∀ value', (c.modify (.default value')).definition v.dialect =
        .ok (front ++ " DEFAULT " ++ v.dialect.renderDefault value' ++ back)) ∧
      (value.IsFinite → ∃ l, value.MeantBy l ∧
        ∀ l' rest, v.Reads (v.dialect.renderDefault value ++ back).toList l' rest ↔
          l' = l ∧ rest = back.toList) ∧
      (¬value.IsFinite → ∀ l rest,
        ¬v.Reads (v.dialect.renderDefault value ++ back).toList l rest) := by
  obtain ⟨front, back, hback, hdefinition⟩ := v.definition_value h
  have ht := hdefinition value
  rw [Column.modify_default_eq_self hc, h] at ht
  refine ⟨front, back, Except.ok.inj ht, hdefinition, fun hvalue => ?_, fun hvalue => ?_⟩
  · obtain ⟨l, hmeant, hreads⟩ := reads_renderDefault (v := v) hvalue hback
    rw [← String.toList_append] at hreads
    refine ⟨l, hmeant, fun l' rest => ⟨fun hreads' => hreads'.unique hreads, ?_⟩⟩
    rintro ⟨rfl, rfl⟩
    exact hreads
  · intro l rest
    rw [String.toList_append]
    exact not_reads_renderDefault hvalue hback l rest

/-- A column with a negative number for a default, and a part behind it. -/
def negativeDefault : Column where
  type := .double
  name := "x"
  unique := true
  default := some (.float (-0.1))

theorem negativeDefault_read :
    let t := "x DOUBLE NOT NULL DEFAULT -0.1 UNIQUE"
    negativeDefault.default = some (.float (-0.1)) ∧
      negativeDefault.definition (mySql {}).dialect = .ok t ∧
      ∃ front back l, t = front ++ " DEFAULT " ++ "-0.1" ++ back ∧
        (DefaultValue.float (-0.1)).MeantBy l ∧
        (mySql {}).Reads ("-0.1" ++ back).toList l back.toList := by
  intro t
  have ht : negativeDefault.definition (mySql {}).dialect = .ok t := by decide +kernel
  have hliteral : (mySql {}).dialect.renderDefault (.float (-0.1)) = "-0.1" := by decide +kernel
  have hfinite : (DefaultValue.float (-0.1)).IsFinite := by
    have hmagnitude : Decimal.magnitude (-0.1) = .finite 7205759403792794 (-56) := by decide +kernel
    simp [DefaultValue.IsFinite, Decimal.value?, hmagnitude]
  obtain ⟨front, back, hsplit, -, hread, -⟩ := default_read (mySql {}) rfl ht
  obtain ⟨l, hmeant, hreads⟩ := hread hfinite
  rw [hliteral] at hsplit hreads
  exact ⟨rfl, ht, front, back, l, hsplit, hmeant, (hreads l back.toList).2 ⟨rfl, rfl⟩⟩

/-- An infinite default is written as a word that is no literal. -/
theorem infinite_default_unread :
    let infinity := Float.ofBits 0x7FF0000000000000
    let c := (Blueprint.Factory.double.column "x").modify (.default (.float infinity))
    c.definition (mySql {}).dialect = .ok "x DOUBLE NOT NULL DEFAULT inf" ∧
      ∀ l rest, ¬(mySql {}).Reads "inf".toList l rest := by
  intro infinity c
  have hliteral : (mySql {}).dialect.renderDefault (.float infinity) = "inf" := by decide +kernel
  have hinfinite : ¬(DefaultValue.float infinity).IsFinite := by
    have hmagnitude : Decimal.magnitude infinity = .infinite := by decide +kernel
    simp [DefaultValue.IsFinite, Decimal.value?, hmagnitude]
  refine ⟨by decide +kernel, fun l rest => ?_⟩
  have hunread := not_reads_renderDefault (v := mySql {}) hinfinite (Text.notAt_nil _) l rest
  rwa [hliteral, List.append_nil] at hunread

end Vendor

end SqlCompose
