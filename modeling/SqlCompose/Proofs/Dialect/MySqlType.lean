import SqlCompose.Dialect.MySql
import SqlCompose.Proofs.Outcome
import SqlCompose.Proofs.Text.Quoting

/-!
# Types in MySQL definitions

Behind the name of a type stand its arguments: a length, the digits of a decimal, the values of an
enumeration, UNSIGNED (`TypeArgument`, `typeDefinition_eq`). Each argument ends where a reader sees
it (`TypeArgument.append_inj`), so the text of a type gives the type and every argument back
(`typeDefinition_append_inj`).
-/

namespace SqlCompose

/-- The digits of a decimal: all of them and those after the point, if both are given. -/
def ColumnParameters.digits (p : ColumnParameters) : Option (UInt8 × UInt8) :=
  match p.total, p.places with
  | some total, some places => some (total, places)
  | _, _ => none

namespace MySql

/-- What a type definition has behind the name of the type. -/
inductive TypeArgument
  | length (n : UInt32)
  | digits (total places : UInt8)
  | values (vs : List String)
  | unsigned

/-- The text of an argument. -/
def TypeArgument.sql : TypeArgument → String
  | length n => "(" ++ toString n ++ ")"
  | digits total places => "(" ++ toString total ++ "," ++ toString places ++ ")"
  | values vs => "(" ++ ",".intercalate (vs.map Text.quoteBackslashed) ++ ")"
  | unsigned => " UNSIGNED"

/-- The name of a type in a definition. -/
def typeName (type : ColumnType) : String := String.ofList (type.name.toList.map Char.toUpper)

/-- The arguments that a column gives to its type. -/
def typeArguments (c : Column) : List TypeArgument :=
  (c.parameters.length.map .length).toList ++
    (c.parameters.digits.map fun (total, places) => .digits total places).toList ++
    (if c.type = .enum then [.values c.parameters.allowed] else []) ++
    if c.parameters.unsigned then [.unsigned] else []

/-- A type definition is the name of the type with its arguments. -/
theorem typeDefinition_eq {c : Column} {t : String} (h : typeDefinition c = .ok t) :
    t.toList = (typeName c.type).toList ++
      (typeArguments c).flatMap fun a => a.sql.toList := by
  have hlength : (c.parameters.length.elim "" fun n => "(" ++ toString n ++ ")").toList =
      (c.parameters.length.map TypeArgument.length).toList.flatMap fun a => a.sql.toList := by
    cases c.parameters.length <;> simp [TypeArgument.sql]
  have hunsigned : (if c.parameters.unsigned then " UNSIGNED" else "").toList =
      (if c.parameters.unsigned then [TypeArgument.unsigned] else []).flatMap
        fun a => a.sql.toList := by
    split <;> simp [TypeArgument.sql]
  unfold typeDefinition at h
  dsimp only at h
  unfold typeArguments ColumnParameters.digits
  simp only [List.flatMap_append, ← hlength, ← hunsigned]
  split at h
  · rename_i he
    obtain ⟨values, hv, h⟩ := bind_eq_ok_iff.1 h
    obtain ⟨-, hvalues⟩ := Dialect.enumValues_eq_ok_iff.1 hv
    obtain rfl := pure_eq_ok_iff.1 h
    cases c.parameters.total <;> cases c.parameters.places <;>
      simp [he, hvalues, TypeArgument.sql, typeName]
  · rename_i he
    obtain rfl := pure_eq_ok_iff.1 h
    cases c.parameters.total <;> cases c.parameters.places <;>
      simp [he, TypeArgument.sql, typeName]

namespace TypeArgument

open Text (NotAt notAt_cons)

theorem toList_toString_uInt32 (n : UInt32) : (toString n).toList = Nat.toDigits 10 n.toNat :=
  Nat.toList_repr

theorem toList_toString_uInt8 (n : UInt8) : (toString n).toList = Nat.toDigits 10 n.toNat :=
  Nat.toList_repr

/-- The values of an enumeration, up to the closing bracket. -/
def valueChars (vs : List String) : List Char :=
  (",".intercalate (vs.map Text.quoteBackslashed)).toList

theorem valueChars_cons (v : String) (vs : List String) :
    valueChars (v :: vs) = (Text.quoteBackslashed v).toList ++
      vs.flatMap fun v => ',' :: (Text.quoteBackslashed v).toList := by
  rw [valueChars, String.toList_intercalate, List.map_cons, List.map_cons, Text.intercalate_cons]
  simp [List.flatMap_map]

/-- Values begin with a quote, and no values are the closing bracket. -/
theorem exists_valueChars_append (vs : List String) (r : List Char) :
    ∃ c cs, valueChars vs ++ ')' :: r = c :: cs ∧ c = (if vs = [] then ')' else '\'') := by
  cases vs with
  | nil => exact ⟨')', r, rfl, rfl⟩
  | cons v vs =>
    rw [valueChars_cons, Text.toList_quoteBackslashed]
    exact ⟨_, _, rfl, rfl⟩

/-- A list of values ends at the bracket. -/
theorem valueChars_append_inj {us vs : List String} {r s : List Char}
    (h : valueChars us ++ ')' :: r = valueChars vs ++ ')' :: s) : us = vs ∧ r = s := by
  have hvalue : ∀ {u v : String} {r s : List Char}, ',' :: (Text.quoteBackslashed u).toList ++ r =
      ',' :: (Text.quoteBackslashed v).toList ++ s → u = v ∧ r = s := fun h =>
    Text.quoteBackslashed_append_inj (List.cons.inj h).2
  have hend : ∀ {v : String} {r s : List Char}, Text.At ')' s →
      ',' :: (Text.quoteBackslashed v).toList ++ r ≠ s := by
    rintro v r s ⟨t, rfl⟩ h
    simp at h
  -- The first character says whether there is a value at all.
  obtain ⟨c, cs, hu, hc⟩ := exists_valueChars_append us r
  obtain ⟨c', cs', hv, hc'⟩ := exists_valueChars_append vs s
  have hhead : c = c' := by
    rw [hu, hv] at h
    exact (List.cons.inj h).1
  cases us with
  | nil =>
    cases vs with
    | nil => exact ⟨rfl, (List.cons.inj h).2⟩
    | cons v vs =>
      rw [if_pos rfl] at hc
      rw [if_neg (List.cons_ne_nil v vs)] at hc'
      exact absurd (hc.symm.trans (hhead.trans hc')) (by decide)
  | cons u us =>
    cases vs with
    | nil =>
      rw [if_neg (List.cons_ne_nil u us)] at hc
      rw [if_pos rfl] at hc'
      exact absurd (hc.symm.trans (hhead.trans hc')) (by decide)
    | cons v vs =>
      rw [valueChars_cons, valueChars_cons, List.append_assoc, List.append_assoc] at h
      obtain ⟨huv, hothers⟩ := Text.quoteBackslashed_append_inj h
      obtain ⟨husvs, hrest⟩ := Text.flatMap_append_eq (Text.At ')') hvalue hend hothers
        (Text.at_cons _ _) (Text.at_cons _ _)
      exact ⟨by rw [huv, husvs], (List.cons.inj hrest).2⟩

theorem length_append {n : UInt32} {r : List Char} :
    (length n).sql.toList ++ r = '(' :: (Nat.toDigits 10 n.toNat ++ ')' :: r) := by
  simp [sql, toList_toString_uInt32]

theorem digits_append {total places : UInt8} {r : List Char} :
    (digits total places).sql.toList ++ r = '(' :: (Nat.toDigits 10 total.toNat ++
      ',' :: (Nat.toDigits 10 places.toNat ++ ')' :: r)) := by
  simp [sql, toList_toString_uInt8]

theorem values_append {vs : List String} {r : List Char} :
    (values vs).sql.toList ++ r = '(' :: (valueChars vs ++ ')' :: r) := by
  simp [sql, valueChars]

theorem unsigned_append {r : List Char} :
    unsigned.sql.toList ++ r = ' ' :: 'U' :: ("NSIGNED".toList ++ r) := by
  simp [sql]

/-- How an argument begins. -/
theorem exists_append (a : TypeArgument) (r : List Char) :
    ∃ cs, a.sql.toList ++ r = '(' :: cs ∨ a = unsigned ∧ a.sql.toList ++ r = ' ' :: 'U' :: cs := by
  cases a with
  | length n => exact ⟨_, .inl length_append⟩
  | digits total places => exact ⟨_, .inl digits_append⟩
  | values vs => exact ⟨_, .inl values_append⟩
  | unsigned => exact ⟨_, .inr ⟨rfl, unsigned_append⟩⟩

theorem notAt_valueChars (vs : List String) (r : List Char) :
    NotAt (·.isDigit = true) (valueChars vs ++ ')' :: r) := by
  obtain ⟨c, cs, h, hc⟩ := exists_valueChars_append vs r
  rw [h]
  refine notAt_cons ?_ cs
  split at hc <;> subst hc <;> decide

theorem length_append_ne_digits {n : UInt32} {total places : UInt8} {r s : List Char} :
    (length n).sql.toList ++ r ≠ (digits total places).sql.toList ++ s := by
  rw [length_append, digits_append]
  intro h
  obtain ⟨-, hrest⟩ := Text.toDigits_append_inj (notAt_cons (by decide) _)
    (notAt_cons (by decide) _) (List.cons.inj h).2
  simp at hrest

theorem length_append_ne_values {n : UInt32} {vs : List String} {r s : List Char} :
    (length n).sql.toList ++ r ≠ (values vs).sql.toList ++ s := by
  rw [length_append, values_append]
  intro h
  exact Text.toDigits_append_ne (notAt_valueChars vs s) (List.cons.inj h).2

theorem digits_append_ne_values {total places : UInt8} {vs : List String} {r s : List Char} :
    (digits total places).sql.toList ++ r ≠ (values vs).sql.toList ++ s := by
  rw [digits_append, values_append]
  intro h
  exact Text.toDigits_append_ne (notAt_valueChars vs s) (List.cons.inj h).2

theorem append_ne_unsigned {a : TypeArgument} (ha : a ≠ unsigned) {r s : List Char} :
    a.sql.toList ++ r ≠ unsigned.sql.toList ++ s := by
  obtain ⟨cs, hcs | ⟨hu, -⟩⟩ := exists_append a r
  · rw [hcs, unsigned_append]
    simp
  · exact absurd hu ha

/-- An argument ends where a reader sees it, whatever stands behind it. -/
theorem append_inj {a b : TypeArgument} {r s : List Char}
    (h : a.sql.toList ++ r = b.sql.toList ++ s) : a = b ∧ r = s := by
  cases a with
  | length n =>
    cases b with
    | length m =>
      rw [length_append, length_append] at h
      obtain ⟨hn, hrest⟩ := Text.toDigits_append_inj (notAt_cons (by decide) _)
        (notAt_cons (by decide) _) (List.cons.inj h).2
      exact ⟨by rw [UInt32.toNat_inj.1 hn], (List.cons.inj hrest).2⟩
    | digits total places => exact absurd h length_append_ne_digits
    | values vs => exact absurd h length_append_ne_values
    | unsigned => exact absurd h (append_ne_unsigned (by simp))
  | digits total places =>
    cases b with
    | length n => exact absurd h.symm length_append_ne_digits
    | digits total' places' =>
      rw [digits_append, digits_append] at h
      obtain ⟨ht, h⟩ := Text.toDigits_append_inj (notAt_cons (by decide) _)
        (notAt_cons (by decide) _) (List.cons.inj h).2
      obtain ⟨hp, hrest⟩ := Text.toDigits_append_inj (notAt_cons (by decide) _)
        (notAt_cons (by decide) _) (List.cons.inj h).2
      exact ⟨by rw [UInt8.toNat_inj.1 ht, UInt8.toNat_inj.1 hp], (List.cons.inj hrest).2⟩
    | values vs => exact absurd h digits_append_ne_values
    | unsigned => exact absurd h (append_ne_unsigned (by simp))
  | values us =>
    cases b with
    | length n => exact absurd h.symm length_append_ne_values
    | digits total places => exact absurd h.symm digits_append_ne_values
    | values vs =>
      rw [values_append, values_append] at h
      obtain ⟨rfl, hrest⟩ := valueChars_append_inj (List.cons.inj h).2
      exact ⟨rfl, hrest⟩
    | unsigned => exact absurd h (append_ne_unsigned (by simp))
  | unsigned =>
    by_cases hb : b = unsigned
    · subst hb
      exact ⟨rfl, List.append_cancel_left h⟩
    · exact absurd h.symm (append_ne_unsigned hb)

end TypeArgument

/-! ## The type and its arguments -/

theorem isUpper_of_mem_typeName {type : ColumnType} :
    ∀ c ∈ (typeName type).toList, c.isUpper = true := by
  have hall : (typeName type).toList.all Char.isUpper = true := by cases type <;> decide +kernel
  exact List.all_eq_true.1 hall

theorem typeName_injective : Function.Injective typeName := by
  have hfind : ∀ type, ColumnType.all.find? (typeName · == typeName type) = some type := by
    intro type
    cases type <;> decide +kernel
  intro a b h
  have ha := hfind a
  rw [h, hfind b] at ha
  exact (Option.some.inj ha).symm

/-- Columns with one type and the same arguments to it. -/
structure SameType (c c' : Column) : Prop where
  type : c.type = c'.type
  length : c.parameters.length = c'.parameters.length
  digits : c.parameters.digits = c'.parameters.digits
  allowed : c.type = .enum → c.parameters.allowed = c'.parameters.allowed
  unsigned : c.parameters.unsigned = c'.parameters.unsigned

theorem sameType_of_typeArguments {c c' : Column} (ht : c.type = c'.type)
    (h : typeArguments c = typeArguments c') : SameType c c' := by
  -- Each attribute is read off the membership of its argument.
  have hmem : ∀ a, a ∈ typeArguments c ↔ a ∈ typeArguments c' := fun a => by rw [h]
  refine ⟨ht, ?_, ?_, ?_, ?_⟩
  · refine Option.ext fun n => ?_
    simpa [typeArguments] using hmem (.length n)
  · refine Option.ext fun (total, places) => ?_
    simpa [typeArguments] using hmem (.digits total places)
  · intro he
    have hvalues := hmem (.values c.parameters.allowed)
    simpa [typeArguments, he, ← ht] using hvalues
  · refine Bool.eq_iff_iff.2 ?_
    simpa [typeArguments] using hmem .unsigned

/-- The text behind a type in a definition: the nullability. -/
def BeforeNullability (rest : List Char) : Prop := ∃ t, rest = ' ' :: 'N' :: t

/-- A type and its arguments end where a reader sees it in a definition. -/
theorem typeDefinition_append_inj {c c' : Column} {t t' : String} (ht : typeDefinition c = .ok t)
    (ht' : typeDefinition c' = .ok t') {r s : List Char} (h : t.toList ++ r = t'.toList ++ s)
    (hr : BeforeNullability r) (hs : BeforeNullability s) : SameType c c' ∧ r = s := by
  rw [typeDefinition_eq ht, typeDefinition_eq ht', List.append_assoc, List.append_assoc] at h
  -- `DATE` is a prefix of `DATETIME`, so the name needs its end: a bracket or a space.
  have hupper : ∀ (as : List TypeArgument) {t : List Char}, BeforeNullability t →
      Text.NotAt (·.isUpper = true) (as.flatMap (fun a => a.sql.toList) ++ t) := by
    rintro (_ | ⟨a, as⟩) _ ⟨t, rfl⟩
    · exact Text.notAt_cons (by decide) _
    · rw [List.flatMap_cons, List.append_assoc]
      obtain ⟨cs, hcs | ⟨-, hcs⟩⟩ := a.exists_append
        (as.flatMap (fun a => a.sql.toList) ++ ' ' :: 'N' :: t) <;>
        rw [hcs] <;> exact Text.notAt_cons (by decide) _
  have hstop : ∀ {a : TypeArgument} {r s : List Char}, BeforeNullability s →
      a.sql.toList ++ r ≠ s := by
    rintro a r _ ⟨t, rfl⟩
    obtain ⟨cs, hcs | ⟨-, hcs⟩⟩ := a.exists_append r <;> rw [hcs] <;> simp
  obtain ⟨hname, hargs⟩ := Text.run_append_inj isUpper_of_mem_typeName isUpper_of_mem_typeName
    (hupper _ hr) (hupper _ hs) h
  obtain ⟨hsame, hrest⟩ := Text.flatMap_append_eq BeforeNullability TypeArgument.append_inj hstop
    hargs hr hs
  have htype : c.type = c'.type := typeName_injective (String.toList_injective hname)
  exact ⟨sameType_of_typeArguments htype hsame, hrest⟩

end MySql

end SqlCompose
