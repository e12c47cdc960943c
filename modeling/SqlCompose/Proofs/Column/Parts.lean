import SqlCompose.Column.Definition
import SqlCompose.Proofs.Dialect.DefaultLiteral

/-!
# Parts of a column definition

The parts behind the type, each with the space before it: a part is known by its first two letters
(`Part.exists_lead`) and ends where a reader sees it (`Part.append_inj`), so the text of a list of
parts gives the list back (`parts_append_inj`), up to defaults with one literal (`Part.Alike`).
-/

namespace SqlCompose

/-- A name that nothing in a definition can end: it has no spaces and no brackets. -/
abbrev Text.IsWord (s : String) : Prop := Avoids [' ', '(', ')'] s

namespace ReferentialAction

theorem append_inj {a b : ReferentialAction} {r s : List Char}
    (h : a.sql.toList ++ r = b.sql.toList ++ s) : a = b ∧ r = s := by
  cases a <;> cases b <;> simp_all [sql]

/-- An optional action behind a keyword, where the keyword cannot follow otherwise. -/
theorem elim_append_inj {keyword : String} {o o' : Option ReferentialAction} {r s : List Char}
    (hr : ¬keyword.toList <+: r) (hs : ¬keyword.toList <+: s)
    (h : (o.elim "" fun a => keyword ++ a.sql).toList ++ r =
      (o'.elim "" fun a => keyword ++ a.sql).toList ++ s) : o = o' ∧ r = s := by
  cases o with
  | none =>
    cases o' with
    | none => exact ⟨rfl, h⟩
    | some b =>
      refine absurd ⟨b.sql.toList ++ s, ?_⟩ hr
      simpa using h.symm
  | some a =>
    cases o' with
    | none =>
      refine absurd ⟨a.sql.toList ++ r, ?_⟩ hs
      simpa using h
    | some b =>
      have hab : a.sql.toList ++ r = b.sql.toList ++ s := by simpa using h
      obtain ⟨rfl, hrest⟩ := append_inj hab
      exact ⟨rfl, hrest⟩

end ReferentialAction

namespace Column

namespace Part

variable {d : Dialect}

/-- A part that stands behind the type and has words for names. -/
def IsPlain : Part → Prop
  | name _ | type _ => False
  | after column => Text.IsWord column
  | reference source table column _ _ =>
    Text.IsWord source ∧ Text.IsWord table ∧ Text.IsWord column
  | _ => True

/-- Equal parts, but for defaults with one literal. -/
def Alike (d : Dialect) : Part → Part → Prop
  | default v, default v' => v.SameLiteral d v'
  | p, q => p = q

theorem Alike.symm {p q : Part} (h : Alike d p q) : Alike d q p := by
  unfold Alike at h
  split at h
  · exact ⟨h.1.symm, fun s => (h.2 s).symm⟩
  · subst h
    unfold Alike
    split
    · exact ⟨rfl, fun _ => Iff.rfl⟩
    · rfl

theorem Alike.eq {p q : Part} (h : Alike d p q) (hp : ∀ v, p ≠ .default v) : p = q := by
  unfold Alike at h
  split at h
  · exact absurd rfl (hp _)
  · exact h

theorem Alike.exists_default {v : DefaultValue} {q : Part} (h : Alike d (.default v) q) :
    ∃ v', q = .default v' ∧ v.SameLiteral d v' := by
  cases q with
  | default v' => exact ⟨v', rfl, h⟩
  | name | type | nullability | autoIncrement | unique | primaryKey | after | reference => cases h

/-- The first two letters of a part. -/
def lead : Part → Char × Char
  | name _ | type _ => (' ', ' ')
  | nullability nullable => ('N', if nullable then 'U' else 'O')
  | default _ => ('D', 'E')
  | autoIncrement => ('A', 'U')
  | unique => ('U', 'N')
  | primaryKey => ('P', 'R')
  | after _ => ('A', 'F')
  | reference .. => ('F', 'O')

/-- The text of a part with the space before it. -/
def chars (d : Dialect) (p : Part) : List Char := ' ' :: (p.sql d).toList

/-- A part is known by its first two letters. -/
theorem exists_lead (hd : d.autoIncrementKeyword = "AUTO_INCREMENT") {p : Part} (hp : p.IsPlain)
    (r : List Char) : ∃ cs, p.chars d ++ r = ' ' :: p.lead.1 :: p.lead.2 :: cs := by
  unfold chars sql
  cases p with
  | name | type => cases hp
  | nullability nullable => cases nullable <;> simp [lead]
  | default | autoIncrement | unique | primaryKey | after | reference => simp [lead, hd]

/-- The text behind a part: none, or another part. -/
def Follows (rest : List Char) : Prop := rest = [] ∨ ∃ c cs, rest = ' ' :: c :: cs ∧ c ≠ 'O'

theorem follows_append (hd : d.autoIncrementKeyword = "AUTO_INCREMENT") {p : Part} (hp : p.IsPlain)
    (r : List Char) : Follows (p.chars d ++ r) := by
  obtain ⟨cs, hcs⟩ := exists_lead hd hp r
  refine .inr ⟨_, _, hcs, ?_⟩
  cases p <;> simp [lead]

theorem Follows.notAt {p : Char → Prop} (hp : ¬p ' ') {r : List Char} (h : Follows r) :
    Text.NotAt p r := by
  obtain rfl | ⟨c, cs, rfl, -⟩ := h
  · exact Text.notAt_nil p
  · exact Text.notAt_cons hp _

theorem Follows.not_prefix {keyword : String} {cs : List Char}
    (hk : keyword.toList = ' ' :: 'O' :: cs) {r : List Char} (h : Follows r) :
    ¬keyword.toList <+: r := by
  rintro ⟨t, ht⟩
  obtain rfl | ⟨c, cs', rfl, hc⟩ := h
  · simp [hk] at ht
  · rw [hk] at ht
    exact hc (List.cons.inj (List.cons.inj ht).2).1.symm

theorem chars_default_append {v : DefaultValue} {r : List Char} :
    (default v).chars d ++ r = " DEFAULT ".toList ++ ((d.renderDefault v).toList ++ r) := by
  unfold chars sql
  simp

theorem chars_after_append {column : String} {r : List Char} :
    (after column).chars d ++ r = " AFTER ".toList ++ (column.toList ++ r) := by
  unfold chars sql
  simp

theorem chars_reference_append {source table column : String}
    {onDelete onUpdate : Option ReferentialAction} {r : List Char} :
    (reference source table column onDelete onUpdate).chars d ++ r =
      " FOREIGN KEY (".toList ++ (source.toList ++ ')' :: (" REFERENCES ".toList ++
        (table.toList ++ '(' :: (column.toList ++ ')' ::
          ((onDelete.elim "" fun a => " ON DELETE " ++ a.sql).toList ++
            ((onUpdate.elim "" fun a => " ON UPDATE " ++ a.sql).toList ++ r)))))) := by
  unfold chars sql
  simp

/-- A relation ends where a reader sees it. -/
theorem reference_append_inj {source table column source' table' column' : String}
    {onDelete onUpdate onDelete' onUpdate' : Option ReferentialAction}
    (hp : (reference source table column onDelete onUpdate).IsPlain)
    (hq : (reference source' table' column' onDelete' onUpdate').IsPlain) {r s : List Char}
    (hr : Follows r) (hs : Follows s)
    (h : (reference source table column onDelete onUpdate).chars d ++ r =
      (reference source' table' column' onDelete' onUpdate').chars d ++ s) :
    reference source table column onDelete onUpdate =
      reference source' table' column' onDelete' onUpdate' ∧ r = s := by
  have hclose : ∀ t, Text.NotAt (· ∉ [' ', '(', ')']) (')' :: t) := Text.notAt_cons (by decide)
  have hopen : ∀ t, Text.NotAt (· ∉ [' ', '(', ')']) ('(' :: t) := Text.notAt_cons (by decide)
  -- Neither an ON UPDATE nor another part can be taken for an ON DELETE.
  have hdelete : ∀ {o : Option ReferentialAction} {t}, Follows t → ¬" ON DELETE ".toList <+:
      (o.elim "" fun a => " ON UPDATE " ++ a.sql).toList ++ t := by
    intro o t ht
    cases o with
    | none => exact ht.not_prefix rfl
    | some a =>
      rintro ⟨u, hu⟩
      simp at hu
  rw [chars_reference_append, chars_reference_append] at h
  obtain ⟨hsource, h₁⟩ := Text.Avoids.append_inj hp.1 hq.1 (hclose _) (hclose _)
    (List.append_cancel_left h)
  obtain ⟨htable, h₂⟩ := Text.Avoids.append_inj hp.2.1 hq.2.1 (hopen _) (hopen _)
    (List.append_cancel_left (List.cons.inj h₁).2)
  obtain ⟨hcolumn, h₃⟩ := Text.Avoids.append_inj hp.2.2 hq.2.2 (hclose _) (hclose _)
    (List.cons.inj h₂).2
  obtain ⟨honDelete, h₄⟩ := ReferentialAction.elim_append_inj (hdelete hr) (hdelete hs)
    (List.cons.inj h₃).2
  obtain ⟨honUpdate, hrest⟩ := ReferentialAction.elim_append_inj (hr.not_prefix rfl)
    (hs.not_prefix rfl) h₄
  exact ⟨by rw [hsource, htable, hcolumn, honDelete, honUpdate], hrest⟩

/-- A part ends where a reader sees it. -/
theorem append_inj (hd : d.autoIncrementKeyword = "AUTO_INCREMENT")
    (hdefault : d.renderDefault = plainDefault Text.quoteBackslashed) {p q : Part}
    (hp : p.IsPlain) (hq : q.IsPlain) {r s : List Char} (hr : Follows r) (hs : Follows s)
    (h : p.chars d ++ r = q.chars d ++ s) :
    Alike d p q ∧ r = s := by
  -- The lead fixes the constructor, so that only like parts are left to compare.
  have hlead : p.lead = q.lead := by
    obtain ⟨cs, hcs⟩ := exists_lead hd hp r
    obtain ⟨cs', hcs'⟩ := exists_lead hd hq s
    rw [hcs, hcs'] at h
    simp only [List.cons.injEq, true_and] at h
    exact Prod.ext h.1 h.2.1
  cases p with
  | name | type => cases hp
  | nullability nullable =>
    obtain ⟨nullable', rfl⟩ : ∃ b, q = .nullability b := by cases q <;> simp_all [lead, IsPlain]
    obtain rfl : nullable = nullable' := by
      cases nullable <;> cases nullable' <;> simp_all [lead]
    exact ⟨rfl, List.append_cancel_left h⟩
  | default v =>
    obtain ⟨v', rfl⟩ : ∃ v', q = .default v' := by cases q <;> simp_all [lead, IsPlain]
    rw [chars_default_append, chars_default_append] at h
    exact DefaultValue.renderDefault_append_inj hdefault (hr.notAt (by decide))
      (hs.notAt (by decide)) (List.append_cancel_left h)
  | autoIncrement =>
    obtain rfl : q = .autoIncrement := by cases q <;> simp_all [lead, IsPlain]
    exact ⟨rfl, List.append_cancel_left h⟩
  | unique =>
    obtain rfl : q = .unique := by cases q <;> simp_all [lead, IsPlain]
    exact ⟨rfl, List.append_cancel_left h⟩
  | primaryKey =>
    obtain rfl : q = .primaryKey := by cases q <;> simp_all [lead, IsPlain]
    exact ⟨rfl, List.append_cancel_left h⟩
  | after column =>
    obtain ⟨column', rfl⟩ : ∃ x, q = .after x := by cases q <;> simp_all [lead, IsPlain]
    rw [chars_after_append, chars_after_append] at h
    obtain ⟨rfl, hrest⟩ := Text.Avoids.append_inj hp hq (hr.notAt (by decide))
      (hs.notAt (by decide)) (List.append_cancel_left h)
    exact ⟨rfl, hrest⟩
  | reference source table column onDelete onUpdate =>
    obtain ⟨source', table', column', onDelete', onUpdate', rfl⟩ :
        ∃ s t c d u, q = .reference s t c d u := by cases q <;> simp_all [lead, IsPlain]
    exact reference_append_inj hp hq hr hs h

end Part

/-- A list of parts is told from its text. -/
theorem parts_append_inj {d : Dialect} (hd : d.autoIncrementKeyword = "AUTO_INCREMENT")
    (hdefault : d.renderDefault = plainDefault Text.quoteBackslashed) {ps qs : List Part}
    (hp : ∀ p ∈ ps, p.IsPlain) (hq : ∀ q ∈ qs, q.IsPlain)
    (h : ps.flatMap (Part.chars d) = qs.flatMap (Part.chars d)) :
    List.Forall₂ (Part.Alike d) ps qs := by
  have hend : ∀ {p : Part} {r s : List Char}, p.IsPlain → s = [] → p.chars d ++ r ≠ s := by
    rintro p r s - rfl
    exact List.cons_ne_nil _ _
  have hall : ps.flatMap (Part.chars d) ++ [] = qs.flatMap (Part.chars d) ++ [] := by rw [h]
  exact (Text.flatMap_append_inj Part.IsPlain Part.Follows (· = [])
    (fun hp hq => Part.append_inj hd hdefault hp hq) (fun r hp => Part.follows_append hd hp r)
    .inl hend hp hq hall rfl rfl).1

end Column

end SqlCompose
