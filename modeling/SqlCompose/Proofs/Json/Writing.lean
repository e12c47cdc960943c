import SqlCompose.Json
import SqlCompose.Proofs.Json.Documents
import SqlCompose.Proofs.Outcome
import SqlCompose.Proofs.Text.Boundary

/-!
# Written documents

What the writer says. A layout puts blanks between the tokens and nothing else, so the text of a
document is one of its forms in each layout and at each depth. `Writes` states it for one document,
with a lemma for each kind: an array is written if its items are, an object if the values of its
members are.
-/

namespace SqlCompose.Json

/-! ## Layouts -/

/-- Between the tokens there are blanks only. -/
structure Layout.Blank (l : Layout) : Prop where
  break_ : ∀ depth, Gap (l.break_ depth).toList
  colon : ∃ g, Gap g ∧ l.colon.toList = ':' :: g

theorem Layout.blank_compact : compact.Blank where
  break_ _ := gap_nil
  colon := ⟨[], gap_nil, rfl⟩

theorem gap_space : Gap [' '] := by
  intro c hc
  obtain rfl := List.mem_singleton.1 hc
  decide

theorem Layout.blank_pretty : pretty.Blank where
  break_ depth := by
    have hblank : ∀ c ∈ '\n' :: List.replicate (2 * depth) ' ', c ∈ [' ', '\n', '\t', '\r'] := by
      intro c hc
      rcases List.mem_cons.1 hc with rfl | hc
      · decide
      · obtain rfl := List.eq_of_mem_replicate hc
        decide
    unfold Gap pretty
    rwa [String.toList_ofList]
  colon := ⟨[' '], gap_space, rfl⟩

/-- The document is a form of its kind in each blank layout and at each depth. -/
def Writes (j : Json) (d : Document) : Prop :=
  ∀ l : Layout, l.Blank → ∀ depth, Form d (writeAt l depth j).toList

/-- What is written says the document. -/
theorem Writes.isText {j : Json} {d : Document} (h : Writes j d) {l : Layout} (hl : l.Blank) :
    d.IsText (j.write l) :=
  ⟨[], _, [], gap_nil, h l hl 0, gap_nil, (List.append_nil _).symm⟩

/-! ## Scalars -/

theorem writes_null : Writes null .null := by
  intro l _ depth
  have htext : "null".toList = ['n', 'u', 'l', 'l'] := rfl
  rw [writeAt, htext]
  exact .null

theorem writes_bool (b : Bool) : Writes (bool b) (.bool b) := by
  intro l _ depth
  have htext : BoolForm b (if b then "true" else "false").toList := by
    cases b with
    | true => exact .true
    | false => exact .false
  rw [writeAt]
  exact .bool htext

theorem number_toString (n : Int) : Number (toString n).toList := by
  have hnatural : ∀ (sign : List Char) (m : Nat), sign ∈ [[], ['-']] →
      Number (sign ++ Nat.toDigits 10 m) := by
    intro sign m hsign
    have hnumber := Number.mk hsign (whole_toDigits m) .none .none
    rwa [List.append_nil, List.append_nil] at hnumber
  cases n with
  | ofNat m => exact Decimal.toList_toString_natCast m ▸ hnatural [] m (by decide)
  | negSucc m => exact Decimal.toList_toString_negSucc m ▸ hnatural ['-'] (m + 1) (by decide)

theorem writes_integer (n : Int) : Writes (integer n) (.number (toString n).toList) := by
  intro l _ depth
  rw [writeAt]
  exact .number (number_toString n)

/-- Each escape spells the character that it stands for. -/
theorem spellsChar_escapeChar (c : Char) : SpellsChar (escapeChar c) c := by
  have hletter : ∀ p ∈ letterEscapes, SpellsChar ['\\', p.1] p.2 := fun p hp => .letter hp
  unfold escapeChar
  split
  · exact hletter ('"', '"') (by decide)
  · exact hletter ('\\', '\\') (by decide)
  · exact hletter ('b', '\x08') (by decide)
  · exact hletter ('f', '\x0c') (by decide)
  · exact hletter ('n', '\n') (by decide)
  · exact hletter ('r', '\r') (by decide)
  · exact hletter ('t', '\t') (by decide)
  · next hquote hbackslash _ _ _ _ _ =>
    split
    · next hcontrol =>
      have hdigit : ∀ k < 16, (Nat.digitChar k, k) ∈ hexDigits := by decide
      have hzero : ('0', 0) ∈ hexDigits := by decide
      have hform := HexFour.mk hzero hzero (hdigit (c.toNat / 16) (by omega))
        (hdigit (c.toNat % 16) (by omega))
      have hvalue : 0 * 4096 + 0 * 256 + c.toNat / 16 * 16 + c.toNat % 16 = c.toNat := by omega
      rw [hvalue] at hform
      exact .unicode hform
    · next hcontrol => exact .plain hquote hbackslash (by omega)

theorem spells_flatMap (cs : List Char) : Spells (cs.flatMap escapeChar) cs := by
  induction cs with
  | nil => exact .nil
  | cons c cs ih => exact .cons (spellsChar_escapeChar c) ih

theorem literal_quote (s : String) : Literal s (quote s).toList := by
  unfold quote
  rw [String.toList_ofList]
  exact .mk (spells_flatMap s.toList)

theorem writes_text (s : String) : Writes (text s) (.text s) := by
  intro l _ depth
  rw [writeAt]
  exact .text (literal_quote s)

/-! ## Containers -/

section
variable {l : Layout} {depth : Nat} {es : List String}

/-- The elements of a container behind the first. -/
def Layout.further (l : Layout) (depth : Nat) (es : List String) : List Char :=
  es.flatMap fun e => ',' :: ((l.break_ depth).toList ++ e.toList)

theorem Layout.further_cons (l : Layout) (depth : Nat) (e : String) (es : List String) :
    l.further depth (e :: es) =
      ',' :: ((l.break_ depth).toList ++ (e.toList ++ l.further depth es)) := by
  unfold further
  rw [List.flatMap_cons, List.cons_append, List.append_assoc]

theorem Layout.toList_container (l : Layout) (depth : Nat) {opening closing : String}
    {o c : Char} (ho : opening.toList = [o]) (hc : closing.toList = [c]) (e : String)
    (es : List String) :
    (l.container depth opening closing (e :: es)).toList =
      o :: ((l.break_ (depth + 1)).toList ++ (e.toList ++
        (l.further (depth + 1) es ++ ((l.break_ depth).toList ++ [c])))) := by
  unfold container further
  simp only [String.toList_append, String.toList_intercalate, List.map_cons, Text.intercalate_cons,
    List.flatMap_map, List.append_assoc, ho, hc, List.singleton_append]
  rfl

theorem Layout.toList_container_nil (l : Layout) (depth : Nat) {opening closing : String}
    {o c : Char} (ho : opening.toList = [o]) (hc : closing.toList = [c]) :
    (l.container depth opening closing []).toList = [o, c] := by
  unfold container
  rw [String.toList_append, ho, hc]
  rfl

variable {μ : Type} {ms : List μ}

theorem restForm_further {value : μ → List Char → Prop} (hl : l.Blank) (inner : Nat)
    (h : List.Forall₂ (fun m e => value m (String.toList e)) ms es) :
    RestForm value ms (l.further inner es ++ ((l.break_ depth).toList ++ [']'])) := by
  induction h with
  | nil => exact .close (hl.break_ depth)
  | cons ht _ ih =>
    have hrest := RestForm.element gap_nil (hl.break_ inner) ht ih
    rw [Layout.further_cons]
    simpa only [List.append_assoc, List.nil_append, List.cons_append] using hrest

/-- A container of written elements is an array. -/
theorem arrayForm_container {value : μ → List Char → Prop} (hl : l.Blank)
    (h : List.Forall₂ (fun m e => value m (String.toList e)) ms es) :
    ArrayForm value ms (l.container depth "[" "]" es).toList := by
  cases h with
  | nil =>
    rw [l.toList_container_nil depth rfl rfl]
    exact .empty gap_nil
  | cons ht hts =>
    rw [l.toList_container depth rfl rfl]
    exact .elements (hl.break_ (depth + 1)) ht (restForm_further hl (depth + 1) hts)

theorem tailForm_further {name : μ → String} {value : μ → List Char → Prop} (hl : l.Blank)
    (inner : Nat) (h : List.Forall₂ (fun m e => ∀ g, Gap g →
      MemberForm (name m) (value m) (g ++ String.toList e)) ms es) :
    TailForm name value ms (l.further inner es ++ ((l.break_ depth).toList ++ ['\x7d'])) := by
  induction h with
  | nil => exact .close (hl.break_ depth)
  | cons ht _ ih =>
    have hrest := TailForm.member gap_nil (ht _ (hl.break_ inner)) ih
    rw [Layout.further_cons]
    simpa only [List.append_assoc, List.nil_append, List.cons_append] using hrest

/-- A container of written members is an object. -/
theorem objectForm_container {name : μ → String} {value : μ → List Char → Prop} (hl : l.Blank)
    (h : List.Forall₂ (fun m e => ∀ g, Gap g →
      MemberForm (name m) (value m) (g ++ String.toList e)) ms es) :
    ObjectForm name value ms (l.container depth "\x7b" "\x7d" es).toList := by
  cases h with
  | nil =>
    rw [l.toList_container_nil depth rfl rfl]
    exact .empty gap_nil
  | cons ht hts =>
    have htail : TailForm name value _
        (l.further (depth + 1) _ ++ ((l.break_ depth).toList ++ ['\x7d'])) :=
      tailForm_further hl (depth + 1) hts
    have hmembers := ObjectForm.members (ht _ (hl.break_ (depth + 1))) htail
    rw [l.toList_container depth rfl rfl]
    rwa [List.append_assoc] at hmembers

end

section
variable {l : Layout}

theorem forall₂_writeItems {js : List Json} {ds : List Document} (hl : l.Blank)
    (h : List.Forall₂ Writes js ds) (depth : Nat) :
    List.Forall₂ (fun d e => Form d (String.toList e)) ds (writeItems l depth js) := by
  induction h with
  | nil => exact .nil
  | cons hj _ ih => exact .cons (hj l hl depth) ih

theorem Writes.array {js : List Json} {ds : List Document} (h : List.Forall₂ Writes js ds) :
    Writes (array js) (.array ds) := by
  intro l hl depth
  rw [writeAt]
  exact .array (arrayForm_container hl (forall₂_writeItems hl h (depth + 1)))

/-- The text of a member is its quoted name, the colon and the text of its value. -/
theorem memberForm_write {m : String × Json} {d : String × Document} (hl : l.Blank)
    (hname : m.1 = d.1) (h : Writes m.2 d.2) (depth : Nat) {g : List Char} (hg : Gap g) :
    MemberForm d.1 (Form d.2)
      (g ++ (quote m.1 ++ l.colon ++ writeAt l depth m.2).toList) := by
  obtain ⟨g', hg', hcolon⟩ := hl.colon
  rw [String.toList_append, String.toList_append, hcolon, hname]
  have hmember := MemberForm.mk hg (literal_quote d.1) gap_nil hg' (h l hl depth)
  simpa only [List.append_assoc, List.nil_append, List.cons_append] using hmember

theorem forall₂_writeMembers {ms : List (String × Json)} {ds : List (String × Document)}
    (hl : l.Blank) (h : List.Forall₂ (fun m d => m.1 = d.1 ∧ Writes m.2 d.2) ms ds) (depth : Nat) :
    List.Forall₂ (fun d e => ∀ g, Gap g → MemberForm d.1 (Form d.2) (g ++ String.toList e)) ds
      (writeMembers l depth ms) := by
  induction h with
  | nil => exact .nil
  | cons hm _ ih => exact .cons (fun _ hg => memberForm_write hl hm.1 hm.2 depth hg) ih

theorem Writes.object {ms : List (String × Json)} {ds : List (String × Document)}
    (h : List.Forall₂ (fun m d => m.1 = d.1 ∧ Writes m.2 d.2) ms ds) :
    Writes (object ms) (.object ds) := by
  intro l hl depth
  rw [writeAt]
  exact .object (objectForm_container hl (forall₂_writeMembers hl h (depth + 1))) fun _ _ hv => hv

end

end SqlCompose.Json
