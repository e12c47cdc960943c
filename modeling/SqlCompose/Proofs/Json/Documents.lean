import SqlCompose.Proofs.Json.Objects

/-!
# Documents

What a JSON text says, whatever its layout and its escapes. `Form` is the grammar: how a document
may be written. `readDocument` reads a document of any kind, and a document is read from each of its
texts (`parse_isText`); so no text says two things (`IsText.unique`).
-/

namespace SqlCompose.Json

/-- What a text says. Numbers stay as they are written, members in their order. -/
inductive Document
  | null
  | bool (b : Bool)
  | number (t : List Char)
  | text (s : String)
  | array (items : List Document)
  | object (members : List (String × Document))

/-! ## Arrays -/

section
variable {μ : Type} (value : μ → List Char → Prop)

/-- The elements behind an element, each with its comma, and the closing bracket. -/
inductive RestForm : List μ → List Char → Prop
  | close {g : List Char} (hg : Gap g) : RestForm [] (g ++ [']'])
  | element {g₁ g₂ t ts : List Char} {m : μ} {ms : List μ} (hg₁ : Gap g₁) (hg₂ : Gap g₂)
    (ht : value m t) (hts : RestForm ms ts) : RestForm (m :: ms) (g₁ ++ ',' :: (g₂ ++ (t ++ ts)))

/-- The items as an array. -/
inductive ArrayForm : List μ → List Char → Prop
  | empty {g : List Char} (hg : Gap g) : ArrayForm [] ('[' :: (g ++ [']']))
  | elements {g t ts : List Char} {m : μ} {ms : List μ} (hg : Gap g) (ht : value m t)
    (hts : RestForm value ms ts) : ArrayForm (m :: ms) ('[' :: (g ++ (t ++ ts)))

variable {value} {ms : List μ} {t rest : List Char}

theorem RestForm.length (h : RestForm value ms t) : ms.length < t.length := by
  induction h with
  | close => simp
  | element _ _ _ _ ih =>
    simp only [List.length_cons, List.length_append]
    omega

/-- The values of an array are shorter than its text. -/
theorem RestForm.shorter {n : Nat} (h : RestForm value ms t) (hn : t.length ≤ n) :
    RestForm (fun m v => value m v ∧ v.length < n) ms t := by
  induction h with
  | close hg => exact .close hg
  | element hg₁ hg₂ ht _ ih =>
    simp only [List.length_append, List.length_cons] at hn
    exact .element hg₁ hg₂ ⟨ht, by omega⟩ (ih (by omega))

theorem ArrayForm.shorter (h : ArrayForm value ms t) :
    ArrayForm (fun m v => value m v ∧ v.length < t.length) ms t := by
  cases h with
  | empty hg => exact .empty hg
  | elements hg ht hts =>
    refine .elements hg ⟨ht, ?_⟩ (hts.shorter ?_) <;>
    · simp only [List.length_append, List.length_cons]
      omega

theorem ArrayForm.head (h : ArrayForm value ms t) : ∃ u, t = '[' :: u := by
  cases h with
  | empty | elements => exact ⟨_, rfl⟩

/-- A number does not go on into what stands behind an element. -/
theorem RestForm.stops (h : RestForm value ms t) (rest : List Char) : Stops (t ++ rest) := by
  cases h with
  | close hg =>
    rw [List.append_assoc]
    exact stops_mark hg (by simp) _
  | element hg₁ =>
    rw [List.append_assoc]
    exact stops_mark hg₁ (by simp) _

/-! ## Reading elements -/

/-- Reads the elements of an array behind its bracket. Each element takes characters, so the length
of the text is fuel enough. -/
def readElements {α : Type} (read : Reader α) : Nat → Bool → Reader (List α)
  | 0, _ => fun _ => .error .truncated
  | fuel + 1, first => fun cs => do
    let (more, cs) ← nextElement first cs
    if more then
      let (a, cs) ← read cs
      let (as, cs) ← readElements read fuel false cs
      return (a :: as, cs)
    else return ([], cs)

theorem nextElement_close {first : Bool} {g : List Char} (hg : Gap g) :
    nextElement first (g ++ ']' :: rest) = .ok (false, rest) := by
  unfold nextElement
  rw [skipSpace_gap_cons hg rfl]
  rfl

theorem nextElement_first {g : List Char} {c : Char} (hg : Gap g) (hspace : isSpace c = false)
    (hne : c ≠ ']') : nextElement true (g ++ c :: rest) = .ok (true, c :: rest) := by
  unfold nextElement
  rw [skipSpace_gap_cons hg hspace]
  split
  · next heq => exact absurd (List.cons.inj heq).1 hne
  · next heq => cases heq
  · next heq =>
    obtain ⟨rfl, rfl⟩ := List.cons.inj heq
    rfl

theorem nextElement_next {g₁ g₂ : List Char} {c : Char} (hg₁ : Gap g₁) (hg₂ : Gap g₂)
    (hspace : isSpace c = false) (hne : c ≠ ']') :
    nextElement false (g₁ ++ ',' :: (g₂ ++ c :: rest)) = .ok (true, c :: rest) := by
  unfold nextElement
  rw [skipSpace_gap_cons hg₁ rfl]
  split
  · next heq => exact absurd (List.cons.inj heq).1 (by decide)
  · next heq => cases heq
  · next heq =>
    obtain ⟨rfl, rfl⟩ := List.cons.inj heq
    rw [if_neg (by decide), if_pos rfl, skipSpace_gap_cons hg₂ hspace]
    split
    · next heq => exact absurd (List.cons.inj heq).1 hne
    · next heq => cases heq
    · rfl

/-- A reader of the elements, none of which begins like the end of the array. -/
structure ReadsElements (read : Reader μ) (value : μ → List Char → Prop) : Prop where
  head : ∀ {m v}, value m v → ∃ c u, v = c :: u ∧ isSpace c = false ∧ c ≠ ']'
  read : ∀ {m v rest}, value m v → Stops rest → read (v ++ rest) = .ok (m, rest)

theorem readElements_element {read : Reader μ} {fuel : Nat} {first : Bool} {m : μ}
    {cs cs' cs'' : List Char} (hnext : nextElement first cs = .ok (true, cs'))
    (hread : read cs' = .ok (m, cs'')) :
    readElements read (fuel + 1) first cs =
      readElements read fuel false cs'' >>= fun (ms, cs) => .ok (m :: ms, cs) := by
  show (nextElement first cs >>= _) = _
  rw [hnext]
  show (read cs' >>= _) = _
  rw [hread]
  rfl

theorem readElements_close {read : Reader μ} {fuel : Nat} {first : Bool} {cs : List Char}
    (hnext : nextElement first cs = .ok (false, rest)) :
    readElements read (fuel + 1) first cs = .ok ([], rest) := by
  show (nextElement first cs >>= _) = _
  rw [hnext]
  rfl

theorem readElements_rest {read : Reader μ} (h : ReadsElements read value)
    (ht : RestForm value ms t) {fuel : Nat} (hfuel : ms.length < fuel) :
    readElements read fuel false (t ++ rest) = .ok (ms, rest) := by
  induction ht generalizing fuel with
  | close hg =>
    obtain ⟨fuel, rfl⟩ : ∃ k, fuel = k + 1 := ⟨fuel - 1, by omega⟩
    rw [List.append_assoc]
    exact readElements_close (nextElement_close hg)
  | element hg₁ hg₂ ht hts ih =>
    obtain ⟨fuel, rfl⟩ : ∃ k, fuel = k + 1 := ⟨fuel - 1, by omega⟩
    obtain ⟨c, u, rfl, hspace, hne⟩ := h.head ht
    have hread := h.read ht (hts.stops rest)
    simp only [List.append_assoc, List.cons_append] at hread ⊢
    rw [readElements_element (nextElement_next hg₁ hg₂ hspace hne) hread,
      ih (Nat.lt_of_succ_lt_succ hfuel)]
    rfl

/-- The elements of an array are read one after the other. -/
theorem readElements_array {read : Reader μ} (rest : List Char) (h : ReadsElements read value)
    (ht : ArrayForm value ms ('[' :: t)) :
    readElements read ((t ++ rest).length + 1) true (t ++ rest) = .ok (ms, rest) := by
  cases ht with
  | empty hg =>
    rw [List.append_assoc]
    exact readElements_close (nextElement_close hg)
  | @elements g t ts m ms hg ht hts =>
    have hlength := hts.length
    obtain ⟨c, u, rfl, hspace, hne⟩ := h.head ht
    have hread := h.read ht (hts.stops rest)
    simp only [List.append_assoc, List.cons_append] at hread ⊢
    rw [readElements_element (nextElement_first hg hspace hne) hread, readElements_rest h hts]
    · rfl
    · simp only [List.length_append, List.length_cons]
      omega

end

/-! ## All documents -/

/-- How a document may be written. The members of an object are written in some way that writes each
of their documents. -/
inductive Form : Document → List Char → Prop
  | null : Form .null ['n', 'u', 'l', 'l']
  | bool {b : Bool} {t : List Char} (h : BoolForm b t) : Form (.bool b) t
  | number {t : List Char} (h : Number t) : Form (.number t) t
  | text {s : String} {t : List Char} (h : Literal s t) : Form (.text s) t
  | array {items : List Document} {t : List Char} (h : ArrayForm Form items t) :
    Form (.array items) t
  | object {members : List (String × Document)} {value : String × Document → List Char → Prop}
    {t : List Char} (h : ObjectForm Prod.fst value members t) (hv : ∀ m v, value m v → Form m.2 v) :
    Form (.object members) t

/-- Reads a number as it is written. -/
def readNumber : Reader (List Char) := fun cs => do
  let (_, rest) ← numeral .truncated cs
  return (cs.take (cs.length - rest.length), rest)

/-- Reads a document as the value of a member behind others. -/
def readEntry (read : Reader Document) (name : String) (members : List (String × Document)) :
    Reader (List (String × Document)) := fun cs => do
  let (d, cs) ← read cs
  return (members ++ [(name, d)], cs)

/-- Reads a document. Documents inside it are shorter, so the length of the text is fuel enough. -/
def readDocument : Nat → Reader Document
  | 0 => fun _ => .error .truncated
  | fuel + 1 => fun cs =>
    match skipSpace cs with
    | 'n' :: cs => do
      let cs ← word ['u', 'l', 'l'] cs
      return (.null, cs)
    | 't' :: cs => do
      let (b, cs) ← readBool ('t' :: cs)
      return (.bool b, cs)
    | 'f' :: cs => do
      let (b, cs) ← readBool ('f' :: cs)
      return (.bool b, cs)
    | '"' :: cs => do
      let (s, cs) ← readText ('"' :: cs)
      return (.text s, cs)
    | '[' :: cs => do
      let (items, cs) ← readElements (readDocument fuel) (cs.length + 1) true cs
      return (.array items, cs)
    | '\x7b' :: cs => do
      let (members, cs) ← readMap (readEntry (readDocument fuel)) [] ('\x7b' :: cs)
      return (.object members, cs)
    | cs => do
      let (t, cs) ← readNumber cs
      return (.number t, cs)

theorem Form.head {d : Document} {t : List Char} (h : Form d t) :
    ∃ c u, t = c :: u ∧ isSpace c = false ∧ c ≠ ']' := by
  cases h with
  | null => exact ⟨_, _, rfl, by decide, by decide⟩
  | bool h => cases h <;> exact ⟨_, _, rfl, by decide, by decide⟩
  | text h => cases h; exact ⟨_, _, rfl, by decide, by decide⟩
  | array h => cases h <;> exact ⟨_, _, rfl, by decide, by decide⟩
  | object h => cases h <;> exact ⟨_, _, rfl, by decide, by decide⟩
  | number h =>
    obtain ⟨c, u, rfl, hc⟩ := h.head
    exact ⟨c, u, rfl, isSpace_of_numberHead hc, ne_of_numberHead hc rfl⟩

section
variable {fuel : Nat} {g t rest : List Char}

theorem readNumber_form (ht : Number t) (hrest : Stops rest) :
    readNumber (t ++ rest) = .ok (t, rest) := by
  obtain ⟨n, hn⟩ := numeral_form .truncated ht hrest
  have htake : (t ++ rest).take ((t ++ rest).length - rest.length) = t :=
    List.take_left' (by rw [List.length_append]; omega)
  unfold readNumber
  rw [hn, ok_bind_eq]
  dsimp only
  rw [htake]
  rfl

theorem readDocument_number (hg : Gap g) (ht : Number t) (hrest : Stops rest) :
    readDocument (fuel + 1) (g ++ (t ++ rest)) = .ok (.number t, rest) := by
  have hread := readNumber_form ht hrest
  obtain ⟨c, u, rfl, hc⟩ := ht.head
  rw [List.cons_append] at hread ⊢
  unfold readDocument
  rw [skipSpace_gap_cons hg (isSpace_of_numberHead hc)]
  split
  case h_7 => rw [hread]; rfl
  all_goals next heq => exact absurd (List.cons.inj heq).1 (ne_of_numberHead hc rfl)

theorem readDocument_array {value : Document → List Char → Prop} {items : List Document}
    (hg : Gap g) (hread : ReadsElements (readDocument fuel) value)
    (ht : ArrayForm value items t) :
    readDocument (fuel + 1) (g ++ (t ++ rest)) = .ok (.array items, rest) := by
  obtain ⟨u, rfl⟩ := ht.head
  unfold readDocument
  rw [List.cons_append, skipSpace_gap_cons hg rfl]
  exact congrArg (· >>= _) (readElements_array rest hread ht)

theorem readDocument_object {value : String × Document → List Char → Prop}
    {members : List (String × Document)} (hg : Gap g)
    (hread : ∀ {m g v rest}, Gap g → value m v → Stops rest →
      readDocument fuel (g ++ (v ++ rest)) = .ok (m.2, rest))
    (ht : ObjectForm Prod.fst value members t) :
    readDocument (fuel + 1) (g ++ (t ++ rest)) = .ok (.object members, rest) := by
  have hentry : ∀ {m ms read g v rest}, read ++ m :: ms = members → Gap g → value m v →
      Stops rest → ∃ read',
        readEntry (readDocument fuel) m.1 read (g ++ (v ++ rest)) = .ok (read', rest) ∧
          read' ++ ms = members := by
    intro m ms read g v rest hmembers hg hv hrest
    refine ⟨read ++ [m], ?_, by simpa using hmembers⟩
    unfold readEntry
    rw [hread hg hv hrest]
    rfl
  obtain ⟨read, hmap, hmembers⟩ : ∃ read,
      readMap (readEntry (readDocument fuel)) [] (t ++ rest) = .ok (read, rest) ∧
        read ++ [] = members :=
    readMap_object (P := fun ms read => read ++ ms = members) hentry gap_nil ht rfl
  rw [List.append_nil] at hmembers
  subst hmembers
  obtain ⟨u, rfl⟩ := ht.head
  unfold readDocument
  rw [List.cons_append, skipSpace_gap_cons hg rfl]
  exact congrArg (· >>= _) hmap

/-- A document is read from each of its forms. -/
theorem readDocument_form {d : Document} (hg : Gap g) (ht : Form d t) (hfuel : t.length < fuel)
    (hrest : Stops rest) : readDocument fuel (g ++ (t ++ rest)) = .ok (d, rest) := by
  -- What is inside a container is shorter than its text, so the fuel that is left is enough.
  induction fuel generalizing d g t rest with
  | zero => cases hfuel
  | succ fuel ih =>
    cases ht with
    | null =>
      unfold readDocument
      rw [List.cons_append, skipSpace_gap_cons hg rfl]
      rfl
    | @bool b _ h =>
      have hread : readBool (t ++ rest) = .ok (b, rest) := readBool_literal (g := []) gap_nil h
      cases h <;>
      · unfold readDocument
        rw [List.cons_append, skipSpace_gap_cons hg rfl]
        exact congrArg (· >>= _) hread
    | @text s _ h =>
      have hread : readText (t ++ rest) = .ok (s, rest) := readText_literal (g := []) gap_nil h
      cases h
      unfold readDocument
      rw [List.cons_append, skipSpace_gap_cons hg rfl]
      exact congrArg (· >>= _) hread
    | number h => exact readDocument_number hg h hrest
    | array h =>
      exact readDocument_array hg
        ⟨fun hv => hv.1.head, fun hv hrest => ih (g := []) gap_nil hv.1 (by omega) hrest⟩ h.shorter
    | object h hvalue =>
      exact readDocument_object hg
        (fun hg hv hrest => ih hg (hvalue _ _ hv.1) (by omega) hrest) h.shorter

end

/-- The document that a text says. -/
def parse (s : String) : Except Fault Document := do
  let (d, cs) ← readDocument (s.toList.length + 1) s.toList
  readEnd cs
  return d

/-- The text says the document, in any of its forms and with blanks around it. -/
def Document.IsText (d : Document) (s : String) : Prop :=
  ∃ g t g', Gap g ∧ Form d t ∧ Gap g' ∧ s.toList = g ++ (t ++ g')

/-- A document is what its texts are parsed to. -/
theorem parse_isText {d : Document} {s : String} (h : d.IsText s) : parse s = .ok d := by
  obtain ⟨g, t, g', hg, ht, hg', hs⟩ := h
  have hread : readDocument (s.toList.length + 1) s.toList = .ok (d, g') := by
    have hnil : Stops [] := Text.notAt_nil GoesOn
    have hstops := stops_gap hg' hnil
    rw [List.append_nil] at hstops
    rw [hs]
    refine readDocument_form hg ht ?_ hstops
    simp only [List.length_append]
    omega
  have hend : readEnd g' = .ok () := by
    have hspace := skipSpace_gap hg' []
    rw [List.append_nil] at hspace
    unfold readEnd
    rw [hspace]
    rfl
  unfold parse
  rw [hread, ok_bind_eq]
  dsimp only
  rw [hend]
  rfl

/-- No text says two things. -/
theorem Document.IsText.unique {d d' : Document} {s : String} (h : d.IsText s)
    (h' : d'.IsText s) : d = d' :=
  Except.ok.inj ((parse_isText h).symm.trans (parse_isText h'))

end SqlCompose.Json
