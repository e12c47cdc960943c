import SqlCompose.Proofs.Text.Quoting

/-!
# Reading literals

How a server reads a literal, character by character, in each of the two ways of writing one
(`Quoting`). What is written is read back, and the reading stops where the writing did, unless a
quote follows, which would be taken for the second half of a doubled one (`Quoting.read_write`).
Literals with commas between them are read back as a list of the same texts
(`Quoting.readList_write`, `Quoting.readBracketed_write`).
-/

namespace SqlCompose.Text

/-- The two ways to write a literal: with doubled quotes, or with backslash escapes. -/
inductive Quoting
  | doubled
  | backslashed
  deriving DecidableEq

namespace Quoting

def writeChar : Quoting → Char → List Char
  | doubled => doubledChar
  | backslashed => backslashedChar

/-- The text as a literal. -/
def write (q : Quoting) : String → String := quoteWith q.writeChar

/-- What a backslash and the character behind it are read for. The two pattern characters keep the
backslash, which is taken away where the text is used as a pattern; a character without a meaning of
its own is read for itself. -/
def escaped : Char → List Char
  | '0' => ['\x00']
  | 'b' => ['\x08']
  | 'n' => ['\n']
  | 'r' => ['\r']
  | 't' => ['\t']
  | 'Z' => ['\x1a']
  | '%' => ['\\', '%']
  | '_' => ['\\', '_']
  | c => [c]

/-- What is read, with more text in front of it. -/
def before (u : List Char) (x : Option (List Char × List Char)) : Option (List Char × List Char) :=
  x.map fun (t, rest) => (u ++ t, rest)

/-- Reads from behind the opening quote: the text of the literal and what stands behind its closing
quote. A quote that another one follows is not the closing one but a quote of the text. -/
def readOn : Quoting → List Char → Option (List Char × List Char)
  | _, [] => none
  | q, '\'' :: '\'' :: cs => before ['\''] (readOn q cs)
  | _, '\'' :: cs => some ([], cs)
  | backslashed, '\\' :: c :: cs => before (escaped c) (readOn backslashed cs)
  | q, c :: cs => before [c] (readOn q cs)

/-- Reads the literal at the start of a text: its text and what stands behind it. -/
def read (q : Quoting) : List Char → Option (String × List Char)
  | '\'' :: cs => (q.readOn cs).map fun (t, rest) => (String.ofList t, rest)
  | _ => none

/-! ## One literal -/

variable {q : Quoting}

theorem before_eq_some_iff {u t rest : List Char} {x : Option (List Char × List Char)} :
    before u x = some (t, rest) ↔ ∃ v, x = some (v, rest) ∧ t = u ++ v := by
  unfold before
  constructor
  · intro h
    obtain ⟨⟨v, r⟩, hx, he⟩ := Option.map_eq_some_iff.1 h
    obtain ⟨rfl, rfl⟩ := Prod.mk.inj he
    exact ⟨v, hx, rfl⟩
  · rintro ⟨v, rfl, rfl⟩
    rfl

/-- The closing quote ends the text, unless another quote follows. -/
theorem readOn_close {rest : List Char} (h : NotAt (· = '\'') rest) :
    q.readOn ('\'' :: rest) = some ([], rest) := by
  rw [readOn]
  intro cs hcs
  subst hcs
  exact h '\'' rfl rfl

/-- A character that is no quote and begins no escape is read for itself. -/
theorem readOn_plain {c : Char} (hc : c ≠ '\'') (he : q = backslashed → c ≠ '\\') (r : List Char) :
    q.readOn (c :: r) = before [c] (q.readOn r) := by
  rw [readOn]
  · intro cs hq _
    exact hc hq
  · exact hc
  · intro c' cs hq hb _
    exact he hq hb

/-- A character is read back from the way it is written. -/
theorem readOn_writeChar (q : Quoting) (c : Char) (r : List Char) :
    q.readOn (q.writeChar c ++ r) = before [c] (q.readOn r) := by
  cases q with
  | doubled =>
    show readOn doubled (doubledChar c ++ r) = _
    unfold doubledChar
    split
    · subst c
      rfl
    · rename_i hc
      exact readOn_plain hc (by simp) r
  | backslashed =>
    show readOn backslashed (backslashedChar c ++ r) = _
    rcases backslashedChar_cases c with ⟨hc, he⟩ | ⟨rfl, he⟩ | ⟨⟨hb, hq⟩, he⟩ <;> rw [he]
    · rcases hc with rfl | rfl | rfl <;> rfl
    · rfl
    · exact readOn_plain hq (fun _ => hb) r

theorem readOn_flatMap (cs : List Char) {rest : List Char} (h : NotAt (· = '\'') rest) :
    q.readOn (cs.flatMap q.writeChar ++ '\'' :: rest) = some (cs, rest) := by
  induction cs with
  | nil => exact readOn_close h
  | cons c cs ih =>
    rw [List.flatMap_cons, List.append_assoc, readOn_writeChar, ih]
    rfl

theorem toList_write (s : String) :
    (q.write s).toList = '\'' :: s.toList.flatMap q.writeChar ++ ['\''] := by
  simp [write, quoteWith]

/-- **A literal is read back**, and the reading stops at the text behind it. -/
theorem read_write (s : String) {rest : List Char} (h : NotAt (· = '\'') rest) :
    q.read ((q.write s).toList ++ rest) = some (s, rest) := by
  have hread : q.readOn (s.toList.flatMap q.writeChar ++ '\'' :: rest) = some (s.toList, rest) :=
    readOn_flatMap s.toList h
  rw [toList_write]
  simp [read, hread]

/-! ## Literals with commas between them -/

/-- Behind a literal there is less text than from its start on. -/
theorem length_readOn {cs t rest : List Char} (h : q.readOn cs = some (t, rest)) :
    rest.length < cs.length := by
  fun_induction readOn q cs generalizing t with
  | case1 => cases h
  | case2 q cs ih =>
    obtain ⟨v, hv, -⟩ := before_eq_some_iff.1 h
    have := ih hv
    simp only [List.length_cons]
    omega
  | case3 q cs =>
    obtain ⟨-, rfl⟩ := Prod.mk.inj (Option.some.inj h)
    simp
  | case4 c cs ih =>
    obtain ⟨v, hv, -⟩ := before_eq_some_iff.1 h
    have := ih hv
    simp only [List.length_cons]
    omega
  | case5 q c cs _ _ _ ih =>
    obtain ⟨v, hv, -⟩ := before_eq_some_iff.1 h
    have := ih hv
    simp only [List.length_cons]
    omega

theorem length_read {cs rest : List Char} {s : String} (h : q.read cs = some (s, rest)) :
    rest.length < cs.length := by
  unfold read at h
  split at h
  · rename_i cs
    obtain ⟨⟨t, r⟩, hr, he⟩ := Option.map_eq_some_iff.1 h
    obtain ⟨-, rfl⟩ := Prod.mk.inj he
    have := length_readOn hr
    simp only [List.length_cons]
    omega
  · cases h

/-- Reads literals with commas between them: their texts and what stands behind the last one. Spaces
may stand behind a comma. -/
def readList (q : Quoting) (cs : List Char) : Option (List String × List Char) :=
  match _h : q.read cs with
  | none => none
  | some (s, ',' :: more) =>
    (q.readList (more.dropWhile (· = ' '))).map fun (ss, rest) => (s :: ss, rest)
  | some (s, rest) => some ([s], rest)
termination_by cs.length
decreasing_by
  have hread := length_read _h
  have hskip := (List.dropWhile_suffix (l := more) (· = ' ')).length_le
  simp only [List.length_cons] at hread
  omega

/-- Reads a list of literals in brackets: the texts and what stands behind the closing bracket. -/
def readBracketed (q : Quoting) : List Char → Option (List String × List Char)
  | '(' :: cs =>
    match q.readList cs with
    | some (ss, ')' :: rest) => some (ss, rest)
    | _ => none
  | _ => none

theorem readList_last {cs rest : List Char} {s : String} (h : q.read cs = some (s, rest))
    (hrest : NotAt (· = ',') rest) : q.readList cs = some ([s], rest) := by
  rw [readList]
  split
  · rename_i hnone
    rw [hnone] at h
    cases h
  · rename_i s' more hcomma
    obtain ⟨-, rfl⟩ := Prod.mk.inj (Option.some.inj (h.symm.trans hcomma))
    exact absurd rfl (hrest ',' rfl)
  · rename_i s' rest' _ hsome
    obtain ⟨rfl, rfl⟩ := Prod.mk.inj (Option.some.inj (h.symm.trans hsome))
    rfl

theorem readList_comma {cs more : List Char} {s : String} (h : q.read cs = some (s, ',' :: more)) :
    q.readList cs =
      (q.readList (more.dropWhile (· = ' '))).map fun (ss, rest) => (s :: ss, rest) := by
  rw [readList]
  split
  · rename_i hnone
    rw [hnone] at h
    cases h
  · rename_i s' more' hcomma
    obtain ⟨rfl, hmore⟩ := Prod.mk.inj (Option.some.inj (h.symm.trans hcomma))
    rw [(List.cons.inj hmore).2]
  · rename_i s' rest' hne hsome
    obtain ⟨-, rfl⟩ := Prod.mk.inj (Option.some.inj (h.symm.trans hsome))
    exact absurd rfl (hne more)

/-- A comma and the spaces that may stand behind it. -/
def IsComma (separator : String) : Prop :=
  ∃ blanks, separator.toList = ',' :: blanks ∧ ∀ c ∈ blanks, c = ' '

/-- **Literals with commas between them are read back**: the same texts in the same order, up to the
text behind the last one. -/
theorem readList_write {separator : String} (hsep : IsComma separator) {ss : List String}
    (hss : ss ≠ []) {rest : List Char} (h : NotAt (· ∈ ['\'', ',']) rest) :
    q.readList ((separator.intercalate (ss.map q.write)).toList ++ rest) = some (ss, rest) := by
  obtain ⟨blanks, hcomma, hblank⟩ := hsep
  induction ss with
  | nil => exact absurd rfl hss
  | cons s ss ih =>
    cases ss with
    | nil =>
      have hread : q.read ((q.write s).toList ++ rest) = some (s, rest) :=
        read_write s fun c hc he => h c hc (by simp [he])
      simpa using readList_last hread fun c hc he => h c hc (by simp [he])
    | cons t ts =>
      have htail := ih (List.cons_ne_nil t ts)
      -- The next literal begins with a quote, so only the spaces in front of it are skipped.
      have hskip : (blanks ++ ((separator.intercalate ((t :: ts).map q.write)).toList ++
          rest)).dropWhile (· = ' ') =
            (separator.intercalate ((t :: ts).map q.write)).toList ++ rest := by
        rw [List.dropWhile_append_of_pos (by simpa using hblank), String.toList_intercalate,
          List.map_cons, List.map_cons, intercalate_cons, toList_write]
        rfl
      have hclosed : NotAt (· = '\'') (',' :: (blanks ++
          ((separator.intercalate ((t :: ts).map q.write)).toList ++ rest))) :=
        notAt_cons (by decide) _
      rw [List.map_cons, List.map_cons, String.intercalate_cons_cons, ← List.map_cons,
        String.toList_append, String.toList_append, hcomma]
      simp only [List.append_assoc, List.cons_append]
      rw [readList_comma (read_write s hclosed), hskip, htail]
      rfl

/-- **A list of literals in brackets is read back**, up to the text behind the closing bracket. -/
theorem readBracketed_write {ss : List String} (hss : ss ≠ []) (rest : List Char) :
    q.readBracketed ('(' :: ((",".intercalate (ss.map q.write)).toList ++ ')' :: rest)) =
      some (ss, rest) := by
  have hcomma : IsComma "," := ⟨[], rfl, by simp⟩
  have hclosed : NotAt (· ∈ ['\'', ',']) (')' :: rest) := notAt_cons (by decide) _
  rw [readBracketed, readList_write hcomma hss hclosed]
  rfl

end Quoting

end SqlCompose.Text
