import SqlCompose.Proofs.Query.Alignment
import SqlCompose.Proofs.Text.Boundary

/-!
# A condition is told from its text and its bindings

Two conditions have one text and one list of bindings exactly if they agree predicate by predicate
(`Condition.Agree`, `statement_eq_iff`). A written predicate is a word and a question behind it
(`Predicate.toList_layout`): the word ends at the first space, and a question ends where a reader
sees it, whatever stands behind it (`Question.append_inj`). The question tells how many values its
predicate takes, so there is one way to share out the bindings (`agree_of_alike`).
-/

namespace SqlCompose

/-! ## Agreement -/

/-- Agreement of two tests, up to the spelling of an operator. -/
inductive Test.Agree : Test → Test → Prop
  | compare {operator operator' : String} {c : Comparison} (value : Value) :
      Comparison.parse? operator = some c → Comparison.parse? operator' = some c →
      Agree (.compare operator value) (.compare operator' value)
  | among (values : List Value) (negated : Bool) :
      Agree (.among values negated) (.among values negated)
  | missing (negated : Bool) : Agree (.missing negated) (.missing negated)

/-- Agreement of two predicates, up to the column of a membership test without values. -/
structure Predicate.Agree (p q : Predicate) : Prop where
  test : p.test.Agree q.test
  column : (∀ negated, p.test ≠ .among [] negated) → p.column = q.column

/-- Agreement of two conditions, up to the connective of the first predicate. -/
structure Condition.Agree (ps qs : Condition) : Prop where
  predicates : List.Forall₂ Predicate.Agree ps qs
  connectives : ps.tail.map Predicate.connective = qs.tail.map Predicate.connective

/-! ## Questions -/

/-- What a written predicate asks of the word in front of it. -/
inductive Question
  | compare (c : Comparison)
  | among (count : Nat) (negated : Bool)
  /-- The comparison with a number of the compiler, to which nothing is bound. -/
  | constant
  | missing (negated : Bool)

namespace Question

/-- How many values the question takes. -/
def count : Question → Nat
  | compare _ => 1
  | among count _ => count
  | constant | missing _ => 0

def chars : Question → List Char
  | compare c => c.sql.toList ++ [' ', '?']
  | among count negated =>
    (if negated then "NOT IN (" else "IN (").toList ++
      ((Layout.placeholders "," count).sql.toList ++ [')'])
  | constant => "= 1".toList
  | missing negated => (if negated then "IS NOT NULL" else "IS NULL").toList

theorem questionMarks_placeholders (count : Nat) :
    questionMarks (Layout.placeholders "," count).sql = count := by
  rw [Layout.questionMarks_sql (Layout.plain_placeholders (by decide) count),
    Layout.marks_placeholders, Layout.copied_placeholders]
  rfl

theorem bracket_not_mem_placeholders (count : Nat) :
    ∀ c ∈ (Layout.placeholders "," count).sql.toList, c ≠ ')' := by
  rw [Layout.placeholders, Layout.sql_separated, String.toList_intercalate]
  cases count with
  | zero => simp
  | succ count =>
    rw [List.replicate_succ, List.map_cons, List.map_cons, Text.intercalate_cons]
    simp only [Layout.sql_cons, Span.sql, Layout.sql_nil, List.map_replicate]
    intro c hc
    grind

/-- A list of placeholders ends at its bracket. -/
theorem placeholders_append_inj {m n : Nat} {r s : List Char}
    (h : (Layout.placeholders "," m).sql.toList ++ ')' :: r =
      (Layout.placeholders "," n).sql.toList ++ ')' :: s) : m = n ∧ r = s := by
  have hend : ∀ t, Text.NotAt (· ≠ ')') (')' :: t) := Text.notAt_cons (by simp)
  obtain ⟨hmarks, hrest⟩ := Text.run_append_inj (bracket_not_mem_placeholders m)
    (bracket_not_mem_placeholders n) (hend r) (hend s) h
  refine ⟨?_, (List.cons.inj hrest).2⟩
  rw [← questionMarks_placeholders m, String.toList_injective hmarks, questionMarks_placeholders]

/-- A question ends where a reader sees it. -/
theorem append_inj {a b : Question} {r s : List Char} (h : a.chars ++ r = b.chars ++ s) :
    a = b ∧ r = s := by
  cases a with
  | compare c =>
    cases b with
    | compare c' => cases c <;> cases c' <;> simp_all [chars, Comparison.sql]
    | among count negated => cases c <;> cases negated <;> simp [chars, Comparison.sql] at h
    | constant => cases c <;> simp [chars, Comparison.sql] at h
    | missing negated => cases c <;> cases negated <;> simp [chars, Comparison.sql] at h
  | among count negated =>
    cases b with
    | compare c => cases c <;> cases negated <;> simp [chars, Comparison.sql] at h
    | among count' negated' =>
      obtain rfl : negated = negated' := by
        cases negated <;> cases negated' <;> simp [chars] at h ⊢
      simp only [chars, List.append_assoc, List.append_cancel_left_eq, List.cons_append,
        List.nil_append] at h
      obtain ⟨rfl, hrest⟩ := placeholders_append_inj h
      exact ⟨rfl, hrest⟩
    | constant => cases negated <;> simp [chars] at h
    | missing negated' => cases negated <;> cases negated' <;> simp [chars] at h
  | constant =>
    cases b with
    | compare c => cases c <;> simp [chars, Comparison.sql] at h
    | among count negated => cases negated <;> simp [chars] at h
    | constant => exact ⟨rfl, List.append_cancel_left h⟩
    | missing negated => cases negated <;> simp [chars] at h
  | missing negated =>
    cases b with
    | compare c => cases c <;> cases negated <;> simp [chars, Comparison.sql] at h
    | among count negated' => cases negated <;> cases negated' <;> simp [chars] at h
    | constant => cases negated <;> simp [chars] at h
    | missing negated' => cases negated <;> cases negated' <;> simp_all [chars]

end Question

/-! ## Predicates -/

/-- The question that a test asks. -/
inductive Test.Asks : Test → Question → Prop
  | compare {operator : String} {c : Comparison} (value : Value) :
      Comparison.parse? operator = some c → Asks (.compare operator value) (.compare c)
  | among {values : List Value} {count : Nat} (negated : Bool) :
      values ≠ [] → values.length = count → Asks (.among values negated) (.among count negated)
  | constant (negated : Bool) : Asks (.among [] negated) .constant
  | missing (negated : Bool) : Asks (.missing negated) (.missing negated)

namespace Predicate

/-- The predicate has a statement. -/
def Compiles (p : Predicate) : Prop := ∃ s, p.statement = .ok s

/-- The predicate has a statement, and its column is one word. -/
def Legible (p : Predicate) : Prop := p.Compiles ∧ Text.Avoids [' '] p.column

/-- The word in front of the question: the column, or a number of the compiler. -/
def subject (p : Predicate) : String :=
  match p.test with
  | .among [] negated => if negated then "1" else "0"
  | _ => p.column

/-- The predicates have one subject and one question. -/
def Alike (p q : Predicate) : Prop :=
  p.subject = q.subject ∧ ∃ x, p.test.Asks x ∧ q.test.Asks x

variable {p q : Predicate}

theorem exists_parse {column operator : String} {value : Value} {connective : Connective}
    (h : Compiles ⟨column, .compare operator value, connective⟩) :
    ∃ c, Comparison.parse? operator = some c := by
  obtain ⟨s, hs⟩ := h
  obtain ⟨-, -, hs⟩ := bind_eq_ok_iff.1 hs
  obtain ⟨c, hc, -⟩ := bind_eq_ok_iff.1 hs
  unfold Comparison.parse at hc
  split at hc
  · exact ⟨_, ‹_›⟩
  · cases hc

/-- A predicate is written as its subject and its question. -/
theorem toList_layout (h : p.Compiles) : ∃ x, p.test.Asks x ∧
    p.layout.sql.toList = p.subject.toList ++ ' ' :: x.chars := by
  obtain ⟨column, test, connective⟩ := p
  cases test with
  | compare operator value =>
    obtain ⟨c, hc⟩ := exists_parse h
    refine ⟨_, .compare value hc, ?_⟩
    simp [layout, subject, Question.chars, Comparison.word, hc, Span.sql]
  | among values negated =>
    cases values with
    | nil =>
      refine ⟨_, .constant negated, ?_⟩
      cases negated <;> simp [layout, subject, Question.chars, Span.sql]
    | cons v vs =>
      refine ⟨_, .among negated (List.cons_ne_nil v vs) rfl, ?_⟩
      cases negated <;> simp [layout, subject, Question.chars, Span.sql]
  | missing negated =>
    refine ⟨_, .missing negated, ?_⟩
    cases negated <;> simp [layout, subject, Question.chars, Span.sql]

theorem avoids_subject (h : Text.Avoids [' '] p.column) : Text.Avoids [' '] p.subject := by
  unfold subject
  split
  · rename_i negated _
    cases negated <;> decide
  · exact h

/-- A predicate ends where a reader sees it. -/
theorem layout_append_inj (hp : p.Legible) (hq : q.Legible) {r s : List Char}
    (h : p.layout.sql.toList ++ r = q.layout.sql.toList ++ s) : p.Alike q ∧ r = s := by
  obtain ⟨x, hx, hpText⟩ := toList_layout hp.1
  obtain ⟨y, hy, hqText⟩ := toList_layout hq.1
  have hspace : ∀ t, Text.NotAt (· ∉ [' ']) (' ' :: t) := Text.notAt_cons (by decide)
  rw [hpText, hqText, List.append_assoc, List.append_assoc] at h
  obtain ⟨hsubject, htail⟩ := Text.Avoids.append_inj (avoids_subject hp.2) (avoids_subject hq.2)
    (hspace _) (hspace _) h
  obtain ⟨rfl, hrest⟩ := Question.append_inj (List.cons.inj htail).2
  exact ⟨⟨hsubject, x, hx, hy⟩, hrest⟩

theorem length_values {x : Question} (h : p.test.Asks x) : p.values.length = x.count := by
  obtain ⟨column, test, connective⟩ := p
  cases h with
  | compare | constant | missing => rfl
  | among negated hne hlength => exact hlength

/-- Predicates that are written alike take equally many values. -/
theorem Alike.length_values (h : p.Alike q) : p.values.length = q.values.length := by
  obtain ⟨-, x, hp, hq⟩ := h
  rw [Predicate.length_values hp, Predicate.length_values hq]

/-- Predicates that are written alike agree if they take the same values. -/
theorem Alike.agree (h : p.Alike q) (hv : p.values = q.values) : p.Agree q := by
  obtain ⟨hsubject, x, hp, hq⟩ := h
  obtain ⟨column, test, connective⟩ := p
  obtain ⟨column', test', connective'⟩ := q
  cases hp with
  | compare value hc =>
    cases hq with
    | compare value' hc' =>
      obtain rfl : value = value' := (List.cons.inj hv).1
      exact ⟨.compare value hc hc', fun _ => hsubject⟩
  | @among values count negated hne hlength =>
    cases hq with
    | among _ hne' hlength' =>
      obtain rfl : values = _ := hv
      exact ⟨.among values negated, fun _ => by simpa [subject, hne] using hsubject⟩
  | constant negated =>
    cases hq with
    | constant negated' =>
      obtain rfl : negated = negated' := by
        cases negated <;> cases negated' <;> simp_all [subject]
      exact ⟨.among [] negated, fun h => absurd rfl (h negated)⟩
  | missing negated =>
    cases hq with
    | missing => exact ⟨.missing negated, fun _ => hsubject⟩

/-- Predicates that agree have one text and the same values. -/
theorem Agree.view_eq (h : p.Agree q) : p.layout.sql = q.layout.sql ∧ p.values = q.values := by
  obtain ⟨htest, hcolumn⟩ := h
  obtain ⟨column, test, connective⟩ := p
  obtain ⟨column', test', connective'⟩ := q
  cases htest with
  | compare value hc hc' =>
    obtain rfl : column = column' := hcolumn (by simp)
    exact ⟨by simp [layout, Comparison.word, hc, hc'], rfl⟩
  | among values negated =>
    cases values with
    | nil => exact ⟨rfl, rfl⟩
    | cons v vs =>
      obtain rfl : column = column' := hcolumn (by simp)
      exact ⟨rfl, rfl⟩
  | missing negated =>
    obtain rfl : column = column' := hcolumn (by simp)
    exact ⟨rfl, rfl⟩

end Predicate

/-! ## Conditions -/

namespace Condition

variable {ps qs : Condition}

theorem compiles_of_following {s : Statement} (h : following ps = .ok s) :
    ∀ p ∈ ps, p.Compiles := by
  induction ps generalizing s with
  | nil => simp
  | cons p ps ih =>
    obtain ⟨t, ht, h⟩ := bind_eq_ok_iff.1 h
    obtain ⟨rest, hrest, -⟩ := bind_eq_ok_iff.1 h
    exact List.forall_mem_cons.2 ⟨⟨t, ht⟩, ih hrest⟩

theorem compiles_of_statement {s : Statement} (h : statement ps = .ok s) :
    ∀ p ∈ ps, p.Compiles := by
  cases ps with
  | nil => simp
  | cons p ps =>
    obtain ⟨t, ht, h⟩ := bind_eq_ok_iff.1 h
    obtain ⟨rest, hrest, -⟩ := bind_eq_ok_iff.1 h
    exact List.forall_mem_cons.2 ⟨⟨t, ht⟩, compiles_of_following hrest⟩

/-- A predicate behind its connective. -/
def linkChars (p : Predicate) : List Char :=
  ' ' :: (p.connective.sql.toList ++ ' ' :: p.layout.sql.toList)

theorem toList_layout_cons (p : Predicate) (ps : Condition) :
    (layout (p :: ps)).sql.toList = p.layout.sql.toList ++ ps.flatMap linkChars := by
  have hfollowing : (followingLayout ps).sql.toList = ps.flatMap linkChars := by
    rw [followingLayout, Layout.sql_flatMap, String.toList_join, List.flatMap_map]
    exact List.flatMap_congr fun p _ => by simp [linkChars, Span.sql]
  rw [layout_cons, Layout.sql_append, String.toList_append, hfollowing]

theorem linkChars_append_inj {p q : Predicate} (hp : p.Legible) (hq : q.Legible) {r s : List Char}
    (h : linkChars p ++ r = linkChars q ++ s) :
    (p.Alike q ∧ p.connective = q.connective) ∧ r = s := by
  have htail : p.connective.sql.toList ++ ' ' :: (p.layout.sql.toList ++ r) =
      q.connective.sql.toList ++ ' ' :: (q.layout.sql.toList ++ s) := by
    simpa [linkChars] using h
  obtain ⟨hconnective, hlayout⟩ : p.connective = q.connective ∧
      p.layout.sql.toList ++ r = q.layout.sql.toList ++ s := by
    cases hk : p.connective <;> cases hl : q.connective <;> simp_all [Connective.sql]
  obtain ⟨halike, hrest⟩ := Predicate.layout_append_inj hp hq hlayout
  exact ⟨⟨halike, hconnective⟩, hrest⟩

/-- The text tells the subjects, the questions and the connectives. -/
theorem alike_of_layout (hps : ∀ p ∈ ps, p.Legible) (hqs : ∀ q ∈ qs, q.Legible)
    (h : (layout ps).sql = (layout qs).sql) : List.Forall₂ Predicate.Alike ps qs ∧
      ps.tail.map Predicate.connective = qs.tail.map Predicate.connective := by
  have hne : ∀ {p : Predicate} {ps : Condition}, p.Legible → (layout (p :: ps)).sql ≠ "" := by
    intro p ps hp hEmpty
    obtain ⟨x, -, hText⟩ := Predicate.toList_layout hp.1
    have hLength := congrArg (List.length ∘ String.toList) hEmpty
    simp [toList_layout_cons, hText] at hLength
  have hlink : ∀ {p : Predicate} {r s : List Char}, p.Legible → s = [] → linkChars p ++ r ≠ s := by
    rintro p r s - rfl
    exact List.cons_ne_nil _ _
  cases ps with
  | nil =>
    cases qs with
    | nil => exact ⟨.nil, rfl⟩
    | cons q qs => exact absurd h.symm (hne (hqs q List.mem_cons_self))
  | cons p ps =>
    cases qs with
    | nil => exact absurd h (hne (hps p List.mem_cons_self))
    | cons q qs =>
      obtain ⟨hp, hps⟩ := List.forall_mem_cons.1 hps
      obtain ⟨hq, hqs⟩ := List.forall_mem_cons.1 hqs
      have hText := congrArg String.toList h
      rw [toList_layout_cons, toList_layout_cons] at hText
      obtain ⟨hpq, hTail⟩ := Predicate.layout_append_inj hp hq hText
      have hTail : ps.flatMap linkChars ++ [] = qs.flatMap linkChars ++ [] := by rw [hTail]
      have hLinks := (Text.flatMap_append_inj Predicate.Legible (fun _ => True) (· = [])
        (fun hp hq _ _ => linkChars_append_inj hp hq) (fun _ _ => trivial) (fun _ => trivial)
        hlink hps hqs hTail rfl rfl).1
      refine ⟨.cons hpq (hLinks.imp fun _ _ => And.left), ?_⟩
      show ps.map Predicate.connective = qs.map Predicate.connective
      rw [← List.forall₂_eq_eq_eq, List.forall₂_map_left_iff, List.forall₂_map_right_iff]
      exact hLinks.imp fun _ _ => And.right

/-- There is one way to share out the bindings among predicates that are written alike. -/
theorem agree_of_alike (h : List.Forall₂ Predicate.Alike ps qs)
    (hv : ps.flatMap Predicate.values = qs.flatMap Predicate.values) :
    List.Forall₂ Predicate.Agree ps qs := by
  induction h with
  | nil => exact .nil
  | cons hpq _ ih =>
    rw [List.flatMap_cons, List.flatMap_cons] at hv
    obtain ⟨hHead, hTail⟩ := List.append_inj hv hpq.length_values
    exact .cons (hpq.agree hHead) (ih hTail)

theorem view_eq_of_agree (h : List.Forall₂ Predicate.Agree ps qs)
    (hk : ps.map Predicate.connective = qs.map Predicate.connective) :
    ps.flatMap linkChars = qs.flatMap linkChars ∧
      ps.flatMap Predicate.values = qs.flatMap Predicate.values := by
  induction h with
  | nil => exact ⟨rfl, rfl⟩
  | @cons p q ps qs hpq _ ih =>
    obtain ⟨hText, hValues⟩ := hpq.view_eq
    obtain ⟨hConnective, hk⟩ := List.cons.inj hk
    obtain ⟨hLinks, hRest⟩ := ih hk
    have hLink : linkChars p = linkChars q := by rw [linkChars, linkChars, hConnective, hText]
    simp only [List.flatMap_cons, hLink, hLinks, hValues, hRest, and_self]

/-- Conditions that agree have one text and the same values. -/
theorem Agree.view_eq (h : ps.Agree qs) : (layout ps).sql = (layout qs).sql ∧
    ps.flatMap Predicate.values = qs.flatMap Predicate.values := by
  obtain ⟨hpredicates, hconnectives⟩ := h
  cases hpredicates with
  | nil => exact ⟨rfl, rfl⟩
  | cons hpq hrest =>
    obtain ⟨hText, hValues⟩ := hpq.view_eq
    obtain ⟨hLinks, hRest⟩ := view_eq_of_agree hrest hconnectives
    refine ⟨String.toList_injective ?_, ?_⟩
    · rw [toList_layout_cons, toList_layout_cons, hText, hLinks]
    · rw [List.flatMap_cons, List.flatMap_cons, hValues, hRest]

/-- **A condition is told from its text and its bindings.** Two conditions whose columns have no
spaces have one text and one list of bindings if and only if they agree. -/
theorem statement_eq_iff {s t : Statement} (hps : ∀ p ∈ ps, Text.Avoids [' '] p.column)
    (hqs : ∀ q ∈ qs, Text.Avoids [' '] q.column) (hs : statement ps = .ok s)
    (ht : statement qs = .ok t) : s.sql = t.sql ∧ s.params = t.params ↔ ps.Agree qs := by
  obtain ⟨hsSql, hsParams⟩ := view_statement hs
  obtain ⟨htSql, htParams⟩ := view_statement ht
  rw [hsSql, hsParams, htSql, htParams]
  constructor
  · rintro ⟨hSql, hParams⟩
    obtain ⟨halike, hconnectives⟩ := alike_of_layout
      (fun p hp => ⟨compiles_of_statement hs p hp, hps p hp⟩)
      (fun q hq => ⟨compiles_of_statement ht q hq, hqs q hq⟩) hSql
    exact ⟨agree_of_alike halike hParams, hconnectives⟩
  · exact Agree.view_eq

/-- A condition whose text is full of what could be mistaken for another. -/
def trickyCondition (connective : Connective) (operator unwritten : String) : Condition :=
  [⟨"0", .compare operator (.text "= 1"), connective⟩, ⟨unwritten, .among [] false, .or⟩,
    ⟨"NOT", .among [.null, .int 2] true, .and⟩, ⟨"?", .missing true, .or⟩]

/-- Two spellings, two first connectives and two columns that are not written. -/
theorem trickyCondition_agree :
    let ps := trickyCondition .and "not like" "id"
    let qs := trickyCondition .or "\tNOT  Like" "deleted_at"
    let text := "0 NOT LIKE ? OR 0 = 1 AND NOT NOT IN (?,?) OR ? IS NOT NULL"
    (∀ p ∈ ps, Text.Avoids [' '] p.column) ∧ (∀ q ∈ qs, Text.Avoids [' '] q.column) ∧
      ∃ s t, statement ps = .ok s ∧ statement qs = .ok t ∧ s.sql = text ∧ t.sql = text ∧
        s.params = [.text "= 1", .null, .int 2] ∧ t.params = s.params ∧ ps.Agree qs := by
  have hps : ∀ p ∈ trickyCondition .and "not like" "id", Text.Avoids [' '] p.column := by
    decide +kernel
  have hqs : ∀ q ∈ trickyCondition .or "\tNOT  Like" "deleted_at", Text.Avoids [' '] q.column := by
    decide +kernel
  refine ⟨hps, hqs, _, _, rfl, rfl, by decide +kernel, by decide +kernel, rfl, rfl, ?_⟩
  exact (statement_eq_iff hps hqs rfl rfl).1 ⟨by decide +kernel, rfl⟩

end Condition

end SqlCompose
