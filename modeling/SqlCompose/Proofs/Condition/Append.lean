import SqlCompose.Predicate
import SqlCompose.Proofs.Outcome

/-!
# Appended predicates leave the others as they are

A condition is compiled piecewise: a concatenation has the statements of its two parts with one
connective between them, or the first error of a part (`following_append`, `statement_append`). A
compiled condition thus consists of its predicates, each written on its own, and one connective
between neighbours (`statement_eq_ok_iff`). The main theorem is `append_undisturbed`.
-/

namespace SqlCompose.Condition

/-- The first statement, and behind it the others, each after its connective. -/
def linked : List (Connective × Statement) → Statement
  | [] => []
  | (_, s) :: parts => s ++ parts.flatMap fun (k, t) => .text (" " ++ k.sql ++ " ") :: t

/-- The predicates written on their own, each with its connective. -/
def Written (ps : Condition) (parts : List (Connective × Statement)) : Prop :=
  List.Forall₂ (fun p part => part.1 = p.connective ∧ p.statement = .ok part.2) ps parts

variable {ps qs : Condition} {p q : Predicate} {s t : Statement} {e : CompileError}

theorem following_append (ps qs : Condition) :
    following (ps ++ qs) = do
      let s ← following ps
      let t ← following qs
      return s ++ t := by
  induction ps with
  | nil => simp [following]
  | cons p ps ih => simp [following, ih]

/-- Behind a condition the first predicate of another needs its connective. -/
theorem statement_append (hps : ps ≠ []) (q : Predicate) (qs : Condition) :
    statement (ps ++ q :: qs) = do
      let s ← statement ps
      let t ← statement (q :: qs)
      return s ++ .text (" " ++ q.connective.sql ++ " ") :: t := by
  cases ps with
  | nil => exact absurd rfl hps
  | cons p ps => simp [statement, following_append, following]

theorem statement_append_of_error (h : statement ps = .error e) (qs : Condition) :
    statement (ps ++ qs) = .error e := by
  cases ps with
  | nil => cases h
  | cons p ps =>
    cases qs with
    | nil => rwa [List.append_nil]
    | cons q qs =>
      rw [statement_append (List.cons_ne_nil p ps), h]
      rfl

theorem statement_append_error (hs : statement ps = .ok s) (h : statement qs = .error e) :
    statement (ps ++ qs) = .error e := by
  cases qs with
  | nil => cases h
  | cons q qs =>
    cases ps with
    | nil => exact h
    | cons p ps =>
      rw [statement_append (List.cons_ne_nil p ps), hs, h]
      rfl

theorem statement_append_ok (hps : ps ≠ []) (hs : statement ps = .ok s)
    (ht : statement (q :: qs) = .ok t) :
    statement (ps ++ q :: qs) = .ok (s ++ .text (" " ++ q.connective.sql ++ " ") :: t) := by
  rw [statement_append hps, hs, ht]
  rfl

theorem following_eq_ok_iff : following ps = .ok s ↔
    ∃ parts, Written ps parts ∧
      s = parts.flatMap fun (k, t) => .text (" " ++ k.sql ++ " ") :: t := by
  induction ps generalizing s with
  | nil =>
    rw [following, pure_eq_ok_iff]
    constructor
    · rintro rfl
      exact ⟨[], .nil, rfl⟩
    · rintro ⟨_, _ | _, rfl⟩
      rfl
  | cons p ps ih =>
    simp only [following, bind_eq_ok_iff, pure_eq_ok_iff, ih]
    constructor
    · rintro ⟨t, ht, _, ⟨parts, hParts, rfl⟩, rfl⟩
      exact ⟨(p.connective, t) :: parts, .cons ⟨rfl, ht⟩ hParts, rfl⟩
    · rintro ⟨_, _ | @⟨_, ⟨k, t⟩, _, parts, ⟨hk, ht⟩, hParts⟩, rfl⟩
      subst hk
      exact ⟨t, ht, _, ⟨parts, hParts, rfl⟩, rfl⟩

/-- A compiled condition is its predicates with one connective between neighbours. -/
theorem statement_eq_ok_iff :
    statement ps = .ok s ↔ ∃ parts, Written ps parts ∧ s = linked parts := by
  cases ps with
  | nil =>
    rw [statement, pure_eq_ok_iff]
    constructor
    · rintro rfl
      exact ⟨[], .nil, rfl⟩
    · rintro ⟨_, _ | _, rfl⟩
      rfl
  | cons p ps =>
    simp only [statement, bind_eq_ok_iff, pure_eq_ok_iff, following_eq_ok_iff]
    constructor
    · rintro ⟨t, ht, _, ⟨parts, hParts, rfl⟩, rfl⟩
      exact ⟨(p.connective, t) :: parts, .cons ⟨rfl, ht⟩ hParts, rfl⟩
    · rintro ⟨_, _ | @⟨_, ⟨k, t⟩, _, parts, ⟨-, ht⟩, hParts⟩, rfl⟩
      exact ⟨t, ht, _, ⟨parts, hParts, rfl⟩, rfl⟩

/-- **Appended predicates leave the others as they are.** A concatenation fails with the error of
the first part that fails; otherwise it is the two parts with the connective of the second between
them and the bindings of both. So a condition is its predicates with one connective between
neighbours, and that of the first is not written. -/
theorem append_undisturbed (ps qs : Condition) :
    (∀ e, statement ps = .error e → statement (ps ++ qs) = .error e) ∧
    (∀ s e, statement ps = .ok s → statement qs = .error e →
      statement (ps ++ qs) = .error e) ∧
    (∀ q rest s t, ps ≠ [] → qs = q :: rest → statement ps = .ok s → statement qs = .ok t →
      ∃ u, statement (ps ++ qs) = .ok u ∧
        u.sql = s.sql ++ " " ++ q.connective.sql ++ " " ++ t.sql ∧
        u.params = s.params ++ t.params) ∧
    (ps = [] → statement (ps ++ qs) = statement qs) ∧
    (qs = [] → statement (ps ++ qs) = statement ps) ∧
    (∀ s, statement ps = .ok s → ∃ parts, Written ps parts ∧ s = linked parts) ∧
    ∀ p rest k, ps = p :: rest →
      statement ({ p with connective := k } :: rest) = statement ps := by
  refine ⟨fun e h => statement_append_of_error h qs, fun s e => statement_append_error, ?_, ?_, ?_,
    fun s => statement_eq_ok_iff.1, ?_⟩
  · rintro q rest s t hps rfl hs ht
    exact ⟨_, statement_append_ok hps hs ht, by simp [String.append_assoc], by simp⟩
  · rintro rfl
    rfl
  · rintro rfl
    rw [List.append_nil]
  · rintro p rest k rfl
    rfl

/-- Two predicates; the operator and the connective of the second are given. -/
def pairCondition (operator : String) (connective : Connective) : Condition :=
  [⟨"a", .missing false, .or⟩, ⟨"b", .compare operator (.int 1), connective⟩]

/-- Conditions behind each other, sound and not. -/
theorem pairCondition_append :
    statement (pairCondition "~" .and ++ pairCondition "~~" .or) =
        .error (.invalidOperator "~") ∧
      statement (pairCondition "=" .and ++ pairCondition "~~" .or) =
        .error (.invalidOperator "~~") ∧
      (∃ u, statement (pairCondition "=" .and ++ pairCondition "<" .or) = .ok u ∧
        u.sql = "a IS NULL AND b = ? OR a IS NULL OR b < ?" ∧ u.params = [.int 1, .int 1]) ∧
      statement (pairCondition "=" .and ++ []) = statement (pairCondition "=" .and) ∧
      (∃ s parts, statement (pairCondition "=" .and) = .ok s ∧
        Written (pairCondition "=" .and) parts ∧ s = linked parts) := by
  obtain ⟨hFirst, -⟩ := append_undisturbed (pairCondition "~" .and) (pairCondition "~~" .or)
  obtain ⟨-, hSecond, -⟩ := append_undisturbed (pairCondition "=" .and) (pairCondition "~~" .or)
  obtain ⟨-, -, hBoth, -⟩ := append_undisturbed (pairCondition "=" .and) (pairCondition "<" .or)
  obtain ⟨-, -, -, -, hNil, hParts, -⟩ := append_undisturbed (pairCondition "=" .and) []
  obtain ⟨u, hu, hSql, hParams⟩ := hBoth _ _ _ _ (List.cons_ne_nil _ _) rfl rfl rfl
  obtain ⟨parts, hWritten, hLinked⟩ := hParts _ rfl
  refine ⟨hFirst _ rfl, hSecond _ _ rfl rfl, ⟨u, hu, ?_, hParams⟩, hNil rfl,
    _, parts, rfl, hWritten, hLinked⟩
  rw [hSql]
  decide +kernel

end SqlCompose.Condition
