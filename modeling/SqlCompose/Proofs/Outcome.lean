import Mathlib.Data.List.Forall2

/-!
# Outcomes

What it takes for a computation in `Except` to succeed, step by step (`bind_eq_ok_iff`) and over a
list (`mapM_eq_ok_iff`); a list has partners if each element has one (`exists_forall₂_iff`). What it
takes to fail: the first step or the first element with a fault decides the error
(`bind_eq_error_iff`, `mapM_eq_error_iff`). A function that agrees with a known one wherever it
succeeds gives the known one's results over a list (`eq_map_of_mapM`).
-/

namespace SqlCompose

variable {ε α β : Type}

theorem bind_eq_ok_iff {x : Except ε α} {f : α → Except ε β} {b : β} :
    x >>= f = .ok b ↔ ∃ a, x = .ok a ∧ f a = .ok b := by
  cases x <;> simp [bind, Except.bind]

theorem bind_eq_error_iff {x : Except ε α} {f : α → Except ε β} {e : ε} :
    x >>= f = .error e ↔ x = .error e ∨ ∃ a, x = .ok a ∧ f a = .error e := by
  cases x <;> simp [bind, Except.bind]

theorem pure_eq_ok_iff {a b : α} : (pure a : Except ε α) = .ok b ↔ a = b := by
  simp [pure, Except.pure]

/-- A last step that cannot fail does not decide whether there is a result. -/
theorem exists_bind_pure_iff {x : Except ε α} {f : α → β} :
    (∃ b, x >>= (fun a => pure (f a)) = .ok b) ↔ ∃ a, x = .ok a := by
  simp only [bind_eq_ok_iff, pure_eq_ok_iff]
  constructor
  · rintro ⟨_, a, ha, -⟩
    exact ⟨a, ha⟩
  · rintro ⟨a, ha⟩
    exact ⟨f a, a, ha, rfl⟩

/-- A last step that cannot fail has no part in the error. -/
theorem bind_pure_eq_error_iff {x : Except ε α} {f : α → β} {e : ε} :
    x >>= (fun a => pure (f a)) = .error e ↔ x = .error e := by
  cases x <;> simp [bind, Except.bind, pure, Except.pure]

theorem ok_bind_eq (a : α) (f : α → Except ε β) : Except.ok a >>= f = f a := rfl

@[simp] theorem throw_bind_eq (e : ε) (f : α → Except ε β) : throw e >>= f = throw e := rfl

@[simp] theorem map_throw_eq (e : ε) (f : α → β) : f <$> (throw e : Except ε α) = throw e := rfl

theorem throw_eq_error_iff {e e' : ε} : (throw e : Except ε α) = .error e' ↔ e' = e := by
  constructor
  · rintro ⟨⟩
    rfl
  · rintro rfl
    rfl

/-- A check in front of a computation fails with its own error, or lets the computation decide. -/
theorem check_eq_error_iff {c : Prop} [Decidable c] {e e' : ε} {f : β → Except ε α}
    {x : Except ε α} : (if c then throw e >>= f else x) = .error e' ↔
      (c ∧ e' = e) ∨ (¬c ∧ x = .error e') := by
  by_cases hc : c <;> simp [hc, throw_eq_error_iff]

theorem mapM_eq_ok_iff {f : α → Except ε β} {as : List α} {bs : List β} :
    as.mapM f = .ok bs ↔ List.Forall₂ (fun a b => f a = .ok b) as bs := by
  induction as generalizing bs with
  | nil => cases bs <;> simp [pure_eq_ok_iff]
  | cons a as ih =>
    simp only [List.mapM_cons, bind_eq_ok_iff, pure_eq_ok_iff, ih]
    constructor
    · rintro ⟨b, hb, bs, hbs, rfl⟩
      exact .cons hb hbs
    · rintro (_ | ⟨hb, hbs⟩)
      exact ⟨_, hb, _, hbs, rfl⟩

/-- The first element of the list that has a fault has this one. -/
def FirstFault (fault : α → ε → Prop) (as : List α) (e : ε) : Prop :=
  ∃ before a after, as = before ++ a :: after ∧ (∀ b ∈ before, ∀ e, ¬fault b e) ∧ fault a e

theorem not_firstFault_nil {fault : α → ε → Prop} {e : ε} : ¬FirstFault fault [] e := by
  rintro ⟨before, a, after, h, -⟩
  cases before <;> cases h

theorem FirstFault.ne_nil {fault : α → ε → Prop} {as : List α} {e : ε} (h : FirstFault fault as e) :
    as ≠ [] := by
  rintro rfl
  exact not_firstFault_nil h

theorem firstFault_cons_iff {fault : α → ε → Prop} {a : α} {as : List α} {e : ε} :
    FirstFault fault (a :: as) e ↔ fault a e ∨ ((∀ e, ¬fault a e) ∧ FirstFault fault as e) := by
  constructor
  · rintro ⟨_ | ⟨b, before⟩, a', after, h, hbefore, hfault⟩
    · cases h
      exact .inl hfault
    · cases h
      obtain ⟨hb, hbefore⟩ := List.forall_mem_cons.1 hbefore
      exact .inr ⟨hb, before, a', after, rfl, hbefore, hfault⟩
  · rintro (hfault | ⟨ha, before, a', after, rfl, hbefore, hfault⟩)
    · exact ⟨[], a, as, rfl, List.forall_mem_nil _, hfault⟩
    · exact ⟨a :: before, a', after, rfl, List.forall_mem_cons.2 ⟨ha, hbefore⟩, hfault⟩

theorem exists_firstFault_iff {fault : α → ε → Prop} {as : List α} :
    (∃ e, FirstFault fault as e) ↔ ∃ a ∈ as, ∃ e, fault a e := by
  induction as with
  | nil => simp [not_firstFault_nil]
  | cons a as ih =>
    simp only [firstFault_cons_iff, exists_or, exists_and_left, ih, List.exists_mem_cons_iff]
    by_cases ha : ∃ e, fault a e
    · simp [ha]
    · simp [not_exists.1 ha]

/-- A computation without an error has a result. -/
theorem exists_ok_iff_of_error_iff {x : Except ε α} {p : ε → Prop}
    (h : ∀ e, x = .error e ↔ p e) : (∃ a, x = .ok a) ↔ ∀ e, ¬p e := by
  simp only [← h]
  cases x <;> simp

/-- The first element that fails decides the error of a list. -/
theorem mapM_eq_error_iff {f : α → Except ε β} {fault : α → ε → Prop}
    (hf : ∀ a e, f a = .error e ↔ fault a e) {as : List α} {e : ε} :
    as.mapM f = .error e ↔ FirstFault fault as e := by
  induction as with
  | nil => exact iff_of_false nofun not_firstFault_nil
  | cons a as ih =>
    rw [List.mapM_cons, bind_eq_error_iff, firstFault_cons_iff, hf]
    simp only [bind_pure_eq_error_iff, ih, exists_and_right, exists_ok_iff_of_error_iff (hf a)]

/-- A relation that gives each element a partner gives a list of partners. -/
theorem exists_forall₂_iff {r : α → β → Prop} {as : List α} :
    (∃ bs, List.Forall₂ r as bs) ↔ ∀ a ∈ as, ∃ b, r a b := by
  induction as with
  | nil => simp
  | cons a as ih =>
    rw [List.forall_mem_cons, ← ih]
    constructor
    · rintro ⟨_, _ | ⟨hb, hbs⟩⟩
      exact ⟨⟨_, hb⟩, _, hbs⟩
    · rintro ⟨⟨b, hb⟩, bs, hbs⟩
      exact ⟨b :: bs, .cons hb hbs⟩

theorem eq_map_of_mapM {f : α → Except ε β} {g : α → β} (hf : ∀ a b, f a = .ok b → b = g a)
    {as : List α} {bs : List β} (h : as.mapM f = .ok bs) : bs = as.map g := by
  rw [mapM_eq_ok_iff] at h
  induction h with
  | nil => rfl
  | cons hb _ ih => rw [List.map_cons, ← ih, hf _ _ hb]

end SqlCompose
