import Mathlib.Data.List.Forall2

/-!
# Where a written item ends

Lemmas of one form: two items written in front of two texts, with the same outcome, are the same
item in front of the same text. A run of a class of characters ends at the first character outside
the class (`run_append_inj`), so a text ends where a character stands that it avoids
(`Avoids.append_inj`), and a number where its digits do (`toDigits_append_inj`); a text without a
mark ends where the mark first stands (`mark_append_inj`), and a list where no further item begins
(`flatMap_append_inj`).
-/

namespace SqlCompose.Text

/-- The text does not begin with a character of the class. -/
def NotAt (p : Char → Prop) (rest : List Char) : Prop := ∀ c ∈ rest.head?, ¬p c

theorem notAt_nil (p : Char → Prop) : NotAt p [] := by
  intro c hc
  cases hc

theorem notAt_cons {p : Char → Prop} {c : Char} (h : ¬p c) (rest : List Char) :
    NotAt p (c :: rest) := by
  intro c' hc
  obtain rfl : c = c' := by simpa using hc
  exact h

/-- The text begins with the character. -/
def At (c : Char) (rest : List Char) : Prop := ∃ t, rest = c :: t

theorem at_cons (c : Char) (rest : List Char) : At c (c :: rest) := ⟨rest, rfl⟩

/-- A run of a class of characters ends where the class does. -/
theorem run_append_inj {p : Char → Prop} {u v r s : List Char} (hu : ∀ c ∈ u, p c)
    (hv : ∀ c ∈ v, p c) (hr : NotAt p r) (hs : NotAt p s) (h : u ++ r = v ++ s) :
    u = v ∧ r = s := by
  induction u generalizing v with
  | nil =>
    cases v with
    | nil => exact ⟨rfl, h⟩
    | cons c v =>
      have hc : c ∈ r.head? := by rw [← List.nil_append r, h]; rfl
      exact absurd (hv c List.mem_cons_self) (hr c hc)
  | cons c u ih =>
    cases v with
    | nil =>
      have hc : c ∈ s.head? := by rw [← List.nil_append s, ← h]; rfl
      exact absurd (hu c List.mem_cons_self) (hs c hc)
    | cons c' v =>
      obtain ⟨hc, htail⟩ := List.cons.inj h
      obtain ⟨huv, hrest⟩ := ih (fun x hx => hu x (List.mem_cons_of_mem _ hx))
        (fun x hx => hv x (List.mem_cons_of_mem _ hx)) htail
      exact ⟨by rw [hc, huv], hrest⟩

/-- None of the characters occurs in the text. -/
def Avoids (cs : List Char) (s : String) : Prop := ∀ c ∈ s.toList, c ∉ cs

instance (cs : List Char) : DecidablePred (Avoids cs) := fun s =>
  decidable_of_iff (s.toList.all fun c => !cs.contains c) (by simp [Avoids])

theorem Avoids.mono {cs cs' : List Char} (h : cs ⊆ cs') {s : String} (hs : Avoids cs' s) :
    Avoids cs s := fun c hc hmem => hs c hc (h hmem)

theorem Avoids.append {cs : List Char} {s t : String} (hs : Avoids cs s) (ht : Avoids cs t) :
    Avoids cs (s ++ t) := by
  intro c hc
  rw [String.toList_append, List.mem_append] at hc
  exact hc.elim (hs c) (ht c)

/-- A text ends at the first of the characters that do not occur in it. -/
theorem Avoids.append_inj {cs : List Char} {u v : String} (hu : Avoids cs u) (hv : Avoids cs v)
    {r s : List Char} (hr : NotAt (· ∉ cs) r) (hs : NotAt (· ∉ cs) s)
    (h : u.toList ++ r = v.toList ++ s) : u = v ∧ r = s := by
  obtain ⟨huv, hrest⟩ := run_append_inj hu hv hr hs h
  exact ⟨String.toList_injective huv, hrest⟩

/-! ## Numbers -/

theorem isDigit_of_mem_toDigits {n : Nat} : ∀ c ∈ Nat.toDigits 10 n, c.isDigit = true := fun _ =>
  Nat.isDigit_of_mem_toDigits (by decide) (by decide)

/-- A number ends where its digits do. -/
theorem toDigits_append_inj {n m : Nat} {r s : List Char} (hr : NotAt (·.isDigit = true) r)
    (hs : NotAt (·.isDigit = true) s) (h : Nat.toDigits 10 n ++ r = Nat.toDigits 10 m ++ s) :
    n = m ∧ r = s := by
  obtain ⟨hd, hrest⟩ := run_append_inj isDigit_of_mem_toDigits isDigit_of_mem_toDigits hr hs h
  refine ⟨?_, hrest⟩
  rw [← Nat.ofDigitChars_toDigits (b := 10) (n := n) (by decide) (by decide), hd,
    Nat.ofDigitChars_toDigits (by decide) (by decide)]

/-- A number begins with a digit. -/
theorem toDigits_append_ne {n : Nat} {r s : List Char} (hs : NotAt (·.isDigit = true) s) :
    Nat.toDigits 10 n ++ r ≠ s := by
  rintro rfl
  obtain ⟨c, cs, hc⟩ := List.exists_cons_of_ne_nil (Nat.toDigits_ne_nil (n := n) (b := 10))
  have hmem : c ∈ Nat.toDigits 10 n := hc ▸ List.mem_cons_self
  exact hs c (by simp [hc]) (isDigit_of_mem_toDigits c hmem)

/-- Two numbers with the same text in front of them, which is no digit at its end, are told apart
from behind. -/
theorem append_toDigits_inj {u v : List Char} {n m : Nat}
    (hu : NotAt (·.isDigit = true) u.reverse) (hv : NotAt (·.isDigit = true) v.reverse)
    (h : u ++ Nat.toDigits 10 n = v ++ Nat.toDigits 10 m) : u = v ∧ n = m := by
  have hr := congrArg List.reverse h
  rw [List.reverse_append, List.reverse_append] at hr
  have hdigits : ∀ k, ∀ c ∈ (Nat.toDigits 10 k).reverse, c.isDigit = true := fun k c hc =>
    isDigit_of_mem_toDigits c (List.mem_reverse.1 hc)
  obtain ⟨hd, hrest⟩ := run_append_inj (hdigits n) (hdigits m) hu hv hr
  obtain rfl := List.reverse_inj.1 hrest
  refine ⟨rfl, ?_⟩
  exact (toDigits_append_inj (notAt_nil _) (notAt_nil _)
    (congrArg (· ++ []) (List.reverse_inj.1 hd))).1

/-! ## Marks -/

section
variable {c : Char} {t : List Char}

/-- Behind a mark that does not begin again inside itself the same mark begins at its end at the
earliest. -/
theorem prefix_of_mark_append (hc : c ∉ t) {u r s : List Char} (hu : u ≠ [])
    (h : c :: t ++ r = u ++ (c :: t ++ s)) : c :: t <+: u := by
  obtain ⟨x, u, rfl⟩ := List.exists_cons_of_ne_nil hu
  simp only [List.cons_append, List.cons.injEq] at h
  obtain ⟨rfl, ht⟩ := h
  rcases List.append_eq_append_iff.1 ht with ⟨w, rfl, -⟩ | ⟨w, rfl, hw⟩
  · exact ⟨w, rfl⟩
  · cases w with
    | nil => simp
    | cons y w =>
      obtain ⟨rfl, -⟩ := List.cons.inj hw
      exact absurd (List.mem_append_right u List.mem_cons_self) hc

/-- A text without the mark ends where the mark first stands. -/
theorem mark_append_inj (hc : c ∉ t) {u v r s : List Char} (hu : ¬c :: t <:+: u)
    (hv : ¬c :: t <:+: v) (h : u ++ (c :: t ++ r) = v ++ (c :: t ++ s)) : u = v ∧ r = s := by
  rcases List.append_eq_append_iff.1 h with ⟨w, rfl, hw⟩ | ⟨w, rfl, hw⟩
  · by_cases hne : w = []
    · subst hne
      simpa using hw
    · have hpre := prefix_of_mark_append hc hne hw
      exact absurd (hpre.isInfix.trans (List.suffix_append u w).isInfix) hv
  · by_cases hne : w = []
    · subst hne
      simpa [eq_comm] using hw
    · have hpre := prefix_of_mark_append hc hne hw
      exact absurd (hpre.isInfix.trans (List.suffix_append v w).isInfix) hu

/-- A mark that stands in two texts together stands in one of them, unless the second one begins
inside it. -/
theorem infix_of_mark_infix_append {u v : List Char} (hv : NotAt (· ∈ t) v)
    (h : c :: t <:+: u ++ v) : c :: t <:+: u ∨ c :: t <:+: v := by
  obtain ⟨a, b, hab⟩ := h
  rcases List.append_eq_append_iff.1 hab with ⟨w, rfl, -⟩ | ⟨w, haw, rfl⟩
  · exact .inl ⟨a, w, rfl⟩
  · rcases List.append_eq_append_iff.1 haw with ⟨x, rfl, hx⟩ | ⟨x, rfl, rfl⟩
    · -- the mark begins in the first text and would have to go on in the second
      cases x with
      | nil =>
        right
        exact ⟨[], b, by rw [hx]; rfl⟩
      | cons y x =>
        rw [List.cons_append, List.cons.injEq] at hx
        obtain ⟨rfl, rfl⟩ := hx
        cases w with
        | nil =>
          left
          exact ⟨a, [], by simp⟩
        | cons z w => exact absurd (List.mem_append_right x List.mem_cons_self) (hv z rfl)
    · exact .inr ⟨x, b, rfl⟩

end

/-! ## Lists -/

section
variable {α : Type} {write : α → List Char}

/-- A list ends where no further item begins. Items may be written in several ways and may need a
text of some kind behind them; `follow` is that kind. -/
theorem flatMap_append_inj (valid : α → Prop) (follow stop : List Char → Prop) {same : α → α → Prop}
    (item : ∀ {a b r s}, valid a → valid b → follow r → follow s → write a ++ r = write b ++ s →
      same a b ∧ r = s)
    (item_follow : ∀ {a} r, valid a → follow (write a ++ r))
    (stop_follow : ∀ {r}, stop r → follow r)
    (stop_ne : ∀ {a r s}, valid a → stop s → write a ++ r ≠ s)
    {as bs : List α} (ha : ∀ a ∈ as, valid a) (hb : ∀ b ∈ bs, valid b) {r s : List Char}
    (h : as.flatMap write ++ r = bs.flatMap write ++ s) (hr : stop r) (hs : stop s) :
    List.Forall₂ same as bs ∧ r = s := by
  -- Behind an item stands the next item or the end, either of which may follow it.
  have hfollow : ∀ {xs : List α} {t}, (∀ x ∈ xs, valid x) → stop t →
      follow (xs.flatMap write ++ t) := by
    intro xs t hx ht
    cases xs with
    | nil => exact stop_follow ht
    | cons x xs =>
      rw [List.flatMap_cons, List.append_assoc]
      exact item_follow _ (hx x List.mem_cons_self)
  -- Both lists are read at once; where one ends, `stop_ne` forbids an item of the other.
  induction as generalizing bs with
  | nil =>
    cases bs with
    | nil => exact ⟨.nil, h⟩
    | cons b bs =>
      rw [List.flatMap_cons, List.append_assoc] at h
      exact absurd h.symm (stop_ne (hb b List.mem_cons_self) hr)
  | cons a as ih =>
    rw [List.flatMap_cons, List.append_assoc] at h
    cases bs with
    | nil => exact absurd h (stop_ne (ha a List.mem_cons_self) hs)
    | cons b bs =>
      rw [List.flatMap_cons, List.append_assoc] at h
      have ha' : ∀ x ∈ as, valid x := fun x hx => ha x (List.mem_cons_of_mem _ hx)
      have hb' : ∀ x ∈ bs, valid x := fun x hx => hb x (List.mem_cons_of_mem _ hx)
      obtain ⟨hab, h⟩ := item (ha a List.mem_cons_self) (hb b List.mem_cons_self)
        (hfollow ha' hr) (hfollow hb' hs) h
      obtain ⟨hrest, hrs⟩ := ih ha' hb' h
      exact ⟨.cons hab hrest, hrs⟩

/-- A list of items of one form each, whatever follows them. -/
theorem flatMap_append_eq (stop : List Char → Prop)
    (item : ∀ {a b r s}, write a ++ r = write b ++ s → a = b ∧ r = s)
    (stop_ne : ∀ {a r s}, stop s → write a ++ r ≠ s) {as bs : List α} {r s : List Char}
    (h : as.flatMap write ++ r = bs.flatMap write ++ s) (hr : stop r) (hs : stop s) :
    as = bs ∧ r = s := by
  have hinj := flatMap_append_inj (fun _ => True) (fun _ => True) stop (fun _ _ _ _ => item)
    (fun _ _ => trivial) (fun _ => trivial) (fun _ => stop_ne) (fun _ _ => trivial)
    (fun _ _ => trivial) h hr hs
  rwa [List.forall₂_eq_eq_eq] at hinj

theorem intercalate_cons (separator x : List α) (xs : List (List α)) :
    separator.intercalate (x :: xs) = x ++ xs.flatMap (separator ++ ·) := by
  induction xs generalizing x with
  | nil => simp
  | cons y ys ih => rw [List.intercalate_cons_cons, ih]; simp

end

end SqlCompose.Text
