import SqlCompose.Dialect.MySql
import SqlCompose.Proofs.Text.Quoting

/-!
# Literals of defaults

The literal of a default is either a quoted text or a word without spaces and quotes
(`isBare_plainDefault`). With backslash escapes both kinds end where a reader sees it
(`renderDefault_append_inj`).
-/

namespace SqlCompose

namespace Text

/-- A text without spaces and quotes, as the literals are that are not quoted. -/
abbrev IsBare (s : String) : Prop := Avoids [' ', '\''] s

theorem isBare_repr (n : Nat) : IsBare n.repr := by
  intro c hc hmem
  have hd := isDigit_of_mem_toDigits c (Nat.toList_repr (n := n) ▸ hc)
  obtain rfl | rfl : c = ' ' ∨ c = '\'' := by simpa using hmem
  · exact absurd hd (by decide)
  · exact absurd hd (by decide)

theorem isBare_toString (n : Int) : IsBare (toString n) := by
  cases n with
  | ofNat m => exact isBare_repr m
  | negSucc m =>
    have hs : IsBare "-" := by decide +kernel
    exact hs.append (isBare_repr (m + 1))

end Text

namespace Decimal

open Text

theorem isBare_digitText (ds : List Nat) : IsBare (digitText ds) := by
  intro c hc
  obtain ⟨n, -, rfl⟩ : ∃ n ∈ ds, n.digitChar = c := by simpa [digitText] using hc
  -- Digits past fifteen have one character in common, so the rest is a bounded check.
  by_cases hn : n < 16
  · have hall : ∀ n < 16, n.digitChar ∉ [' ', '\''] := by decide
    exact hall n hn
  · have hstar : n.digitChar = '*' := by
      unfold Nat.digitChar
      repeat rw [if_neg (by omega)]
    rw [hstar]
    decide

theorem isBare_positionalText (s : Scientific) :
    IsBare (Dialect.floatLayout.positionalText s) := by
  have hzero : IsBare "0." := by decide +kernel
  have hnone : IsBare "" := by decide +kernel
  have hpoint : IsBare "." := by decide +kernel
  unfold Layout.positionalText
  split
  · exact hzero.append (isBare_digitText _)
  · dsimp only
    split
    · exact (isBare_digitText _).append hnone
    · exact ((isBare_digitText _).append hpoint).append (isBare_digitText _)

theorem isBare_write (x : Float) : IsBare (Dialect.floatLayout.write x) := by
  have hsign : IsBare (if isNegative x then "-" else "") := by split <;> decide +kernel
  have hinfinity : IsBare (if isNegative x then "-inf" else "inf") := by split <;> decide +kernel
  have hzero : IsBare "0" := by decide +kernel
  have hnone : IsBare "" := by decide +kernel
  have hnan : IsBare "NaN" := by decide +kernel
  unfold Layout.write
  dsimp only
  split
  · exact hnan
  · exact hinfinity
  · exact (hsign.append hzero).append hnone
  · exact hsign.append (isBare_positionalText _)

end Decimal

namespace DefaultValue

variable {d : Dialect}

/-- A literal that is not quoted has no spaces and no quotes. -/
theorem isBare_plainDefault {v : DefaultValue} (h : ∀ s, v ≠ .text s) (quote : String → String) :
    Text.IsBare (plainDefault quote v) := by
  cases v with
  | null =>
    have hnull : Text.IsBare "NULL" := by decide +kernel
    exact hnull
  | bool b =>
    show Text.IsBare (if b then "1" else "0")
    cases b <;> decide +kernel
  | int n => exact Text.isBare_toString _
  | float x => exact Decimal.isBare_write x
  | text s => exact absurd rfl (h s)

/-- Defaults with one literal, and if it is a quoted text, with one text. -/
def SameLiteral (d : Dialect) (v v' : DefaultValue) : Prop :=
  d.renderDefault v = d.renderDefault v' ∧ ∀ s, v = .text s ↔ v' = .text s

/-- The literals of a text and of a default that is no text differ at once. -/
theorem renderDefault_text_append_ne (hd : d.renderDefault = plainDefault Text.quoteBackslashed)
    {u : String} {v : DefaultValue} (hv : ∀ s, v ≠ .text s) {r s : List Char}
    (hs : Text.NotAt (· ∉ [' ']) s) :
    (d.renderDefault (.text u)).toList ++ r ≠ (d.renderDefault v).toList ++ s := by
  intro h
  have hq : '\'' ∈ ((d.renderDefault v).toList ++ s).head? := by
    rw [← h, hd, plainDefault, Text.toList_quoteBackslashed]
    rfl
  rw [List.head?_append] at hq
  cases hl : (d.renderDefault v).toList with
  | nil =>
    rw [hl] at hq
    exact hs _ hq (by decide)
  | cons c cs =>
    rw [hl] at hq
    obtain rfl : c = '\'' := Option.some.inj hq
    rw [hd] at hl
    exact isBare_plainDefault hv _ _ (hl ▸ List.mem_cons_self) (by decide)

/-- The literal of a default ends where a reader sees it: at its closing quote, or at a space. -/
theorem renderDefault_append_inj (hd : d.renderDefault = plainDefault Text.quoteBackslashed)
    {v v' : DefaultValue} {r s : List Char} (hr : Text.NotAt (· ∉ [' ']) r)
    (hs : Text.NotAt (· ∉ [' ']) s)
    (h : (d.renderDefault v).toList ++ r = (d.renderDefault v').toList ++ s) :
    SameLiteral d v v' ∧ r = s := by
  by_cases hv : ∃ u, v = .text u
  · obtain ⟨u, rfl⟩ := hv
    by_cases hv' : ∃ u', v' = .text u'
    · obtain ⟨u', rfl⟩ := hv'
      simp only [hd, plainDefault] at h
      obtain ⟨rfl, hrest⟩ := Text.quoteBackslashed_append_inj h
      exact ⟨⟨rfl, fun _ => Iff.rfl⟩, hrest⟩
    · have hv' : ∀ s, v' ≠ .text s := fun s hs => hv' ⟨s, hs⟩
      exact absurd h (renderDefault_text_append_ne hd hv' hs)
  · have hv : ∀ s, v ≠ .text s := fun s hs => hv ⟨s, hs⟩
    by_cases hv' : ∃ u', v' = .text u'
    · obtain ⟨u', rfl⟩ := hv'
      exact absurd h.symm (renderDefault_text_append_ne hd hv hr)
    · have hv' : ∀ s, v' ≠ .text s := fun s hs => hv' ⟨s, hs⟩
      have hspace : [' '] ⊆ [' ', '\''] := by decide
      rw [hd] at h
      obtain ⟨hl, hrest⟩ := ((isBare_plainDefault hv _).mono hspace).append_inj
        ((isBare_plainDefault hv' _).mono hspace) hr hs h
      exact ⟨⟨by rw [hd, hl], fun s => by simp [hv s, hv' s]⟩, hrest⟩

end DefaultValue

end SqlCompose
