import SqlCompose.Proofs.Text.Boundary
import SqlCompose.Text.Literal

/-!
# Where a literal with backslash escapes ends

A quote inside such a literal follows a backslash, so the first one that does not is its end
(`quoteBackslashed_append_inj`).
-/

namespace SqlCompose.Text

/-- A character is written behind a backslash, or as the escape of NUL, or as it is. -/
theorem backslashedChar_cases (c : Char) :
    (c = '\\' ∨ c = '\'' ∨ c = '"') ∧ backslashedChar c = ['\\', c] ∨
      c = '\x00' ∧ backslashedChar c = ['\\', '0'] ∨
      (c ≠ '\\' ∧ c ≠ '\'') ∧ backslashedChar c = [c] := by
  unfold backslashedChar
  by_cases hc : c = '\\' ∨ c = '\'' ∨ c = '"'
  · exact .inl ⟨hc, if_pos hc⟩
  · rw [if_neg hc]
    by_cases h0 : c = '\x00'
    · exact .inr (.inl ⟨h0, if_pos h0⟩)
    · exact .inr (.inr ⟨by tauto, if_neg h0⟩)

/-- The escapes are told from each other and from the characters that stand for themselves. -/
theorem backslashedChar_append_inj {c c' : Char} {r s : List Char}
    (h : backslashedChar c ++ r = backslashedChar c' ++ s) : c = c' ∧ r = s := by
  rcases backslashedChar_cases c with ⟨hc, he⟩ | ⟨hc, he⟩ | ⟨hc, he⟩ <;>
    rcases backslashedChar_cases c' with ⟨hc', he'⟩ | ⟨hc', he'⟩ | ⟨hc', he'⟩ <;>
    rw [he, he'] at h <;> grind

/-- Only the end of a literal is a quote. -/
theorem backslashedChar_append_ne {c : Char} {r s : List Char} (hs : At '\'' s) :
    backslashedChar c ++ r ≠ s := by
  obtain ⟨t, rfl⟩ := hs
  intro h
  rcases backslashedChar_cases c with ⟨-, he⟩ | ⟨-, he⟩ | ⟨hc, he⟩ <;> rw [he] at h
  · simp at h
  · simp at h
  · exact hc.2 (List.cons.inj h).1

theorem toList_quoteBackslashed (s : String) :
    (quoteBackslashed s).toList = '\'' :: s.toList.flatMap backslashedChar ++ ['\''] := by
  simp [quoteBackslashed, quoteWith]

/-- A literal with backslash escapes ends at the same quote, whatever stands behind it. -/
theorem quoteBackslashed_append_inj {u v : String} {r s : List Char}
    (h : (quoteBackslashed u).toList ++ r = (quoteBackslashed v).toList ++ s) : u = v ∧ r = s := by
  rw [toList_quoteBackslashed, toList_quoteBackslashed] at h
  have htail : u.toList.flatMap backslashedChar ++ '\'' :: r =
      v.toList.flatMap backslashedChar ++ '\'' :: s := by simpa using h
  obtain ⟨huv, hrest⟩ := flatMap_append_eq (At '\'') backslashedChar_append_inj
    backslashedChar_append_ne htail (at_cons _ _) (at_cons _ _)
  exact ⟨String.toList_injective huv, (List.cons.inj hrest).2⟩

end SqlCompose.Text
