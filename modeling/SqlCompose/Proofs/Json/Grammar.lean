import SqlCompose.Json.Reader
import SqlCompose.Proofs.Outcome
import SqlCompose.Proofs.Text.Boundary

/-!
# The grammar of scalars

How a JSON text may spell what it says: blanks between tokens (`Gap`), strings with their escapes
(`Literal`), numbers (`Number`) and the values without parts (`Scalar`). The forms are written down
from the grammar and say nothing of the readers. Each reader accepts all forms of what it reads and
stops behind them: `readText_literal`, `readBool_literal`, `readOptional_form`, `readBelow_natural`,
and `skipValue_scalar` for values that nobody asked for.
-/

namespace SqlCompose.Json

/-! ## Forms -/

/-- Blanks between tokens, or none. -/
def Gap (cs : List Char) : Prop := ∀ c ∈ cs, c ∈ [' ', '\n', '\t', '\r']

def hexDigits : List (Char × Nat) :=
  [('0', 0), ('1', 1), ('2', 2), ('3', 3), ('4', 4), ('5', 5), ('6', 6), ('7', 7), ('8', 8),
    ('9', 9), ('a', 10), ('b', 11), ('c', 12), ('d', 13), ('e', 14), ('f', 15), ('A', 10),
    ('B', 11), ('C', 12), ('D', 13), ('E', 14), ('F', 15)]

/-- Four hexadecimal digits in either case, and the number that they denote. -/
inductive HexFour : List Char → Nat → Prop
  | mk {a b c d : Char} {i j k l : Nat} (ha : (a, i) ∈ hexDigits) (hb : (b, j) ∈ hexDigits)
    (hc : (c, k) ∈ hexDigits) (hd : (d, l) ∈ hexDigits) :
    HexFour [a, b, c, d] (i * 4096 + j * 256 + k * 16 + l)

/-- The escapes of one letter. -/
def letterEscapes : List (Char × Char) :=
  [('"', '"'), ('\\', '\\'), ('/', '/'), ('b', '\x08'), ('f', '\x0c'), ('n', '\n'), ('r', '\r'),
    ('t', '\t')]

/-- The ways to write a character inside a string. -/
inductive SpellsChar : List Char → Char → Prop
  | plain {c : Char} (hquote : c ≠ '"') (hbackslash : c ≠ '\\') (hcontrol : 0x20 ≤ c.toNat) :
    SpellsChar [c] c
  | letter {l c : Char} (h : (l, c) ∈ letterEscapes) : SpellsChar ['\\', l] c
  | unicode {ds : List Char} {c : Char} (h : HexFour ds c.toNat) : SpellsChar ('\\' :: 'u' :: ds) c
  /-- A character above the first plane is written as two surrogates. -/
  | pair {hs ls : List Char} {high low : Nat} {c : Char} (hhs : HexFour hs high)
    (hls : HexFour ls low) (hhigh : 0xD800 ≤ high ∧ high ≤ 0xDBFF)
    (hlow : 0xDC00 ≤ low ∧ low ≤ 0xDFFF)
    (hc : c.toNat = 0x10000 + (high - 0xD800) * 0x400 + (low - 0xDC00)) :
    SpellsChar ('\\' :: 'u' :: hs ++ '\\' :: 'u' :: ls) c

/-- The ways to write a run of characters inside a string. -/
inductive Spells : List Char → List Char → Prop
  | nil : Spells [] []
  | cons {t ts cs : List Char} {c : Char} (h : SpellsChar t c) (hs : Spells ts cs) :
    Spells (t ++ ts) (c :: cs)

/-- A string in its quotes. -/
inductive Literal (s : String) : List Char → Prop
  | mk {body : List Char} (h : Spells body s.toList) : Literal s ('"' :: (body ++ ['"']))

/-- What may stand inside a string, also surrogates that make no pair. -/
inductive Body : List Char → Prop
  | nil : Body []
  | char {t ts : List Char} {c : Char} (h : SpellsChar t c) (hs : Body ts) : Body (t ++ ts)
  | surrogate {ds ts : List Char} {n : Nat} (h : HexFour ds n) (hs : Body ts) :
    Body ('\\' :: 'u' :: ds ++ ts)

def Digits (ds : List Char) : Prop := ds ≠ [] ∧ ∀ c ∈ ds, c.isDigit = true

/-- A whole number: one zero, or digits of which the first is another. -/
inductive Whole : List Char → Prop
  | zero : Whole ['0']
  | positive {c : Char} {ds : List Char} (hne : c ≠ '0') (h : Digits (c :: ds)) : Whole (c :: ds)

inductive Fraction : List Char → Prop
  | none : Fraction []
  | some {ds : List Char} (h : Digits ds) : Fraction ('.' :: ds)

inductive Exponent : List Char → Prop
  | none : Exponent []
  | some {e : Char} {sign ds : List Char} (he : e = 'e' ∨ e = 'E')
    (hsign : sign ∈ [[], ['+'], ['-']]) (h : Digits ds) : Exponent (e :: (sign ++ ds))

inductive Number : List Char → Prop
  | mk {sign whole fraction exponent : List Char} (hsign : sign ∈ [[], ['-']])
    (hwhole : Whole whole) (hfraction : Fraction fraction) (hexponent : Exponent exponent) :
    Number (sign ++ (whole ++ (fraction ++ exponent)))

/-- A natural number in decimal digits, without zeros in front. -/
def Natural (n : Nat) (t : List Char) : Prop := t = Nat.toDigits 10 n

inductive BoolForm : Bool → List Char → Prop
  | true : BoolForm true ['t', 'r', 'u', 'e']
  | false : BoolForm false ['f', 'a', 'l', 's', 'e']

/-- What is missing is written as null. -/
inductive OptionForm {α : Type} (form : α → List Char → Prop) : Option α → List Char → Prop
  | none : OptionForm form none ['n', 'u', 'l', 'l']
  | some {a : α} {t : List Char} (h : form a t) : OptionForm form (some a) t

/-- Any value without parts. -/
inductive Scalar : List Char → Prop
  | null : Scalar ['n', 'u', 'l', 'l']
  | bool {b : Bool} {t : List Char} (h : BoolForm b t) : Scalar t
  | number {t : List Char} (h : Number t) : Scalar t
  | text {body : List Char} (h : Body body) : Scalar ('"' :: (body ++ ['"']))

/-! ## Gaps -/

theorem gap_nil : Gap [] := nofun

theorem isSpace_iff {c : Char} : isSpace c = true ↔ c ∈ [' ', '\n', '\t', '\r'] := by
  simp [isSpace, or_assoc]

theorem skipSpace_gap {g : List Char} (hg : Gap g) (rest : List Char) :
    skipSpace (g ++ rest) = skipSpace rest :=
  List.dropWhile_append_of_pos fun c hc => isSpace_iff.2 (hg c hc)

theorem skipSpace_cons {c : Char} (h : isSpace c = false) (rest : List Char) :
    skipSpace (c :: rest) = c :: rest := by
  rw [skipSpace, List.dropWhile_cons_of_neg (by simp [h])]

theorem skipSpace_gap_cons {g : List Char} (hg : Gap g) {c : Char} (h : isSpace c = false)
    (rest : List Char) : skipSpace (g ++ c :: rest) = c :: rest := by
  rw [skipSpace_gap hg, skipSpace_cons h]

theorem colon_gap {g : List Char} (hg : Gap g) (rest : List Char) :
    colon (g ++ ':' :: rest) = .ok rest := by
  unfold colon
  rw [skipSpace_gap_cons hg rfl]
  rfl

/-! ## Strings -/

/-- A character that needs no escape. -/
def isPlain (c : Char) : Bool := c != '"' && c != '\\' && 0x20 ≤ c.toNat

theorem spellsChar_plain {c : Char} (h : isPlain c = true) : SpellsChar [c] c := by
  unfold isPlain at h
  simp only [Bool.and_eq_true, bne_iff_ne, decide_eq_true_eq] at h
  exact .plain h.1.1 h.1.2 h.2

/-- Characters that need no escape may stand for themselves. -/
theorem literal_plain {s : String} (h : s.toList.all isPlain = true) :
    Literal s ('"' :: (s.toList ++ ['"'])) := by
  refine .mk ?_
  generalize s.toList = cs at h ⊢
  induction cs with
  | nil => exact .nil
  | cons c cs ih =>
    rw [List.all_cons, Bool.and_eq_true] at h
    exact .cons (spellsChar_plain h.1) (ih h.2)

theorem hexDigit?_of_mem {c : Char} {n : Nat} (h : (c, n) ∈ hexDigits) :
    hexDigit? c = some n := by
  have hall : ∀ p ∈ hexDigits, hexDigit? p.1 = some p.2 := by decide
  exact hall _ h

theorem hexFour_form {ds : List Char} {n : Nat} (h : HexFour ds n) (rest : List Char) :
    hexFour (ds ++ rest) = .ok (n, rest) := by
  cases h with
  | @mk a b c d i j k l ha hb hc hd =>
    have hvalue : hexValue? a b c d = some (i * 4096 + j * 256 + k * 16 + l) := by
      unfold hexValue?
      rw [hexDigit?_of_mem ha, hexDigit?_of_mem hb, hexDigit?_of_mem hc, hexDigit?_of_mem hd]
      simp only [Option.bind_eq_bind, Option.bind_some, Option.pure_def, Option.some.injEq]
      omega
    rw [List.cons_append, List.cons_append, List.cons_append, List.cons_append, List.nil_append,
      hexFour, hvalue]

theorem letterEscape?_of_mem {l c : Char} (h : (l, c) ∈ letterEscapes) :
    letterEscape? l = some c := by
  have hall : ∀ p ∈ letterEscapes, letterEscape? p.1 = some p.2 := by decide
  exact hall _ h

/-- No character has the code point of a surrogate. -/
theorem not_surrogate (c : Char) :
    isLowSurrogate c.toNat = false ∧ isHighSurrogate c.toNat = false := by
  have hvalid : c.toNat < 0xD800 ∨ 0xDFFF < c.toNat ∧ c.toNat < 0x110000 := c.valid
  unfold isLowSurrogate isHighSurrogate
  simp only [Bool.and_eq_false_iff, decide_eq_false_iff_not]
  omega

theorem lowHalf_form {high low : Nat} {ls : List Char} {c : Char} (h : HexFour ls low)
    (hlow : 0xDC00 ≤ low ∧ low ≤ 0xDFFF)
    (hc : c.toNat = 0x10000 + (high - 0xD800) * 0x400 + (low - 0xDC00)) (rest : List Char) :
    lowHalf high ('\\' :: 'u' :: (ls ++ rest)) = .ok (c, rest) := by
  have hsurrogate : isLowSurrogate low = true := by
    unfold isLowSurrogate
    simp only [Bool.and_eq_true, decide_eq_true_eq]
    exact hlow
  have hchar : Char.ofNat ((high - 0xD800) * 0x400 + (low - 0xDC00) + 0x10000) = c := by
    rw [Nat.add_comm, ← Nat.add_assoc, ← hc, Char.ofNat_toNat]
  rw [lowHalf, hexFour_form h]
  show (if isLowSurrogate low = true then _ else _) = _
  rw [if_pos hsurrogate, hchar]

section
variable {skipped : Bool} {cs cs' rest s : List Char} {c : Char}

theorem characters_plain (hquote : c ≠ '"') (hbackslash : c ≠ '\\') (hcontrol : 0x20 ≤ c.toNat)
    (h : characters skipped cs = .ok (s, rest)) :
    characters skipped (c :: cs) = .ok (c :: s, rest) := by
  rw [characters]
  · rw [if_neg (by omega), h]
  · exact hquote
  · exact hbackslash

theorem characters_escape (he : escape skipped cs = .ok (c, cs'))
    (h : characters skipped cs' = .ok (s, rest)) :
    characters skipped ('\\' :: cs) = .ok (c :: s, rest) := by
  rw [characters]
  split
  · next hfail => rw [he] at hfail; cases hfail
  · next hread =>
    rw [he] at hread
    cases hread
    rw [h]

theorem escape_letter {l : Char} (hl : (l, c) ∈ letterEscapes) :
    escape skipped (l :: cs) = .ok (c, cs) := by
  rw [escape, letterEscape?_of_mem hl]

/-- A surrogate that is not asked for stands for nothing. -/
theorem escape_skip {ds : List Char} {n : Nat} (h : HexFour ds n) (cs : List Char) :
    escape true ('u' :: (ds ++ cs)) = .ok (Char.ofNat n, cs) := by
  show codePoint true (ds ++ cs) = _
  rw [codePoint, hexFour_form h]
  rfl

theorem escape_unicode {ds : List Char} (h : HexFour ds c.toNat) (cs : List Char) :
    escape false ('u' :: (ds ++ cs)) = .ok (c, cs) := by
  show codePoint false (ds ++ cs) = _
  rw [codePoint, hexFour_form h]
  show (if isLowSurrogate c.toNat = true then _
    else if isHighSurrogate c.toNat = true then _ else Except.ok (Char.ofNat c.toNat, cs)) = _
  rw [(not_surrogate c).1, (not_surrogate c).2, Char.ofNat_toNat]
  rfl

theorem escape_pair {hs ls : List Char} {high low : Nat} (hhs : HexFour hs high)
    (hls : HexFour ls low) (hhigh : 0xD800 ≤ high ∧ high ≤ 0xDBFF)
    (hlow : 0xDC00 ≤ low ∧ low ≤ 0xDFFF)
    (hc : c.toNat = 0x10000 + (high - 0xD800) * 0x400 + (low - 0xDC00)) (cs : List Char) :
    escape false ('u' :: (hs ++ '\\' :: 'u' :: (ls ++ cs))) = .ok (c, cs) := by
  have hnotLow : isLowSurrogate high = false := by
    unfold isLowSurrogate
    simp only [Bool.and_eq_false_iff, decide_eq_false_iff_not]
    omega
  have hisHigh : isHighSurrogate high = true := by
    unfold isHighSurrogate
    simp only [Bool.and_eq_true, decide_eq_true_eq]
    exact hhigh
  show codePoint false (hs ++ _) = _
  rw [codePoint, hexFour_form hhs]
  show (if isLowSurrogate high = true then _
    else if isHighSurrogate high = true then lowHalf high _ else _) = _
  rw [hnotLow, hisHigh]
  exact lowHalf_form hls hlow hc cs

/-- A character is read from each of its spellings. -/
theorem characters_spell {t : List Char} (ht : SpellsChar t c)
    (h : characters false cs = .ok (s, rest)) :
    characters false (t ++ cs) = .ok (c :: s, rest) := by
  cases ht with
  | plain hquote hbackslash hcontrol => exact characters_plain hquote hbackslash hcontrol h
  | letter hl => exact characters_escape (escape_letter hl) h
  | unicode hds => exact characters_escape (escape_unicode hds cs) h
  | pair hhs hls hhigh hlow hc =>
    have hread := characters_escape (escape_pair hhs hls hhigh hlow hc cs) h
    simpa using hread

theorem characters_spells {t : List Char} (ht : Spells t s) (rest : List Char) :
    characters false (t ++ '"' :: rest) = .ok (s, rest) := by
  induction ht with
  | nil => rw [List.nil_append, characters]
  | cons hc _ ih =>
    rw [List.append_assoc]
    exact characters_spell hc ih

/-- What is skipped may be spelled in any way. -/
theorem characters_skip_spell {t : List Char} (ht : SpellsChar t c)
    (h : ∃ s, characters true cs = .ok (s, rest)) :
    ∃ s, characters true (t ++ cs) = .ok (s, rest) := by
  obtain ⟨s, h⟩ := h
  cases ht with
  | plain hquote hbackslash hcontrol => exact ⟨_, characters_plain hquote hbackslash hcontrol h⟩
  | letter hl => exact ⟨_, characters_escape (escape_letter hl) h⟩
  | unicode hds => exact ⟨_, characters_escape (escape_skip hds cs) h⟩
  | @pair hs ls _ _ _ hhs hls =>
    have hlow := characters_escape (escape_skip hls cs) h
    have hread := characters_escape (escape_skip hhs ('\\' :: 'u' :: (ls ++ cs))) hlow
    exact ⟨_, by simpa using hread⟩

theorem characters_skip {t : List Char} (ht : Body t) (rest : List Char) :
    ∃ s, characters true (t ++ '"' :: rest) = .ok (s, rest) := by
  induction ht with
  | nil => exact ⟨[], by rw [List.nil_append, characters]⟩
  | char hc _ ih =>
    rw [List.append_assoc]
    exact characters_skip_spell hc ih
  | @surrogate ds ts n hds _ ih =>
    obtain ⟨s, hs⟩ := ih
    have hread := characters_escape (escape_skip hds (ts ++ '"' :: rest)) hs
    exact ⟨_, by simpa using hread⟩

end

/-! ## Numbers -/

/-- The sign of a number. -/
def signPart : List Char → Bool × List Char
  | '-' :: cs => (true, cs)
  | cs => (false, cs)

/-- The fraction of a number with its point, if it has one. -/
def fractionPart (atEnd : Fault) : List Char → Except Fault (Option (List Char) × List Char)
  | '.' :: cs => do
    let (ds, cs) ← digits atEnd cs
    return (some ds, cs)
  | cs => .ok (none, cs)

/-- The exponent of a number with its letter, if it has one. -/
def scalePart (atEnd : Fault) : List Char → Except Fault (Option Int × List Char)
  | c :: cs =>
    if c == 'e' || c == 'E' then do
      let (e, cs) ← exponentPart atEnd cs
      return (some e, cs)
    else .ok (none, c :: cs)
  | [] => .ok (none, [])

/-- A number is read part by part. -/
theorem numeral_eq (atEnd : Fault) (cs : List Char) : numeral atEnd cs = do
    let (whole, cs') ← digits atEnd (signPart cs).2
    if whole.length > 1 && whole.head? == some '0' then throw .illFormed
    let (fraction, cs') ← fractionPart atEnd cs'
    let (exponent, cs') ← scalePart atEnd cs'
    return (⟨(signPart cs).1, whole, fraction, exponent⟩, cs') := by
  have hscale : ∀ negative whole fraction (cs' : List Char),
      (match cs' with
        | c :: rest =>
          if c == 'e' || c == 'E' then do
            let (e, cs) ← exponentPart atEnd rest
            let (exponent, cs) ← pure (some e, cs)
            return ((⟨negative, whole, fraction, exponent⟩ : Numeral), cs)
          else do
            let (exponent, cs) ← pure (none, cs')
            return ((⟨negative, whole, fraction, exponent⟩ : Numeral), cs)
        | [] => do
          let (exponent, cs) ← pure (none, cs')
          return ((⟨negative, whole, fraction, exponent⟩ : Numeral), cs)) = (do
        let (exponent, cs) ← scalePart atEnd cs'
        return ((⟨negative, whole, fraction, exponent⟩ : Numeral), cs)) := by
    intro negative whole fraction cs'
    unfold scalePart
    cases cs' with
    | nil => rfl
    | cons c rest =>
      dsimp only
      split
      · cases exponentPart atEnd rest <;> rfl
      · rfl
  unfold numeral
  show (digits atEnd (signPart cs).2 >>= _) = _
  refine congrArg _ (funext fun ⟨whole, cs'⟩ => ?_)
  dsimp only
  split
  · rfl
  · split
    · next rest =>
      show (digits atEnd rest >>= _) = (digits atEnd rest >>= _) >>= _
      cases digits atEnd rest with
      | error e => rfl
      | ok x => exact hscale _ _ _ _
    · next hne =>
      rw [fractionPart]
      · exact hscale _ _ _ _
      · exact hne

/-- A number goes on with these characters. -/
def GoesOn (c : Char) : Prop := c.isDigit = true ∨ c ∈ ['.', 'e', 'E']

/-- The text does not begin with a character that a number could go on with. -/
abbrev Stops (rest : List Char) : Prop := Text.NotAt GoesOn rest

/-- A number does not go on behind blanks. -/
theorem stops_gap {g rest : List Char} (hg : Gap g) (hrest : Stops rest) : Stops (g ++ rest) := by
  cases g with
  | nil => exact hrest
  | cons c g =>
    have hall : ∀ c ∈ [' ', '\n', '\t', '\r'],
        (!c.isDigit && !(['.', 'e', 'E'].contains c)) = true := List.all_eq_true.1 rfl
    refine Text.notAt_cons ?_ _
    have hc := hall c (hg c List.mem_cons_self)
    rintro (hdigit | hmark)
    · simp [hdigit] at hc
    · rw [List.contains_iff_mem.2 hmark, Bool.not_true, Bool.and_false] at hc
      cases hc

/-- A number does not go on behind a comma or the end of a container. -/
theorem stops_mark {g : List Char} (hg : Gap g) {c : Char} (hc : c ∈ [',', ']', '\x7d'])
    (rest : List Char) : Stops (g ++ c :: rest) := by
  refine stops_gap hg (Text.notAt_cons ?_ rest)
  simp only [List.mem_cons, List.not_mem_nil, or_false] at hc
  rcases hc with rfl | rfl | rfl <;> simp [GoesOn]

section
variable {atEnd : Fault} {rest : List Char}

theorem digits_form {ds : List Char} (h : Digits ds) (hrest : Text.NotAt (·.isDigit = true) rest) :
    digits atEnd (ds ++ rest) = .ok (ds, rest) := by
  obtain ⟨hne, hdigits⟩ := h
  have htake : (ds ++ rest).takeWhile Char.isDigit = ds := by
    rw [List.takeWhile_append_of_pos hdigits]
    cases rest with
    | nil => simp
    | cons c cs => simp [hrest c rfl]
  have hdrop : (ds ++ rest).dropWhile Char.isDigit = rest := by
    rw [List.dropWhile_append_of_pos hdigits]
    cases rest with
    | nil => rfl
    | cons c cs => rw [List.dropWhile_cons_of_neg (hrest c rfl)]
  unfold digits
  split
  · next h => simp [hne] at h
  · next c cs h =>
    have hc : c.isDigit = true := by
      cases ds with
      | nil => exact absurd rfl hne
      | cons d ds =>
        obtain ⟨rfl, -⟩ := List.cons.inj h
        exact hdigits _ List.mem_cons_self
    rw [if_pos hc, htake, hdrop]

theorem Whole.digits {t : List Char} (h : Whole t) : Digits t := by
  cases h with
  | zero => exact ⟨by simp, List.all_eq_true.1 rfl⟩
  | positive _ h => exact h

/-- A whole number does not begin with a zero that could be left out. -/
theorem Whole.head {t : List Char} (h : Whole t) :
    (t.length > 1 && t.head? == some '0') = false := by
  cases h with
  | zero => rfl
  | positive hne h => simp [hne]

theorem signPart_whole {t : List Char} (ht : Whole t) :
    signPart (t ++ rest) = (false, t ++ rest) := by
  obtain ⟨hne, hdigits⟩ := ht.digits
  cases t with
  | nil => exact absurd rfl hne
  | cons c ds =>
    have hc : c ≠ '-' := by
      rintro rfl
      exact absurd (hdigits _ List.mem_cons_self) (by decide)
    rw [List.cons_append, signPart]
    rintro cs h
    exact hc (List.cons.inj h).1

theorem signPart_form {sign t : List Char} (hsign : sign ∈ [[], ['-']]) (ht : Whole t) :
    (signPart (sign ++ (t ++ rest))).2 = t ++ rest := by
  rcases List.mem_cons.1 hsign with rfl | hsign
  · exact congrArg Prod.snd (signPart_whole ht)
  · obtain rfl := List.mem_singleton.1 hsign
    rfl

theorem Exponent.notAt {t : List Char} (ht : Exponent t) (hrest : Stops rest) :
    Text.NotAt (fun c => c.isDigit = true ∨ c = '.') (t ++ rest) := by
  cases ht with
  | none =>
    intro c hc h
    exact hrest c hc (h.imp id fun h => by simp [h])
  | some he =>
    refine Text.notAt_cons ?_ _
    rcases he with rfl | rfl <;> decide

theorem Fraction.notAt {t : List Char} (ht : Fraction t)
    (hrest : Text.NotAt (fun c => c.isDigit = true ∨ c = '.') rest) :
    Text.NotAt (·.isDigit = true) (t ++ rest) := by
  cases ht with
  | none => exact fun c hc h => hrest c hc (.inl h)
  | some h => exact Text.notAt_cons (by decide) _

theorem fractionPart_form (atEnd : Fault) {t : List Char} (ht : Fraction t)
    (hrest : Text.NotAt (fun c => c.isDigit = true ∨ c = '.') rest) :
    ∃ fraction, fractionPart atEnd (t ++ rest) = .ok (fraction, rest) := by
  cases ht with
  | none =>
    refine ⟨none, ?_⟩
    rw [List.nil_append, fractionPart]
    rintro cs rfl
    exact hrest '.' rfl (.inr rfl)
  | @some ds h =>
    refine ⟨some ds, ?_⟩
    rw [List.cons_append, fractionPart, digits_form h fun c hc h => hrest c hc (.inl h)]
    rfl

theorem exponentPart_form (atEnd : Fault) {sign ds : List Char} (hsign : sign ∈ [[], ['+'], ['-']])
    (h : Digits ds) (hrest : Text.NotAt (·.isDigit = true) rest) :
    ∃ e, exponentPart atEnd (sign ++ (ds ++ rest)) = .ok (e, rest) := by
  have hread : digits atEnd (ds ++ rest) = .ok (ds, rest) := digits_form h hrest
  simp only [List.mem_cons, List.not_mem_nil, or_false] at hsign
  obtain rfl | rfl | rfl := hsign
  · have hhead : ∀ c cs, ds ++ rest = c :: cs → c.isDigit = true := by
      intro c cs heq
      obtain ⟨hne, hdigits⟩ := h
      cases ds with
      | nil => exact absurd rfl hne
      | cons d ds =>
        obtain ⟨rfl, -⟩ := List.cons.inj heq
        exact hdigits _ List.mem_cons_self
    refine ⟨Decimal.natOf ds, ?_⟩
    rw [List.nil_append, exponentPart, hread]
    · rfl
    · intro cs heq
      exact absurd (hhead _ _ heq) (by decide)
    · intro cs heq
      exact absurd (hhead _ _ heq) (by decide)
  · refine ⟨Decimal.natOf ds, ?_⟩
    rw [List.cons_append, List.nil_append, exponentPart, hread]
    rfl
  · refine ⟨-Decimal.natOf ds, ?_⟩
    rw [List.cons_append, List.nil_append, exponentPart, hread]
    rfl

theorem scalePart_none (hrest : Stops rest) : scalePart atEnd rest = .ok (none, rest) := by
  cases rest with
  | nil => rfl
  | cons c cs =>
    have hc : (c == 'e' || c == 'E') = false := by
      have hstop := hrest c rfl
      simp only [GoesOn, List.mem_cons, List.not_mem_nil, or_false, not_or] at hstop
      simp [hstop.2.2]
    rw [scalePart, hc]
    rfl

theorem scalePart_form (atEnd : Fault) {t : List Char} (ht : Exponent t) (hrest : Stops rest) :
    ∃ exponent, scalePart atEnd (t ++ rest) = .ok (exponent, rest) := by
  cases ht with
  | none => exact ⟨none, scalePart_none hrest⟩
  | @some e sign ds he hsign h =>
    obtain ⟨n, hn⟩ := exponentPart_form atEnd hsign h fun c hc h => hrest c hc (.inl h)
    have hletter : (e == 'e' || e == 'E') = true := by simpa using he
    refine ⟨some n, ?_⟩
    rw [List.cons_append, List.append_assoc, scalePart, hletter, if_pos rfl, hn]
    rfl

theorem numeral_form (atEnd : Fault) {t : List Char} (ht : Number t) (hrest : Stops rest) :
    ∃ n, numeral atEnd (t ++ rest) = .ok (n, rest) := by
  cases ht with
  | @mk sign whole fraction exponent hsign hwhole hfraction hexponent =>
    have hbehind := hexponent.notAt hrest
    obtain ⟨f, hf⟩ := fractionPart_form atEnd hfraction hbehind
    obtain ⟨e, he⟩ := scalePart_form atEnd hexponent hrest
    refine ⟨⟨(signPart (sign ++ (whole ++ (fraction ++ (exponent ++ rest))))).1, whole, f, e⟩, ?_⟩
    rw [numeral_eq]
    simp only [List.append_assoc]
    rw [signPart_form hsign hwhole, digits_form hwhole.digits (hfraction.notAt hbehind)]
    simp only [ok_bind_eq, hwhole.head, hf, he]
    rfl

/-- A whole number is read as it stands. -/
theorem numeral_whole {t : List Char} (ht : Whole t) (hrest : Stops rest) :
    numeral atEnd (t ++ rest) = .ok (⟨false, t, none, none⟩, rest) := by
  have hfraction : fractionPart atEnd rest = .ok (none, rest) := by
    rw [fractionPart]
    rintro cs rfl
    exact hrest '.' rfl (.inr (by simp))
  rw [numeral_eq, signPart_whole ht, digits_form ht.digits fun c hc h => hrest c hc (.inl h)]
  simp only [ok_bind_eq, ht.head, hfraction, scalePart_none hrest]
  rfl

end

/-! ## Natural numbers -/

theorem natOf_toDigits (n : Nat) : Decimal.natOf (Nat.toDigits 10 n) = n :=
  Nat.ofDigitChars_toDigits (by decide) (by decide)

theorem toDigits_head {n : Nat} (hn : 0 < n) : ∃ c ds, Nat.toDigits 10 n = c :: ds ∧ c ≠ '0' := by
  induction n using Nat.strongRecOn with
  | _ n ih =>
    by_cases hlt : n < 10
    · refine ⟨n.digitChar, [], Nat.toDigits_of_lt_base hlt, ?_⟩
      have hall : ∀ k < 10, 0 < k → Nat.digitChar k ≠ '0' := by decide
      exact hall n hlt hn
    · obtain ⟨c, ds, heq, hne⟩ := ih (n / 10) (by omega) (by omega)
      refine ⟨c, ds ++ [(n % 10).digitChar], ?_, hne⟩
      rw [Nat.toDigits_of_base_le (by decide) (by omega), heq, List.cons_append]

/-- A number is written without a zero in front. -/
theorem whole_toDigits (n : Nat) : Whole (Nat.toDigits 10 n) := by
  by_cases hn : n = 0
  · subst hn
    exact .zero
  · obtain ⟨c, ds, heq, hne⟩ := toDigits_head (Nat.pos_of_ne_zero hn)
    have hdigits : Digits (Nat.toDigits 10 n) :=
      ⟨Nat.toDigits_ne_nil, Text.isDigit_of_mem_toDigits⟩
    rw [heq] at hdigits ⊢
    exact .positive hne hdigits

theorem le_natFold (ds : List Char) (s : Nat) :
    s ≤ ds.foldl (fun n c => 10 * n + (c.toNat - '0'.toNat)) s := by
  induction ds generalizing s with
  | nil => exact Nat.le_refl s
  | cons c ds ih =>
    have hrest := ih (10 * s + (c.toNat - '0'.toNat))
    rw [List.foldl_cons]
    omega

/-- All digits of a number that fits are taken. -/
theorem takeDigits_eq {ds : List Char} {s : Nat}
    (h : ds.foldl (fun n c => 10 * n + (c.toNat - '0'.toNat)) s < UInt64.size) :
    takeDigits s ds = (ds.foldl (fun n c => 10 * n + (c.toNat - '0'.toNat)) s, []) := by
  induction ds generalizing s with
  | nil => rfl
  | cons c ds ih =>
    have hfits : 10 * s + (c.toNat - '0'.toNat) < UInt64.size := 
      Nat.lt_of_le_of_lt (le_natFold ds _) h
    rw [takeDigits]
    exact (if_pos hfits).trans (ih h)

/-- A natural number of 64 bits has a value. -/
theorem isFinite_whole {t : List Char} (h : Decimal.natOf t < UInt64.size) :
    (⟨false, t, none, none⟩ : Numeral).isFinite = true := by
  have htake : takeDigits 0 t = (Decimal.natOf t, []) := takeDigits_eq h
  have hsignificand : (⟨false, t, none, none⟩ : Numeral).significand = (Decimal.natOf t, 0) := by
    unfold Numeral.significand
    simp [htake, takeDigits]
  unfold Numeral.isFinite
  rw [hsignificand]
  rfl

theorem number_toDigits {n : Nat} (hn : n < UInt64.size) {rest : List Char} (hrest : Stops rest) :
    number (Nat.toDigits 10 n ++ rest) = .ok (⟨false, Nat.toDigits 10 n, none, none⟩, rest) := by
  have hfinite : (⟨false, Nat.toDigits 10 n, none, none⟩ : Numeral).isFinite = true :=
    isFinite_whole (by rw [natOf_toDigits]; exact hn)
  unfold number
  rw [numeral_whole (whole_toDigits n) hrest, ok_bind_eq]
  exact if_pos hfinite

/-! ## Readers -/

section
variable {g t rest : List Char}

theorem readText_literal (hg : Gap g) {s : String} (ht : Literal s t) :
    readText (g ++ (t ++ rest)) = .ok (s, rest) := by
  cases ht with
  | @mk body h =>
    unfold readText
    rw [List.cons_append, skipSpace_gap_cons hg rfl]
    simp only [List.append_assoc, List.singleton_append]
    rw [characters_spells h, ok_bind_eq, String.ofList_toList]
    rfl

theorem readBool_literal (hg : Gap g) {b : Bool} (ht : BoolForm b t) :
    readBool (g ++ (t ++ rest)) = .ok (b, rest) := by
  unfold readBool
  cases ht with
  | true =>
    rw [List.cons_append, skipSpace_gap_cons hg rfl]
    rfl
  | false =>
    rw [List.cons_append, skipSpace_gap_cons hg rfl]
    rfl

/-- No digit is a blank. -/
theorem isSpace_of_isDigit {c : Char} (h : c.isDigit = true) : isSpace c = false := by
  rw [Bool.eq_false_iff]
  intro hspace
  have hall : ∀ c ∈ [' ', '\n', '\t', '\r'], (!c.isDigit) = true := List.all_eq_true.1 rfl
  have hc := hall c (isSpace_iff.1 hspace)
  rw [h] at hc
  cases hc

theorem natural_head {n : Nat} (ht : Natural n t) : ∃ c u, t = c :: u ∧ c.isDigit = true := by
  subst ht
  obtain ⟨c, u, hcu⟩ := List.exists_cons_of_ne_nil (Nat.toDigits_ne_nil (n := n) (b := 10))
  exact ⟨c, u, hcu, Text.isDigit_of_mem_toDigits (n := n) c (hcu ▸ List.mem_cons_self)⟩

theorem readBelow_natural (hg : Gap g) {n bound : Nat} (hn : n < bound)
    (hbound : bound ≤ UInt64.size) (ht : Natural n t) (hrest : Stops rest) :
    readBelow bound (g ++ (t ++ rest)) = .ok (n, rest) := by
  have hread : number (t ++ rest) = .ok (⟨false, t, none, none⟩, rest) := by
    rw [ht]
    exact number_toDigits (Nat.lt_of_lt_of_le hn hbound) hrest
  obtain ⟨c, u, rfl, hc⟩ := natural_head ht
  have hvalue : Decimal.natOf (c :: u) = n := by rw [ht, natOf_toDigits]
  rw [List.cons_append] at hread ⊢
  unfold readBelow
  rw [skipSpace_gap_cons hg (isSpace_of_isDigit hc)]
  dsimp only
  rw [if_pos (by rw [hc, Bool.or_true]), hread, ok_bind_eq]
  dsimp only
  rw [hvalue, if_neg (by simpa using hn)]

/-- A value that is not missing does not begin like null. -/
theorem readOptional_form {α : Type} {read : Reader α} {form : α → List Char → Prop}
    (hg : Gap g) {a : Option α} (ht : OptionForm form a t)
    (hread : ∀ x, a = some x → form x t → read (t ++ rest) = .ok (x, rest))
    (hhead : ∀ x, form x t → ∃ c u, t = c :: u ∧ c ≠ 'n' ∧ isSpace c = false) :
    readOptional read (g ++ (t ++ rest)) = .ok (a, rest) := by
  cases ht with
  | none =>
    unfold readOptional
    rw [List.cons_append, skipSpace_gap_cons hg rfl]
    rfl
  | @some x _ h =>
    obtain ⟨c, u, rfl, hne, hspace⟩ := hhead x h
    have hvalue := hread x rfl h
    rw [List.cons_append] at hvalue ⊢
    unfold readOptional
    rw [skipSpace_gap_cons hg hspace]
    split
    · next heq => exact absurd (List.cons.inj heq).1 hne
    · rw [hvalue]
      rfl

theorem readOptional_literal (hg : Gap g) {s : Option String} (ht : OptionForm Literal s t) :
    readOptional readText (g ++ (t ++ rest)) = .ok (s, rest) := by
  refine readOptional_form hg ht (fun x _ h => ?_) fun x h => ?_
  · exact readText_literal (g := []) gap_nil h
  · cases h
    exact ⟨_, _, rfl, by decide, rfl⟩

theorem readOptional_natural (hg : Gap g) {n : Option Nat} {bound : Nat}
    (hn : ∀ k, n = some k → k < bound) (hbound : bound ≤ UInt64.size)
    (ht : OptionForm Natural n t) (hrest : Stops rest) :
    readOptional (readBelow bound) (g ++ (t ++ rest)) = .ok (n, rest) := by
  refine readOptional_form hg ht (fun k hk h => ?_) fun k h => ?_
  · exact readBelow_natural (g := []) gap_nil (hn k hk) hbound h hrest
  · obtain ⟨c, u, rfl, hc⟩ := natural_head h
    refine ⟨c, u, rfl, ?_, isSpace_of_isDigit hc⟩
    rintro rfl
    exact absurd hc (by decide)

/-! ## Skipped values -/

theorem Number.head (ht : Number t) : ∃ c u, t = c :: u ∧ (c = '-' ∨ c.isDigit = true) := by
  cases ht with
  | mk hsign hwhole =>
    rcases List.mem_cons.1 hsign with rfl | hsign
    · cases hwhole with
      | zero => exact ⟨_, _, rfl, .inr rfl⟩
      | positive _ h => exact ⟨_, _, rfl, .inr (h.2 _ List.mem_cons_self)⟩
    · obtain rfl := List.mem_singleton.1 hsign
      exact ⟨_, _, rfl, .inl rfl⟩

/-- A number begins with none of the characters that other values begin with. -/
theorem ne_of_numberHead {c d : Char} (hc : c = '-' ∨ c.isDigit = true)
    (hd : (d != '-' && !d.isDigit) = true) : c ≠ d := by
  rintro rfl
  rcases hc with rfl | hc
  · cases hd
  · rw [hc, Bool.not_true, Bool.and_false] at hd
    cases hd

theorem isSpace_of_numberHead {c : Char} (hc : c = '-' ∨ c.isDigit = true) : isSpace c = false := by
  rcases hc with rfl | hc
  · rfl
  · exact isSpace_of_isDigit hc

theorem skipScalar_scalar (ht : Scalar t) (hrest : Stops rest) :
    skipScalar (t ++ rest) = .ok rest := by
  cases ht with
  | null => rfl
  | bool h => cases h <;> rfl
  | text h =>
    obtain ⟨s, hs⟩ := characters_skip h rest
    rw [List.cons_append, List.append_assoc, List.singleton_append, skipScalar, hs]
    rfl
  | number h =>
    obtain ⟨n, hn⟩ := numeral_form .illFormed h hrest
    obtain ⟨c, u, rfl, hc⟩ := h.head
    rw [List.cons_append] at hn ⊢
    have hhead : ∀ d ∈ ['n', 't', 'f', '"'], (d != '-' && !d.isDigit) = true :=
      List.all_eq_true.1 rfl
    rw [skipScalar]
    · rw [if_pos (by simpa using hc), hn]
      rfl
    all_goals exact ne_of_numberHead hc (hhead _ (by simp))

/-- A scalar begins with a character that opens no container and is no blank. -/
theorem Scalar.head (ht : Scalar t) :
    ∃ c u, t = c :: u ∧ isSpace c = false ∧ c ≠ '[' ∧ c ≠ '\x7b' := by
  cases ht with
  | null => exact ⟨_, _, rfl, by decide, by decide, by decide⟩
  | bool h => cases h <;> exact ⟨_, _, rfl, by decide, by decide, by decide⟩
  | text => exact ⟨_, _, rfl, by decide, by decide, by decide⟩
  | number h =>
    obtain ⟨c, u, rfl, hc⟩ := h.head
    exact ⟨c, u, rfl, isSpace_of_numberHead hc, ne_of_numberHead hc rfl, ne_of_numberHead hc rfl⟩

/-- A value without parts is skipped in whatever form. -/
theorem skipValue_scalar (hg : Gap g) (ht : Scalar t) (hrest : Stops rest) :
    skipValue (g ++ (t ++ rest)) = .ok rest := by
  have hskip := skipScalar_scalar ht hrest
  obtain ⟨c, u, rfl, hspace, hbracket, hbrace⟩ := ht.head
  rw [List.cons_append] at hskip ⊢
  unfold skipValue skipWithin
  rw [skipSpace_gap_cons hg hspace]
  split
  · next heq => exact absurd (List.cons.inj heq).1 hbracket
  · next heq => exact absurd (List.cons.inj heq).1 hbrace
  · rw [hskip, ok_bind_eq]
    cases (g ++ c :: (u ++ rest)).length <;> rfl

end

end SqlCompose.Json
