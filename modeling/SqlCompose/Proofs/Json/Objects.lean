import SqlCompose.Json.Record
import SqlCompose.Proofs.Json.Grammar

/-!
# The grammar of objects and records

`ObjectForm` writes a list of items as the members of an object, `RecordForm.Writes` the fields of a
record: in any order, each under any of its names, optional ones left out and members with other
names put in. Both are read member by member; what is read so far and what is still to come make the
invariant (`readMembers_tail`), and a record is read from each of its forms (`Record.parse_writes`).
-/

namespace SqlCompose.Json

/-! ## Objects -/

/-- A member of an object: its name, the colon and its value. -/
inductive MemberForm (name : String) (value : List Char → Prop) : List Char → Prop
  | mk {g₁ n g₂ g₃ v : List Char} (hg₁ : Gap g₁) (hn : Literal name n) (hg₂ : Gap g₂)
    (hg₃ : Gap g₃) (hv : value v) :
    MemberForm name value (g₁ ++ (n ++ (g₂ ++ ':' :: (g₃ ++ v))))

/-- A member whose name needs no escape, without blanks. -/
theorem memberForm_plain {name : String} {value : List Char → Prop} {v : List Char}
    (hname : name.toList.all isPlain = true) (hv : value v) :
    MemberForm name value ('"' :: (name.toList ++ ['"']) ++ ':' :: v) :=
  .mk gap_nil (literal_plain hname) gap_nil gap_nil hv

section
variable {μ : Type} (name : μ → String) (value : μ → List Char → Prop)

/-- The members behind a value, each with its comma, and the closing brace. -/
inductive TailForm : List μ → List Char → Prop
  | close {g : List Char} (hg : Gap g) : TailForm [] (g ++ ['\x7d'])
  | member {g t ts : List Char} {m : μ} {ms : List μ} (hg : Gap g)
    (ht : MemberForm (name m) (value m) t) (hts : TailForm ms ts) :
    TailForm (m :: ms) (g ++ ',' :: (t ++ ts))

/-- The items as an object, in this order. -/
inductive ObjectForm : List μ → List Char → Prop
  | empty {g : List Char} (hg : Gap g) : ObjectForm [] ('\x7b' :: (g ++ ['\x7d']))
  | members {t ts : List Char} {m : μ} {ms : List μ} (ht : MemberForm (name m) (value m) t)
    (hts : TailForm name value ms ts) : ObjectForm (m :: ms) ('\x7b' :: (t ++ ts))

variable {name value} {ms : List μ} {t rest : List Char}

theorem TailForm.length (h : TailForm name value ms t) : ms.length < t.length := by
  induction h with
  | close => simp
  | member _ _ _ ih =>
    simp only [List.length_cons, List.length_append]
    omega

/-- A number does not go on into what stands behind a value. -/
theorem TailForm.stops (h : TailForm name value ms t) (rest : List Char) : Stops (t ++ rest) := by
  cases h with
  | close hg =>
    rw [List.append_assoc]
    exact stops_mark hg (by simp) _
  | member hg _ _ =>
    rw [List.append_assoc]
    exact stops_mark hg (by simp) _

/-- The values of an object are shorter than its text. -/
theorem TailForm.shorter {n : Nat} (h : TailForm name value ms t) (hn : t.length ≤ n) :
    TailForm name (fun m v => value m v ∧ v.length < n) ms t := by
  induction h with
  | close hg => exact .close hg
  | @member g t ts m ms hg ht _ ih =>
    simp only [List.length_append, List.length_cons] at hn
    cases ht with
    | mk hg₁ hname hg₂ hg₃ hv =>
      simp only [List.length_append, List.length_cons] at hn
      exact .member hg (.mk hg₁ hname hg₂ hg₃ ⟨hv, by omega⟩) (ih (by omega))

theorem ObjectForm.shorter (h : ObjectForm name value ms t) :
    ObjectForm name (fun m v => value m v ∧ v.length < t.length) ms t := by
  cases h with
  | empty hg => exact .empty hg
  | members ht hts =>
    cases ht with
    | mk hg₁ hname hg₂ hg₃ hv =>
      refine .members (.mk hg₁ hname hg₂ hg₃ ⟨hv, ?_⟩) (hts.shorter ?_) <;>
      · simp only [List.length_append, List.length_cons]
        omega

/-! ## Reading members -/

theorem nextMember_close {first : Bool} {g : List Char} (hg : Gap g) :
    nextMember first (g ++ '\x7d' :: rest) = .ok (none, rest) := by
  unfold nextMember
  rw [skipSpace_gap_cons hg rfl]
  rfl

/-- The name of the first member is found behind the brace. -/
theorem nextMember_first {g n : List Char} {s : String} (hg : Gap g) (hn : Literal s n) :
    nextMember true (g ++ (n ++ rest)) = .ok (some (s, rest), rest) := by
  cases hn with
  | @mk body h =>
    unfold nextMember
    rw [List.cons_append, skipSpace_gap_cons hg rfl, List.append_assoc, List.singleton_append]
    show (characters false (body ++ '"' :: rest) >>= _) = _
    rw [characters_spells h]
    show Except.ok (some (String.ofList s.toList, rest), rest) = _
    rw [String.ofList_toList]

/-- The name of a further member is found behind the comma. -/
theorem nextMember_next {g g' n : List Char} {s : String} (hg : Gap g) (hg' : Gap g')
    (hn : Literal s n) :
    nextMember false (g ++ ',' :: (g' ++ (n ++ rest))) = .ok (some (s, rest), rest) := by
  cases hn with
  | @mk body h =>
    have hname : skipSpace (g' ++ '"' :: (body ++ '"' :: rest)) = '"' :: (body ++ '"' :: rest) :=
      skipSpace_gap_cons hg' rfl _
    unfold nextMember
    rw [skipSpace_gap_cons hg rfl, List.cons_append, List.append_assoc, List.singleton_append]
    split
    · next heq => exact absurd (List.cons.inj heq).1 (by decide)
    · next heq => cases heq
    · next heq =>
      obtain ⟨rfl, rfl⟩ := List.cons.inj heq
      dsimp only
      rw [if_neg (by decide), if_pos rfl, hname]
      show (characters false (body ++ '"' :: rest) >>= _) = _
      rw [characters_spells h]
      show Except.ok (some (String.ofList s.toList, rest), rest) = _
      rw [String.ofList_toList]

/-- A member is read into what was read before; `P` holds before it, of the members still to come
and of what was read, and behind it. -/
def ReadsMembers {σ : Type} (name : μ → String) (value : μ → List Char → Prop)
    (member : String → σ → Reader σ) (P : List μ → σ → Prop) : Prop :=
  ∀ {m ms s g₁ g₂ v rest}, P (m :: ms) s → Gap g₁ → Gap g₂ → value m v → Stops rest →
    ∃ s', member (name m) s (g₁ ++ ':' :: (g₂ ++ (v ++ rest))) = .ok (s', rest) ∧ P ms s'

variable {σ : Type} {member : String → σ → Reader σ} {P : List μ → σ → Prop}

theorem readMembers_close {fuel : Nat} {first : Bool} {s : σ} {cs : List Char}
    (h : nextMember first cs = .ok (none, rest)) :
    readMembers member (fuel + 1) first s cs = .ok (s, rest) := by
  show (nextMember first cs >>= _) = _
  rw [h]
  rfl

theorem readMembers_member {fuel : Nat} {first : Bool} {s s' : σ} {n : String}
    {cs cs' cs'' behind : List Char} (h : nextMember first cs = .ok (some (n, cs'), behind))
    (hread : member n s cs' = .ok (s', cs'')) :
    readMembers member (fuel + 1) first s cs = readMembers member fuel false s' cs'' := by
  show (nextMember first cs >>= _) = _
  rw [h]
  show (member n s cs' >>= _) = _
  rw [hread]
  rfl

theorem readMembers_tail (hmember : ReadsMembers name value member P)
    (ht : TailForm name value ms t) {fuel : Nat} (hfuel : ms.length < fuel) {s : σ} (hs : P ms s) :
    ∃ s', readMembers member fuel false s (t ++ rest) = .ok (s', rest) ∧ P [] s' := by
  induction ht generalizing fuel s with
  | close hg =>
    obtain ⟨fuel, rfl⟩ : ∃ k, fuel = k + 1 := ⟨fuel - 1, by omega⟩
    refine ⟨s, ?_, hs⟩
    rw [List.append_assoc]
    exact readMembers_close (nextMember_close hg)
  | @member g t ts m ms hg ht hts ih =>
    obtain ⟨fuel, rfl⟩ : ∃ k, fuel = k + 1 := ⟨fuel - 1, by omega⟩
    cases ht with
    | @mk g₁ n g₂ g₃ v hg₁ hn hg₂ hg₃ hv =>
      obtain ⟨s', hread, hs'⟩ := hmember hs hg₂ hg₃ hv (hts.stops rest)
      obtain ⟨s'', hrest, hs''⟩ := ih (Nat.lt_of_succ_lt_succ hfuel) hs'
      refine ⟨s'', ?_, hs''⟩
      simp only [List.append_assoc, List.cons_append]
      rw [readMembers_member (nextMember_next hg hg₁ hn) hread]
      exact hrest

/-- An object has less members than characters. -/
theorem ObjectForm.length (h : ObjectForm name value ms ('\x7b' :: t)) : ms.length ≤ t.length := by
  cases h with
  | empty => exact Nat.zero_le _
  | members _ hts =>
    have hlength := hts.length
    simp only [List.length_cons, List.length_append]
    omega

theorem ObjectForm.head (h : ObjectForm name value ms t) : ∃ u, t = '\x7b' :: u := by
  cases h with
  | empty | members => exact ⟨_, rfl⟩

/-- The members of an object are read one after the other. -/
theorem readMembers_object (rest : List Char) (hmember : ReadsMembers name value member P)
    (ht : ObjectForm name value ms ('\x7b' :: t)) {s : σ} (hs : P ms s) :
    ∃ s', readMembers member ((t ++ rest).length + 1) true s (t ++ rest) = .ok (s', rest) ∧
      P [] s' := by
  have hfuel : ms.length ≤ (t ++ rest).length := by
    have hlength := ht.length
    rw [List.length_append]
    omega
  cases ht with
  | empty hg =>
    refine ⟨s, ?_, hs⟩
    rw [List.append_assoc]
    exact readMembers_close (nextMember_close hg)
  | @members t ts m ms ht hts =>
    cases ht with
    | @mk g₁ n g₂ g₃ v hg₁ hn hg₂ hg₃ hv =>
      obtain ⟨s', hread, hs'⟩ := hmember hs hg₂ hg₃ hv (hts.stops rest)
      obtain ⟨s'', hrest, hs''⟩ := readMembers_tail hmember hts (Nat.lt_of_succ_le hfuel) hs'
      refine ⟨s'', ?_, hs''⟩
      simp only [List.append_assoc, List.cons_append] at hrest ⊢
      rw [readMembers_member (nextMember_first hg₁ hn) hread]
      exact hrest

/-- The entries of a map are read one after the other. -/
theorem readMap_object {entry : String → σ → Reader σ}
    (hentry : ∀ {m ms s g v rest}, P (m :: ms) s → Gap g → value m v → Stops rest →
      ∃ s', entry (name m) s (g ++ (v ++ rest)) = .ok (s', rest) ∧ P ms s')
    {g : List Char} (hg : Gap g) (ht : ObjectForm name value ms t) {s : σ} (hs : P ms s) :
    ∃ s', readMap entry s (g ++ (t ++ rest)) = .ok (s', rest) ∧ P [] s' := by
  have hmember : ReadsMembers name value (fun n s cs => do
      let cs ← colon cs
      entry n s cs) P := by
    intro m ms s g₁ g₂ v rest hP hg₁ hg₂ hv hrest
    obtain ⟨s', hread, hs'⟩ := hentry hP hg₂ hv hrest
    refine ⟨s', ?_, hs'⟩
    show (colon (g₁ ++ ':' :: (g₂ ++ (v ++ rest))) >>= _) = _
    rw [colon_gap hg₁]
    exact hread
  obtain ⟨u, rfl⟩ := ht.head
  unfold readMap
  rw [List.cons_append, skipSpace_gap_cons hg rfl]
  exact readMembers_object rest hmember ht hs

end

/-! ## Records -/

/-- How the fields of a record may be written. -/
structure RecordForm (ι : Type) where
  /-- The names of a field, each as good as the others. -/
  names : ι → List String
  value : ι → List Char → Prop
  /-- The field may be left out. -/
  optional : ι → Prop

namespace RecordForm

variable {ι : Type} (F : RecordForm ι)

/-- The value of a member: that of the field with the name, or any scalar if no field has it. -/
def MemberValue (name : String) (t : List Char) : Prop :=
  (∃ i, name ∈ F.names i ∧ F.value i t) ∨ (∀ i, name ∉ F.names i) ∧ Scalar t

/-- The record as an object: members in any order, no field twice, and none missing that must
occur. -/
def Writes (t : List Char) : Prop :=
  ∃ names : List String, ObjectForm id F.MemberValue names t ∧
    names.Pairwise (fun a b => ∀ i, ¬(a ∈ F.names i ∧ b ∈ F.names i)) ∧
    ∀ i, (∀ n ∈ names, n ∉ F.names i) → F.optional i

end RecordForm

namespace Record

variable {ι σ : Type} {r : Record ι σ} {F : RecordForm ι} {give : ι → σ → σ}

/-- A record reads each field of a form, under all its names; `give` puts a field as it was written
in the place of another. -/
structure Decodes (r : Record ι σ) (F : RecordForm ι) (give : ι → σ → σ) : Prop where
  named : ∀ {name i}, r.named name = some i ↔ name ∈ F.names i
  read : ∀ {i s g v rest}, Gap g → F.value i v → Stops rest →
    r.read i s (g ++ (v ++ rest)) = .ok (give i s, rest)
  idem : ∀ i s, give i (give i s) = give i s
  comm : ∀ i j s, give i (give j s) = give j (give i s)

/-- What holds while a record is read, before the members of the names. -/
structure Pending (F : RecordForm ι) (give : ι → σ → σ) (names : List String)
    (d : Draft ι σ) : Prop where
  agreed : ∀ i, i ∈ d.seen ∨ F.optional i → give i d.value = d.value
  complete : ∀ i, i ∈ d.seen ∨ F.optional i ∨ ∃ n ∈ names, n ∈ F.names i
  fresh : ∀ i ∈ d.seen, ∀ n ∈ names, n ∉ F.names i
  distinct : names.Pairwise fun a b => ∀ i, ¬(a ∈ F.names i ∧ b ∈ F.names i)

/-- A member of a field. -/
theorem Pending.field (h : r.Decodes F give) {n : String} {names : List String} {d : Draft ι σ}
    (hd : Pending F give (n :: names) d) {i : ι} (hn : n ∈ F.names i) :
    Pending F give names ⟨i :: d.seen, give i d.value⟩ where
  agreed j hj := by
    by_cases hji : j = i
    · rw [hji]
      exact h.idem i d.value
    · have hold : j ∈ d.seen ∨ F.optional j :=
        hj.imp_left fun hj => (List.mem_cons.1 hj).resolve_left hji
      show give j (give i d.value) = give i d.value
      rw [h.comm, hd.agreed j hold]
  complete j := by
    rcases hd.complete j with hj | hj | ⟨n', hmem, hn'⟩
    · exact .inl (List.mem_cons_of_mem _ hj)
    · exact .inr (.inl hj)
    · rcases List.mem_cons.1 hmem with rfl | hmem
      · have hij : some i = some j := (h.named.2 hn).symm.trans (h.named.2 hn')
        obtain rfl := Option.some.inj hij
        exact .inl List.mem_cons_self
      · exact .inr (.inr ⟨n', hmem, hn'⟩)
  fresh j hj n' hmem hn' := by
    rcases List.mem_cons.1 hj with rfl | hj
    · exact (List.pairwise_cons.1 hd.distinct).1 n' hmem j ⟨hn, hn'⟩
    · exact hd.fresh j hj n' (List.mem_cons_of_mem _ hmem) hn'
  distinct := (List.pairwise_cons.1 hd.distinct).2

/-- A member of no field. -/
theorem Pending.extra {n : String} {names : List String} {d : Draft ι σ}
    (hd : Pending F give (n :: names) d) (hn : ∀ i, n ∉ F.names i) : Pending F give names d where
  agreed := hd.agreed
  complete j := by
    rcases hd.complete j with hj | hj | ⟨n', hmem, hn'⟩
    · exact .inl hj
    · exact .inr (.inl hj)
    · rcases List.mem_cons.1 hmem with rfl | hmem
      · exact absurd hn' (hn j)
      · exact .inr (.inr ⟨n', hmem, hn'⟩)
  fresh j hj n' hmem := hd.fresh j hj n' (List.mem_cons_of_mem _ hmem)
  distinct := (List.pairwise_cons.1 hd.distinct).2

variable [DecidableEq ι]

theorem readsMembers (h : r.Decodes F give) :
    ReadsMembers id F.MemberValue r.readMember (Pending F give) := by
  intro n names d g₁ g₂ v rest hd hg₁ hg₂ hv hrest
  rcases hv with ⟨i, hn, hv⟩ | ⟨hn, hv⟩
  · have hnew : i ∉ d.seen := fun hseen => hd.fresh i hseen n List.mem_cons_self hn
    refine ⟨⟨i :: d.seen, give i d.value⟩, ?_, hd.field h hn⟩
    unfold readMember
    rw [id, h.named.2 hn]
    dsimp only
    rw [if_neg hnew, colon_gap hg₁, ok_bind_eq, h.read hg₂ hv hrest]
    rfl
  · have hnone : r.named n = none := by
      cases hname : r.named n with
      | none => rfl
      | some i => exact absurd (h.named.1 hname) (hn i)
    refine ⟨d, ?_, hd.extra hn⟩
    unfold readMember
    rw [id, hnone]
    dsimp only
    rw [colon_gap hg₁, ok_bind_eq, skipValue_scalar hg₂ hv hrest]
    rfl

/-- **A record is read from each of its forms.** -/
theorem parse_writes (h : r.Decodes F give) {required : List ι} {start target : σ}
    (hrequired : ∀ i ∈ required, ¬F.optional i) (hstart : ∀ i, F.optional i → give i start = start)
    (htarget : ∀ s, (∀ i, give i s = s) → s = target) {g t rest : List Char} (hg : Gap g)
    (ht : F.Writes t) : r.parse required start (g ++ (t ++ rest)) = .ok (target, rest) := by
  obtain ⟨names, hobject, hdistinct, hcomplete⟩ := ht
  have hpending : Pending F give names ⟨[], start⟩ := by
    refine ⟨fun i hi => hstart i (hi.resolve_left List.not_mem_nil), fun i => .inr ?_, nofun,
      hdistinct⟩
    by_cases hi : ∃ n ∈ names, n ∈ F.names i
    · exact .inr hi
    · exact .inl (hcomplete i fun n hn hname => hi ⟨n, hn, hname⟩)
  obtain ⟨u, rfl⟩ := hobject.head
  obtain ⟨d, hread, hd⟩ := readMembers_object rest (readsMembers h) hobject hpending
  have hall : required.all (· ∈ d.seen) = true := by
    rw [List.all_eq_true]
    intro i hi
    rcases hd.complete i with hseen | hoptional | ⟨n, hn, -⟩
    · exact decide_eq_true hseen
    · exact absurd hoptional (hrequired i hi)
    · cases hn
  have hvalue : d.value = target := by
    refine htarget d.value fun i => hd.agreed i ?_
    rcases hd.complete i with hseen | hoptional | ⟨n, hn, -⟩
    · exact .inl hseen
    · exact .inr hoptional
    · cases hn
  unfold parse
  rw [List.cons_append, skipSpace_gap_cons hg rfl]
  show (readMembers r.readMember ((u ++ rest).length + 1) true ⟨[], start⟩ (u ++ rest) >>= _) = _
  rw [hread, ok_bind_eq]
  dsimp only
  rw [if_pos hall, hvalue]

end Record

end SqlCompose.Json
