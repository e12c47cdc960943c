import SqlCompose.Row
import Mathlib.Data.Finset.Card

/-!
# Rows keep the order of insertion

A row is made by insertions one after the other (`Row.insertAll`). What it shows of them is `Holds`:
its columns are those that were inserted, each once, in the order in which they first came, with the
values that came last. One insertion keeps this (`Holds.insert`) and leaves all other columns where
and what they are (`sameButFor_insert`); by induction over the insertions every row has it
(`insertion_ordered`). A row is also made by the insertion of its own entries.
-/

namespace SqlCompose

/-! ## One insertion into a list of entries -/

section
variable {column other : String} {value w : Value} {es : List (String × Value)}

theorem upsert_of_notMem (h : column ∉ es.map Prod.fst) :
    upsert column value es = es ++ [(column, value)] := by
  induction es with
  | nil => rfl
  | cons e es ih =>
    obtain ⟨name, old⟩ := e
    rw [List.map_cons, List.mem_cons, not_or] at h
    rw [upsert, if_neg (Ne.symm h.1), ih h.2, List.cons_append]

theorem find?_upsert_self :
    (upsert column value es).find? (·.1 = column) = some (column, value) := by
  induction es with
  | nil => simp [upsert]
  | cons e es ih =>
    obtain ⟨name, old⟩ := e
    by_cases hname : name = column
    · simp [upsert, hname]
    · simpa [upsert, hname] using ih

theorem find?_upsert_of_ne (h : other ≠ column) :
    (upsert column value es).find? (·.1 = other) = es.find? (·.1 = other) := by
  induction es with
  | nil => simp [upsert, Ne.symm h]
  | cons e es ih =>
    obtain ⟨name, old⟩ := e
    by_cases hname : name = column
    · simp [upsert, hname, Ne.symm h]
    · rw [upsert, if_neg hname, List.find?_cons, List.find?_cons, ih]

/-- Entries of other columns stand where they stood. -/
theorem getElem?_upsert_eq_iff (h : other ≠ column) {i : Nat} :
    (upsert column value es)[i]? = some (other, w) ↔ es[i]? = some (other, w) := by
  induction es generalizing i with
  | nil => cases i <;> simp [upsert, Ne.symm h]
  | cons e es ih =>
    obtain ⟨name, old⟩ := e
    by_cases hname : name = column
    · cases i <;> simp [upsert, hname, Ne.symm h]
    · rw [upsert, if_neg hname]
      cases i with
      | zero => rfl
      | succ i => exact ih

end

namespace Row

variable {r : Row} {column other : String} {value : Value} {pairs past : List (String × Value)}

theorem ext_entries {r s : Row} (h : r.entries = s.entries) : r = s := by
  cases r
  cases s
  cases h
  rfl

/-! ## One insertion into a row -/

theorem columns_insert : (r.insert column value).columns =
    if column ∈ r.columns then r.columns else r.columns ++ [column] :=
  map_fst_upsert column value r.entries

theorem get?_insert_self : (r.insert column value).get? column = some value := by
  unfold get? insert
  rw [find?_upsert_self]
  rfl

theorem get?_insert_of_ne (h : other ≠ column) :
    (r.insert column value).get? other = r.get? other :=
  congrArg (Option.map Prod.snd) (find?_upsert_of_ne h)

/-- The rows have the same entries at the same places, those of one column apart. -/
def SameButFor (column : String) (r s : Row) : Prop :=
  ∀ (i : Nat) (other : String) (w : Value), other ≠ column →
    (s.entries[i]? = some (other, w) ↔ r.entries[i]? = some (other, w))

theorem sameButFor_insert (r : Row) (column : String) (value : Value) :
    SameButFor column r (r.insert column value) :=
  fun _ _ _ h => getElem?_upsert_eq_iff h

/-! ## All insertions -/

/-- The row with the pairs inserted one after the other. -/
def insertAll (r : Row) (pairs : List (String × Value)) : Row :=
  pairs.foldl (fun r p => r.insert p.1 p.2) r

theorem ofList_eq_insertAll (pairs : List (String × Value)) :
    ofList pairs = empty.insertAll pairs := rfl

/-- What a row shows of the insertions that made it: the columns that were inserted, each once and
in the order of the first insertions, with the values of the last ones. -/
structure Holds (r : Row) (pairs : List (String × Value)) : Prop where
  distinct : r.columns.Nodup
  inserted : ∀ column, column ∈ r.columns ↔ column ∈ pairs.map Prod.fst
  order : r.columns.Pairwise fun a b =>
    (pairs.map Prod.fst).idxOf a < (pairs.map Prod.fst).idxOf b
  get : ∀ column, r.get? column = (pairs.filter (·.1 = column)).getLast?.map Prod.snd
  size : r.size = (pairs.map Prod.fst).toFinset.card
  /-- The views of a row agree entry by entry. -/
  views : r.columns.length = r.size ∧ r.values.length = r.size ∧
    r.columns.zip r.values = r.entries

theorem size_eq_card (h : ∀ column, column ∈ r.columns ↔ column ∈ pairs.map Prod.fst) :
    r.size = (pairs.map Prod.fst).toFinset.card := by
  have hsame : r.columns.toFinset = (pairs.map Prod.fst).toFinset := by
    ext column
    rw [List.mem_toFinset, List.mem_toFinset, h column]
  have hcard : r.columns.toFinset.card = r.columns.length := List.toFinset_card_of_nodup r.nodup
  have hlength : r.columns.length = r.size := List.length_map _
  rw [← hsame, hcard, hlength]

theorem zip_columns_values (r : Row) : r.columns.zip r.values = r.entries := by
  unfold columns values
  rw [List.zip_map', List.map_id'']
  exact fun _ => rfl

namespace Holds

theorem of_core (hinserted : ∀ column, column ∈ r.columns ↔ column ∈ pairs.map Prod.fst)
    (horder : r.columns.Pairwise fun a b =>
      (pairs.map Prod.fst).idxOf a < (pairs.map Prod.fst).idxOf b)
    (hget : ∀ column, r.get? column = (pairs.filter (·.1 = column)).getLast?.map Prod.snd) :
    r.Holds pairs where
  distinct := r.nodup
  inserted := hinserted
  order := horder
  get := hget
  size := size_eq_card hinserted
  views := ⟨List.length_map _, List.length_map _, r.zip_columns_values⟩

theorem empty : Row.empty.Holds [] :=
  of_core (fun _ => Iff.rfl) .nil fun _ => rfl

/-- A column that comes for the first time comes behind all others. -/
theorem order_insert (h : r.Holds pairs) :
    (r.insert column value).columns.Pairwise fun a b =>
      (pairs.map Prod.fst ++ [column]).idxOf a < (pairs.map Prod.fst ++ [column]).idxOf b := by
  have hold : ∀ a ∈ r.columns,
      (pairs.map Prod.fst ++ [column]).idxOf a = (pairs.map Prod.fst).idxOf a := fun a ha =>
    List.idxOf_append_of_mem ((h.inserted a).1 ha)
  have hkept : r.columns.Pairwise fun a b =>
      (pairs.map Prod.fst ++ [column]).idxOf a < (pairs.map Prod.fst ++ [column]).idxOf b := by
    refine h.order.imp_of_mem fun {a b} ha hb hlt => ?_
    rw [hold a ha, hold b hb]
    exact hlt
  rw [columns_insert]
  split
  · exact hkept
  · next hnew =>
    have hlast : (pairs.map Prod.fst ++ [column]).idxOf column = (pairs.map Prod.fst).length := by
      rw [List.idxOf_append_of_notMem (mt (h.inserted column).2 hnew), List.idxOf_cons_self,
        Nat.add_zero]
    refine List.pairwise_append.2 ⟨hkept, List.pairwise_singleton _ _, fun a ha b hb => ?_⟩
    obtain rfl := List.mem_singleton.1 hb
    rw [hold a ha, hlast]
    exact List.idxOf_lt_length_of_mem ((h.inserted a).1 ha)

/-- One more insertion is shown as well. -/
theorem insert (h : r.Holds pairs) (column : String) (value : Value) :
    (r.insert column value).Holds (pairs ++ [(column, value)]) := by
  have hnames : (pairs ++ [(column, value)]).map Prod.fst = pairs.map Prod.fst ++ [column] :=
    List.map_append
  refine of_core (fun other => ?_) ?_ fun other => ?_
  · rw [hnames, List.mem_append, List.mem_singleton, ← h.inserted, columns_insert]
    split
    · next hc => exact ⟨.inl, fun ho => ho.elim id fun ho => ho ▸ hc⟩
    · rw [List.mem_append, List.mem_singleton]
  · rw [hnames]
    exact h.order_insert
  · rw [List.filter_append]
    by_cases hother : other = column
    · subst hother
      simp [get?_insert_self]
    · simp [get?_insert_of_ne hother, h.get other, Ne.symm hother]

/-- Insertions into a row are shown behind those that made it. -/
theorem insertAll (h : r.Holds past) (pairs : List (String × Value)) :
    (r.insertAll pairs).Holds (past ++ pairs) := by
  induction pairs generalizing r past with
  | nil =>
    rw [List.append_nil]
    exact h
  | cons p pairs ih =>
    rw [List.append_cons]
    exact ih (h.insert p.1 p.2)

end Holds

/-! ## The entries of a row -/

theorem entries_insertAll (h : ((r.entries ++ pairs).map Prod.fst).Nodup) :
    (r.insertAll pairs).entries = r.entries ++ pairs := by
  induction pairs generalizing r with
  | nil => exact (List.append_nil _).symm
  | cons p pairs ih =>
    have hnew : p.1 ∉ r.entries.map Prod.fst := by
      rw [List.map_append, List.map_cons] at h
      exact fun hp => (List.nodup_append.1 h).2.2 p.1 hp p.1 List.mem_cons_self rfl
    have hinsert : (r.insert p.1 p.2).entries = r.entries ++ [p] := upsert_of_notMem hnew
    have hrest := ih (r := r.insert p.1 p.2) (by rwa [hinsert, ← List.append_cons])
    rw [hinsert, ← List.append_cons] at hrest
    exact hrest

/-- The entries of a row make it again. -/
theorem ofList_entries (r : Row) : ofList r.entries = r := by
  refine ext_entries ?_
  rw [ofList_eq_insertAll]
  exact entries_insertAll r.nodup

/-- **Rows keep the order of insertion.** A row that is made of pairs and of further insertions
shows both, one behind the other. No insertion moves or changes another column, and the entries of
the row make it again. -/
theorem insertion_ordered (pairs more : List (String × Value)) :
    let r := (ofList pairs).insertAll more
    r.Holds (pairs ++ more) ∧
      (∀ column value, SameButFor column r (r.insert column value)) ∧ ofList r.entries = r := by
  intro r
  have hmade : (ofList pairs).Holds pairs := Holds.empty.insertAll pairs
  exact ⟨hmade.insertAll more, r.sameButFor_insert, r.ofList_entries⟩

/-- The second value of `a` takes the place of the first. -/
example : ((ofList [("a", .int 1), ("b", .text "x")]).insertAll [("a", .int 5)]).columns =
    ["a", "b"] := by
  decide +kernel

end Row

end SqlCompose
