import SqlCompose.Query.Write
import SqlCompose.Proofs.Outcome

/-!
# INSERT takes the rectangular lists of rows

The rows of an INSERT make a rectangle: each has the columns of the first, in its order, and no
column of the first is blank (`IsRectangular`). Row by row that is `Fits`, and the rows are refused
for the first that does not fit (`toInsert_eq_error_iff`). The values of a rectangle stand in the
statement row behind row, so each is found by its row and its column and the rows can be cut out of
them again (`Inserts`). The main theorem is `insert_rectangular`.
-/

namespace SqlCompose

/-! ## Lists -/

section

variable {α : Type} {k i : Nat} {ls : List (List α)} {l : List α}

theorem length_flatten_uniform (h : ∀ l ∈ ls, l.length = k) :
    ls.flatten.length = ls.length * k := by
  rw [List.length_flatten, List.map_eq_replicate_iff.2 h, List.sum_replicate_nat]

/-- Lists of one length are found again in their concatenation. -/
theorem take_drop_flatten (h : ∀ l ∈ ls, l.length = k) (hl : ls[i]? = some l) :
    (ls.flatten.drop (i * k)).take k = l := by
  induction ls generalizing i with
  | nil => cases hl
  | cons l' ls ih =>
    obtain ⟨hLength, hLengths⟩ := List.forall_mem_cons.1 h
    cases i with
    | zero =>
      obtain rfl : l' = l := by simpa using hl
      rw [Nat.zero_mul, List.drop_zero, List.flatten_cons, ← hLength, List.take_left]
    | succ i =>
      rw [Nat.succ_mul, Nat.add_comm, ← List.drop_drop, List.flatten_cons,
        List.drop_left' hLength]
      exact ih hLengths hl

end

/-- The entry at an index is the first of a list that does not fit its place. -/
structure FirstMisfit {α : Type} (fits : Nat → α → Prop) (as : List α) (i : Nat) (a : α) :
    Prop where
  entry : as[i]? = some a
  misfit : ¬fits i a
  before : ∀ j < i, ∀ b, as[j]? = some b → fits j b

namespace FirstMisfit

variable {α : Type} {fits : Nat → α → Prop} {a b : α} {as : List α} {i : Nat}

theorem cons_zero_iff : FirstMisfit fits (a :: as) 0 b ↔ ¬fits 0 a ∧ b = a := by
  constructor
  · rintro ⟨hb, hfits, -⟩
    obtain rfl : a = b := by simpa using hb
    exact ⟨hfits, rfl⟩
  · rintro ⟨hfits, rfl⟩
    exact ⟨rfl, hfits, fun j hj => absurd hj (Nat.not_lt_zero j)⟩

theorem cons_succ_iff : FirstMisfit fits (a :: as) (i + 1) b ↔
    fits 0 a ∧ FirstMisfit (fun j => fits (j + 1)) as i b := by
  constructor
  · rintro ⟨hb, hfits, before⟩
    exact ⟨before 0 (Nat.succ_pos i) a rfl, hb, hfits,
      fun j hj => before (j + 1) (Nat.succ_lt_succ hj)⟩
  · rintro ⟨ha, hb, hfits, before⟩
    refine ⟨hb, hfits, fun j hj c hc => ?_⟩
    cases j with
    | zero =>
      obtain rfl : a = c := by simpa using hc
      exact ha
    | succ j => exact before j (Nat.lt_of_succ_lt_succ hj) c hc

/-- The first misfit of a list is its head or the first misfit behind a head that fits. -/
theorem exists_cons_iff {p : Nat → α → Prop} :
    (∃ i b, FirstMisfit fits (a :: as) i b ∧ p i b) ↔
      (¬fits 0 a ∧ p 0 a) ∨
        (fits 0 a ∧ ∃ i b, FirstMisfit (fun j => fits (j + 1)) as i b ∧ p (i + 1) b) := by
  constructor
  · rintro ⟨i, b, hb, hp⟩
    cases i with
    | zero =>
      obtain ⟨ha, rfl⟩ := cons_zero_iff.1 hb
      exact .inl ⟨ha, hp⟩
    | succ i =>
      obtain ⟨ha, hb⟩ := cons_succ_iff.1 hb
      exact .inr ⟨ha, i, b, hb, hp⟩
  · rintro (⟨ha, hp⟩ | ⟨ha, i, b, hb, hp⟩)
    · exact ⟨0, a, cons_zero_iff.2 ⟨ha, rfl⟩, hp⟩
    · exact ⟨i + 1, b, cons_succ_iff.2 ⟨ha, hb⟩, hp⟩

end FirstMisfit

namespace Query

/-! ## The rows -/

/-- The columns of an INSERT are those of its first row. -/
def columnsOf (rows : List (List (String × Value))) : List String := names (rows.headD [])

/-- No row is without columns, no column of the first is blank and the others have its columns. -/
def IsRectangular (rows : List (List (String × Value))) : Prop :=
  ∃ first rest, rows = first :: rest ∧ first ≠ [] ∧
    (∀ column ∈ names first, Text.allBlank column = false) ∧
    ∀ row ∈ rest, names row = names first

/-- Whether a row can stand at its index in an INSERT with the given columns. -/
def Fits (columns : List String) : Nat → List (String × Value) → Prop
  | 0, row => row ≠ [] ∧ ∀ column ∈ names row, Text.allBlank column = false
  | _ + 1, row => row ≠ [] ∧ names row = columns

/-- What is reported of a row that does not fit. -/
def fault (index : Nat) (row : List (String × Value)) : CompileError :=
  if row = [] then .emptyInsertRow index
  else if index = 0 then .emptyColumn
  else .mismatchedInsertRow index

theorem fault_ne_emptyInsert (index : Nat) (row : List (String × Value)) :
    fault index row ≠ .emptyInsert := by
  unfold fault
  split_ifs <;> nofun

/-! ## The checks -/

section

variable {columns : List String} {row first : List (String × Value)}
  {rows rest : List (List (String × Value))} {index : Nat} {e : CompileError}

instance : Decidable (Fits columns index row) :=
  match index with
  | 0 => inferInstanceAs (Decidable (_ ∧ _))
  | _ + 1 => inferInstanceAs (Decidable (_ ∧ _))

theorem forM_checkColumn (columns : List String) : columns.forM checkColumn =
    if ∀ column ∈ columns, Text.allBlank column = false then .ok ()
    else .error .emptyColumn := by
  induction columns with
  | nil => simp [pure, Except.pure]
  | cons column columns ih =>
    change (checkColumn column >>= fun _ => columns.forM checkColumn) = _
    rw [ih]
    cases hb : Text.allBlank column <;> simp [checkColumn, hb, bind, Except.bind]

theorem checkRow_eq (columns : List String) (index : Nat) (row : List (String × Value)) :
    checkRow columns (index + 1) row =
      if Fits columns (index + 1) row then .ok () else .error (fault (index + 1) row) := by
  by_cases hr : row = [] <;> simp [checkRow, Fits, fault, hr]

theorem checkRows_eq_ok_iff : checkRows columns (index + 1) rows = .ok () ↔
    ∀ row ∈ rows, row ≠ [] ∧ names row = columns := by
  induction rows generalizing index with
  | nil => simp [checkRows]
  | cons row rows ih =>
    rw [checkRows, checkRow_eq, List.forall_mem_cons]
    by_cases hr : Fits columns (index + 1) row
    · rw [if_pos hr, ok_bind_eq, ih]
      exact (and_iff_right hr).symm
    · rw [if_neg hr]
      exact iff_of_false nofun fun h => hr h.1

/-- The rows are refused for the first that does not fit. -/
theorem checkRows_eq_error_iff : checkRows columns (index + 1) rows = .error e ↔
    ∃ i row, FirstMisfit (fun j => Fits columns (j + index + 1)) rows i row ∧
      e = fault (i + index + 1) row := by
  induction rows generalizing index with
  | nil =>
    refine iff_of_false nofun ?_
    rintro ⟨i, row, ⟨h, -, -⟩, -⟩
    cases h
  | cons row rows ih =>
    have hShift : ∀ j, j + 1 + index + 1 = j + (index + 1) + 1 := by omega
    rw [checkRows, checkRow_eq, FirstMisfit.exists_cons_iff]
    simp only [Nat.zero_add, hShift]
    by_cases hr : Fits columns (index + 1) row
    · rw [if_pos hr, ok_bind_eq, ih]
      simp [hr]
    · rw [if_neg hr]
      simp [hr, bind, Except.bind, eq_comm]

/-! ## The statement -/

/-- The statement for rows that fit. -/
def insertStatement (q : Query) (rows : List (List (String × Value))) : Statement :=
  .text ("INSERT INTO " ++ q.table ++ " (" ++ ", ".intercalate (columnsOf rows) ++ ") VALUES ") ::
    Statement.joinWith ", " (rows.map rowGroup)

variable {q : Query} {s : Statement}

theorem toInsert_cons (q : Query) (first : List (String × Value))
    (rest : List (List (String × Value))) : q.toInsert (first :: rest) =
      if Fits (columnsOf (first :: rest)) 0 first then do
        checkRows (columnsOf (first :: rest)) 1 rest
        return q.insertStatement (first :: rest)
      else .error (fault 0 first) := by
  cases first with
  | nil => rfl
  | cons column first =>
    have hDef : q.toInsert ((column :: first) :: rest) = do
        (names (column :: first)).forM checkColumn
        checkRows (names (column :: first)) 1 rest
        return q.insertStatement ((column :: first) :: rest) := rfl
    rw [hDef, forM_checkColumn]
    by_cases hb : ∀ c ∈ names (column :: first), Text.allBlank c = false
    · rw [if_pos hb, if_pos ⟨List.cons_ne_nil _ _, hb⟩]
      rfl
    · rw [if_neg hb, if_neg fun h => hb h.2]
      rfl

theorem isRectangular_cons_iff : IsRectangular (first :: rest) ↔
    Fits (columnsOf (first :: rest)) 0 first ∧
      ∀ row ∈ rest, row ≠ [] ∧ names row = columnsOf (first :: rest) := by
  constructor
  · rintro ⟨first', rest', hRows, hne, hb, hRest⟩
    cases hRows
    refine ⟨⟨hne, hb⟩, fun row hr => ⟨?_, hRest row hr⟩⟩
    rintro rfl
    exact hne (List.map_eq_nil_iff.1 (hRest [] hr).symm)
  · rintro ⟨⟨hne, hb⟩, hRest⟩
    exact ⟨first, rest, rfl, hne, hb, fun row hr => (hRest row hr).2⟩

theorem toInsert_eq_ok_iff :
    q.toInsert rows = .ok s ↔ IsRectangular rows ∧ s = q.insertStatement rows := by
  cases rows with
  | nil =>
    refine iff_of_false nofun ?_
    rintro ⟨⟨_, _, h, -⟩, -⟩
    cases h
  | cons first rest =>
    rw [toInsert_cons, isRectangular_cons_iff]
    by_cases hf : Fits (columnsOf (first :: rest)) 0 first
    · rw [if_pos hf, bind_eq_ok_iff]
      constructor
      · rintro ⟨_, hRest, h⟩
        exact ⟨⟨hf, checkRows_eq_ok_iff.1 hRest⟩, (pure_eq_ok_iff.1 h).symm⟩
      · rintro ⟨⟨-, hRest⟩, rfl⟩
        exact ⟨(), checkRows_eq_ok_iff.2 hRest, rfl⟩
    · simp [hf]

theorem toInsert_eq_error_iff : q.toInsert rows = .error e ↔
    (rows = [] ∧ e = .emptyInsert) ∨
      ∃ i row, FirstMisfit (Fits (columnsOf rows)) rows i row ∧ e = fault i row := by
  cases rows with
  | nil =>
    have hn : ¬∃ i row, FirstMisfit (Fits (columnsOf [])) [] i row ∧ e = fault i row := by
      rintro ⟨i, row, ⟨h, -, -⟩, -⟩
      cases h
    have hDef : q.toInsert [] = .error .emptyInsert := rfl
    simp [hDef, hn, eq_comm]
  | cons first rest =>
    rw [toInsert_cons, FirstMisfit.exists_cons_iff]
    by_cases hf : Fits (columnsOf (first :: rest)) 0 first
    · rw [if_pos hf, bind_pure_eq_error_iff, checkRows_eq_error_iff]
      simp [hf]
    · rw [if_neg hf]
      simp [hf, eq_comm]

end

/-! ## The values -/

/-- The placeholders of a row with so many columns. -/
def group (count : Nat) : String := "(" ++ ", ".intercalate (List.replicate count "?") ++ ")"

/-- The row at an index, cut out of the values of all rows. -/
def rowAt (columns : List String) (params : List Value) (index : Nat) : List (String × Value) :=
  columns.zip ((params.drop (index * columns.length)).take columns.length)

/-- The statement names the columns once and has a group of placeholders for each row, and the
values are those of the rows, row behind row. -/
structure Inserts (q : Query) (rows : List (List (String × Value))) (s : Statement) : Prop where
  sql : s.sql = "INSERT INTO " ++ q.table ++ " (" ++ ", ".intercalate (columnsOf rows) ++
    ") VALUES " ++ ", ".intercalate (List.replicate rows.length (group (columnsOf rows).length))
  length_params : s.params.length = rows.length * (columnsOf rows).length
  param : ∀ i row, rows[i]? = some row → ∀ j column value, row[j]? = some (column, value) →
    (columnsOf rows)[j]? = some column ∧
      s.params[i * (columnsOf rows).length + j]? = some value
  cut : (List.range rows.length).map (rowAt (columnsOf rows) s.params) = rows

section

variable {rows : List (List (String × Value))} {row : List (String × Value)}

theorem IsRectangular.names_eq (h : IsRectangular rows) (hr : row ∈ rows) :
    names row = columnsOf rows := by
  obtain ⟨first, rest, rfl, -, -, hRest⟩ := h
  rcases List.mem_cons.1 hr with rfl | hr
  · rfl
  · exact hRest row hr

theorem IsRectangular.length_eq (h : IsRectangular rows) (hr : row ∈ rows) :
    row.length = (columnsOf rows).length := by
  rw [← h.names_eq hr, names, List.length_map]

theorem IsRectangular.length_values (h : IsRectangular rows) :
    ∀ values ∈ rows.map (List.map Prod.snd), values.length = (columnsOf rows).length := by
  intro values hv
  obtain ⟨row, hr, rfl⟩ := List.mem_map.1 hv
  rw [List.length_map, h.length_eq hr]

theorem sql_rowGroup (row : List (String × Value)) : (rowGroup row).sql = group row.length := by
  simp [rowGroup, group, Statement.sql_placeholders, List.map_const', Function.comp_def,
    String.append_assoc]

@[simp] theorem params_rowGroup (row : List (String × Value)) :
    (rowGroup row).params = row.map Prod.snd := by
  simp [rowGroup]

theorem params_insertStatement (q : Query) (rows : List (List (String × Value))) :
    (q.insertStatement rows).params = (rows.map (List.map Prod.snd)).flatten := by
  simp [insertStatement, List.flatMap_def, Function.comp_def]

theorem getElem?_rowAt {columns : List String} {params : List Value} {i j : Nat}
    {column : String} {value : Value}
    (h : (rowAt columns params i)[j]? = some (column, value)) :
    columns[j]? = some column ∧ params[i * columns.length + j]? = some value := by
  obtain ⟨hColumn, hValue⟩ := List.getElem?_zip_eq_some.1 h
  obtain ⟨hj, -⟩ := List.getElem?_eq_some_iff.1 hColumn
  rw [List.getElem?_take_of_lt hj, List.getElem?_drop] at hValue
  exact ⟨hColumn, hValue⟩

/-- The values of all rows, cut at an index, are those of the row there. -/
theorem IsRectangular.rowAt_eq (h : IsRectangular rows) {i : Nat} (hr : rows[i]? = some row) :
    rowAt (columnsOf rows) (rows.map (List.map Prod.snd)).flatten i = row := by
  have hValues : (rows.map (List.map Prod.snd))[i]? = some (row.map Prod.snd) := by
    rw [List.getElem?_map, hr, Option.map_some]
  rw [rowAt, take_drop_flatten h.length_values hValues]
  exact (List.zip_of_prod (h.names_eq (List.mem_of_getElem? hr)) rfl).symm

theorem IsRectangular.inserts (q : Query) (h : IsRectangular rows) :
    Inserts q rows (q.insertStatement rows) := by
  refine ⟨?_, ?_, fun i row hr j column value hv => ?_, ?_⟩
  · have hGroups : rows.map (Statement.sql ∘ rowGroup) =
        List.replicate rows.length (group (columnsOf rows).length) := by
      rw [List.map_eq_replicate_iff]
      intro row hr
      rw [Function.comp_apply, sql_rowGroup, h.length_eq hr]
    rw [insertStatement, Statement.sql_text, Statement.sql_joinWith, List.map_map, hGroups]
  · rw [params_insertStatement, length_flatten_uniform h.length_values, List.length_map]
  · rw [params_insertStatement]
    rw [← h.rowAt_eq hr] at hv
    exact getElem?_rowAt hv
  · rw [params_insertStatement]
    refine List.ext_getElem (by simp) fun i hi hi' => ?_
    simpa using h.rowAt_eq (List.getElem?_eq_getElem hi')

end

/-- **An INSERT takes exactly the rectangular rows**, and its statement then holds them. Without
rows it is refused as empty, else for the first row that does not fit. -/
theorem insert_rectangular (q : Query) (rows : List (List (String × Value))) :
    ((∃ s, q.toInsert rows = .ok s) ↔ IsRectangular rows) ∧
      (∀ s, q.toInsert rows = .ok s → Inserts q rows s) ∧
      (q.toInsert rows = .error .emptyInsert ↔ rows = []) ∧
      ∀ e, q.toInsert rows = .error e ↔ (rows = [] ∧ e = .emptyInsert) ∨
        ∃ i row, FirstMisfit (Fits (columnsOf rows)) rows i row ∧ e = fault i row := by
  refine ⟨?_, fun s hs => ?_, ?_, fun e => toInsert_eq_error_iff⟩
  · simp [toInsert_eq_ok_iff]
  · obtain ⟨h, rfl⟩ := toInsert_eq_ok_iff.1 hs
    exact h.inserts q
  · rw [toInsert_eq_error_iff]
    constructor
    · rintro (⟨h, -⟩ | ⟨i, row, -, h⟩)
      · exact h
      · exact absurd h.symm (fault_ne_emptyInsert i row)
    · intro h
      exact .inl ⟨h, rfl⟩

/-- Two rows that fit, an empty one, and one in another order. -/
def unevenRows : List (List (String × Value)) :=
  [[("a", .int 1), ("b", .int 2)], [("a", .int 3), ("b", .null)], [],
    [("b", .int 4), ("a", .int 5)]]

theorem unevenRows_rectangular :
    (IsRectangular (unevenRows.take 2) ∧
      ∃ s, (on "t").toInsert (unevenRows.take 2) = .ok s ∧
        Inserts (on "t") (unevenRows.take 2) s ∧
        s.sql = "INSERT INTO t (a, b) VALUES (?, ?), (?, ?)" ∧
        rowAt ["a", "b"] s.params 1 = [("a", .int 3), ("b", .null)]) ∧
      (on "t").toInsert unevenRows = .error (.emptyInsertRow 2) := by
  obtain ⟨hOk, hInserts, -, -⟩ := insert_rectangular (on "t") (unevenRows.take 2)
  obtain ⟨-, -, -, hError⟩ := insert_rectangular (on "t") unevenRows
  have hRows : IsRectangular (unevenRows.take 2) :=
    ⟨_, _, rfl, by decide, by decide, by decide⟩
  obtain ⟨s, hs⟩ := hOk.2 hRows
  have h := hInserts s hs
  refine ⟨⟨hRows, s, hs, h, ?_, ?_⟩, (hError _).2 (.inr ⟨2, [], ⟨rfl, by decide, ?_⟩, rfl⟩)⟩
  · rw [h.sql]
    rfl
  · have hi : 1 < ((List.range 2).map (rowAt ["a", "b"] s.params)).length := by simp
    exact List.getElem_of_eq h.cut hi
  · intro j hj row hr
    match j, hj with
    | 0, _ =>
      cases hr
      decide
    | 1, _ =>
      cases hr
      decide

end Query

end SqlCompose
