import SqlCompose.Builder
import SqlCompose.Dialect.MySql
import SqlCompose.Proofs.Execution.Recording
import SqlCompose.Proofs.Value.Integer

/-!
# Reading the answer to a COUNT

The rows that come back from a COUNT are read as a number by their first row: by its column
`aggregate` or, only without such a column, by its first column (`CountValue`). `Counts` says which
rows are read as which number; all others are an unexpected result (`count_reads_iff`).
-/

namespace SqlCompose

/-- The value that a row holds a count in. A column `aggregate` counts even if it is not the first
and even if it cannot be read. -/
inductive CountValue (row : Row) : Value → Prop
  | aggregate {value : Value} (h : row.get? "aggregate" = some value) : CountValue row value
  | first {column : String} {value : Value} {others : List (String × Value)}
      (hnone : "aggregate" ∉ row.columns) (h : row.entries = (column, value) :: others) :
      CountValue row value

/-- The rows are an answer that counts `n`. -/
inductive Counts : List Row → Nat → Prop
  | first {row : Row} {rows : List Row} {value : Value} {n : Nat} (hv : CountValue row value)
      (hn : value.StandsFor n) : Counts (row :: rows) n

theorem Row.get?_eq_none_iff {row : Row} {column : String} :
    row.get? column = none ↔ column ∉ row.columns := by
  unfold get? columns
  rw [Option.map_eq_none_iff, List.find?_eq_none]
  constructor
  · intro h hmem
    obtain ⟨entry, hentry, rfl⟩ := List.mem_map.1 hmem
    exact h entry hentry (by simp)
  · intro h entry hentry heq
    have hcolumn : entry.1 = column := by simpa using heq
    exact h (List.mem_map.2 ⟨entry, hentry, hcolumn⟩)

/-- The look-up of a count, with the first column in the place of a missing one. -/
theorem countValue_iff {row : Row} {value : Value} :
    (row.get? "aggregate").or row.values.head? = some value ↔ CountValue row value := by
  cases hg : row.get? "aggregate" with
  | some v =>
    rw [Option.some_or, Option.some.injEq]
    constructor
    · rintro rfl
      exact .aggregate hg
    · intro h
      cases h with
      | aggregate h => exact Option.some.inj (hg.symm.trans h)
      | first hnone => rw [Row.get?_eq_none_iff.2 hnone] at hg; cases hg
  | none =>
    rw [Option.none_or]
    unfold Row.values
    cases he : row.entries with
    | nil =>
      constructor
      · intro h
        cases h
      · intro h
        cases h with
        | aggregate h => rw [hg] at h; cases h
        | first _ h => rw [he] at h; cases h
    | cons entry others =>
      obtain ⟨column, v⟩ := entry
      simp only [List.map_cons, List.head?_cons, Option.some.injEq]
      constructor
      · rintro rfl
        exact .first (Row.get?_eq_none_iff.1 hg) he
      · intro h
        cases h with
        | aggregate h => rw [hg] at h; cases h
        | first _ h =>
          rw [he] at h
          cases h
          rfl

/-- A value that is looked up is read as the natural number that it stands for. -/
theorem readCount_cons_iff {row : Row} {rows : List Row} {value : Value} {n : Nat}
    (h : (row.get? "aggregate").or row.values.head? = some value) :
    readCount (row :: rows) = .ok n ↔ value.StandsFor n := by
  simp only [readCount, h]
  rw [← Value.map_asInt?_eq_some_iff]
  cases value.asInt? with
  | none =>
    constructor
    · intro h
      cases h
    · intro h
      cases h
  | some k =>
    rw [Option.map_some, Option.some.injEq]
    dsimp only
    split
    · rw [Except.ok.injEq]
      omega
    · constructor
      · intro h
        cases h
      · omega

/-- Rows are read as the number that they count. -/
theorem readCount_eq_ok_iff {rows : List Row} {n : Nat} :
    readCount rows = .ok n ↔ Counts rows n := by
  constructor
  · intro h
    cases rows with
    | nil => cases h
    | cons row rows =>
      cases hv : (row.get? "aggregate").or row.values.head? with
      | none =>
        simp only [readCount, hv] at h
        cases h
      | some value => exact .first (countValue_iff.1 hv) ((readCount_cons_iff hv).1 h)
  · intro h
    cases h with
    | first hv hn => exact (readCount_cons_iff (countValue_iff.2 hv)).2 hn

/-! ## Counting with a builder -/

section
variable {o : Database} {q : Query} {h h' : History} {rows : List Row}

/-- A count reads the rows that it fetched, and reaches the database no more. -/
theorem behind_count (hf : Attempt.behind (Builder.fetch ⟨o.executor, q⟩ (q.toCount o.dialect)) h =
    (.ok rows, h')) : Attempt.behind (Builder.count ⟨o.executor, q⟩) h =
      ((readCount rows).mapError .unexpectedResult, h') := by
  show Attempt.behind (Builder.fetch ⟨o.executor, q⟩ (q.toCount o.dialect) >>= _) h = _
  rw [behind_bind, hf]
  dsimp only
  cases readCount rows <;> rfl

/-- **Reading a count.** Whatever rows the executor fetches for a COUNT, they are read as `n`
exactly if they count `n`, and are an unexpected result if they count nothing. A value is read as an
integer exactly if it stands for that integer, which has 64 bits. -/
theorem count_reads_iff
    (hf : Attempt.behind (Builder.fetch ⟨o.executor, q⟩ (q.toCount o.dialect)) h =
      (.ok rows, h')) :
    (∀ n, Attempt.behind (Builder.count ⟨o.executor, q⟩) h = (.ok n, h') ↔ Counts rows n) ∧
    ((∀ n, ¬Counts rows n) → ∃ r,
      Attempt.behind (Builder.count ⟨o.executor, q⟩) h = (.error (.unexpectedResult r), h')) ∧
    ∀ (value : Value) (n : Int), value.asInt?.map Int64.toInt = some n ↔ value.StandsFor n := by
  rw [behind_count hf]
  refine ⟨fun n => ?_, fun hnone => ?_, fun value n => Value.map_asInt?_eq_some_iff⟩
  · rw [← readCount_eq_ok_iff]
    cases readCount rows <;> simp [Except.mapError]
  · cases hr : readCount rows with
    | ok n => exact absurd (readCount_eq_ok_iff.1 hr) (hnone n)
    | error r => exact ⟨r, rfl⟩

end

/-- The answer of a driver that writes counts out, with other columns before the count. -/
def writtenAnswer : List Row := [.ofList [("most", .int 9), ("aggregate", .text "\u2003+042\n")]]

/-- An answer with a number in its first column, but none in the column of the count. -/
def vagueAnswer : List Row := [.ofList [("most", .int 9), ("aggregate", .text "many")]]

/-- A builder on a database that gives one answer to everything. -/
def Builder.answered (answer : List Row) : Builder Recorded :=
  ⟨(Database.ofRows MySql.dialect fun _ _ => answer).executor, .on "users"⟩

theorem count_reads_writtenAnswer :
    let statement := (Query.on "users").toCount MySql.dialect
    let written := Builder.answered writtenAnswer
    let vague := Builder.answered vagueAnswer
    (∃ h', Attempt.behind (written.fetch statement) [] = (.ok writtenAnswer, h') ∧
      Attempt.behind written.count [] = (.ok 42, h')) ∧
    ∃ h' r, Attempt.behind (vague.fetch statement) [] = (.ok vagueAnswer, h') ∧
      Attempt.behind vague.count [] = (.error (.unexpectedResult r), h') := by
  intro statement written vague
  have hfetch : ∀ answer, ∃ h',
      Attempt.behind ((Builder.answered answer).fetch statement) [] = (.ok answer, h') :=
    fun answer => ⟨_, rfl⟩
  constructor
  · obtain ⟨h', hf⟩ := hfetch writtenAnswer
    obtain ⟨hreads, -, hinteger⟩ := count_reads_iff hf
    have hv : CountValue (.ofList [("most", .int 9), ("aggregate", .text "\u2003+042\n")])
        (.text "\u2003+042\n") := .aggregate rfl
    have hn : (Value.text "\u2003+042\n").StandsFor 42 := (hinteger _ 42).1 (by decide +kernel)
    exact ⟨h', hf, (hreads 42).2 (.first hv hn)⟩
  · obtain ⟨h', hf⟩ := hfetch vagueAnswer
    have hnone : ∀ n, ¬Counts vagueAnswer n := by
      intro n hn
      have hbad := readCount_eq_ok_iff.2 hn
      cases hbad
    obtain ⟨r, hr⟩ := (count_reads_iff hf).2.1 hnone
    exact ⟨h', r, hf, hr⟩

end SqlCompose
