/-!
# Runs of characters

A class of characters as a list of runs of code points, in ascending order and without neighbours
that touch (`ascending`).
-/

namespace SqlCompose.Text

/-- The code points from the first to the last of a run. -/
structure CharRun where
  first : Nat
  last : Nat
  deriving DecidableEq, Repr

namespace CharRun

def holds (r : CharRun) (n : Nat) : Bool := r.first ≤ n && n ≤ r.last

def ofPairs (pairs : List (Nat × Nat)) : List CharRun := pairs.map fun (a, b) => ⟨a, b⟩

/-- No run is empty, and a gap lies before the next one. -/
def ascending : List CharRun → Bool
  | [] => true
  | [r] => r.first ≤ r.last
  | r :: s :: rest => r.first ≤ r.last && r.last + 1 < s.first && ascending (s :: rest)

/-- The number of code points in the runs. -/
def total (rs : List CharRun) : Nat := rs.foldl (fun n r => n + (r.last + 1 - r.first)) 0

end CharRun

end SqlCompose.Text
