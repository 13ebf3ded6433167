/-!
Sets of code points given as lists of closed intervals.
-/

namespace RowQuery.Text

/-- Some interval of the list holds `n`. -/
def inIntervals (intervals : List (Nat × Nat)) (n : Nat) : Bool :=
  intervals.any fun r => r.1 ≤ n && n ≤ r.2

@[simp] theorem inIntervals_iff {intervals : List (Nat × Nat)} {n : Nat} :
    inIntervals intervals n = true ↔ ∃ r ∈ intervals, r.1 ≤ n ∧ n ≤ r.2 := by
  simp [inIntervals]

end RowQuery.Text
