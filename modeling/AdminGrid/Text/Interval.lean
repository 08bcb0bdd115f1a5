/-!
# Sorted intervals of code points

A class of characters is kept as the ends of its intervals, in ascending order.
-/

namespace AdminGrid.Text

/-- Whether a number lies in one of the closed intervals whose ends are listed in rising order. -/
def inIntervals (n : Nat) : List Nat → Bool
  | lo :: hi :: rest => lo ≤ n && (n ≤ hi || inIntervals n rest)
  | _ => false

theorem inIntervals_of_lt {n lo hi : Nat} (rest : List Nat) (h : n < lo) :
    inIntervals n (lo :: hi :: rest) = false := by
  have : ¬ lo ≤ n := by omega
  simp [inIntervals, this]

theorem inIntervals_of_mem {n lo hi : Nat} (rest : List Nat) (h₁ : lo ≤ n) (h₂ : n ≤ hi) :
    inIntervals n (lo :: hi :: rest) = true := by
  simp [inIntervals, h₁, h₂]

end AdminGrid.Text
