/-!
# Character tables

A class of characters is a table of disjoint closed ranges of scalar values in ascending order.
`CharTable.mem` looks a value up by halving.
-/

set_option autoImplicit false

namespace CodeReview.Text.CharTable

/-- Whether `n` lies in one of the ranges from index `lo` up to, not including, index `hi`. Each
step halves the interval, so `fuel` need not exceed the number of binary digits of its size. -/
def memFrom (table : Array (Nat × Nat)) (n : Nat) : Nat → Nat → Nat → Bool
  | 0, _, _ => false
  | fuel + 1, lo, hi =>
    if lo < hi then
      let mid := (lo + hi) / 2
      match table[mid]? with
      | some (first, last) =>
        if n < first then memFrom table n fuel lo mid
        else if n ≤ last then true
        else memFrom table n fuel (mid + 1) hi
      | none => false
    else false

/-- Whether the scalar value `n` lies in the table. -/
def mem (table : Array (Nat × Nat)) (n : Nat) : Bool :=
  memFrom table n (table.size + 1) 0 table.size

end CodeReview.Text.CharTable
