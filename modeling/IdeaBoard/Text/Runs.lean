/-!
# IdeaBoard — maps of characters as runs

A map of characters is given by runs of code points a fixed step apart that all move by the same
distance, in increasing order.
-/

namespace IdeaBoard.Text

/-- The code points `first`, `first + stride`, …, `last`, each of which has its image `shift`
above it. -/
structure ShiftRun where
  first : Nat
  last : Nat
  stride : Nat
  shift : Int
deriving DecidableEq, Repr

def ShiftRun.image? (r : ShiftRun) (n : Nat) : Option Nat :=
  if r.first ≤ n ∧ n ≤ r.last ∧ (n - r.first) % r.stride = 0 then some (n + r.shift).toNat
  else none

/-- The image of `n` in runs of increasing `first`: the search ends at the first run past `n`. -/
def ShiftRun.find? : List ShiftRun → Nat → Option Nat
  | [], _ => none
  | r :: rs, n =>
    if n < r.first then none
    else match r.image? n with
      | some m => some m
      | none => ShiftRun.find? rs n

end IdeaBoard.Text
