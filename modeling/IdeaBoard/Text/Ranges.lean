/-!
# IdeaBoard — sets of characters as ranges

A property of characters is given by the closed ranges of code points that have it, in
increasing order; membership reads the list up to the first range past the character.
-/

namespace IdeaBoard.Text

/-- Closed ranges of code points, in increasing order and apart from each other. -/
abbrev Ranges := List (Nat × Nat)

namespace Ranges

/-- Is `n` in one of the ranges? The search ends at the first range that starts past `n`. -/
def hasNat : Ranges → Nat → Bool
  | [], _ => false
  | r :: rs, n => if n < r.1 then false else decide (n ≤ r.2) || hasNat rs n

def has (rs : Ranges) (c : Char) : Bool := rs.hasNat c.toNat

end Ranges

end IdeaBoard.Text
