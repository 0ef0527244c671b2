/-!
# IdeaBoard — cutting text at a separator

A text is cut at every occurrence of a separator, or at the first one only; joining the pieces
with the separator gives the text back.
-/

namespace IdeaBoard.Text

variable {α : Type} [DecidableEq α]

/-- The pieces between the separators: one more than there are separators. -/
def pieces (sep : α) : List α → List (List α)
  | [] => [[]]
  | c :: cs =>
    if c = sep then [] :: pieces sep cs
    else match pieces sep cs with
      | [] => [[c]]
      | p :: ps => (c :: p) :: ps

/-- The text before and after the first separator, where there is one. -/
def cutFirst? (sep : α) : List α → Option (List α × List α)
  | [] => none
  | c :: cs =>
    if c = sep then some ([], cs)
    else (cutFirst? sep cs).map fun r => (c :: r.1, r.2)

/-- Puts the separator between neighbouring pieces. -/
def join (sep : List α) : List (List α) → List α
  | [] => []
  | [p] => p
  | p :: ps => p ++ sep ++ join sep ps

def stripPrefix? : (pre cs : List α) → Option (List α)
  | [], cs => some cs
  | _ :: _, [] => none
  | p :: ps, c :: cs => if p = c then stripPrefix? ps cs else none

end IdeaBoard.Text
