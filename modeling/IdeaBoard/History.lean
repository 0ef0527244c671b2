/-!
# IdeaBoard — the history of visited locations

Navigating adds an entry; a change of the filter only replaces the current one, so that
filtering does not make the history longer. There is always a current entry.
-/

namespace IdeaBoard

/-- The visited locations: those left behind, latest first, and the current one. -/
structure History where
  past : List String
  current : String
deriving DecidableEq, Repr, Inhabited

namespace History

def start (location : String) : History := ⟨[], location⟩

def size (h : History) : Nat := h.past.length + 1

def push (h : History) (location : String) : History := ⟨h.current :: h.past, location⟩

def replace (h : History) (location : String) : History := { h with current := location }

/-- All entries, oldest first. -/
def entries (h : History) : List String := h.past.reverse ++ [h.current]

@[simp] theorem length_entries (h : History) : h.entries.length = h.size := by
  simp [entries, size]

@[simp] theorem entries_push (h : History) (l : String) :
    (h.push l).entries = h.entries ++ [l] := by simp [push, entries]

end History

end IdeaBoard
