import IdeaBoard.TagSet
import IdeaBoard.Text.Casing
import IdeaBoard.Text.Blank

/-!
# IdeaBoard — filters

What the reader of an idea list asks to see: free text, a named view, tags, and how many ideas.
-/

namespace IdeaBoard

/-- The page size of the site, used wherever a query string carries no limit. -/
def defaultLimit : UInt32 := 30

/-- What the reader currently asks to see. -/
structure Filter where
  query : String := ""
  view : String := ""
  tags : TagSet := ∅
  limit : Option UInt32 := none
deriving DecidableEq, Inhabited

namespace Filter

/-- A text without white space at its ends, in lower case. -/
def normalText (s : String) : String := String.ofList (Text.lower (Text.trim s.toList))

def normalized (f : Filter) : Filter := { f with query := normalText f.query }

end Filter

end IdeaBoard
