import IdeaBoard.Json.Value

/-!
# IdeaBoard — posts

An idea as the server describes it. The shape belongs to the server; only a number and a title are
looked for.
-/

namespace IdeaBoard

/-- The description of an idea. -/
structure Post where
  raw : Json.Value
deriving DecidableEq, Inhabited

namespace Post

def number (p : Post) : Option Nat := (p.raw.member? "number").bind Json.Value.natural?

def title (p : Post) : Option String := (p.raw.member? "title").bind Json.Value.text?

/-- The posts of a value that is a list. -/
def listOf? (v : Json.Value) : Option (List Post) := v.items?.map (List.map Post.mk)

end Post

end IdeaBoard
