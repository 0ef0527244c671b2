import IdeaBoard.Text.Ranges

/-!
# IdeaBoard — white space and trimming

The characters with the property White_Space, and text without them at its ends.
-/

namespace IdeaBoard.Text

/-- The code points with the property White_Space. -/
def blankRanges : Ranges :=
  [(0x9, 0xD), (0x20, 0x20), (0x85, 0x85), (0xA0, 0xA0), (0x1680, 0x1680), (0x2000, 0x200A),
   (0x2028, 0x2029), (0x202F, 0x202F), (0x205F, 0x205F), (0x3000, 0x3000)]

def isBlank (c : Char) : Bool := blankRanges.has c

/-- Drops the longest run at the end whose characters all satisfy `p`. -/
def dropRight (p : Char → Bool) (cs : List Char) : List Char := (cs.reverse.dropWhile p).reverse

def trimLeft (cs : List Char) : List Char := cs.dropWhile isBlank

def trimRight (cs : List Char) : List Char := dropRight isBlank cs

def trim (cs : List Char) : List Char := trimRight (trimLeft cs)

def isBlankText (cs : List Char) : Bool := cs.all isBlank

end IdeaBoard.Text
