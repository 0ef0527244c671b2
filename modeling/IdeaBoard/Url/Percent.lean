import IdeaBoard.Form

/-!
# IdeaBoard — percent-encoding in URLs

Each part of a URL has a set of octets that may not stand for themselves in it; an octet of the
set is written as `%` and two hexadecimal digits.
-/

namespace IdeaBoard.Url

open IdeaBoard.Text

/-- The octets that stand for themselves nowhere: controls, and all beyond ASCII. -/
def isControl (b : UInt8) : Bool := b.toNat < 0x20 || 0x7E < b.toNat

def isOneOf (chars : List Char) (b : UInt8) : Bool := chars.any fun c => c.toNat = b.toNat

/-- The octets that are written in hexadecimal in a fragment. -/
def inFragmentSet (b : UInt8) : Bool := isControl b || isOneOf [' ', '"', '<', '>', '\x60'] b

/-- The octets that are written in hexadecimal in a query; in one after a special scheme also the
single quote. -/
def inQuerySet (special : Bool) (b : UInt8) : Bool :=
  isControl b || isOneOf [' ', '"', '#', '<', '>'] b || (special && isOneOf ['\''] b)

/-- The octets that are written in hexadecimal in a path. -/
def inPathSet (b : UInt8) : Bool :=
  inFragmentSet b || isOneOf ['#', '?', '^', '\x7b', '\x7d'] b

/-- The octets that are written in hexadecimal in credentials. -/
def inUserinfoSet (b : UInt8) : Bool :=
  inPathSet b || isOneOf ['/', ':', ';', '=', '@', '[', '\\', ']', '|'] b

/-- Writes the octets of a set in hexadecimal, and all others as they are. -/
def percentEncode (set : UInt8 → Bool) (cs : List Char) : List Char :=
  (Utf8.encode cs).flatMap fun b => if set b then Form.percent b else [Char.ofNat b.toNat]

end IdeaBoard.Url
