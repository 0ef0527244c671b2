import IdeaBoard.Json.Token

/-!
# IdeaBoard — JSON texts as trees

The nesting of a JSON text, with numbers and strings still as written. The reader keeps the
containers that are open in a list, so nesting may be of any depth; how deep a value may be is
a matter of what is made of it.
-/

namespace IdeaBoard.Json

/-- A JSON text, read for its form only. -/
inductive Tree where
  | null
  | bool (b : Bool)
  | number (n : NumberText)
  | string (s : StringText)
  | array (items : List Tree)
  | object (members : List (StringText × Tree))
deriving Inhabited

/-- A container that is still open: the items before the one in progress, latest first, and for an
object the key of the member in progress. -/
inductive Frame where
  | array (done : List Tree)
  | object (done : List (StringText × Tree)) (key : StringText)

inductive Expect where
  /-- A value. -/
  | value
  /-- The first item of an array, or its end. -/
  | firstItem
  /-- The first key of an object, or its end. -/
  | firstKey
  /-- The key of a further member, after the `done` ones. -/
  | key (done : List (StringText × Tree))
  /-- The colon after a key. -/
  | colon (done : List (StringText × Tree)) (key : StringText)
  /-- What follows a complete value. -/
  | after (value : Tree)

/-- The reader: the open containers, innermost first, and what comes next. -/
structure Reader where
  frames : List Frame
  expect : Expect

namespace Reader

def initial : Reader := ⟨[], .value⟩

def onValue? (frames : List Frame) : Token → Option Reader
  | .null => some ⟨frames, .after .null⟩
  | .bool b => some ⟨frames, .after (.bool b)⟩
  | .number n => some ⟨frames, .after (.number n)⟩
  | .string s => some ⟨frames, .after (.string s)⟩
  | .openArray => some ⟨frames, .firstItem⟩
  | .openObject => some ⟨frames, .firstKey⟩
  | _ => none

def onAfter? : List Frame → Tree → Token → Option Reader
  | .array done :: frames, v, .comma => some ⟨.array (v :: done) :: frames, .value⟩
  | .array done :: frames, v, .closeArray => some ⟨frames, .after (.array (v :: done).reverse)⟩
  | .object done key :: frames, v, .comma => some ⟨frames, .key ((key, v) :: done)⟩
  | .object done key :: frames, v, .closeObject =>
    some ⟨frames, .after (.object ((key, v) :: done).reverse)⟩
  | _, _, _ => none

def step? (r : Reader) (t : Token) : Option Reader :=
  match r.expect, t with
  | .value, t => onValue? r.frames t
  | .firstItem, .closeArray => some ⟨r.frames, .after (.array [])⟩
  | .firstItem, t => onValue? (.array [] :: r.frames) t
  | .firstKey, .closeObject => some ⟨r.frames, .after (.object [])⟩
  | .firstKey, .string k => some ⟨r.frames, .colon [] k⟩
  | .firstKey, _ => none
  | .key done, .string k => some ⟨r.frames, .colon done k⟩
  | .key _, _ => none
  | .colon done k, .colon => some ⟨.object done k :: r.frames, .value⟩
  | .colon _ _, _ => none
  | .after v, t => onAfter? r.frames v t

def run? (r : Reader) : List Token → Option Reader
  | [] => some r
  | t :: ts => do run? (← r.step? t) ts

/-- The tree that has been read, if nothing is open or missing. -/
def tree? (r : Reader) : Option Tree :=
  match r.frames, r.expect with
  | [], .after v => some v
  | _, _ => none

end Reader

def Tree.ofTokens? (ts : List Token) : Option Tree := do (← Reader.initial.run? ts).tree?

/-- The tree of a JSON text, or none where the text is no JSON. -/
def Tree.parse? (cs : List Char) : Option Tree := do ofTokens? (← tokens? cs)

end IdeaBoard.Json
