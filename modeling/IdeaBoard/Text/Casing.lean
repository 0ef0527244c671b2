import IdeaBoard.Text.Casing.Table

/-!
# IdeaBoard — lower case

The full lower case mapping of a text. Every character has an image of its own, a single one but
for `İ`; only a capital sigma looks at its neighbours: at the end of a word it becomes `ς`.
-/

namespace IdeaBoard.Text

def isCased (c : Char) : Bool := casedRanges.has c

/-- Is `c` passed over when a neighbour with case is looked for? -/
def isCaseIgnorable (c : Char) : Bool := caseIgnorableRanges.has c

/-- The lower case image of a character where that is a single character, else itself. -/
def lowerChar (c : Char) : Char :=
  match ShiftRun.find? lowerRuns c.toNat with
  | some n => Char.ofNat n
  | none => c

/-- Is the first character that is not case-ignorable a letter with case? -/
def startsCased (cs : List Char) : Bool :=
  match cs.dropWhile isCaseIgnorable with
  | [] => false
  | c :: _ => isCased c

/-- Does a sigma end a word, given the text before it (nearest first) and after it? -/
def endsWord (before after : List Char) : Bool := startsCased before && !startsCased after

def lowerAt (before : List Char) (c : Char) (after : List Char) : List Char :=
  if c = 'Σ' then [if endsWord before after then 'ς' else 'σ']
  else if c = 'İ' then ['i', Char.ofNat 0x307]
  else [lowerChar c]

/-- Lower case of a text whose earlier part is `before`, nearest character first. -/
def lowerFrom : List Char → List Char → List Char
  | _, [] => []
  | before, c :: after => lowerAt before c after ++ lowerFrom (c :: before) after

def lower (cs : List Char) : List Char := lowerFrom [] cs

end IdeaBoard.Text
