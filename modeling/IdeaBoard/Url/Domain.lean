import IdeaBoard.Text.Normalization
import IdeaBoard.Text.Utf8
import IdeaBoard.Url.Domain.MappingTable
import IdeaBoard.Url.Domain.PropertyTable
import IdeaBoard.Url.Domain.Punycode

/-!
# IdeaBoard — domain names

The ASCII form of a domain name. Its characters are mapped to those that stand for them, the text
is normalized and cut into labels, each label is checked, and a label with other characters than
ASCII is written in Punycode. A label that comes in Punycode is checked by what it stands for.
-/

namespace IdeaBoard.Url.Domain

open IdeaBoard.Text

/-! ### Mapping -/

/-- What a character of a name is mapped to; none where it may not be in a name. -/
def mapped? (c : Char) : Option (List Char) :=
  if plainRanges.has c then some [c]
  else if ignoredRanges.has c then some []
  else match ShiftRun.find? mappedRuns c.toNat with
    | some n => some [Char.ofNat n]
    | none => (mappedLists.find? fun m => m.1 = c.toNat).map fun m => m.2.map Char.ofNat

/-- A name mapped and normalized; none where a character may not be in a name. -/
def prepared? (cs : List Char) : Option (List Char) :=
  (cs.mapM mapped?).map fun images => Normalization.normalized images.flatten

/-! ### Directions of writing -/

/-- May the character start a label that is read from right to left? -/
def isRightToLeft (c : Char) : Bool := rightToLeftRanges.has c || arabicLetterRanges.has c

def isWeak (c : Char) : Bool :=
  europeanSeparatorRanges.has c || commonSeparatorRanges.has c || europeanTerminatorRanges.has c ||
    otherNeutralRanges.has c || boundaryNeutralRanges.has c || nonspacingMarkRanges.has c

def isLeftToRight (c : Char) : Bool :=
  !(isRightToLeft c || isWeak c || arabicNumberRanges.has c || europeanNumberRanges.has c)

def hasRightToLeft (cs : List Char) : Bool :=
  cs.any fun c => isRightToLeft c || arabicNumberRanges.has c

/-- The last character that is no mark. -/
def lastBase? (cs : List Char) : Option Char :=
  (cs.reverse.dropWhile fun c => nonspacingMarkRanges.has c).head?

/-- Can the label stand in a name of which parts are read from right to left? Its first character
gives it a direction, to which all others have to fit. -/
def isDirected (label : List Char) : Bool :=
  match label with
  | [] => true
  | c :: _ =>
    if isRightToLeft c then
      label.all (fun c => !isLeftToRight c) &&
      (lastBase? label).any (fun c =>
        isRightToLeft c || europeanNumberRanges.has c || arabicNumberRanges.has c) &&
      !(label.any europeanNumberRanges.has && label.any arabicNumberRanges.has)
    else if isLeftToRight c then
      !hasRightToLeft label &&
      (lastBase? label).any fun c => isLeftToRight c || europeanNumberRanges.has c
    else false

/-! ### Joiners -/

/-- The character that keeps its neighbours apart. -/
def nonJoiner : Char := '\u200C'

/-- The character that joins its neighbours. -/
def joiner : Char := '\u200D'

/-- The class of a mark that takes away a vowel. -/
def viramaClass : Nat := 9

/-- Does the text, nearest first, start with a mark that takes away a vowel? -/
def startsVirama (cs : List Char) : Bool :=
  cs.head?.any fun c => Normalization.combiningClass c = viramaClass

/-- The first character of a text that does not let its neighbours join across itself. -/
def firstJoining? (cs : List Char) : Option Char :=
  (cs.dropWhile fun c => joinsTransparentlyRanges.has c).head?

/-- Would the neighbours join: the text before, nearest first, and the text after? -/
def wouldJoin (before after : List Char) : Bool :=
  (firstJoining? before).any (fun c => joinsLeftRanges.has c || joinsBothSidesRanges.has c) &&
    (firstJoining? after).any fun c => joinsRightRanges.has c || joinsBothSidesRanges.has c

/-- Does every joiner stand where it makes a difference? -/
def areJoinersPlaced (before : List Char) : List Char → Bool
  | [] => true
  | c :: cs =>
    (if c = nonJoiner then startsVirama before || wouldJoin before cs
      else if c = joiner then startsVirama before
      else true) && areJoinersPlaced (c :: before) cs

/-! ### Labels -/

def isForbidden (c : Char) : Bool :=
  c.toNat ≤ 0x20 || c.toNat = 0x7F || c ∈ "%#/:<>?@[\\]^|".toList

def isLabel (label : List Char) : Bool :=
  !label.any isForbidden && !label.head?.any markRanges.has && areJoinersPlaced [] label

/-- What stands in front of a label in Punycode. -/
def marker : List Char := "xn--".toList

/-- What a label stands for; none where it cannot be decoded, or stands for something that has an
ASCII form of its own or is not normalized. -/
def meaning? (label : List Char) : Option (List Char) :=
  match stripPrefix? marker label with
  | none => some label
  | some code => do
    let decoded ← Punycode.decode? code
    if decoded.all Punycode.isAscii || (stripPrefix? marker decoded).isSome ||
        '.' ∈ decoded || prepared? decoded ≠ some decoded then none
    else some decoded

def labelToAscii (label : List Char) : List Char :=
  if label.all Punycode.isAscii then label else marker ++ Punycode.encode label

def toAscii? (octets : List UInt8) : Option (List Char) := do
  let labels := pieces '.' (← prepared? (← Utf8.decode? octets))
  let meanings ← labels.mapM meaning?
  if meanings.all isLabel && (!meanings.any hasRightToLeft || meanings.all isDirected) then
    some (join ['.'] (labels.map labelToAscii))
  else none

end IdeaBoard.Url.Domain
