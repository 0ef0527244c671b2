import IdeaBoard.Text.Normalization.Table

/-!
# IdeaBoard — normalization

The composed normal form of a text: characters are taken apart, the marks after each base are put
in the order of their classes, and what can be composed is composed again.
-/

namespace IdeaBoard.Text.Normalization

/-! ### Classes -/

/-- The combining class of a character; zero for a base. -/
def combiningClass (c : Char) : Nat :=
  match classRanges.find? fun r => r.1 ≤ c.toNat ∧ c.toNat ≤ r.2.1 with
  | some r => r.2.2
  | none => 0

/-! ### Syllables of Hangul

A syllable is composed by arithmetic, of a leading consonant, a vowel, and perhaps a trailing
consonant. -/

def syllableBase : Nat := 0xAC00

def leadingBase : Nat := 0x1100

def vowelBase : Nat := 0x1161

/-- The code before the first trailing consonant. -/
def trailingBase : Nat := 0x11A7

def leadingCount : Nat := 19

def vowelCount : Nat := 21

/-- How many trailing consonants there are; none counts as one. -/
def trailingCount : Nat := 28

def syllableParts? (n : Nat) : Option (List Nat) :=
  if n < syllableBase ∨ syllableBase + leadingCount * vowelCount * trailingCount ≤ n then none
  else
    let i := n - syllableBase
    let leading := leadingBase + i / trailingCount / vowelCount
    let vowel := vowelBase + i / trailingCount % vowelCount
    let trailing := trailingBase + i % trailingCount
    some (if trailing = trailingBase then [leading, vowel] else [leading, vowel, trailing])

/-- The syllable of a leading consonant and a vowel, or of a syllable and a trailing consonant. -/
def syllable? (a b : Nat) : Option Nat :=
  if leadingBase ≤ a ∧ a < leadingBase + leadingCount ∧ vowelBase ≤ b ∧
      b < vowelBase + vowelCount then
    some (syllableBase + ((a - leadingBase) * vowelCount + (b - vowelBase)) * trailingCount)
  else if syllableBase ≤ a ∧ a < syllableBase + leadingCount * vowelCount * trailingCount ∧
      (a - syllableBase) % trailingCount = 0 ∧ trailingBase < b ∧
      b < trailingBase + trailingCount then
    some (a + (b - trailingBase))
  else none

/-! ### Taking apart -/

/-- The characters that a character is composed of, taken apart up to `depth` times. -/
def parts : (depth : Nat) → Nat → List Nat
  | 0, n => [n]
  | depth + 1, n =>
    match syllableParts? n with
    | some ps => ps
    | none =>
      match compositions.find? fun c => c.2.2 = n with
      | some c => parts depth c.1 ++ [c.2.1]
      | none => [n]

def maxDepth : Nat := 4

def decomposed (cs : List Char) : List Char :=
  cs.flatMap fun c => (parts maxDepth c.toNat).map Char.ofNat

/-! ### Ordering -/

/-- Puts a character in front of an ordered text, behind the marks of lower classes. -/
def place (c : Char) : List Char → List Char
  | [] => [c]
  | d :: ds =>
    if combiningClass d ≠ 0 ∧ combiningClass d < combiningClass c then d :: place c ds
    else c :: d :: ds

/-- A text in which the marks after each base are in the order of their classes. -/
def ordered : List Char → List Char
  | [] => []
  | c :: cs => place c (ordered cs)

/-! ### Composing -/

def composite? (a b : Char) : Option Char :=
  match syllable? a.toNat b.toNat with
  | some n => some (Char.ofNat n)
  | none =>
    (compositions.find? fun c => c.1 = a.toNat ∧ c.2.1 = b.toNat).map fun c => Char.ofNat c.2.2

/-- Composes a text that follows a base and the marks after it that stay, latest first. A mark
composes with the base unless a mark between them is of its class or a higher one. -/
def composeFrom (base : Char) (marks : List Char) : List Char → List Char
  | [] => base :: marks.reverse
  | c :: cs =>
    let free := match marks with
      | [] => true
      | m :: _ => combiningClass m < combiningClass c
    match if free then composite? base c else none with
    | some d => composeFrom d marks cs
    | none =>
      if combiningClass c = 0 then base :: marks.reverse ++ composeFrom c [] cs
      else composeFrom base (c :: marks) cs

def composed (cs : List Char) : List Char :=
  cs.takeWhile (fun c => combiningClass c ≠ 0) ++
    match cs.dropWhile (fun c => combiningClass c ≠ 0) with
    | [] => []
    | base :: rest => composeFrom base [] rest

def normalized (cs : List Char) : List Char := composed (ordered (decomposed cs))

end IdeaBoard.Text.Normalization
