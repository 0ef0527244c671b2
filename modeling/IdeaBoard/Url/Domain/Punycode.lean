import IdeaBoard.Text.Split

/-!
# IdeaBoard — Punycode

A label in ASCII: its ASCII characters, and after a hyphen where and which other characters are to
be inserted, in the order of their codes. The numbers in it are written in a base that adapts to
the size of the last one.
-/

namespace IdeaBoard.Url.Punycode

open IdeaBoard.Text

def base : Nat := 36

def leastThreshold : Nat := 1

def greatestThreshold : Nat := 26

def firstBias : Nat := 72

/-- The first code that is written as a number. -/
def firstCode : Nat := 0x80

/-- The threshold of the digit at a position: a digit below it ends the number. -/
def threshold (bias position : Nat) : Nat :=
  max leastThreshold (min greatestThreshold (base * (position + 1) - bias))

theorem threshold_pos (bias position : Nat) : 0 < threshold bias position := by
  unfold threshold leastThreshold; omega

/-- Brings a number into the range where the bias can be read off; each step moves it one digit
down. -/
def scaled (position delta : Nat) : Nat :=
  if _h : (base - leastThreshold) * greatestThreshold / 2 < delta then
    scaled (position + base) (delta / (base - leastThreshold))
  else position + (base - leastThreshold + 1) * delta / (delta + 38)
termination_by delta
decreasing_by
  simp only [base, leastThreshold, greatestThreshold] at *
  omega

/-- The bias after a number, with `size` characters in place. -/
def adapted (delta size : Nat) (first : Bool) : Nat :=
  let delta := if first then delta / 700 else delta / 2
  scaled 0 (delta + delta / size)

/-- A digit: the letters, then the figures. -/
def digit (n : Nat) : Char := Char.ofNat (if n < 26 then 0x61 + n else 0x30 + (n - 26))

def digitValue? (c : Char) : Option Nat :=
  if 'a' ≤ c ∧ c ≤ 'z' then some (c.toNat - 0x61)
  else if '0' ≤ c ∧ c ≤ '9' then some (c.toNat - 0x30 + 26)
  else none

def isAscii (c : Char) : Bool := c.toNat < firstCode

/-! ### Encoding -/

def numberFrom (bias position n : Nat) : List Char :=
  let t := threshold bias position
  if _h : n < t then [digit n]
  else digit (t + (n - t) % (base - t)) :: numberFrom bias (position + 1) ((n - t) / (base - t))
termination_by n
decreasing_by
  have := threshold_pos bias position
  have := Nat.div_le_self (n - threshold bias position) (base - threshold bias position)
  omega

/-- An encoder at work: what is written, how many characters are in place, the distance to the
next insertion, and the bias. -/
structure Encoder where
  output : List Char
  placed : Nat
  delta : Nat := 0
  bias : Nat := firstBias
  first : Bool := true

/-- Passes a character on the round for a code: lower ones are in place, equal ones are put in
place now. -/
def Encoder.pass (code : Nat) (e : Encoder) (c : Char) : Encoder :=
  if c.toNat < code then { e with delta := e.delta + 1 }
  else if c.toNat = code then
    { output := e.output ++ numberFrom e.bias 0 e.delta
      placed := e.placed + 1
      delta := 0
      bias := adapted e.delta (e.placed + 1) e.first
      first := false }
  else e

/-- The rounds for some codes in increasing order, after the round for the code before `next`. -/
def rounds (cs : List Char) (next : Nat) (e : Encoder) : List Nat → List Char
  | [] => e.output
  | code :: codes =>
    let e := { e with delta := e.delta + (code - next) * (e.placed + 1) }
    let e := cs.foldl (Encoder.pass code) e
    rounds cs (code + 1) { e with delta := e.delta + 1 } codes

/-- Puts a number at its place in an increasing list that may hold it already. -/
def insertCode (n : Nat) : List Nat → List Nat
  | [] => [n]
  | m :: ms => if n < m then n :: m :: ms else if n = m then m :: ms else m :: insertCode n ms

/-- The ASCII form of a label, without its prefix. -/
def encode (cs : List Char) : List Char :=
  let plain := cs.filter isAscii
  let codes := cs.foldl (fun acc c => if isAscii c then acc else insertCode c.toNat acc) []
  rounds cs firstCode
    { output := if plain.isEmpty then [] else plain ++ ['-'], placed := plain.length } codes

/-! ### Decoding -/

/-- A decoder at work: what is decoded, the code and the place of the next insertion, and the
number in progress: its value so far, its weight and its position. -/
structure Decoder where
  output : List Char
  code : Nat := firstCode
  index : Nat := 0
  bias : Nat := firstBias
  value : Nat := 0
  weight : Nat := 1
  position : Nat := 0
  first : Bool := true

def Decoder.insert? (d : Decoder) (value : Nat) : Option Decoder :=
  let size := d.output.length + 1
  let index := d.index + value
  let code := d.code + index / size
  if code.isValidChar then
    let place := index % size
    some
      { output := d.output.take place ++ Char.ofNat code :: d.output.drop place
        code, index := place + 1, bias := adapted value size d.first, first := false }
  else none

def Decoder.take? (d : Decoder) (c : Char) : Option Decoder := do
  let n ← digitValue? c
  let value := d.value + n * d.weight
  let t := threshold d.bias d.position
  if n < t then d.insert? value
  else some { d with value, weight := d.weight * (base - t), position := d.position + 1 }

/-- The text before the last hyphen and the digits after it; a hyphen in front is no such one. -/
def cutDigits (cs : List Char) : List Char × List Char :=
  match cutFirst? '-' cs.reverse with
  | some (digits, plain) => if plain.isEmpty then ([], cs) else (plain.reverse, digits.reverse)
  | none => ([], cs)

def decode? (cs : List Char) : Option (List Char) := do
  let (plain, digits) := cutDigits cs
  if !plain.all isAscii then none
  else
    let d ← digits.foldlM Decoder.take? { output := plain }
    if d.position = 0 then some d.output else none

end IdeaBoard.Url.Punycode
