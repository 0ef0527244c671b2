import IdeaBoard.Text.Blank

/-!
# IdeaBoard — decimal numerals

Unsigned numbers as text: the digits that are written, and what is read back from a text that
may start with a plus sign.
-/

namespace IdeaBoard.Text

/-- The decimal digits of `n`, without leading zeros. -/
def numeral (n : Nat) : String := String.ofList (Nat.toDigits 10 n)

/-- A number that may be missing, as messages show it. -/
def maybeNumeral : Option Nat → String
  | some n => "Some(" ++ numeral n ++ ")"
  | none => "None"

def digitsValue? (cs : List Char) : Option Nat :=
  if cs ≠ [] ∧ cs.all Char.isDigit then some (Nat.ofDigitChars 10 cs 0) else none

/-- Reads an optional plus sign and digits whose value is below `bound`. -/
def readBelow? (bound : Nat) (cs : List Char) : Option Nat :=
  let digits := match cs with
    | '+' :: ds => ds
    | ds => ds
  (digitsValue? digits).filter (· < bound)

def hexDigit? (c : Char) : Option Nat :=
  if '0' ≤ c ∧ c ≤ '9' then some (c.toNat - 0x30)
  else if 'a' ≤ c ∧ c ≤ 'f' then some (c.toNat - 0x57)
  else if 'A' ≤ c ∧ c ≤ 'F' then some (c.toNat - 0x37)
  else none

/-- The value of a hexadecimal numeral, read after `acc`. -/
def hexValueFrom? : Nat → List Char → Option Nat
  | acc, [] => some acc
  | acc, c :: cs => do hexValueFrom? (acc * 16 + (← hexDigit? c)) cs

end IdeaBoard.Text
