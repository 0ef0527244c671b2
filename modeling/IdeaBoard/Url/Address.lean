import IdeaBoard.Text.Split
import IdeaBoard.Text.Numeral

/-!
# IdeaBoard — numeric hosts

Addresses of 32 bits, written as one to four numbers in decimal, octal or hexadecimal, and
addresses of 128 bits in brackets, written as groups of hexadecimal digits with the zeros in one
place left out.
-/

namespace IdeaBoard.Url

open IdeaBoard.Text

/-! ### Addresses of 32 bits -/

/-- The value of a text that has only digits of a base; none where another character occurs. -/
def baseValueFrom? (base : Nat) : Nat → List Char → Option Nat
  | acc, [] => some acc
  | acc, c :: cs => do
    let d ← hexDigit? c
    if d < base then baseValueFrom? base (acc * base + d) cs else none

/-- The number of a part of an address: hexadecimal after `0x`, octal after `0`, else decimal. -/
def partValue? : List Char → Option Nat
  | [] => none
  | '0' :: 'x' :: cs => baseValueFrom? 16 0 cs
  | '0' :: 'X' :: cs => baseValueFrom? 16 0 cs
  | '0' :: c :: cs => baseValueFrom? 8 0 (c :: cs)
  | cs => baseValueFrom? 10 0 cs

/-- The parts of a name between dots; one dot at the end does not count. -/
def dotParts (cs : List Char) : List (List Char) :=
  let parts := pieces '.' cs
  match parts.getLast? with
  | some [] => parts.dropLast
  | _ => parts

/-- Is the last part of a name a number, so that the name has to be an address? -/
def endsInNumber (cs : List Char) : Bool :=
  match (dotParts cs).getLast? with
  | none => false
  | some last => (!last.isEmpty && last.all Char.isDigit) || (partValue? last).isSome

/-- The address of some numbers: each but the last is one octet, the last fills what is left. -/
def addressOf? (numbers : List Nat) : Option Nat :=
  match numbers.getLast? with
  | none => none
  | some last =>
    let front := numbers.dropLast
    if front.all (· < 256) && last < Nat.pow 256 (4 - front.length) then
      some (front.foldl (fun acc n => acc * 256 + n) 0 * Nat.pow 256 (4 - front.length) + last)
    else none

def parseIpv4? (cs : List Char) : Option Nat := do
  let parts := dotParts cs
  if 4 < parts.length then none else addressOf? (← parts.mapM partValue?)

def ipv4Text (a : Nat) : List Char :=
  join ['.'] ([3, 2, 1, 0].map fun i => Nat.toDigits 10 (a / Nat.pow 256 i % 256))

/-! ### Addresses of 128 bits -/

def group? (cs : List Char) : Option Nat :=
  if cs.isEmpty || 4 < cs.length then none else baseValueFrom? 16 0 cs

/-- A decimal octet without leading zeros. -/
def octet? (cs : List Char) : Option Nat := do
  let n ← digitsValue? cs
  if n < 256 ∧ (cs.length = 1 ∨ cs.head? ≠ some '0') then some n else none

/-- The two groups of four decimal octets. -/
def quad? (cs : List Char) : Option (List Nat) := do
  match ← (pieces '.' cs).mapM octet? with
  | [a, b, c, d] => some [a * 256 + b, c * 256 + d]
  | _ => none

/-- The groups of parts between colons; the last part may be four decimal octets if `quads`. -/
def groupsOf? (quads : Bool) : List (List Char) → Option (List Nat)
  | [] => some []
  | [p] => if quads && p.contains '.' then quad? p else (group? p).map fun g => [g]
  | p :: ps => do return (← group? p) :: (← groupsOf? quads ps)

def groups? (quads : Bool) (cs : List Char) : Option (List Nat) :=
  if cs.isEmpty then some [] else groupsOf? quads (pieces ':' cs)

/-- The text before and after the first two colons in a row. -/
def cutGap? : List Char → Option (List Char × List Char)
  | ':' :: ':' :: cs => some ([], cs)
  | c :: cs => (cutGap? cs).map fun r => (c :: r.1, r.2)
  | [] => none

def parseIpv6? (cs : List Char) : Option (List Nat) :=
  match cutGap? cs with
  | some (front, back) => do
    let front ← groups? false front
    let back ← groups? true back
    let given := front.length + back.length
    if given ≤ 7 then some (front ++ List.replicate (8 - given) 0 ++ back) else none
  | none => do
    let all ← groups? true cs
    if all.length = 8 then some all else none

def zeroRun : List Nat → Nat
  | 0 :: gs => zeroRun gs + 1
  | _ => 0

/-- Start and length of the longest run of zeros, the first of several, seen from a position. -/
def longestZeros : Nat → List Nat → Nat × Nat
  | at_, [] => (at_, 0)
  | at_, g :: gs =>
    let here := zeroRun (g :: gs)
    let later := longestZeros (at_ + 1) gs
    if later.2 ≤ here then (at_, here) else later

def groupsText (gs : List Nat) : List Char := join [':'] (gs.map (Nat.toDigits 16))

/-- An address in brackets; the longest run of two or more zeros is left out. -/
def ipv6Text (gs : List Nat) : List Char :=
  let zeros := longestZeros 0 gs
  let body :=
    if 2 ≤ zeros.2 then
      groupsText (gs.take zeros.1) ++ [':', ':'] ++ groupsText (gs.drop (zeros.1 + zeros.2))
    else groupsText gs
  '[' :: body ++ [']']

end IdeaBoard.Url
