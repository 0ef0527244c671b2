import IdeaBoard.Text.Utf8
import IdeaBoard.Text.Split
import IdeaBoard.Text.Numeral

/-!
# IdeaBoard — form encoding

Names and values in the query part of a location (`application/x-www-form-urlencoded`). A
component is written over its UTF-8 octets: letters, digits and `*-._` stand for themselves, a
space is `+`, any other octet is `%` and two hexadecimal digits. Reading accepts any text: a `%`
that starts no such escape stands for itself, and octets that are no UTF-8 become U+FFFD.
-/

namespace IdeaBoard.Form

open IdeaBoard.Text

/-- Does this octet stand for itself in a written component? -/
def isPlain (b : UInt8) : Bool :=
  let n := b.toNat
  n = 0x2A || n = 0x2D || n = 0x2E || (0x30 ≤ n && n ≤ 0x39) || (0x41 ≤ n && n ≤ 0x5A) ||
    n = 0x5F || (0x61 ≤ n && n ≤ 0x7A)

def hexChar (n : Nat) : Char := if n < 10 then Char.ofNat (0x30 + n) else Char.ofNat (0x37 + n)

/-- `%` and the two hexadecimal digits of an octet. -/
def percent (b : UInt8) : List Char := ['%', hexChar (b.toNat / 16), hexChar (b.toNat % 16)]

def encodeOctet (b : UInt8) : List Char :=
  if isPlain b then [Char.ofNat b.toNat]
  else if b.toNat = 0x20 then ['+']
  else percent b

def encode (cs : List Char) : List Char := (Utf8.encode cs).flatMap encodeOctet

def hexOctet? (b : UInt8) : Option Nat := hexDigit? (Char.ofNat b.toNat)

/-- The octet that `%` and two hexadecimal digits name. -/
def escaped? (b h l : UInt8) : Option UInt8 :=
  if b.toNat = 0x25 then do
    return UInt8.ofNat ((← hexOctet? h) * 16 + (← hexOctet? l))
  else none

/-- Replaces each `%` and two hexadecimal digits by the octet they name. -/
def percentDecode : List UInt8 → List UInt8
  | b :: h :: l :: rest =>
    match escaped? b h l with
    | some octet => octet :: percentDecode rest
    | none => b :: percentDecode (h :: l :: rest)
  | bs => bs

def plusToSpace (c : Char) : Char := if c = '+' then ' ' else c

def decode (cs : List Char) : List Char :=
  Utf8.decodeLenient (percentDecode (Utf8.encode (cs.map plusToSpace)))

/-- The pair that a segment between two `&` stands for: name and value, cut at the first `=`. -/
def pairOf (segment : List Char) : List Char × List Char :=
  match cutFirst? '=' segment with
  | some (name, value) => (decode name, decode value)
  | none => (decode segment, [])

/-- The pairs of a form-encoded text; empty segments hold none. -/
def pairs (cs : List Char) : List (List Char × List Char) :=
  ((pieces '&' cs).filter (· ≠ [])).map pairOf

end IdeaBoard.Form
