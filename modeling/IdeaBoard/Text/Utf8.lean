/-!
# IdeaBoard — UTF-8

The octets of a text, and the text of octets. A decoder remembers what the character in progress
still allows; whatever cannot be continued is one ill-formed item, so that every maximal
ill-formed part is reported once. Strict reading refuses such items, lenient reading shows each
as U+FFFD.
-/

namespace IdeaBoard.Text.Utf8

def encodeChar (c : Char) : List UInt8 :=
  let v := c.toNat
  if v < 0x80 then [.ofNat v]
  else if v < 0x800 then [.ofNat (0xC0 + v / 0x40), .ofNat (0x80 + v % 0x40)]
  else if v < 0x10000 then
    [.ofNat (0xE0 + v / 0x1000), .ofNat (0x80 + v / 0x40 % 0x40), .ofNat (0x80 + v % 0x40)]
  else
    [.ofNat (0xF0 + v / 0x40000), .ofNat (0x80 + v / 0x1000 % 0x40),
     .ofNat (0x80 + v / 0x40 % 0x40), .ofNat (0x80 + v % 0x40)]

def encode (cs : List Char) : List UInt8 := cs.flatMap encodeChar

/-- A character in progress: how many octets are missing, the value so far, and the range that
the next octet may come from. -/
structure Pending where
  missing : Nat
  value : Nat
  lo : Nat
  hi : Nat
deriving DecidableEq, Repr

/-- What the decoder finds: a character, or a maximal part that belongs to none. -/
inductive Item where
  | char (c : Char)
  | illFormed
deriving DecidableEq, Repr

inductive Lead where
  | char (c : Char)
  | pending (p : Pending)
  | illFormed
deriving DecidableEq, Repr

/-- The meaning of an octet at the start of a character. The second octet is narrowed so that no
overlong form, surrogate or value past U+10FFFF can be completed. -/
def lead (b : UInt8) : Lead :=
  let n := b.toNat
  if n < 0x80 then .char (Char.ofNat n)
  else if n < 0xC2 then .illFormed
  else if n < 0xE0 then .pending ⟨1, n - 0xC0, 0x80, 0xBF⟩
  else if n = 0xE0 then .pending ⟨2, 0, 0xA0, 0xBF⟩
  else if n = 0xED then .pending ⟨2, 0xD, 0x80, 0x9F⟩
  else if n < 0xF0 then .pending ⟨2, n - 0xE0, 0x80, 0xBF⟩
  else if n = 0xF0 then .pending ⟨3, 0, 0x90, 0xBF⟩
  else if n < 0xF4 then .pending ⟨3, n - 0xF0, 0x80, 0xBF⟩
  else if n = 0xF4 then .pending ⟨3, 4, 0x80, 0x8F⟩
  else .illFormed

/-- The items found from an octet at the start of a character, and the character then in
progress. -/
def start (b : UInt8) : List Item × Option Pending :=
  match lead b with
  | .char c => ([.char c], none)
  | .pending p => ([], some p)
  | .illFormed => ([.illFormed], none)

/-- The items found from an octet, and the character then in progress. An octet that does not
continue the character in progress ends it ill-formed and is taken again as a start. -/
def step (state : Option Pending) (b : UInt8) : List Item × Option Pending :=
  match state with
  | none => start b
  | some p =>
    if p.lo ≤ b.toNat ∧ b.toNat ≤ p.hi then
      let value := p.value * 0x40 + (b.toNat - 0x80)
      if p.missing ≤ 1 then ([.char (Char.ofNat value)], none)
      else ([], some ⟨p.missing - 1, value, 0x80, 0xBF⟩)
    else (.illFormed :: (start b).1, (start b).2)

/-- The items of the octets, read in a state; a character still in progress at the end is
ill-formed. -/
def itemsFrom : Option Pending → List UInt8 → List Item
  | none, [] => []
  | some _, [] => [.illFormed]
  | state, b :: bs => (step state b).1 ++ itemsFrom (step state b).2 bs

def items (bs : List UInt8) : List Item := itemsFrom none bs

def Item.shown : Item → Char
  | .char c => c
  | .illFormed => Char.ofNat 0xFFFD

def Item.char? : Item → Option Char
  | .char c => some c
  | .illFormed => none

/-- Lenient reading: each maximal ill-formed part becomes U+FFFD. -/
def decodeLenient (bs : List UInt8) : List Char := (items bs).map Item.shown

/-- Strict reading: none if any part is ill-formed. -/
def decode? (bs : List UInt8) : Option (List Char) := (items bs).mapM Item.char?

end IdeaBoard.Text.Utf8
