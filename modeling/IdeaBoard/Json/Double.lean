/-!
# IdeaBoard — doubles in exact arithmetic

Binary floating-point magnitudes of 64 bits, with every operation carried out on naturals and
rounded once, to the nearest representable magnitude and of two nearest to the even one.
-/

namespace IdeaBoard.Json

/-- The finite magnitude `mantissa · 2 ^ scale / 2 ^ 1074`. -/
structure Magnitude where
  mantissa : Nat
  scale : Nat
deriving DecidableEq, Repr

namespace Magnitude

def precision : Nat := 53

/-- The largest scale of a finite magnitude. -/
def maxScale : Nat := 2045

/-- The power of two below which a magnitude is counted in units. -/
def unitBits : Nat := 1074

/-- The quotient of two naturals to the nearest natural; halves go to the even neighbour. -/
def roundDiv (num den : Nat) : Nat :=
  let q := num / den
  let r := num % den
  if 2 * r < den then q
  else if den < 2 * r then q + 1
  else if q % 2 = 0 then q else q + 1

/-- The least scale at which a quotient needs no more bits than a mantissa has. -/
def scaleFor (num den : Nat) : Nat :=
  let q := num / den
  if q = 0 then 0 else q.log2 + 1 - precision

/-- The magnitude nearest to `num / den`, or none where that is past the finite ones. -/
def ofRatio? (num den : Nat) : Option Magnitude :=
  let num := num * Nat.pow 2 unitBits
  let scale := scaleFor num den
  let mantissa := roundDiv num (den * Nat.pow 2 scale)
  let m : Magnitude :=
    if mantissa = Nat.pow 2 precision then ⟨Nat.pow 2 (precision - 1), scale + 1⟩
    else ⟨mantissa, scale⟩
  if m.scale ≤ maxScale then some m else none

/-- The magnitude in units of `2 ^ -1074`. -/
def units (m : Magnitude) : Nat := m.mantissa * Nat.pow 2 m.scale

def isZero (m : Magnitude) : Bool := m.mantissa = 0

def zero : Magnitude := ⟨0, 0⟩

def ofNat? (n : Nat) : Option Magnitude := ofRatio? n 1

def mul? (a b : Magnitude) : Option Magnitude :=
  ofRatio? (a.units * b.units) (Nat.pow 2 (2 * unitBits))

def div? (a b : Magnitude) : Option Magnitude := ofRatio? a.units b.units

end Magnitude

/-- A finite double: a sign and a magnitude; there are two zeros. -/
structure Double where
  negative : Bool
  magnitude : Magnitude
deriving DecidableEq, Repr

end IdeaBoard.Json
