import IdeaBoard.Json.Double

/-!
# IdeaBoard — doubles in decimal

A double is written with the fewest decimal digits that read back as the same double, and of
those with the nearest to it; always positionally, without an exponent and without a fraction
that is zero.
-/

namespace IdeaBoard.Json

namespace Magnitude

/-- Does `digits · 10 ^ exponent`, given as `num / den`, round to the magnitude? The reals that do
reach half way to the neighbours on both sides, ends included when the mantissa is even. Below a
power of two the lower neighbour is half as far away. -/
def readsBack (m : Magnitude) (num den : Nat) : Bool :=
  -- everything in quarters of a unit of the last place
  let step := Nat.pow 2 m.scale
  let value := 4 * m.units
  let above := value + 2 * step
  let below :=
    if m.mantissa = Nat.pow 2 (precision - 1) ∧ m.scale ≠ 0 then value - step
    else value - 2 * step
  let x := num * 4 * Nat.pow 2 unitBits
  if m.mantissa % 2 = 0 then below * den ≤ x && x ≤ above * den
  else below * den < x && x < above * den

/-- A decimal number `digits · 10 ^ exponent`. -/
structure Decimal where
  digits : Nat
  exponent : Int
deriving DecidableEq, Repr

def powerOfTen (e : Int) : Nat × Nat :=
  if 0 ≤ e then (Nat.pow 10 e.toNat, 1) else (1, Nat.pow 10 (-e).toNat)

/-- The number of digits before the decimal point of `num / den`, negative for zeros after it:
the least `k` with `num / den < 10 ^ k`, searched upward. -/
def scaleFrom (num den : Nat) (k : Int) : Nat → Int
  | 0 => k
  | steps + 1 =>
    let p := powerOfTen k
    if num * p.2 < p.1 * den then k else scaleFrom num den (k + 1) steps

/-- The decimal scale of a magnitude, from an estimate by its binary logarithm that is at most
three too low. -/
def decimalScale (m : Magnitude) : Int :=
  let estimate : Int := (Int.ofNat m.units.log2 - unitBits) * 30103 / 100000
  scaleFrom m.units (Nat.pow 2 unitBits) (estimate - 1) 4

/-- The two neighbours of a magnitude on the grid of multiples of `10 ^ e`, and the nearer of
those that read back; half way between them the upper one. -/
def onGrid? (m : Magnitude) (e : Int) : Option Decimal :=
  let p := powerOfTen e
  let num := m.units * p.2
  let den := Nat.pow 2 unitBits * p.1
  let lower := num / den
  let upper := lower + 1
  let low := m.readsBack (lower * p.1) p.2
  let high := m.readsBack (upper * p.1) p.2
  if low && (!high || 2 * (num % den) < den) then some ⟨lower, e⟩
  else if high then some ⟨upper, e⟩
  else none

/-- The first of `1, …, 17` digits for which a neighbour reads back. -/
def shortest (m : Magnitude) : Decimal :=
  let k := m.decimalScale
  ((List.range 17).findSome? fun n => m.onGrid? (k - (n + 1 : Nat))).getD
    ⟨m.units * Nat.pow 10 unitBits / Nat.pow 2 unitBits, -unitBits⟩

def positional (d : Decimal) : List Char :=
  let digits := Nat.toDigits 10 d.digits
  if 0 ≤ d.exponent then
    if d.digits = 0 then ['0'] else digits ++ List.replicate d.exponent.toNat '0'
  else
    let places := (-d.exponent).toNat
    let padded := List.replicate (places + 1 - digits.length) '0' ++ digits
    let whole := padded.take (padded.length - places)
    let fraction := ((padded.drop (padded.length - places)).reverse.dropWhile (· = '0')).reverse
    if fraction.isEmpty then whole else whole ++ '.' :: fraction

end Magnitude

/-- A double in decimal: its sign, also of a zero, and the shortest digits. -/
def Double.text (d : Double) : String :=
  String.ofList ((if d.negative then ['-'] else []) ++
    if d.magnitude.isZero then ['0'] else Magnitude.positional d.magnitude.shortest)

end IdeaBoard.Json
