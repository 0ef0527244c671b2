import IdeaBoard.Json.Token
import IdeaBoard.Json.Double

/-!
# IdeaBoard — the numbers of a JSON text

A number without fraction and exponent is an integer where it fits 64 bits, unsigned or, if
negative, signed. Any other number is a double: its digits are gathered in a 64-bit significand,
and what no longer fits only moves the exponent; then the significand is scaled by a power of
ten, rounding at each step. A number past the finite doubles is refused.
-/

namespace IdeaBoard.Json

/-- A number: an integer of 64 bits, or a double. -/
inductive Number where
  | integer (n : Int)
  | double (d : Double)
deriving DecidableEq, Repr

namespace Number

def significandBound : Nat := Nat.pow 2 64

/-- The largest exponent that is kept. -/
def maxExponent : Nat := Nat.pow 2 31 - 1

/-- The largest power of ten that is scaled by in one step. -/
def maxPower : Nat := 308

structure Scaled where
  significand : Nat
  exponent : Int
deriving DecidableEq, Repr

/-- Takes the digits of the whole part, up to the first that does not fit; the rest, and whether
there is one, stays. -/
def gather : Nat → List Nat → Nat × List Nat
  | acc, [] => (acc, [])
  | acc, d :: ds =>
    if acc * 10 + d < significandBound then gather (acc * 10 + d) ds else (acc, d :: ds)

/-- The significand and exponent of the digits before and after the point: digits of the whole
part that do not fit raise the exponent, those of the fraction that fit lower it, the others are
dropped. -/
def scaled (whole fraction : List Nat) : Scaled :=
  let w := gather 0 whole
  let f := gather w.1 fraction
  ⟨f.1, w.2.length - (fraction.length - f.2.length : Nat)⟩

def digitsValue (ds : List Nat) : Nat := ds.foldl (fun acc d => acc * 10 + d) 0

def clampExponent (e : Int) : Int := max (-maxExponent - 1) (min maxExponent e)

def power? (e : Nat) : Option Magnitude := Magnitude.ofNat? (Nat.pow 10 e)

/-- Divides by the largest power until the exponent is within reach or nothing is left. -/
def scaleDown? (f : Magnitude) (e : Nat) : Option Magnitude :=
  if f.isZero then some f
  else if _h : e ≤ maxPower then do f.div? (← power? e)
  else do scaleDown? (← f.div? (← power? maxPower)) (e - maxPower)
termination_by e
decreasing_by simp only [maxPower] at *; omega

def Scaled.magnitude? (s : Scaled) : Option Magnitude := do
  let f ← Magnitude.ofNat? s.significand
  if s.exponent < 0 then scaleDown? f (-s.exponent).toNat
  else if s.exponent.toNat ≤ maxPower then f.mul? (← power? s.exponent.toNat)
  else if f.isZero then some f
  else none

/-- The double that a number as written stands for. An exponent past 32 bits leaves nothing
finite but zero. -/
def double? (t : NumberText) : Option Double := do
  let s := scaled t.whole t.fraction
  let magnitude ← match t.exponent with
    | none => s.magnitude?
    | some (down, ds) =>
      let e := digitsValue ds
      if maxExponent < e then
        if s.significand = 0 ∨ down then some .zero else none
      else
        let e : Int := if down then -e else e
        Scaled.magnitude? ⟨s.significand, clampExponent (s.exponent + e)⟩
  return ⟨t.negative, magnitude⟩

def ofText? (t : NumberText) : Option Number :=
  let n := digitsValue t.whole
  if t.fraction.isEmpty && t.exponent.isNone then
    if !t.negative && decide (n < Nat.pow 2 64) then some (.integer n)
    else if t.negative && decide (0 < n ∧ n ≤ Nat.pow 2 63) then some (.integer (-n))
    else (double? t).map .double
  else (double? t).map .double

end Number

end IdeaBoard.Json
