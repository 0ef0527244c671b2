import IdeaBoard.Text.Numeral

/-!
# IdeaBoard — the numbers of a configuration

An integer has an optional sign, an optional base mark, digits with underscores between them, and
an optional name of its type. A number that nobody asks for may also be a fraction, have an
exponent, or be infinite or undefined.
-/

namespace IdeaBoard.Config

open IdeaBoard.Text

/-- An integer, read for its form. -/
structure IntegerText where
  negative : Bool
  value : Nat
  /-- The name of the type, empty where it is left out. -/
  suffix : List Char
deriving DecidableEq, Repr

def signed : List Char → Bool × List Char
  | '+' :: cs => (false, cs)
  | '-' :: cs => (true, cs)
  | cs => (false, cs)

/-- The base named in front of the digits, and the rest. -/
def based : List Char → Nat × List Char
  | '0' :: 'b' :: cs => (2, cs)
  | '0' :: 'o' :: cs => (8, cs)
  | '0' :: 'x' :: cs => (16, cs)
  | cs => (10, cs)

/-- The value of digits in a base; underscores do not count. -/
def valueFrom? (base : Nat) : Nat → List Char → Option Nat
  | acc, [] => some acc
  | acc, c :: cs =>
    if c = '_' then valueFrom? base acc cs
    else do
      let d ← hexDigit? c
      if d < base then valueFrom? base (acc * base + d) cs else none

/-- May `c` be among the digits of an integer, in whatever base? -/
def isIntegerChar (c : Char) : Bool := (hexDigit? c).isSome || c = '_'

def IntegerText.parse? (cs : List Char) : Option IntegerText :=
  let (negative, cs) := signed cs
  let (base, cs) := based cs
  let digits := cs.takeWhile isIntegerChar
  if digits.isEmpty || digits.head? = some '_' then none
  else (valueFrom? base 0 digits).map fun v => ⟨negative, v, cs.dropWhile isIntegerChar⟩

/-- The number below `bound` that a text stands for, perhaps with the name of its type after
it. -/
def naturalBelow? (bound : Nat) (typeName : List Char) (cs : List Char) : Option Nat := do
  let n ← IntegerText.parse? cs
  if (n.suffix.isEmpty || n.suffix = typeName) && (!n.negative || n.value = 0) && n.value < bound
  then some n.value else none

/-! ### Numbers that nobody asks for -/

/-- An integer type: its name, and the largest magnitudes below and above zero. -/
structure IntegerType where
  name : List Char
  below : Nat
  above : Nat
deriving DecidableEq, Repr

def IntegerType.signed (name : String) (bits : Nat) : IntegerType :=
  ⟨name.toList, Nat.pow 2 (bits - 1), Nat.pow 2 (bits - 1) - 1⟩

def IntegerType.unsigned (name : String) (bits : Nat) : IntegerType :=
  ⟨name.toList, 0, Nat.pow 2 bits - 1⟩

/-- The integer types. A number that names none is of the widest that has its sign. -/
def integerTypes : List IntegerType :=
  [.signed "i8" 8, .signed "i16" 16, .signed "i32" 32, .signed "i64" 64, .unsigned "u8" 8,
   .unsigned "u16" 16, .unsigned "u32" 32, .unsigned "u64" 64,
   ⟨[], Nat.pow 2 63, Nat.pow 2 64 - 1⟩]

def isInteger (cs : List Char) : Bool :=
  match IntegerText.parse? cs with
  | none => false
  | some n => integerTypes.any fun t =>
    n.suffix = t.name && decide (n.value ≤ if n.negative then t.below else t.above)

def isFloatChar (c : Char) : Bool :=
  c.isDigit || c = 'e' || c = 'E' || c = '.' || c = '+' || c = '-' || c = '_'

/-- Are the underscores where they may be: after a digit or an exponent mark? -/
def underscoresFit : Bool → List Char → Bool
  | _, [] => true
  | fits, c :: cs =>
    if c = '_' then fits && underscoresFit fits cs
    else if c.isDigit || c = 'e' || c = 'E' then underscoresFit true cs
    else if c = '.' then underscoresFit false cs
    else underscoresFit fits cs

def isExponent : List Char → Bool
  | [] => true
  | c :: cs =>
    let digits := (signed cs).2
    (c = 'e' || c = 'E') && !digits.isEmpty && digits.all Char.isDigit

/-- Digits with a point among them, and an exponent. -/
def isDecimal (cs : List Char) : Bool :=
  let whole := cs.takeWhile Char.isDigit
  match cs.dropWhile Char.isDigit with
  | '.' :: rest =>
    let fraction := rest.takeWhile Char.isDigit
    !(whole.isEmpty && fraction.isEmpty) && isExponent (rest.dropWhile Char.isDigit)
  | rest => !whole.isEmpty && isExponent rest

/-- Is the text a number with a fraction or an exponent, or no finite number? -/
def isFloat (cs : List Char) : Bool :=
  let digits := cs.takeWhile isFloatChar
  let suffix := cs.dropWhile isFloatChar
  let name := (signed cs).2
  (suffix.isEmpty || suffix = "f32".toList || suffix = "f64".toList) &&
      underscoresFit false digits && isDecimal (signed (digits.filter (· ≠ '_'))).2 ||
    ["inf", "inff32", "inff64", "NaN", "NaNf32", "NaNf64"].any fun w => name = w.toList

def isNumber (cs : List Char) : Bool := isInteger cs || isFloat cs

end IdeaBoard.Config
