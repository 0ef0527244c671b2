import IdeaBoard.Text.Numeral

/-!
# IdeaBoard — the tokens of a JSON text

Punctuation, words, numbers and strings, as they are written: a number keeps its digits, a string
its escaped surrogates one by one, so that only what is used need be evaluated. The scanner takes
one character at a time and remembers what it is in the middle of.
-/

namespace IdeaBoard.Json

/-- A number as written: the digits before the point, after it, and of the exponent. -/
structure NumberText where
  negative : Bool
  whole : List Nat
  fraction : List Nat
  exponent : Option (Bool × List Nat)
deriving DecidableEq, Repr, Inhabited

/-- An element of a string as written: a character, or one surrogate given by an escape. -/
inductive Unit16 where
  | char (c : Char)
  | surrogate (u : Nat)
deriving DecidableEq, Repr

abbrev StringText := List Unit16

inductive Token where
  | openArray | closeArray | openObject | closeObject | comma | colon
  | null
  | bool (b : Bool)
  | number (n : NumberText)
  | string (s : StringText)
deriving DecidableEq, Repr

/-- What a scanner is in the middle of. Digits and string elements are kept latest first. -/
inductive Scan where
  /-- Between tokens. -/
  | outside
  /-- In a word, with the characters that are to follow. -/
  | word (rest : List Char) (token : Token)
  /-- After a minus sign. -/
  | minus
  /-- After a whole part that starts with zero and so has no more digits. -/
  | zero (negative : Bool)
  /-- In the digits of the whole part. -/
  | whole (negative : Bool) (digits : List Nat)
  /-- After the point. -/
  | point (negative : Bool) (whole : List Nat)
  /-- In the digits of the fraction. -/
  | fraction (negative : Bool) (whole digits : List Nat)
  /-- After the exponent mark. -/
  | mark (negative : Bool) (whole fraction : List Nat)
  /-- After the sign of the exponent. -/
  | sign (negative : Bool) (whole fraction : List Nat) (down : Bool)
  /-- In the digits of the exponent. -/
  | exponent (negative : Bool) (whole fraction : List Nat) (down : Bool) (digits : List Nat)
  /-- In a string. -/
  | text (done : StringText)
  /-- After a backslash in a string. -/
  | escape (done : StringText)
  /-- In the four digits of a `\u` escape. -/
  | hex (done : StringText) (missing value : Nat)
deriving DecidableEq, Repr

namespace Scan

def digit? (c : Char) : Option Nat := if c.isDigit then some (c.toNat - 0x30) else none

def isSpace (c : Char) : Bool := c = ' ' || c = '\t' || c = '\n' || c = '\r'

/-- The number that ends here, where one may end. -/
def finished? : Scan → Option NumberText
  | zero neg => some ⟨neg, [0], [], none⟩
  | whole neg ds => some ⟨neg, ds.reverse, [], none⟩
  | fraction neg w ds => some ⟨neg, w.reverse, ds.reverse, none⟩
  | exponent neg w f down ds => some ⟨neg, w.reverse, f.reverse, some (down, ds.reverse)⟩
  | _ => none

def begin? (c : Char) : Option (List Token × Scan) :=
  if isSpace c then some ([], outside)
  else match c with
    | '[' => some ([.openArray], outside)
    | ']' => some ([.closeArray], outside)
    | '\x7b' => some ([.openObject], outside)
    | '\x7d' => some ([.closeObject], outside)
    | ',' => some ([.comma], outside)
    | ':' => some ([.colon], outside)
    | '"' => some ([], text [])
    | 'n' => some ([], word ['u', 'l', 'l'] .null)
    | 't' => some ([], word ['r', 'u', 'e'] (.bool true))
    | 'f' => some ([], word ['a', 'l', 's', 'e'] (.bool false))
    | '-' => some ([], minus)
    -- nothing but a fraction or an exponent follows a zero in front
    | '0' => some ([], zero false)
    | _ => (digit? c).map fun d => ([], whole false [d])

/-- How a number goes on with a character, where it does. -/
def continue? : Scan → Char → Option Scan
  | zero neg, c =>
    if c = '.' then some (point neg [0])
    else if c = 'e' ∨ c = 'E' then some (mark neg [0] [])
    else none
  | whole neg ds, c =>
    if c = '.' then some (point neg ds)
    else if c = 'e' ∨ c = 'E' then some (mark neg ds [])
    else (digit? c).map fun d => whole neg (d :: ds)
  | fraction neg w ds, c =>
    if c = 'e' ∨ c = 'E' then some (mark neg w ds)
    else (digit? c).map fun d => fraction neg w (d :: ds)
  | exponent neg w f down ds, c => (digit? c).map fun d => exponent neg w f down (d :: ds)
  | _, _ => none

def escaped? : Char → Option Char
  | '"' => some '"'
  | '\\' => some '\\'
  | '/' => some '/'
  | 'b' => some (Char.ofNat 8)
  | 'f' => some (Char.ofNat 12)
  | 'n' => some '\n'
  | 'r' => some '\r'
  | 't' => some '\t'
  | _ => none

/-- The element that a `\u` escape stands for. -/
def unitOf (value : Nat) : Unit16 :=
  if 0xD800 ≤ value ∧ value < 0xE000 then .surrogate value else .char (Char.ofNat value)

/-- The tokens completed by a character, and the state after it. -/
def step? : Scan → Char → Option (List Token × Scan)
  | outside, c => begin? c
  | word [] _, _ => none
  | word [last] token, c => if c = last then some ([token], outside) else none
  | word (next :: rest) token, c => if c = next then some ([], word rest token) else none
  | minus, c =>
    if c = '0' then some ([], zero true)
    else (digit? c).map fun d => ([], whole true [d])
  | point neg w, c => (digit? c).map fun d => ([], fraction neg w [d])
  | mark neg w f, c =>
    if c = '+' then some ([], sign neg w f false)
    else if c = '-' then some ([], sign neg w f true)
    else (digit? c).map fun d => ([], exponent neg w f false [d])
  | sign neg w f down, c => (digit? c).map fun d => ([], exponent neg w f down [d])
  | text done, c =>
    if c = '"' then some ([.string done.reverse], outside)
    else if c = '\\' then some ([], escape done)
    -- control characters have to be escaped
    else if c.toNat < 0x20 then none
    else some ([], text (.char c :: done))
  | escape done, c =>
    if c = 'u' then some ([], hex done 4 0)
    else (escaped? c).map fun e => ([], text (.char e :: done))
  | hex done missing value, c => do
    let value := value * 16 + (← Text.hexDigit? c)
    if missing ≤ 1 then some ([], text (unitOf value :: done))
    else some ([], hex done (missing - 1) value)
  -- a number has no end of its own: what does not continue it begins something else
  | state, c =>
    match state.continue? c with
    | some next => some ([], next)
    | none => do
      let n ← state.finished?
      let (tokens, next) ← begin? c
      some (.number n :: tokens, next)

/-- The tokens completed by the end of the text. -/
def finish? : Scan → Option (List Token)
  | outside => some []
  | state => state.finished?.map fun n => [.number n]

def tokens? : Scan → List Char → Option (List Token)
  | state, [] => state.finish?
  | state, c :: cs => do
    let (found, next) ← state.step? c
    return found ++ (← tokens? next cs)

end Scan

/-- The tokens of a text, or none where it cannot be cut into tokens. -/
def tokens? (cs : List Char) : Option (List Token) := Scan.outside.tokens? cs

end IdeaBoard.Json
