import IdeaBoard.Text.Identifier
import IdeaBoard.Text.Numeral
import IdeaBoard.Text.Utf8

/-!
# IdeaBoard — the tokens of a configuration

A configuration is made of names, numbers, quoted texts and punctuation, with comments and white
space between them. The scanner takes one character at a time and remembers what it is in the
middle of; a number is any run of characters that starts like one, to be understood later.
-/

namespace IdeaBoard.Config

open IdeaBoard.Text

inductive Token where
  /-- A name; a raw one is written `r#name`. -/
  | name (s : String) (raw : Bool)
  | number (cs : List Char)
  | text (s : String)
  /-- A quoted character, or quoted octets. -/
  | other
  | openParen | closeParen | openBracket | closeBracket | openBrace | closeBrace
  | colon | comma | hash | bang
deriving DecidableEq, Repr

/-- What stands between quotes. -/
inductive Quote where
  | text | bytes | char | byte
deriving DecidableEq, Repr

/-- What a scanner is in the middle of. Characters are kept latest first. -/
inductive Scan where
  | outside
  /-- After a slash that must start a comment. -/
  | slash
  | lineComment
  /-- In nested comments; `last` is a slash or star that may be half of a mark. -/
  | comment (level : Nat) (last : Char)
  | name (done : List Char)
  /-- After `r`, which may start a raw name or a raw text. -/
  | afterR
  /-- After `r` and hashes. -/
  | hashes (quote : Quote) (count : Nat)
  | rawName (done : List Char)
  /-- After `b`, which may start quoted octets. -/
  | afterB
  /-- After `br`, which may start raw quoted octets. -/
  | afterBR
  | number (done : List Char)
  /-- Between quotes. -/
  | quoted (quote : Quote) (done : List Char)
  /-- Before the quote that ends a single character. -/
  | closing (quote : Quote)
  /-- After a backslash. -/
  | escape (quote : Quote) (done : List Char)
  /-- In the two digits of an octet, after earlier octets of the same character. -/
  | octet (quote : Quote) (done : List Char) (before : List UInt8) (first : Option Nat)
  /-- Before the backslash of a further octet. -/
  | moreOctets (quote : Quote) (done : List Char) (before : List UInt8)
  /-- Before the `x` of a further octet. -/
  | moreOctetsX (quote : Quote) (done : List Char) (before : List UInt8)
  /-- Before the brace of a code point. -/
  | codePoint (quote : Quote) (done : List Char)
  /-- In the digits of a code point. -/
  | codePointDigits (quote : Quote) (done : List Char) (count value : Nat)
  /-- In a raw text that ends with a quote and `count` hashes. -/
  | rawText (quote : Quote) (count : Nat) (done : List Char)
  /-- After a quote and `seen` hashes in a raw text. -/
  | rawEnd (quote : Quote) (count seen : Nat) (done : List Char)
deriving DecidableEq, Repr

namespace Scan

def isSpace (c : Char) : Bool :=
  let n := c.toNat
  (9 ≤ n && n ≤ 13) || n = 0x20 || n = 0x85 || n = 0x200E || n = 0x200F || n = 0x2028 ||
    n = 0x2029

/-- The characters that a raw name may have and another name may not. -/
def isMark (c : Char) : Bool := c = '.' || c = '+' || c = '-'

def punctuation? : Char → Option Token
  | '(' => some .openParen
  | ')' => some .closeParen
  | '[' => some .openBracket
  | ']' => some .closeBracket
  | '\x7b' => some .openBrace
  | '\x7d' => some .closeBrace
  | ':' => some .colon
  | ',' => some .comma
  | '#' => some .hash
  | '!' => some .bang
  | _ => none

def begin? (c : Char) : Option (List Token × Scan) :=
  if isSpace c then some ([], outside)
  else if c = '/' then some ([], slash)
  else if c = '"' then some ([], quoted .text [])
  else if c = '\'' then some ([], quoted .char [])
  else if c = 'r' then some ([], afterR)
  else if c = 'b' then some ([], afterB)
  else if c.isDigit || isMark c then some ([], number [c])
  else if startsIdentifier c then some ([], name [c])
  else (punctuation? c).map fun t => ([t], outside)

/-- The state inside a name after one more character, or the name that ends before it. A mark may
not touch a name. -/
def inName? (done : List Char) (c : Char) : Option (List Token × Scan) :=
  if continuesIdentifier c then some ([], name (c :: done))
  else if isMark c then none
  else (begin? c).map fun r => (.name (String.ofList done.reverse) false :: r.1, r.2)

def quotedToken (quote : Quote) (done : List Char) : Token :=
  match quote with
  | .text => .text (String.ofList done.reverse)
  | _ => .other

/-- The state after a character between quotes: a quoted character must end now. -/
def took (quote : Quote) (done : List Char) (c : Char) : Scan :=
  match quote with
  | .text | .bytes => quoted quote (c :: done)
  | .char | .byte => closing quote

def escaped? : Char → Option Char
  | '\'' => some '\''
  | '"' => some '"'
  | '\\' => some '\\'
  | 'n' => some '\n'
  | 'r' => some '\r'
  | 't' => some '\t'
  | '0' => some (Char.ofNat 0)
  | _ => none

/-- The state after an octet given by an escape. In a text the octets of a character follow each
other; a quoted character has room for one octet only. -/
def tookOctet? (quote : Quote) (done : List Char) (octets : List UInt8) : Option Scan :=
  match quote with
  | .bytes | .byte => some (took quote done ' ')
  | .text | .char =>
    match Utf8.decode? octets with
    | some [c] => some (took quote done c)
    | _ => if quote = .text ∧ octets.length < 4 then some (moreOctets quote done octets) else none

def charOf? (value : Nat) : Option Char :=
  if h : value.isValidChar then some (Char.ofNatAux value h) else none

/-- The tokens completed by a character, and the state after it. -/
def step? : Scan → Char → Option (List Token × Scan)
  | outside, c => begin? c
  | slash, c =>
    if c = '/' then some ([], lineComment)
    else if c = '*' then some ([], comment 1 ' ')
    else none
  | lineComment, c => some ([], if c = '\n' then outside else lineComment)
  -- comments nest, so the ends that are still missing are counted
  | comment level last, c =>
    if last = '/' ∧ c = '*' then some ([], comment (level + 1) ' ')
    else if last = '*' ∧ c = '/' then
      some ([], if level ≤ 1 then outside else comment (level - 1) ' ')
    else some ([], comment level c)
  | name done, c => inName? done c
  -- an `r` may start a raw text or a raw name, and else is a name like any other
  | afterR, c =>
    if c = '"' then some ([], rawText .text 0 [])
    else if c = '#' then some ([], hashes .text 1)
    else inName? ['r'] c
  | hashes quote count, c =>
    if c = '"' then some ([], rawText quote count [])
    else if c = '#' then some ([], hashes quote (count + 1))
    -- `r#` and a letter: a name that may be a reserved word
    else if quote = .text ∧ count = 1 ∧ (continuesIdentifier c || isMark c) then
      some ([], rawName [c])
    else none
  | rawName done, c =>
    if continuesIdentifier c || isMark c then some ([], rawName (c :: done))
    else (begin? c).map fun r => (.name (String.ofList done.reverse) true :: r.1, r.2)
  -- so may a `b` start octets, in quotes or raw
  | afterB, c =>
    if c = '"' then some ([], quoted .bytes [])
    else if c = '\'' then some ([], quoted .byte [])
    else if c = 'r' then some ([], afterBR)
    else inName? ['b'] c
  | afterBR, c =>
    if c = '"' then some ([], rawText .bytes 0 [])
    else if c = '#' then some ([], hashes .bytes 1)
    else inName? ['r', 'b'] c
  -- what a number is made of is looked at when it is complete
  | number done, c =>
    if continuesIdentifier c || isMark c then some ([], number (c :: done))
    else (begin? c).map fun r => (.number done.reverse :: r.1, r.2)
  | quoted quote done, c =>
    if c = '\\' then some ([], escape quote done)
    else match quote with
      | .text | .bytes =>
        if c = '"' then some ([quotedToken quote done], outside)
        else some ([], quoted quote (c :: done))
      | .char => some ([], closing quote)
      | .byte => if c.toNat < 0x80 then some ([], closing quote) else none
  | closing quote, c => if c = '\'' then some ([quotedToken quote []], outside) else none
  | escape quote done, c =>
    if c = 'x' then some ([], octet quote done [] none)
    else if c = 'u' then if quote = .byte then none else some ([], codePoint quote done)
    else (escaped? c).map fun e => ([], took quote done e)
  | octet quote done before none, c =>
    (hexDigit? c).map fun d => ([], octet quote done before (some d))
  | octet quote done before (some high), c => do
    let low ← hexDigit? c
    return ([], ← tookOctet? quote done (before ++ [.ofNat (high * 16 + low)]))
  | moreOctets quote done before, c =>
    if c = '\\' then some ([], moreOctetsX quote done before) else none
  | moreOctetsX quote done before, c =>
    if c = 'x' then some ([], octet quote done before none) else none
  | codePoint quote done, c =>
    if c = '\x7b' then some ([], codePointDigits quote done 0 0) else none
  | codePointDigits quote done count value, c =>
    if c = '\x7d' then
      if count = 0 then none else (charOf? value).map fun u => ([], took quote done u)
    else if 6 ≤ count then none
    else (hexDigit? c).map fun d => ([], codePointDigits quote done (count + 1) (value * 16 + d))
  | rawText quote count done, c =>
    if c = '"' then
      if count = 0 then some ([quotedToken quote done], outside)
      else some ([], rawEnd quote count 0 done)
    else some ([], rawText quote count (c :: done))
  -- a quote with too few number signs behind it belongs to the text
  | rawEnd quote count seen done, c =>
    if c = '#' then
      if seen + 1 = count then some ([quotedToken quote done], outside)
      else some ([], rawEnd quote count (seen + 1) done)
    else
      let done := List.replicate seen '#' ++ '"' :: done
      if c = '"' then some ([], rawEnd quote count 0 done)
      else some ([], rawText quote count (c :: done))

/-- The tokens completed by the end of the text. -/
def finish? : Scan → Option (List Token)
  | outside | lineComment => some []
  | name done => some [.name (String.ofList done.reverse) false]
  | rawName done => some [.name (String.ofList done.reverse) true]
  | afterR => some [.name "r" false]
  | afterB => some [.name "b" false]
  | afterBR => some [.name "br" false]
  | number done => some [.number done.reverse]
  | _ => none

def tokens? : Scan → List Char → Option (List Token)
  | state, [] => state.finish?
  | state, c :: cs => do
    let (found, next) ← state.step? c
    return found ++ (← tokens? next cs)

end Scan

/-- The tokens of a text, or none where it cannot be cut into tokens. -/
def tokens? (cs : List Char) : Option (List Token) := Scan.outside.tokens? cs

end IdeaBoard.Config
