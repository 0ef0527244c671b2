import IdeaBoard.Text.Printable
import IdeaBoard.Text.Numeral

/-!
# IdeaBoard — quoted text

Text inside messages stands between double quotes, so that its ends are seen. The quote, the
backslash and the common control characters have short escapes; any other character without a
shape of its own is written by its code point.
-/

namespace IdeaBoard.Text

/-- A character written by its code point: `\u\x7bhex\x7d`. -/
def codePointEscape (c : Char) : List Char :=
  ['\\', 'u', '\x7b'] ++ Nat.toDigits 16 c.toNat ++ ['\x7d']

/-- The short escapes of control characters and of the backslash. -/
def shortEscape? (c : Char) : Option Char :=
  if c = '\\' then some '\\'
  else if c = '\t' then some 't'
  else if c = '\n' then some 'n'
  else if c = '\r' then some 'r'
  else if c.toNat = 0 then some '0'
  else none

/-- One character of a quoted text; `quotes` are the quote marks that take a backslash. -/
def escapeChar (quotes : List Char) (c : Char) : List Char :=
  if c ∈ quotes then ['\\', c]
  else match shortEscape? c with
    | some e => ['\\', e]
    | none => if isCombining c || !isPrintable c then codePointEscape c else [c]

def quoted (s : String) : String :=
  String.ofList ('"' :: (s.toList.flatMap (escapeChar ['"'])) ++ ['"'])

end IdeaBoard.Text
