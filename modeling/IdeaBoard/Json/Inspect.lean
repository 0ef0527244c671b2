import IdeaBoard.Json.Decimal
import IdeaBoard.Json.Value
import IdeaBoard.Text.Quoted

/-!
# IdeaBoard — JSON values as the log shows them

A value is shown with the name of its kind. A double shows that it is one: it always has a
fraction or an exponent.
-/

namespace IdeaBoard.Json

open IdeaBoard.Text

/-- The shortest digits of a magnitude, positional where the point stands within them or near
them, with an exponent elsewhere. -/
def Magnitude.inspect (m : Magnitude) : List Char :=
  if m.isZero then "0.0".toList
  else
    let d := m.shortest
    let digits := Nat.toDigits 10 d.digits
    let point : Int := digits.length + d.exponent
    if 0 ≤ d.exponent ∧ point ≤ 16 then positional d ++ ".0".toList
    else if -5 < point ∧ point ≤ 16 then positional d
    else
      let exponent := 'e' :: (toString (point - 1)).toList
      match digits with
      | [c] => c :: exponent
      | cs => cs.take 1 ++ '.' :: cs.drop 1 ++ exponent

def Double.inspect (d : Double) : String :=
  String.ofList ((if d.negative then ['-'] else []) ++ d.magnitude.inspect)

def Number.inspect : Number → String
  | .integer n => toString n
  | .double d => d.inspect

namespace Value

mutual

def inspect : Value → String
  | .null => "Null"
  | .bool b => "Bool(" ++ (if b then "true" else "false") ++ ")"
  | .number n => "Number(" ++ n.inspect ++ ")"
  | .string s => "String(" ++ quoted s ++ ")"
  | .array items => "Array [" ++ ", ".intercalate (inspectItems items) ++ "]"
  | .object members => "Object \x7b" ++ ", ".intercalate (inspectMembers members) ++ "\x7d"

def inspectItems : List Value → List String
  | [] => []
  | v :: vs => inspect v :: inspectItems vs

def inspectMembers : List (String × Value) → List String
  | [] => []
  | (k, v) :: ms => (quoted k ++ ": " ++ inspect v) :: inspectMembers ms

end

end Value

end IdeaBoard.Json
