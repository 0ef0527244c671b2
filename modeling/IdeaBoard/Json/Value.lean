import IdeaBoard.Json.Tree
import IdeaBoard.Json.Number

/-!
# IdeaBoard — JSON values

The values that a tree stands for: numbers evaluated, escaped surrogates paired, the members of
an object in the order of their keys, the last of several with one key. A value that is kept may
not nest too deeply, nor hold a number past the finite doubles or half a surrogate pair.
-/

namespace IdeaBoard.Json

inductive Value where
  | null
  | bool (b : Bool)
  | number (n : Number)
  | string (s : String)
  | array (items : List Value)
  | object (members : List (String × Value))
deriving Inhabited

/-! ### Strings -/

/-- The character of a high and a low surrogate. -/
def pairedChar (high low : Nat) : Char :=
  Char.ofNat (0x10000 + (high - 0xD800) * 0x400 + (low - 0xDC00))

/-- The characters of a string as written; a surrogate that is not half of a pair has none. -/
def StringText.chars? : StringText → Option (List Char)
  | [] => some []
  | .char c :: rest => (StringText.chars? rest).map (c :: ·)
  | .surrogate high :: .surrogate low :: rest =>
    if high < 0xDC00 ∧ 0xDC00 ≤ low then
      (StringText.chars? rest).map (pairedChar high low :: ·)
    else none
  | .surrogate _ :: _ => none

def StringText.text? (s : StringText) : Option String := (StringText.chars? s).map String.ofList

/-! ### Objects -/

/-- Sets the member of a key in members that are in the order of their keys. -/
def setMember (key : String) (v : Value) : List (String × Value) → List (String × Value)
  | [] => [(key, v)]
  | m :: ms =>
    if key < m.1 then (key, v) :: m :: ms
    else if key = m.1 then (key, v) :: ms
    else m :: setMember key v ms

def sortedMembers (ms : List (String × Value)) : List (String × Value) :=
  ms.foldl (fun acc m => setMember m.1 m.2 acc) []

/-! ### Evaluation -/

/-- How many containers a document may nest. -/
def maxDepth : Nat := 127

mutual

/-- The value of a tree, within `depth` nested containers. -/
def Tree.value? (depth : Nat) : Tree → Option Value
  | .null => some .null
  | .bool b => some (.bool b)
  | .number n => (Number.ofText? n).map .number
  | .string s => s.text?.map .string
  | .array items => match depth with
    | 0 => none
    | depth + 1 => (Tree.values? depth items).map .array
  | .object members => match depth with
    | 0 => none
    | depth + 1 => (Tree.members? depth members).map fun ms => .object (sortedMembers ms)

def Tree.values? (depth : Nat) : List Tree → Option (List Value)
  | [] => some []
  | t :: ts => do return (← Tree.value? depth t) :: (← Tree.values? depth ts)

def Tree.members? (depth : Nat) : List (StringText × Tree) → Option (List (String × Value))
  | [] => some []
  | (k, t) :: ms => do
    return (← k.text?, ← Tree.value? depth t) :: (← Tree.members? depth ms)

end

namespace Value

def parse? (cs : List Char) : Option Value := do (← Tree.parse? cs).value? maxDepth

def member? (v : Value) (key : String) : Option Value :=
  match v with
  | .object ms => (ms.find? fun m => m.1 = key).map Prod.snd
  | _ => none

def items? : Value → Option (List Value)
  | .array items => some items
  | _ => none

def text? : Value → Option String
  | .string s => some s
  | _ => none

def natural? : Value → Option Nat
  | .number (.integer (.ofNat n)) => some n
  | _ => none

/-! ### Equality -/

mutual

def same : Value → Value → Bool
  | .null, .null => true
  | .bool a, .bool b => a = b
  | .number a, .number b => a = b
  | .string a, .string b => a = b
  | .array as, .array bs => sameItems as bs
  | .object as, .object bs => sameMembers as bs
  | _, _ => false

def sameItems : List Value → List Value → Bool
  | [], [] => true
  | a :: as, b :: bs => same a b && sameItems as bs
  | _, _ => false

def sameMembers : List (String × Value) → List (String × Value) → Bool
  | [], [] => true
  | (k, a) :: as, (l, b) :: bs => k = l && same a b && sameMembers as bs
  | _, _ => false

end

mutual

theorem same_iff : (a b : Value) → (same a b = true ↔ a = b)
  | .null, b => by cases b <;> simp [same]
  | .bool _, b => by cases b <;> simp [same]
  | .number _, b => by cases b <;> simp [same]
  | .string _, b => by cases b <;> simp [same]
  | .array as, b => by cases b <;> simp [same, sameItems_iff as]
  | .object as, b => by cases b <;> simp [same, sameMembers_iff as]

theorem sameItems_iff : (as bs : List Value) → (sameItems as bs = true ↔ as = bs)
  | [], bs => by cases bs <;> simp [sameItems]
  | a :: as, bs => by cases bs <;> simp [sameItems, same_iff a, sameItems_iff as]

theorem sameMembers_iff : (as bs : List (String × Value)) → (sameMembers as bs = true ↔ as = bs)
  | [], bs => by cases bs <;> simp [sameMembers]
  | (k, a) :: as, bs => by
    rcases bs with _ | ⟨⟨l, b⟩, bs⟩ <;>
      simp [sameMembers, same_iff a, sameMembers_iff as, and_assoc]

end

instance : DecidableEq Value := fun a b => decidable_of_iff _ (same_iff a b)

end Value

end IdeaBoard.Json
