import IdeaBoard.Json.Value

/-!
# IdeaBoard — records in JSON texts

A record is written as an object with known keys, in any order and among members with other keys,
or as an array of its leading fields in their own order. No known key may repeat. Members with
other keys are passed over: nothing but their form counts.
-/

namespace IdeaBoard.Json

/-- The fields that a text gives for a record. -/
structure Record where
  fields : List (String × Tree)

namespace Record

/-- The members with known keys; none if one of these repeats, or if a key is no text. -/
def known? (keys : List String) : List (StringText × Tree) → Option (List (String × Tree))
  | [] => some []
  | (k, t) :: ms => do
    let key ← k.text?
    let rest ← known? keys ms
    if key ∈ keys then
      if rest.any (·.1 = key) then none else some ((key, t) :: rest)
    else some rest

/-- The record with these keys, in their order, that a tree stands for. -/
def ofTree? (keys : List String) : Tree → Option Record
  | .object members => (known? keys members).map Record.mk
  | .array items => if items.length ≤ keys.length then some ⟨keys.zip items⟩ else none
  | _ => none

def field? (r : Record) (key : String) : Option Tree :=
  (r.fields.find? fun f => f.1 = key).map Prod.snd

/-- Reads a field; a field that is not given is `missing`. -/
def read? {α : Type} (r : Record) (key : String) (reader : Tree → Option α)
    (missing : Option α) : Option α :=
  match r.field? key with
  | some t => reader t
  | none => missing

end Record

def Tree.text? : Tree → Option String
  | .string s => s.text?
  | _ => none

def Tree.natural? : Tree → Option Nat
  | .number n =>
    match Number.ofText? n with
    | some (.integer (.ofNat n)) => some n
    | _ => none
  | _ => none

end IdeaBoard.Json
