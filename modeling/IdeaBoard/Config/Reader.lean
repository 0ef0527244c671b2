import IdeaBoard.Config
import IdeaBoard.Config.Tree
import IdeaBoard.Config.Number

/-!
# IdeaBoard — reading a configuration

A configuration is a group of named fields, in any order. A field that is not given has its
default, none may be given twice, and one with another name is passed over, whatever well-formed
value it has.
-/

namespace IdeaBoard.Config

/-! ### Values that are passed over -/

/-- Is there room for a container, and for what is in it? -/
def hasRoom (levels : Nat) (empty : Bool) : Bool := if empty then 1 ≤ levels else 2 ≤ levels

mutual

/-- May the tree be passed over? Numbers must be numbers, and no more than so many levels may be
open: two for each container, one for `Some`. -/
def Tree.isSkippable (levels : Nat) : Tree → Bool
  | .name _ _ => true
  | .number cs => isNumber cs
  | .text _ => true
  | .other => true
  | .list items => hasRoom levels items.isEmpty && Tree.areSkippable (levels - 2) items
  | .tuple _ items => hasRoom levels items.isEmpty && Tree.areSkippable (levels - 2) items
  | .map entries => hasRoom levels entries.isEmpty && Tree.entriesSkippable (levels - 2) entries
  | .record _ fields => hasRoom levels fields.isEmpty && Tree.fieldsSkippable (levels - 2) fields
  | .present v => decide (0 < levels) && Tree.isSkippable (levels - 1) v

def Tree.areSkippable (levels : Nat) : List Tree → Bool
  | [] => true
  | t :: ts => Tree.isSkippable levels t && Tree.areSkippable levels ts

def Tree.entriesSkippable (levels : Nat) : List (Tree × Tree) → Bool
  | [] => true
  | (k, v) :: es =>
    Tree.isSkippable levels k && Tree.isSkippable levels v && Tree.entriesSkippable levels es

def Tree.fieldsSkippable (levels : Nat) : List (String × Tree) → Bool
  | [] => true
  | (_, v) :: fs => Tree.isSkippable levels v && Tree.fieldsSkippable levels fs

end

def fieldLevels : Nat := 126

/-! ### Fields -/

def Tree.text? : Tree → Option String
  | .text s => some s
  | _ => none

def Tree.word64? : Tree → Option UInt64
  | .number cs => (naturalBelow? UInt64.size "u64".toList cs).map .ofNat
  | _ => none

def Tree.word32? : Tree → Option UInt32
  | .number cs => (naturalBelow? UInt32.size "u32".toList cs).map .ofNat
  | _ => none

def Tree.logDestination? : Tree → Option Log.Destination
  | .name s _ => Log.Destination.named? s
  | _ => none

/-- The name that may stand in front of the fields. -/
def groupName : String := "ShellConfig"

def keys : List String :=
  ["base_url", "debounce_ms", "page_size", "page_step", "connect_timeout_ms",
   "request_timeout_ms", "max_response_bytes", "log_destination"]

/-- The fields with known names; none if one of these repeats or another cannot be passed over. -/
def known? : List (String × Tree) → Option (List (String × Tree))
  | [] => some []
  | (k, t) :: fs => do
    let rest ← known? fs
    if k ∈ keys then
      if rest.any (·.1 = k) then none else some ((k, t) :: rest)
    else if t.isSkippable fieldLevels then some rest
    else none

/-- The fields of a document, if it is a group of fields under the right name. -/
def Document.fields? (d : Document) : Option (List (String × Tree)) :=
  let (name, fields) := match d.tree with
    | .record name fields => (name, some fields)
    | .tuple name [] => (name, some [])
    | _ => (none, none)
  if name = some groupName ∨ (name = none ∧ d.extensions.explicitNames = false) then fields
  else none

def read? {α : Type} (fields : List (String × Tree)) (key : String) (reader : Tree → Option α)
    (default : α) : Option α :=
  match fields.find? fun f => f.1 = key with
  | some f => reader f.2
  | none => some default

def ofFields? (fields : List (String × Tree)) : Option Config := do
  let d : Config := {}
  let baseUrl ← read? fields "base_url" Tree.text? d.baseUrl
  let debounceMs ← read? fields "debounce_ms" Tree.word64? d.debounceMs
  let pageSize ← read? fields "page_size" Tree.word32? d.pageSize
  let pageStep ← read? fields "page_step" Tree.word32? d.pageStep
  let connectTimeoutMs ← read? fields "connect_timeout_ms" Tree.word64? d.connectTimeoutMs
  let requestTimeoutMs ← read? fields "request_timeout_ms" Tree.word64? d.requestTimeoutMs
  let maxResponseBytes ← read? fields "max_response_bytes" Tree.word64? d.maxResponseBytes
  let logDestination ← read? fields "log_destination" Tree.logDestination? d.logDestination
  return { baseUrl, debounceMs, pageSize, pageStep, connectTimeoutMs, requestTimeoutMs,
           maxResponseBytes, logDestination }

def parse? (cs : List Char) : Option Config := do
  ofFields? (← known? (← (← Document.parse? cs).fields?))

end IdeaBoard.Config
