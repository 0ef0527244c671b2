import IdeaBoard.Config.Token

/-!
# IdeaBoard — configuration texts as trees

The nesting of a configuration: names, numbers and quoted pieces; lists and maps; and groups in
parentheses, which hold either values or named fields and may have a name in front. The reader
keeps what is open in a list. How deep a tree may be and what its parts mean is decided later.
-/

namespace IdeaBoard.Config

/-- A configuration text, read for its form only. -/
inductive Tree where
  | name (s : String) (raw : Bool)
  | number (cs : List Char)
  | text (s : String)
  | other
  | list (items : List Tree)
  | map (entries : List (Tree × Tree))
  /-- Values in parentheses, perhaps after a name. -/
  | tuple (name : Option String) (items : List Tree)
  /-- Named fields in parentheses, perhaps after a name. -/
  | record (name : Option String) (fields : List (String × Tree))
  /-- A value that is there: `Some(value)`. -/
  | present (value : Tree)
deriving Inhabited

/-- What a text switches on at its start. -/
structure Extensions where
  /-- A value may stand where `Some(value)` is meant. -/
  implicitSome : Bool := false
  /-- `Some` and the like may hold fields without a further pair of parentheses. -/
  unwrapVariants : Bool := false
  /-- The name in front of a group may not be left out. -/
  explicitNames : Bool := false
deriving DecidableEq, Repr

/-- What is still open: the parts before the one in progress, latest first. -/
inductive Frame where
  | list (done : List Tree)
  | mapKey (done : List (Tree × Tree))
  | mapValue (done : List (Tree × Tree)) (key : Tree)
  | tuple (name : Option String) (done : List Tree)
  | record (name : Option String) (done : List (String × Tree)) (key : String)
  | present
  /-- After a `Some` without parentheses. -/
  | bare

inductive Expect where
  | value
  /-- A value or the end of the innermost list, map or tuple. -/
  | item
  /-- What follows a name that may be in front of a group. -/
  | afterName (name : String) (raw : Bool)
  /-- What follows an opening parenthesis. -/
  | group (name : Option String)
  /-- What follows a name at the start of a group: a colon after a field, or anything after a
  value. -/
  | groupName (name : Option String) (first : String) (raw : Bool)
  /-- A further field, or the end of the record. -/
  | field (name : Option String) (done : List (String × Tree))
  /-- The colon after the name of a field. -/
  | colon (name : Option String) (done : List (String × Tree)) (key : String)
  /-- What follows a complete value. -/
  | after (value : Tree)
  /-- The end of `Some(value,`. -/
  | close (value : Tree)

/-- The reader: what is open, innermost first, and what comes next. -/
structure Reader where
  frames : List Frame
  expect : Expect

namespace Reader

/-- The names that are values of their own and no names of groups. -/
def isWord (s : String) : Bool :=
  s ∈ ["true", "false", "None", "inf", "inff32", "inff64", "NaN", "NaNf32", "NaNf64"]

/-- A value is complete: so is every `Some` in front of it. -/
def complete (v : Tree) : List Frame → Reader
  | .bare :: frames => complete (.present v) frames
  | frames => ⟨frames, .after v⟩

def onValue? (frames : List Frame) : Token → Option Reader
  | .name s raw =>
    if raw || !isWord s then some ⟨frames, .afterName s raw⟩
    else some (complete (.name s raw) frames)
  | .number cs => some (complete (.number cs) frames)
  | .text s => some (complete (.text s) frames)
  | .other => some (complete .other frames)
  | .openParen => some ⟨frames, .group none⟩
  | .openBracket => some ⟨.list [] :: frames, .item⟩
  | .openBrace => some ⟨.mapKey [] :: frames, .item⟩
  | _ => none

/-- Takes a token where the innermost list, map or tuple may end. -/
def onItem? : List Frame → Token → Option Reader
  | .list done :: frames, .closeBracket => some (complete (.list done.reverse) frames)
  | .mapKey done :: frames, .closeBrace => some (complete (.map done.reverse) frames)
  | .tuple name done :: frames, .closeParen => some (complete (.tuple name done.reverse) frames)
  | frames, t => onValue? frames t

def onAfter? : List Frame → Tree → Token → Option Reader
  | .list done :: frames, v, .comma => some ⟨.list (v :: done) :: frames, .item⟩
  | .list done :: frames, v, .closeBracket => some (complete (.list (v :: done).reverse) frames)
  | .mapKey done :: frames, v, .colon => some ⟨.mapValue done v :: frames, .value⟩
  | .mapValue done k :: frames, v, .comma => some ⟨.mapKey ((k, v) :: done) :: frames, .item⟩
  | .mapValue done k :: frames, v, .closeBrace =>
    some (complete (.map ((k, v) :: done).reverse) frames)
  | .tuple name done :: frames, v, .comma => some ⟨.tuple name (v :: done) :: frames, .item⟩
  | .tuple name done :: frames, v, .closeParen =>
    some (complete (.tuple name (v :: done).reverse) frames)
  | .record name done k :: frames, v, .comma => some ⟨frames, .field name ((k, v) :: done)⟩
  | .record name done k :: frames, v, .closeParen =>
    some (complete (.record name ((k, v) :: done).reverse) frames)
  | .present :: frames, v, .comma => some ⟨.present :: frames, .close v⟩
  | .present :: frames, v, .closeParen => some (complete (.present v) frames)
  | _, _, _ => none

/-- Takes a token after a name that may be in front of a group. -/
def onAfterName? (ext : Extensions) (frames : List Frame) (s : String) (raw : Bool) (t : Token) :
    Option Reader :=
  if s = "Some" ∧ raw = false ∧ ext.unwrapVariants = false then
    match t with
    | .openParen => some ⟨.present :: frames, .value⟩
    | t => if ext.implicitSome then onValue? (.bare :: frames) t else none
  else
    match t with
    | .openParen => some ⟨frames, .group (some s)⟩
    | t =>
      match complete (.name s raw) frames with
      | ⟨frames, .after v⟩ => onAfter? frames v t
      | _ => none

def step? (ext : Extensions) (r : Reader) (t : Token) : Option Reader :=
  match r.expect, t with
  | .value, t => onValue? r.frames t
  | .item, t => onItem? r.frames t
  | .afterName s raw, t => onAfterName? ext r.frames s raw t
  | .group name, .closeParen => some (complete (.tuple name []) r.frames)
  | .group name, .name s raw => some ⟨r.frames, .groupName name s raw⟩
  | .group name, t => onValue? (.tuple name [] :: r.frames) t
  | .groupName name s _, .colon => some ⟨.record name [] s :: r.frames, .value⟩
  | .groupName name s raw, t =>
    match onValue? (.tuple name [] :: r.frames) (.name s raw) with
    | some ⟨frames, .afterName s raw⟩ => onAfterName? ext frames s raw t
    | some ⟨frames, .after v⟩ => onAfter? frames v t
    | _ => none
  | .field name done, .closeParen => some (complete (.record name done.reverse) r.frames)
  | .field name done, .name s _ => some ⟨r.frames, .colon name done s⟩
  | .colon name done k, .colon => some ⟨.record name done k :: r.frames, .value⟩
  | .after v, t => onAfter? r.frames v t
  | .close v, .closeParen =>
    match r.frames with
    | .present :: frames => some (complete (.present v) frames)
    | _ => none
  | _, _ => none

def run? (ext : Extensions) (r : Reader) : List Token → Option Reader
  | [] => some r
  | t :: ts => do run? ext (← r.step? ext t) ts

/-- The tree that has been read, if nothing is open or missing. -/
def tree? (r : Reader) : Option Tree :=
  match r.frames, r.expect with
  | [], .after v => some v
  | _, _ => none

end Reader

namespace Extensions

def enable? (ext : Extensions) (name : String) : Option Extensions :=
  match name with
  | "unwrap_newtypes" => some ext
  | "implicit_some" => some { ext with implicitSome := true }
  | "unwrap_variant_newtypes" => some { ext with unwrapVariants := true }
  | "explicit_struct_names" => some { ext with explicitNames := true }
  | _ => none

mutual

/-- The extensions switched on by attributes at the start of a text, `#![enable(name, …)]`, and
the rest of the text. -/
def read? (ext : Extensions) : List Token → Option (Extensions × List Token)
  | .hash :: .bang :: .openBracket :: .name "enable" false :: .openParen :: .name s _ :: ts => do
    names? (← ext.enable? s) ts
  | .hash :: _ => none
  | ts => some (ext, ts)

def names? (ext : Extensions) : List Token → Option (Extensions × List Token)
  | .comma :: .name s _ :: ts => do names? (← ext.enable? s) ts
  | .comma :: .closeParen :: .closeBracket :: ts => read? ext ts
  | .closeParen :: .closeBracket :: ts => read? ext ts
  | _ => none

end

end Extensions

/-- A configuration text: what it switches on, and its tree. -/
structure Document where
  extensions : Extensions
  tree : Tree

def Document.parse? (cs : List Char) : Option Document := do
  let (ext, ts) ← Extensions.read? {} (← tokens? cs)
  return ⟨ext, ← (← Reader.run? ext ⟨[], .value⟩ ts).tree?⟩

end IdeaBoard.Config
