import IdeaBoard.Json.Record
import IdeaBoard.Post

/-!
# IdeaBoard — the bootstrap document

What the server embeds in every page: settings of the site, the reader who is signed in, the
tenant, and properties of the page, among them the posts it is delivered with. Everything but
the identity of a reader has a default.
-/

namespace IdeaBoard

structure SiteSettings where
  environment : String := ""
  mode : String := ""
  globalAssetsUrl : String := ""
deriving DecidableEq, Inhabited

/-- What a reader may do. -/
inductive Role where
  | visitor
  | collaborator
  | administrator
deriving DecidableEq, Repr, Inhabited

/-- The reader who is signed in. -/
structure User where
  id : Nat
  name : String
  role : Role := .visitor
deriving DecidableEq, Inhabited

/-- What the server embeds in a page. -/
structure Bootstrap where
  settings : SiteSettings := {}
  user : Option User := none
  tenant : Json.Value := .null
  props : List (String × Json.Value) := []
  contextId : String := ""
deriving DecidableEq, Inhabited

/-! ### Reading -/

namespace SiteSettings

def keys : List String := ["environment", "mode", "globalAssetsURL"]

def ofTree? (t : Json.Tree) : Option SiteSettings := do
  let r ← Json.Record.ofTree? keys t
  let environment ← r.read? "environment" Json.Tree.text? (some "")
  let mode ← r.read? "mode" Json.Tree.text? (some "")
  let globalAssetsUrl ← r.read? "globalAssetsURL" Json.Tree.text? (some "")
  return ⟨environment, mode, globalAssetsUrl⟩

end SiteSettings

namespace Role

def named? (s : String) : Option Role :=
  if s = "visitor" then some .visitor
  else if s = "collaborator" then some .collaborator
  else if s = "administrator" then some .administrator
  else none

/-- The role that a tree stands for: its name, or an object with the name as the key of a single
null. -/
def ofTree? : Json.Tree → Option Role
  | .string s => s.text?.bind named?
  | .object [(k, .null)] => k.text?.bind named?
  | _ => none

end Role

namespace User

def keys : List String := ["id", "name", "role"]

def ofTree? (t : Json.Tree) : Option User := do
  let r ← Json.Record.ofTree? keys t
  let id ← r.read? "id" Json.Tree.natural? none
  let name ← r.read? "name" Json.Tree.text? none
  let role ← r.read? "role" Role.ofTree? (some .visitor)
  return ⟨id, name, role⟩

/-- The reader that a tree stands for, where null is nobody. -/
def optionalOfTree? : Json.Tree → Option (Option User)
  | .null => some none
  | t => (ofTree? t).map some

/-- May the reader work on the ideas of others? -/
def isStaff (u : User) : Bool := u.role ≠ .visitor

end User

namespace Bootstrap

def keys : List String := ["__settings", "__user", "__tenant", "__props", "__contextID"]

/-- How many containers a value inside the document may nest. -/
def innerDepth : Nat := Json.maxDepth - 1

/-- The members of a tree that is an object. -/
def propsOfTree? (t : Json.Tree) : Option (List (String × Json.Value)) :=
  match t.value? innerDepth with
  | some (.object members) => some members
  | _ => none

def ofTree? (t : Json.Tree) : Option Bootstrap := do
  let r ← Json.Record.ofTree? keys t
  let settings ← r.read? "__settings" SiteSettings.ofTree? (some {})
  let user ← r.read? "__user" User.optionalOfTree? (some none)
  let tenant ← r.read? "__tenant" (Json.Tree.value? innerDepth) (some .null)
  let props ← r.read? "__props" propsOfTree? (some [])
  let contextId ← r.read? "__contextID" Json.Tree.text? (some "")
  return ⟨settings, user, tenant, props, contextId⟩

/-- The document of a text, or none where it is malformed. -/
def parse? (text : String) : Option Bootstrap := (Json.Tree.parse? text.toList).bind ofTree?

/-! ### What it says -/

def isAuthenticated (b : Bootstrap) : Bool := b.user.isSome

/-- Is somebody signed in who may work on the ideas of others? -/
def isStaff (b : Bootstrap) : Bool := b.user.any User.isStaff

/-- Is this a site in use, and not one under development? -/
def isProduction (b : Bootstrap) : Bool := b.settings.environment = "production"

def isSingleHost (b : Bootstrap) : Bool := b.settings.mode = "single"

def bodyClasses (b : Bootstrap) : List String :=
  (if b.isAuthenticated then ["is-authenticated"] else []) ++
    if b.isStaff then ["is-staff"] else []

/-- The posts that the page is delivered with; none if they are missing or no list. -/
def initialPosts (b : Bootstrap) : List Post :=
  (((b.props.find? fun p => p.1 = "posts").bind fun p => Post.listOf? p.2)).getD []

end Bootstrap

end IdeaBoard
