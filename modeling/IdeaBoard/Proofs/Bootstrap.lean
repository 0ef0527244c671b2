import IdeaBoard.Bootstrap
import IdeaBoard.Proofs.Json.Grammar
import IdeaBoard.Proofs.Json.Value
import Mathlib.Tactic.MkIffOfInductiveProp

/-!
# IdeaBoard — the bootstrap document is read by key alone

What the context of a page depends on, of the document that the server embeds in it.

* **`Reads`** — a context is what the members of the document tell, key by key; likewise for the settings
  and the reader inside. `ofTree?_eq_some_iff`: just then it is read from them. So a known key that is
  repeated leaves no context.
* **`SameDocument`** — the members of two documents that say the same: in another order, with members
  of unknown keys, with defaults spelled out, at the top and inside the settings and the reader.
  `ofTree?_eq_of_same`: they give one context, or none.
* **`Carries`** — what a context holds of the document: the tenant and the properties are the values of
  their texts, the posts the items of the list among the properties.
-/

namespace IdeaBoard

open Json (Member ObjectText Tree written)
open Json.Record (Given Keyed Rearranged Tells occurrences)

/-! ## Settings -/

namespace SiteSettings

variable {ms ns : List Member} {s : SiteSettings}

/-- The settings are what the members tell, key by key. -/
@[mk_iff]
structure Reads (ms : List Member) (s : SiteSettings) : Prop where
  keyed : Keyed keys ms
  environment : Tells ms "environment" Tree.text? (some "") s.environment
  mode : Tells ms "mode" Tree.text? (some "") s.mode
  globalAssetsUrl : Tells ms "globalAssetsURL" Tree.text? (some "") s.globalAssetsUrl

theorem ofTree?_eq_some_iff : ofTree? (.object ms) = some s ↔ Reads ms s := by
  rw [reads_iff]
  refine Json.Record.bind_ofTree?_eq_some_iff fun fs hfs => ?_
  simp (disch := decide) only [Option.bind_eq_bind, Option.bind_eq_some_iff, Option.pure_def,
    Option.some.injEq, Json.Record.read?_eq_some_iff hfs]
  constructor
  · rintro ⟨_, henvironment, _, hmode, _, hurl, rfl⟩
    exact ⟨henvironment, hmode, hurl⟩
  · rintro ⟨henvironment, hmode, hurl⟩
    exact ⟨_, henvironment, _, hmode, _, hurl, rfl⟩

def defaults : List (String × Tree) := keys.map fun key => (key, .string [])

/-- The members of two objects that say the same settings. -/
def SameMembers : List Member → List Member → Prop := Rearranged keys defaults fun _ _ _ => False

theorem Reads.of_same (same : SameMembers ms ns) (h : Reads ms s) : Reads ns s := by
  have htells {key value : String} (hkey : key ∈ keys) :
      Tells ms key Tree.text? (some "") value → Tells ns key Tree.text? (some "") value := by
    refine (same.tells_iff hkey (fun t ht => ?_) fun _ _ h => h.elim).mp
    obtain ⟨_, -, heq⟩ := List.mem_map.mp ht
    obtain ⟨rfl, rfl⟩ := Prod.mk.inj heq
    rfl
  exact ⟨same.keyed_iff.mp h.keyed, htells (by decide) h.environment, htells (by decide) h.mode,
    htells (by decide) h.globalAssetsUrl⟩

theorem ofTree?_eq_of_same (same : SameMembers ms ns) : ofTree? (.object ms) = ofTree? (.object ns) := by
  apply Option.ext
  intro s
  rw [ofTree?_eq_some_iff, ofTree?_eq_some_iff]
  exact ⟨.of_same same, .of_same (.symm same)⟩

end SiteSettings

/-! ## The reader -/

namespace User

variable {ms ns : List Member} {u : User}

/-- The reader is what the members tell, key by key; the number and the name have to be there. -/
@[mk_iff]
structure Reads (ms : List Member) (u : User) : Prop where
  keyed : Keyed keys ms
  id : Tells ms "id" Tree.natural? none u.id
  name : Tells ms "name" Tree.text? none u.name
  role : Tells ms "role" Role.ofTree? (some .visitor) u.role

theorem ofTree?_eq_some_iff : ofTree? (.object ms) = some u ↔ Reads ms u := by
  rw [reads_iff]
  refine Json.Record.bind_ofTree?_eq_some_iff fun fs hfs => ?_
  simp (disch := decide) only [Option.bind_eq_bind, Option.bind_eq_some_iff, Option.pure_def,
    Option.some.injEq, Json.Record.read?_eq_some_iff hfs]
  constructor
  · rintro ⟨_, hid, _, hname, _, hrole, rfl⟩
    exact ⟨hid, hname, hrole⟩
  · rintro ⟨hid, hname, hrole⟩
    exact ⟨_, hid, _, hname, _, hrole, rfl⟩

/-- What is not given of a reader, spelled out; nothing stands for the number and the name. -/
def defaults : List (String × Tree) := [("role", .string (written "visitor"))]

def SameMembers : List Member → List Member → Prop := Rearranged keys defaults fun _ _ _ => False

theorem Reads.of_same (same : SameMembers ms ns) (h : Reads ms u) : Reads ns u where
  keyed := same.keyed_iff.mp h.keyed
  -- only the role has a default: nothing in the list is for the other keys
  id := (same.tells_iff (by decide) (fun t ht => absurd ht (by simp [defaults]))
    fun _ _ h => h.elim).mp h.id
  name := (same.tells_iff (by decide) (fun t ht => absurd ht (by simp [defaults]))
    fun _ _ h => h.elim).mp h.name
  role := by
    refine (same.tells_iff (by decide) (fun t ht => ?_) fun _ _ h => h.elim).mp h.role
    obtain ⟨-, rfl⟩ := Prod.mk.inj (List.mem_singleton.mp ht)
    decide

theorem ofTree?_eq_of_same (same : SameMembers ms ns) : ofTree? (.object ms) = ofTree? (.object ns) := by
  apply Option.ext
  intro u
  rw [ofTree?_eq_some_iff, ofTree?_eq_some_iff]
  exact ⟨.of_same same, .of_same (.symm same)⟩

end User

namespace Bootstrap

variable {ms ns : List Member} {b : Bootstrap} {key : String}

/-! ## The document -/

@[mk_iff]
structure Reads (ms : List Member) (b : Bootstrap) : Prop where
  keyed : Keyed keys ms
  settings : Tells ms "__settings" SiteSettings.ofTree? (some {}) b.settings
  user : Tells ms "__user" User.optionalOfTree? (some none) b.user
  tenant : Tells ms "__tenant" (Tree.value? innerDepth) (some .null) b.tenant
  props : Tells ms "__props" propsOfTree? (some []) b.props
  contextId : Tells ms "__contextID" Tree.text? (some "") b.contextId

/-- **A context is read from the members that tell it, and from no others.** -/
theorem ofTree?_eq_some_iff : ofTree? (.object ms) = some b ↔ Reads ms b := by
  rw [reads_iff]
  refine Json.Record.bind_ofTree?_eq_some_iff fun fs hfs => ?_
  simp (disch := decide) only [Option.bind_eq_bind, Option.bind_eq_some_iff, Option.pure_def,
    Option.some.injEq, Json.Record.read?_eq_some_iff hfs]
  constructor
  · rintro ⟨_, hsettings, _, huser, _, htenant, _, hprops, _, hcontext, rfl⟩
    exact ⟨hsettings, huser, htenant, hprops, hcontext⟩
  · rintro ⟨hsettings, huser, htenant, hprops, hcontext⟩
    exact ⟨_, hsettings, _, huser, _, htenant, _, hprops, _, hcontext, rfl⟩

/-! ## Documents that say the same -/

def defaults : List (String × Tree) :=
  [("__settings", .object []), ("__user", .null), ("__tenant", .null), ("__props", .object []),
    ("__contextID", .string [])]

/-- The values of a key that say the same: the settings and the reader are records themselves. -/
def SameInside (key : String) (t u : Tree) : Prop :=
  ∃ ms ns, t = .object ms ∧ u = .object ns ∧
    (key = "__settings" ∧ SiteSettings.SameMembers ms ns ∨ key = "__user" ∧ User.SameMembers ms ns)

def SameDocument : List Member → List Member → Prop := Rearranged keys defaults SameInside

theorem settings_eq_of_sameInside {t u : Tree} (h : SameInside "__settings" t u) :
    SiteSettings.ofTree? t = SiteSettings.ofTree? u := by
  obtain ⟨ms, ns, rfl, rfl, ⟨-, same⟩ | ⟨hkey, -⟩⟩ := h
  · exact SiteSettings.ofTree?_eq_of_same same
  · exact absurd hkey (by decide)

theorem user_eq_of_sameInside {t u : Tree} (h : SameInside "__user" t u) :
    User.optionalOfTree? t = User.optionalOfTree? u := by
  obtain ⟨ms, ns, rfl, rfl, ⟨hkey, -⟩ | ⟨-, same⟩⟩ := h
  · exact absurd hkey (by decide)
  · exact congrArg (Option.map some) (User.ofTree?_eq_of_same same)

theorem not_sameInside (hsettings : key ≠ "__settings") (huser : key ≠ "__user")
    (t u : Tree) : ¬ SameInside key t u := by
  rintro ⟨-, -, -, -, ⟨hkey, -⟩ | ⟨hkey, -⟩⟩
  · exact hsettings hkey
  · exact huser hkey

/-- Members that say the same of a document are read alike. -/
theorem Reads.of_same (same : SameDocument ms ns) (h : Reads ms b) : Reads ns b := by
  -- every key is one case of this: its reader, its default, and what may differ inside its value
  have htells (key : String) (hkey : key ∈ keys) {α : Type} (reader : Tree → Option α)
      (missing : Option α) (spelled : Tree) (hspelled : ∀ t, (key, t) ∈ defaults → t = spelled)
      (hdefault : reader spelled = missing)
      (hinside : ∀ t u, SameInside key t u → reader t = reader u) {v : α} :
      Tells ms key reader missing v → Tells ns key reader missing v :=
    (same.tells_iff hkey (fun t ht => hspelled t ht ▸ hdefault) hinside).mp
  -- of all keys only the settings and the reader have records inside
  have hplain {key : String} (hsettings : key ≠ "__settings") (huser : key ≠ "__user") {α : Type}
      (reader : Tree → Option α) (t u : Tree) (h : SameInside key t u) : reader t = reader u :=
    absurd h (not_sameInside hsettings huser t u)
  refine ⟨same.keyed_iff.mp h.keyed, ?settings, ?user, ?tenant, ?props, ?contextId⟩
  case settings =>
    exact htells "__settings" (by decide) SiteSettings.ofTree? (some {}) (.object [])
      (by simp [defaults]) rfl (fun _ _ => settings_eq_of_sameInside) h.settings
  case user =>
    exact htells "__user" (by decide) User.optionalOfTree? (some none) .null
      (by simp [defaults]) rfl (fun _ _ => user_eq_of_sameInside) h.user
  case tenant =>
    exact htells "__tenant" (by decide) (Tree.value? innerDepth) (some .null) .null
      (by simp [defaults]) rfl (hplain (by decide) (by decide) _) h.tenant
  case props =>
    exact htells "__props" (by decide) propsOfTree? (some []) (.object [])
      (by simp [defaults]) rfl (hplain (by decide) (by decide) _) h.props
  case contextId =>
    exact htells "__contextID" (by decide) Tree.text? (some "") (.string [])
      (by simp [defaults]) rfl (hplain (by decide) (by decide) _) h.contextId

/-- **Documents that say the same give one context, or none.** -/
theorem ofTree?_eq_of_same (same : SameDocument ms ns) : ofTree? (.object ms) = ofTree? (.object ns) := by
  apply Option.ext
  intro b
  rw [ofTree?_eq_some_iff, ofTree?_eq_some_iff]
  exact ⟨.of_same same, .of_same (.symm same)⟩

/-! ## Repeated keys -/

/-- **A key of the document that is repeated leaves no context.** -/
theorem ofTree?_eq_none_of_repeated (hkey : key ∈ keys) (repeated : 2 ≤ occurrences key ms) :
    ofTree? (.object ms) = none := by
  apply Option.eq_none_iff_forall_ne_some.mpr
  intro b h
  exact Json.Record.not_keyed_of_repeated hkey repeated (ofTree?_eq_some_iff.mp h).keyed

/-- A key that is repeated in the settings leaves no context either. -/
theorem ofTree?_eq_none_of_settings (given : Given ms "__settings" (.object ns))
    (hkey : key ∈ SiteSettings.keys) (repeated : 2 ≤ occurrences key ns) :
    ofTree? (.object ms) = none := by
  apply Option.eq_none_iff_forall_ne_some.mpr
  intro b h
  have hsettings := (ofTree?_eq_some_iff.mp h).settings.1 _ given
  exact Json.Record.not_keyed_of_repeated hkey repeated
    (SiteSettings.ofTree?_eq_some_iff.mp hsettings).keyed

/-- A key that is repeated in the reader leaves no context either. -/
theorem ofTree?_eq_none_of_user (given : Given ms "__user" (.object ns)) (hkey : key ∈ User.keys)
    (repeated : 2 ≤ occurrences key ns) : ofTree? (.object ms) = none := by
  apply Option.eq_none_iff_forall_ne_some.mpr
  intro b h
  have huser : (User.ofTree? (.object ns)).map some = some b.user :=
    (ofTree?_eq_some_iff.mp h).user.1 _ given
  obtain ⟨u, hu, -⟩ := Option.map_eq_some_iff.mp huser
  exact Json.Record.not_keyed_of_repeated hkey repeated (User.ofTree?_eq_some_iff.mp hu).keyed

/-! ## The tenant, the properties and the posts -/

/-- What a context holds of the members of its document. -/
structure Carries (ms : List Member) (b : Bootstrap) : Prop where
  tenant : ∀ t, Given ms "__tenant" t → t.value? Json.maxDepth = some b.tenant
  noTenant : (∀ t, ¬ Given ms "__tenant" t) → b.tenant = .null
  props : ∀ t, Given ms "__props" t → t.value? Json.maxDepth = some (.object b.props)
  noProps : (∀ t, ¬ Given ms "__props" t) → b.props = []
  /-- The posts are the items of the list among the properties. -/
  posts : ∀ items, (Json.Value.object b.props).member? "posts" = some (.array items) →
    b.initialPosts.map Post.raw = items
  noPosts : (∀ items, (Json.Value.object b.props).member? "posts" ≠ some (.array items)) →
    b.initialPosts = []
  /-- They are the values of the items as written. -/
  written : ∀ ps items, Given ms "__props" (.object ps) → Json.last? "posts" ps = some (.array items) →
    List.Forall₂ (fun t p => t.value? Json.maxDepth = some (Post.raw p)) items b.initialPosts

theorem innerDepth_le : innerDepth ≤ Json.maxDepth := by decide

theorem value?_of_propsOfTree? {t : Tree} {props : List (String × Json.Value)}
    (h : propsOfTree? t = some props) : t.value? innerDepth = some (.object props) := by
  rw [propsOfTree?] at h
  split at h
  · next heq =>
    obtain rfl := Option.some.inj h
    exact heq
  · cases h

theorem initialPosts_eq (b : Bootstrap) :
    b.initialPosts = (((Json.Value.object b.props).member? "posts").bind Post.listOf?).getD [] := by
  rw [Json.Value.member?, Option.bind_map]
  rfl

/-- The items of a list among the properties as written are those among the properties as read. -/
theorem posts_of_written {ps : List Member} {props : List (String × Json.Value)} {items : List Tree}
    (hprops : (Tree.object ps).value? innerDepth = some (.object props))
    (hposts : Json.last? "posts" ps = some (.array items)) :
    ∃ vs, (Json.Value.object props).member? "posts" = some (.array vs) ∧
      List.Forall₂ (fun t v => t.value? Json.maxDepth = some v) items vs := by
  -- the last member of the key is the one that counts, on both sides
  have hrel := Json.find?_members hprops "posts"
  rw [hposts] at hrel
  show ∃ vs, (props.find? fun m => m.1 = "posts").map Prod.snd = some (.array vs) ∧ _
  cases hfind : (props.find? fun m => m.1 = "posts").map Prod.snd with
  | none =>
    rw [hfind] at hrel
    cases hrel
  | some v =>
    rw [hfind] at hrel
    cases hrel with
    | some hv =>
      rw [Tree.value?] at hv
      obtain ⟨vs, hvs, rfl⟩ := Option.map_eq_some_iff.mp hv
      -- an array inside the properties may nest less, so more depth changes nothing
      have hdepth : Tree.values? Json.maxDepth items = some vs :=
        Tree.values?_mono items (by decide) hvs
      exact ⟨vs, rfl, Json.values?_eq_some_iff.mp hdepth⟩

/-- **A context holds what its document says.** -/
theorem Reads.carries (h : Reads ms b) : Carries ms b := by
  have hprops (t : Tree) (given : Given ms "__props" t) : t.value? innerDepth = some (.object b.props) :=
    value?_of_propsOfTree? (h.props.1 t given)
  -- the posts are what the property of that name lists, whatever the items are
  have hposts (items : List Json.Value)
      (hitems : (Json.Value.object b.props).member? "posts" = some (.array items)) :
      b.initialPosts = items.map Post.mk := by
    rw [initialPosts_eq, hitems]
    rfl
  refine ⟨?tenant, ?noTenant, ?props, ?noProps, ?posts, ?noPosts, ?written⟩
  case tenant => exact fun t given => Tree.value?_mono t innerDepth_le (h.tenant.1 t given)
  case noTenant => exact fun absent => (Option.some.inj (h.tenant.2 absent)).symm
  case props => exact fun t given => Tree.value?_mono t innerDepth_le (hprops t given)
  case noProps => exact fun absent => (Option.some.inj (h.props.2 absent)).symm
  case posts =>
    intro items hitems
    rw [hposts items hitems, List.map_map]
    exact List.map_id items
  case noPosts =>
    intro hnone
    rw [initialPosts_eq]
    cases hmember : (Json.Value.object b.props).member? "posts" with
    | none => rfl
    | some v =>
      cases v with
      | array items => exact absurd hmember (hnone items)
      | _ => rfl
  case written =>
    intro ps items given hitems
    obtain ⟨vs, hvs, heach⟩ := posts_of_written (hprops _ given) hitems
    rw [hposts vs hvs, List.forall₂_map_right_iff]
    exact heach

/-- **The document is read by key alone.** A context comes of a text just where it is what the members
tell, key by key, and so do the settings and the reader in it. A text that says the same gives the same
context, or none alike; a known key that is repeated, at the top or in the settings or the reader, leaves
none; and a context holds the tenant, the properties and the posts as they are written. -/
theorem read_by_key {a : String} {ms : List Member} (document : ObjectText a.toList ms) :
    ((∀ context, parse? a = some context ↔ Reads ms context) ∧
      (∀ ns s, SiteSettings.ofTree? (.object ns) = some s ↔ SiteSettings.Reads ns s) ∧
      ∀ ns u, User.ofTree? (.object ns) = some u ↔ User.Reads ns u) ∧
    (∀ b ns, ObjectText b.toList ns → SameDocument ms ns → parse? b = parse? a) ∧
    (∀ key ∈ keys, 2 ≤ occurrences key ms → parse? a = none) ∧
    (∀ ns, Given ms "__settings" (.object ns) → ∀ key ∈ SiteSettings.keys, 2 ≤ occurrences key ns →
      parse? a = none) ∧
    (∀ ns, Given ms "__user" (.object ns) → ∀ key ∈ User.keys, 2 ≤ occurrences key ns →
      parse? a = none) ∧
    ∀ context, parse? a = some context → Carries ms context := by
  -- the grammar of objects gives the tree of the text, and the rest is about members
  have hread {b : String} {ns : List Member} (hb : ObjectText b.toList ns) :
      parse? b = ofTree? (.object ns) := by
    rw [parse?, Json.objectText_iff.mp hb, Option.bind_some]
  have hreads (context : Bootstrap) : parse? a = some context ↔ Reads ms context := by
    rw [hread document, ofTree?_eq_some_iff]
  refine ⟨⟨hreads, fun _ _ => SiteSettings.ofTree?_eq_some_iff, fun _ _ => User.ofTree?_eq_some_iff⟩,
    ?same, ?repeated, ?settings, ?user, fun context h => ((hreads context).mp h).carries⟩
  case same =>
    intro b ns hb same
    rw [hread hb, hread document]
    exact (ofTree?_eq_of_same same).symm
  case repeated =>
    intro key hkey repeated
    rw [hread document]
    exact ofTree?_eq_none_of_repeated hkey repeated
  case settings =>
    intro ns given key hkey repeated
    rw [hread document]
    exact ofTree?_eq_none_of_settings given hkey repeated
  case user =>
    intro ns given key hkey repeated
    rw [hread document]
    exact ofTree?_eq_none_of_user given hkey repeated

/-- A reader; the same in another order, with an escape, two defaults, and a member that no double could
hold; and the reader with two numbers. -/
theorem read_by_key_crowded :
    let plain := "\x7b\"__user\":\x7b\"name\":\"J\",\"id\":7\x7d\x7d"
    let crowded := "\x7b\"__tenant\":null,\"__user\":\x7b\"role\":\"visitor\",\"\\u0069d\":7," ++
      "\"name\":\"J\"\x7d,\n\"x\":[1e999]\x7d"
    let repeated := "\x7b\"__user\":\x7b\"id\":7,\"name\":\"J\",\"id\":7\x7d\x7d"
    parse? crowded = parse? plain ∧ (parse? plain).isSome ∧ parse? repeated = none := by
  intro plain crowded repeated
  let key (s : String) : Json.Token := .string (written s)
  let seven : Json.NumberText := ⟨false, [7], [], none⟩
  let huge : Json.NumberText := ⟨false, [1], [], some (false, [9, 9, 9])⟩
  let name : Member := (written "name", .string (written "J"))
  let id : Member := (written "id", .number seven)
  let role : Member := (written "role", .string (written "visitor"))
  let tenant : Member := (written "__tenant", .null)
  let extra : Member := (written "x", .array [.number huge])
  let user (members : List Member) : Member := (written "__user", .object members)
  -- the members of the three texts
  have hplain : ObjectText plain.toList [user [name, id]] := by
    have htokens : Json.tokens? plain.toList = some
        [.openObject, key "__user", .colon, .openObject, key "name", .colon, key "J", .comma,
          key "id", .colon, .number seven, .closeObject, .closeObject] := by decide +kernel
    rw [Json.objectText_iff, Tree.parse?, htokens]
    rfl
  have hcrowded : ObjectText crowded.toList [tenant, user [role, id, name], extra] := by
    have htokens : Json.tokens? crowded.toList = some
        [.openObject, key "__tenant", .colon, .null, .comma, key "__user", .colon, .openObject,
          key "role", .colon, key "visitor", .comma, key "id", .colon, .number seven, .comma,
          key "name", .colon, key "J", .closeObject, .comma,
          key "x", .colon, .openArray, .number huge, .closeArray, .closeObject] := by decide +kernel
    rw [Json.objectText_iff, Tree.parse?, htokens]
    rfl
  have hrepeated : ObjectText repeated.toList [user [id, name, id]] := by
    have htokens : Json.tokens? repeated.toList = some
        [.openObject, key "__user", .colon, .openObject, key "id", .colon, .number seven, .comma,
          key "name", .colon, key "J", .comma, key "id", .colon, .number seven,
          .closeObject, .closeObject] := by decide +kernel
    rw [Json.objectText_iff, Tree.parse?, htokens]
    rfl
  -- from the plain text to the crowded one, change by change
  have huser : User.SameMembers [name, id] [role, id, name] := by
    have hrole : User.SameMembers [id, name] [role, id, name] := by
      refine .spelledOut _ _ (Json.text?_written "role") List.mem_cons_self ?_
      rw [← Json.Record.occurrences_eq_zero_iff]
      decide
    exact .trans (.reordered (.swap id name [])) hrole
  have hinside : SameDocument [user [name, id]] [user [role, id, name]] :=
    .inside _ _ _ (Json.text?_written "__user") ⟨_, _, rfl, rfl, .inr ⟨rfl, huser⟩⟩
  have htenant : SameDocument [user [role, id, name]] [tenant, user [role, id, name]] := by
    refine .spelledOut _ .null (Json.text?_written "__tenant") (by simp [defaults]) ?_
    rw [← Json.Record.occurrences_eq_zero_iff]
    decide
  have hextra : SameDocument [tenant, user [role, id, name]] [extra, tenant, user [role, id, name]] :=
    .passedOver _ _ (Json.text?_written "x") (by decide)
  have hsame : SameDocument [user [name, id]] [tenant, user [role, id, name], extra] :=
    .trans (.trans hinside htenant) (.trans hextra (.reordered (@List.perm_append_comm _ [extra] _)))
  obtain ⟨-, hread, -, -, -, -⟩ := read_by_key hplain
  obtain ⟨-, -, -, -, hrepeat, -⟩ := read_by_key hrepeated
  refine ⟨hread _ _ hcrowded hsame, by decide +kernel, hrepeat [id, name, id] ?_ "id" (by decide) ?_⟩
  · exact ⟨_, List.mem_cons_self, Json.text?_written "__user"⟩
  · decide

end Bootstrap

end IdeaBoard
