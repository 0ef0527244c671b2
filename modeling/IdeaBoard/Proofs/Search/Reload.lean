import IdeaBoard.Proofs.Canonical
import IdeaBoard.Proofs.Casing
import IdeaBoard.Proofs.Location
import IdeaBoard.Proofs.Search.Run

/-!
# IdeaBoard — a list page comes back from its location

The location of a list page is all that is left of it once the reader leaves. A page mounted from it
asks for the same ideas, and has the same location again, after whatever happened to the first.

* **`Reloadable`** — the invariant: the filter of the page can be written (`Filter.Writable`), so that it
  comes back but for a limit equal to the page size. `Reloadable.step` keeps it over one move,
  `reloadable_run` over a run in which no tag with a comma is chosen.
* **`reload_fidelity`** — the page mounted from the location.
-/

namespace IdeaBoard.Search

open IdeaBoard.Text IdeaBoard.Filter

/-! ## Choosing tags -/

def Edit.CommaFree : Edit → Prop
  | .toggleTag t => ',' ∉ t.toList
  | .setTags ts => ∀ t ∈ ts, ',' ∉ t.toList
  | _ => True

def Message.CommaFree : Message → Prop
  | .edit e => e.CommaFree
  | _ => True

/-- Flipping a tag without a comma keeps the selection plain. -/
theorem plainTags_toggle {tags : TagSet} {t : String} (h : PlainTags tags) (hne : t ≠ "")
    (hcomma : ',' ∉ t.toList) : PlainTags (tags.toggle t) := by
  intro x hx
  rcases TagSet.mem_toggle.mp hx with ⟨_, hin⟩ | ⟨rfl, _⟩
  · exact h x hin
  · exact ⟨hne, hcomma⟩

/-- Tags without commas are plain once the empty one is left out. -/
theorem plainTags_filter {tags : TagSet} (hcomma : ∀ t ∈ tags, ',' ∉ t.toList) :
    PlainTags (tags.filter fun t => !t.isEmpty) := by
  intro t ht
  obtain ⟨hin, hne⟩ := TagSet.mem_filter.mp ht
  refine ⟨?_, hcomma t hin⟩
  rintro rfl
  exact absurd hne (by decide)

/-- No edit but one that chooses a tag with a comma makes the selection other than plain. -/
theorem plainTags_change {f g : Filter} {e : Edit} (h : PlainTags f.tags) (he : e.CommaFree)
    (change : e.change? f = some g) : PlainTags g.tags := by
  -- only the edits of tags touch the selection
  cases e with
  | setQuery q =>
    obtain ⟨_, ⟨⟩⟩ := Option.ite_none_left_eq_some.mp change
    exact h
  | clearQuery =>
    obtain ⟨_, ⟨⟩⟩ := Option.ite_none_left_eq_some.mp change
    exact h
  | setView v =>
    obtain ⟨_, ⟨⟩⟩ := Option.ite_none_left_eq_some.mp change
    exact h
  | toggleTag t =>
    obtain ⟨hne, ⟨⟩⟩ := Option.ite_none_left_eq_some.mp change
    exact plainTags_toggle h (by simpa using hne) he
  | setTags ts =>
    obtain ⟨_, ⟨⟩⟩ := Option.ite_none_left_eq_some.mp change
    exact plainTags_filter he

/-! ## The invariant -/

namespace State

/-- The page at `path` with these settings can be had again from its location, and that is where the
history stands if the page has put anything there. -/
structure Reloadable (path : String) (settings : Settings) (s : State) (es : List Effect) : Prop where
  path_eq : s.path = path
  settings_eq : s.settings = settings
  writable : s.filter.Writable s.settings.pageSize
  located : ∀ l ∈ (locations es).getLast?, l = s.location

/-- A page that is mounted holds a filter that was read from a query string. -/
theorem reloadable_mount (path queryString : String) (posts : List Post) (settings : Settings) :
    Reloadable path settings (mount path queryString posts settings) [] where
  path_eq := rfl
  settings_eq := rfl
  writable := writable_decode queryString settings.pageSize
  located := fun l hl => absurd hl (by simp [locations])

/-- The location follows from the path, the filter and the settings. -/
theorem location_congr {s u : State} (path : u.path = s.path) (filter : u.filter = s.filter)
    (settings : u.settings = s.settings) : u.location = s.location := by
  unfold location
  rw [path, filter, settings]

variable {path : String} {settings : Settings} {s u : State} {es fs : List Effect}

/-- A move that leaves the filter alone and puts nothing into the history. -/
theorem Reloadable.still (h : Reloadable path settings s es) (samePath : u.path = s.path)
    (sameFilter : u.filter = s.filter) (sameSettings : u.settings = s.settings)
    (quiet : locations fs = []) : Reloadable path settings u (es ++ fs) where
  path_eq := samePath.trans h.path_eq
  settings_eq := sameSettings.trans h.settings_eq
  writable := by
    rw [sameFilter, sameSettings]
    exact h.writable
  located := by
    rw [locations_append, quiet, List.append_nil, location_congr samePath sameFilter sameSettings]
    exact h.located

/-- A move that changes the filter puts the new location into the history. -/
theorem Reloadable.moved (h : Reloadable path settings s es) (samePath : u.path = s.path)
    (sameSettings : u.settings = s.settings) (writable : u.filter.Writable u.settings.pageSize)
    (put : locations fs = [u.location]) : Reloadable path settings u (es ++ fs) where
  path_eq := samePath.trans h.path_eq
  settings_eq := sameSettings.trans h.settings_eq
  writable := writable
  located := by
    rw [locations_append, put, List.getLast?_concat]
    intro l hl
    exact (Option.some.inj hl).symm

/-- The sum of two numbers, or the largest number if that is less. -/
theorem toNat_saturatingAdd (a b : UInt32) :
    (saturatingAdd a b).toNat = min (a.toNat + b.toNat) (UInt32.size - 1) := by
  have hsize : UInt32.size = 4294967296 := rfl
  exact UInt32.toNat_ofNat_of_lt (by omega)

/-- A sum that stops at the largest number is zero only where both parts are. -/
theorem saturatingAdd_eq_zero {a b : UInt32} (h : saturatingAdd a b = 0) : a = 0 := by
  have hvalue : min (a.toNat + b.toNat) (UInt32.size - 1) = 0 := by
    rw [← toNat_saturatingAdd, h]
    rfl
  have hsize : UInt32.size = 4294967296 := rfl
  refine UInt32.toNat_inj.mp ?_
  show a.toNat = 0
  omega

/-- No ideas at all are asked for only where the page size is zero. -/
theorem pageSize_eq_zero (limit : s.filter.limit = some 0 → s.settings.pageSize = 0)
    (h : s.effectiveLimit = 0) : s.settings.pageSize = 0 := by
  unfold effectiveLimit at h
  cases hlimit : s.filter.limit with
  | none => rwa [hlimit] at h
  | some n =>
    rw [hlimit, Option.getD_some] at h
    exact limit (by rw [hlimit, h])

/-- A grown limit is zero only where the page size is. -/
theorem pageSize_of_grow (limit : s.filter.limit = some 0 → s.settings.pageSize = 0)
    (h : s.grow.filter.limit = some 0) : s.settings.pageSize = 0 := by
  have hsum : saturatingAdd s.effectiveLimit s.settings.pageStep = 0 := Option.some.inj h
  exact pageSize_eq_zero limit (saturatingAdd_eq_zero hsum)

/-- Asking for more keeps the filter one that can be written. -/
theorem writable_grow (h : s.filter.Writable s.settings.pageSize) :
    s.grow.filter.Writable s.settings.pageSize where
  tags := h.tags
  limit := pageSize_of_grow h.limit

/-- A move leaves the filter alone and puts nothing into the history, or it puts the new location there;
the location says the new filter, as long as no tag with a comma is chosen. -/
theorem Step.still_or_moved (h : s.filter.Writable s.settings.pageSize) {m : Message}
    (hm : m.CommaFree) (move : Step s m u fs) :
    (u.filter = s.filter ∧ locations fs = []) ∨
      (u.filter.Writable u.settings.pageSize ∧ locations fs = [u.location]) := by
  cases move with
  | ignored => exact .inl ⟨rfl, rfl⟩
  | edited mounted change =>
    -- this is where a tag with a comma would do harm
    have htags := plainTags_change h.tags hm change
    refine .inr ⟨⟨htags, ?_⟩, rfl⟩
    -- an edit goes back to the first page
    intro hlimit
    exact absurd hlimit (by simp)
  | grown => exact .inr ⟨writable_grow h, rfl⟩
  | asked => exact .inl ⟨rfl, rfl⟩
  | settled mounted phase outcome => cases outcome <;> exact .inl ⟨rfl, rfl⟩
  | closed => exact .inl ⟨rfl, rfl⟩

/-- **Every move keeps the invariant, as long as no tag with a comma is chosen.** -/
theorem Reloadable.step (h : Reloadable path settings s es) {m : Message} (hm : m.CommaFree)
    (move : Step s m u fs) : Reloadable path settings u (es ++ fs) := by
  obtain ⟨samePath, sameSettings⟩ := move.fixed
  rcases move.still_or_moved h.writable hm with ⟨sameFilter, quiet⟩ | ⟨writable, put⟩
  · exact h.still samePath sameFilter sameSettings quiet
  · exact h.moved samePath sameSettings writable put

/-- The invariant holds over every run in which no tag with a comma is chosen. -/
theorem reloadable_run (path queryString : String) (posts : List Post) (settings : Settings)
    {ms : List Message} (hms : ∀ m ∈ ms, m.CommaFree) :
    Reloadable path settings ((mount path queryString posts settings).run ms).1
      ((mount path queryString posts settings).run ms).2 := by
  -- the invariant needs what is known of the messages so far
  refine run_induction (P := fun ms s es => (∀ m ∈ ms, m.CommaFree) → Reloadable path settings s es)
    (fun _ => reloadable_mount path queryString posts settings) ?_ ms hms
  intro ms m t u es fs _ h move hall
  have hbefore : ∀ n ∈ ms, n.CommaFree := fun n hn => hall n (List.mem_append_left _ hn)
  have hlast : m.CommaFree := hall m (List.mem_append_right _ List.mem_cons_self)
  exact (h hbefore).step hlast move

/-! ## The page mounted from a location -/

/-- The filter of a page that is mounted from the location of another. -/
theorem filter_mount_location (h : s.filter.Writable s.settings.pageSize) (path : String)
    (posts : List Post) :
    (mount path (s.filter.normalized.encodeWith s.settings.pageSize) posts s.settings).filter =
      s.filter.normalized.brief s.settings.pageSize := by
  show decode _ = _
  rw [decode_encodeWith, kept_of_writable (writable_normalized h)]

/-- The request follows from the normal query, the view, the tags and the number of ideas. -/
theorem request_congr {s t : State} (query : normalText t.filter.query = normalText s.filter.query)
    (view : t.filter.view = s.filter.view) (tags : t.filter.tags = s.filter.tags)
    (limit : t.effectiveLimit = s.effectiveLimit) : t.request = s.request := by
  simp only [request, Request.ofFilter, Filter.normalized]
  rw [query, view, tags, limit]

/-- **A page that is mounted from the location of another makes the same request.** -/
theorem request_mount_location (h : s.filter.Writable s.settings.pageSize) (path : String)
    (posts : List Post) :
    (mount path (s.filter.normalized.encodeWith s.settings.pageSize) posts s.settings).request =
      s.request := by
  have hfilter := filter_mount_location h path posts
  refine request_congr ?query ?view ?tags ?limit
  case query =>
    rw [hfilter]
    -- the location holds the normal query, and the request normalizes it again
    exact normalText_normalText _
  case view =>
    rw [hfilter]
    rfl
  case tags =>
    rw [hfilter]
    rfl
  case limit =>
    unfold effectiveLimit
    rw [hfilter]
    exact getD_filter_ne _ _

/-- **After every run in which no tag with a comma is chosen, a page that is mounted from the location
of the page, which is the last one put into the history, stands at the same path with the same view
and tags and the normal query, asks for the same number of ideas, makes the same request, and has the
same location.** -/
theorem reload_fidelity {path : String} (hmark : '?' ∉ path.toList) (hhash : '#' ∉ path.toList)
    (queryString : String) (posts : List Post) (settings : Settings) {ms : List Message}
    (hms : ∀ m ∈ ms, m.CommaFree) :
    let s := ((mount path queryString posts settings).run ms).1
    let es := ((mount path queryString posts settings).run ms).2
    (∀ l ∈ (locations es).getLast?, l = s.location) ∧
    ∀ posts' : List Post,
      let t := mount (Location.split s.location).1 (Location.split s.location).2 posts' settings
      t.path = s.path ∧ t.path = path ∧ t.filter.view = s.filter.view ∧
      t.filter.tags = s.filter.tags ∧ t.filter.query = Filter.normalText s.filter.query ∧
      t.effectiveLimit = s.effectiveLimit ∧ t.request = s.request ∧ t.location = s.location := by
  intro s es
  have inv : Reloadable path settings s es := reloadable_run path queryString posts settings hms
  refine ⟨inv.located, ?_⟩
  -- the new page is the one at the same path with the query string of the normal filter
  intro posts' t
  have hsettings : s.settings = settings := inv.settings_eq
  have hsplit : Location.split s.location =
      (path, s.filter.normalized.encodeWith s.settings.pageSize) := by
    unfold location
    rw [inv.path_eq]
    exact Location.split_ofFilterWith hmark hhash _ _
  have ht : t = mount path (s.filter.normalized.encodeWith s.settings.pageSize) posts' s.settings := by
    show mount _ _ _ _ = _
    rw [hsplit, hsettings]
  have hfilter : t.filter = s.filter.normalized.brief s.settings.pageSize := by
    rw [ht]
    exact filter_mount_location inv.writable path posts'
  have hlimit : t.effectiveLimit = s.effectiveLimit := by
    show t.filter.limit.getD settings.pageSize = s.filter.limit.getD s.settings.pageSize
    rw [hfilter, ← hsettings]
    exact getD_filter_ne _ _
  have hpath : t.path = path := by rw [ht]; rfl
  have hview : t.filter.view = s.filter.view := by rw [hfilter]; rfl
  have htags : t.filter.tags = s.filter.tags := by rw [hfilter]; rfl
  have hquery : t.filter.query = normalText s.filter.query := by rw [hfilter]; rfl
  have hrequest : t.request = s.request := by
    refine request_congr ?_ hview htags hlimit
    rw [hquery, normalText_normalText]
  have hlocation : t.location = s.location := by
    unfold location
    -- the query is normal already, so that nothing but the limit could differ
    have hnormal : t.filter.normalized = t.filter := by
      rw [Filter.normalized, hquery, normalText_normalText, ← hquery]
    rw [hnormal, hfilter, hpath, inv.path_eq, ht]
    show Location.ofFilterWith _ _ s.settings.pageSize = _
    unfold Location.ofFilterWith
    rw [encodeWith_brief]
  exact ⟨hpath.trans inv.path_eq.symm, hpath, hview, htags, hquery, hlimit, hrequest, hlocation⟩

/-- A list that has grown past a page size of its own comes back as long as it was. -/
theorem reload_fidelity_grown :
    let settings : Settings := { pageSize := 5 }
    let s := ((mount "/ideas" "tags=a%26b" [] settings).run
      [.edit (.setQuery " Dark "), .edit (.toggleTag "ui"), .showMore]).1
    s.location = "/ideas?tags=a%26b,ui&query=dark&limit=15" ∧
    (mount (Location.split s.location).1 (Location.split s.location).2 [] settings).request =
      s.request := by
  have hfree : ∀ m ∈ ([.edit (.setQuery " Dark "), .edit (.toggleTag "ui"), .showMore] :
      List Message), m.CommaFree := by
    intro m hm
    rcases List.mem_cons.mp hm with rfl | hm
    · exact True.intro
    rcases List.mem_cons.mp hm with rfl | hm
    · show ',' ∉ "ui".toList
      decide
    · rw [List.mem_singleton.mp hm]
      exact True.intro
  intro settings s
  have hmark : '?' ∉ "/ideas".toList := by decide
  have hhash : '#' ∉ "/ideas".toList := by decide
  have hfidelity := (reload_fidelity hmark hhash "tags=a%26b" [] settings hfree).2 []
  exact ⟨by decide +kernel, hfidelity.2.2.2.2.2.2.1⟩

end State

end IdeaBoard.Search
