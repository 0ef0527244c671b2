import IdeaBoard.Proofs.Rounds
import IdeaBoard.Proofs.Tags

/-!
# IdeaBoard — the history follows the page

A navigation puts its location into the history first, and only then closes the page that was open and
opens the next. What the pages put there afterwards goes into the current entry alone, so that the
history keeps one entry for each navigation, and its current entry always leads back to the page that
is open.

* **`Recalled`** — a location leads back to a page: the page mounted from it stands at the same path and
  makes the same request. `recalled_opened` starts it, `Recalled.step` keeps it over one move of the
  page.
* **`Followed`** — the invariant of a session: its entries are counted, those left behind are what they
  were when the reader went on, and the current one leads back to the page. `Followed.hears` keeps it
  over one round.
* **`history_follows_page`** — both, after every session.
-/

namespace IdeaBoard

namespace History

/-- Replacing leaves alone what was left behind. -/
theorem past_foldl_replace (h : History) (locations : List String) :
    (locations.foldl replace h).past = h.past := by
  induction locations generalizing h with
  | nil => rfl
  | cons l ls ih => exact ih (h.replace l)

end History

namespace Session

open Search (State Effect Message)
open Search.State

/-! ## The way back to a page -/

/-- A path at which a list page lives, and which a location can say. -/
structure Place (path : String) : Prop where
  home : AtHome path
  named : path.isEmpty = false
  mark : '?' ∉ path.toList
  hash : '#' ∉ path.toList

/-- The empty path stands for this one. -/
theorem place_slash : Place "/" where
  home := ⟨_, rfl, rfl⟩
  named := by decide
  mark := by decide
  hash := by decide

/-- A location that puts a query string behind such a path leads there. -/
theorem Place.listPage?_location {path : String} (h : Place path) (f : Filter) (default : UInt32)
    (bootstrap : Bootstrap) (settings : Search.Settings) :
    listPage? bootstrap settings (Location.ofFilterWith path f default) =
      some (mount path (f.encodeWith default) bootstrap.initialPosts settings) := by
  have hsplit := Location.split_ofFilterWith h.mark h.hash f default
  rw [listPage?_eq_some_iff, LeadsHome, hsplit, if_neg (by simp [h.named])]
  exact ⟨h.home, rfl⟩

/-- The page at the location stands at the same path as `p` and makes the same request. The rest is what
keeps it so: `p` has the settings of the session, and a filter and a path that a location can say. -/
structure Recalled (bootstrap : Bootstrap) (settings : Search.Settings) (location : String)
    (p : State) : Prop where
  settings_eq : p.settings = settings
  writable : p.filter.Writable p.settings.pageSize
  place : Place p.path
  back : ∃ q, listPage? bootstrap settings location = some q ∧ q.path = p.path ∧
    q.request = p.request

variable {bootstrap : Bootstrap} {settings : Search.Settings} {location : String} {p u : State}

/-- The location that a page was opened from leads back to it. -/
theorem recalled_opened (opened : listPage? bootstrap settings location = some p) :
    Recalled bootstrap settings location p := by
  obtain ⟨hhome, rfl⟩ := listPage?_eq_some_iff.mp opened
  obtain ⟨hmark, hhash⟩ := Location.not_mem_path location
  refine ⟨rfl, (reloadable_mount _ _ _ _).writable, ?_, _, opened, rfl, rfl⟩
  rw [path_mount]
  -- the path is the one in the location, or the slash that an empty one stands for
  split
  · exact place_slash
  · next hnamed => exact ⟨hhome, by simpa using hnamed, hmark, hhash⟩

/-- A page that has put its location there. -/
theorem recalled_location (same : p.settings = settings)
    (writable : p.filter.Writable p.settings.pageSize) (place : Place p.path) :
    Recalled bootstrap settings p.location p := by
  subst same
  exact ⟨rfl, writable, place, _, place.listPage?_location _ _ bootstrap _, path_mount _ _ _ _,
    request_mount_location writable _ _⟩

/-- **Every move of the page keeps it, as long as no tag with a comma is chosen.** -/
theorem Recalled.step {h : History} {m : Message} {fs : List Effect}
    (recalled : Recalled bootstrap settings h.current p) (hm : m.CommaFree)
    (move : Search.State.Step p m u fs) :
    Recalled bootstrap settings ((Search.locations fs).foldl History.replace h).current u := by
  obtain ⟨samePath, sameSettings⟩ := move.fixed
  have hsettings : u.settings = settings := sameSettings.trans recalled.settings_eq
  have hplace : Place u.path := by
    rw [samePath]
    exact recalled.place
  rcases move.still_or_moved recalled.writable hm with ⟨sameFilter, quiet⟩ | ⟨writable, put⟩
  · -- the page still makes the request that it made
    obtain ⟨q, hq, hpath, hrequest⟩ := recalled.back
    have hsame : p.request = u.request := by
      refine request_congr ?_ ?_ ?_ ?_
      all_goals simp only [effectiveLimit, sameFilter, sameSettings]
    rw [quiet]
    refine ⟨hsettings, ?_, hplace, q, hq, hpath.trans samePath.symm, hrequest.trans hsame⟩
    rw [sameFilter, sameSettings]
    exact recalled.writable
  · -- the page has put its own location there
    rw [put]
    exact recalled_location hsettings writable hplace

/-! ## What is left behind -/

def visits (rounds : List Round) : List String := rounds.filterMap fun r => r.input.visit?

/-- Where the history stood whenever the reader went on. -/
def leftBehind (rounds : List Round) : List String :=
  (rounds.filter fun r => r.input.visit?.isSome).map fun r => r.before.history.current

/-- One location is left behind for each visit. -/
theorem length_leftBehind (rounds : List Round) :
    (leftBehind rounds).length = (visits rounds).length := by
  rw [leftBehind, List.length_map, visits, List.length_filterMap_eq_countP, List.countP_eq_length_filter]

theorem visits_concat_none {rounds : List Round} {r : Round} (h : r.input.visit? = none) :
    visits (rounds ++ [r]) = visits rounds := by
  simp [visits, h]

theorem leftBehind_concat_none {rounds : List Round} {r : Round} (h : r.input.visit? = none) :
    leftBehind (rounds ++ [r]) = leftBehind rounds := by
  simp [leftBehind, h]

theorem visits_concat_some {rounds : List Round} {r : Round} {l : String}
    (h : r.input.visit? = some l) : visits (rounds ++ [r]) = visits rounds ++ [l] := by
  simp [visits, h]

theorem leftBehind_concat_some {rounds : List Round} {r : Round} {l : String}
    (h : r.input.visit? = some l) :
    leftBehind (rounds ++ [r]) = leftBehind rounds ++ [r.before.history.current] := by
  simp [leftBehind, h]

/-! ## The invariant -/

/-- A session that was led to `location` first, after some rounds. -/
structure Followed (bootstrap : Bootstrap) (settings : Search.Settings) (location : String)
    (rounds : List Round) (s : Session) : Prop where
  bootstrap_eq : s.bootstrap = bootstrap
  settings_eq : s.settings = settings
  counted : s.navigations = 1 + (visits rounds).length
  past_eq : s.history.past.reverse = leftBehind rounds
  /-- Each visit added its location to all that was there, which stays. -/
  added : ∀ r ∈ rounds, ∀ l, r.input.visit? = some l →
    r.after.history.entries = r.before.history.entries ++ [l] ∧
      r.before.history.entries <+: s.history.past.reverse
  page_iff : s.page.isSome ↔ LeadsHome ((visits rounds).getLastD location)
  recalled : ∀ p, s.page = some p → Recalled bootstrap settings s.history.current p

/-- The first navigation starts the invariant. -/
theorem followed_opened (bootstrap : Bootstrap) (settings : Search.Settings) (location : String) :
    Followed bootstrap settings location []
      ((start bootstrap settings location).navigate location).1 := by
  obtain ⟨hsession, _⟩ := navigate_eq (start bootstrap settings location) location
  rw [hsession]
  exact {
    bootstrap_eq := rfl
    settings_eq := rfl
    counted := rfl
    past_eq := rfl
    added := fun r hr => absurd hr List.not_mem_nil
    page_iff := isSome_listPage? bootstrap settings location
    recalled := fun p hp => recalled_opened hp }

variable {s t : Session} {rounds : List Round}

/-- A round without a visit leaves the past alone. -/
theorem Followed.stays (h : Followed bootstrap settings location rounds s) {r : Round}
    (visit : r.input.visit? = none) (sameBootstrap : t.bootstrap = s.bootstrap)
    (sameSettings : t.settings = s.settings) (sameCount : t.navigations = s.navigations)
    (samePast : t.history.past = s.history.past) (samePage : t.page.isSome = s.page.isSome)
    (recalled : ∀ p, t.page = some p → Recalled bootstrap settings t.history.current p) :
    Followed bootstrap settings location (rounds ++ [r]) t where
  bootstrap_eq := sameBootstrap.trans h.bootstrap_eq
  settings_eq := sameSettings.trans h.settings_eq
  counted := by
    rw [visits_concat_none visit, sameCount]
    exact h.counted
  past_eq := by
    rw [leftBehind_concat_none visit, samePast]
    exact h.past_eq
  added := by
    intro q hq l hl
    rw [samePast]
    rcases List.mem_append.mp hq with hq | hq
    · exact h.added q hq l hl
    · obtain rfl := List.mem_singleton.mp hq
      exact absurd (visit.symm.trans hl) (by simp)
  page_iff := by
    rw [visits_concat_none visit, samePage]
    exact h.page_iff
  recalled := recalled

/-- A visit leaves the current entry behind, as it is. -/
theorem Followed.visited (h : Followed bootstrap settings location rounds s) {r : Round} {l : String}
    (before : r.before = s) (visit : r.input.visit? = some l)
    (after : r.after = { s with
      history := s.history.push l
      page := listPage? s.bootstrap s.settings l
      navigations := s.navigations + 1 }) :
    Followed bootstrap settings location (rounds ++ [r]) r.after where
  bootstrap_eq := by
    rw [after]
    exact h.bootstrap_eq
  settings_eq := by
    rw [after]
    exact h.settings_eq
  counted := by
    rw [visits_concat_some visit, List.length_append, after]
    show s.navigations + 1 = _
    rw [h.counted]
    rfl
  past_eq := by
    rw [leftBehind_concat_some visit, before, after]
    show (s.history.current :: s.history.past).reverse = _
    rw [List.reverse_cons, h.past_eq]
  added := by
    -- all entries so far are past entries now
    have hpast : r.after.history.past.reverse = s.history.entries := by
      rw [after]
      exact List.reverse_cons
    intro q hq k hk
    rw [hpast]
    rcases List.mem_append.mp hq with hq | hq
    · -- an earlier visit: what it added to is a part of what there is now
      obtain ⟨hadded, hkept⟩ := h.added q hq k hk
      exact ⟨hadded, hkept.trans (List.prefix_append _ _)⟩
    · obtain rfl := List.mem_singleton.mp hq
      obtain rfl : l = k := Option.some.inj (visit.symm.trans hk)
      rw [before, after]
      exact ⟨History.entries_push s.history l, List.prefix_refl _⟩
  page_iff := by
    rw [visits_concat_some visit, after]
    show (listPage? s.bootstrap s.settings l).isSome ↔ _
    rw [isSome_listPage?]
    simp
  recalled := by
    rw [after, ← h.bootstrap_eq, ← h.settings_eq]
    exact fun p hp => recalled_opened hp

/-- **Every round keeps the invariant, as long as no tag with a comma is chosen.** -/
theorem Followed.hears (h : Followed bootstrap settings location rounds s) {x : Input}
    {out : List Output} (plain : ∀ m, x.message? = some m → m.CommaFree) (hears : Hears s x t out) :
    Followed bootstrap settings location (rounds ++ [⟨s, x, t, out⟩]) t := by
  cases hears with
  | @taken p m _ shown message visit stays lines =>
    refine h.stays visit rfl rfl rfl ?past ?page ?recalled
    case past => exact s.history.past_foldl_replace _
    case page =>
      rw [shown]
      rfl
    case recalled =>
      intro u hu
      obtain rfl := Option.some.inj hu
      -- drawing the page changes nothing that counts here
      have hstep := (h.recalled p shown).step (plain m message) (update_step p m)
      exact ⟨hstep.settings_eq, hstep.writable, hstep.place, hstep.back⟩
  | dropped closed message visit lines => exact h.stays visit rfl rfl rfl rfl rfl h.recalled
  | answered message visit => exact h.stays visit rfl rfl rfl rfl rfl h.recalled
  | visited message visit lines => exact h.visited rfl visit rfl

/-- The tag that a line names by itself, whatever it holds. -/
def Input.namedTag? : Input → Option String
  | .line text =>
    match Command.parse? text with
    | some (.page (.edit (.toggleTag t))) => some t
    | _ => none
  | .event _ => none

/-- Only a tag that is named by itself can bring in a comma. -/
theorem commaFree_of_message? {x : Input} {m : Message} (h : x.message? = some m)
    (plain : ∀ t ∈ x.namedTag?, ',' ∉ t.toList) : m.CommaFree := by
  cases x with
  | event e =>
    obtain rfl := Option.some.inj h
    cases e <;> exact True.intro
  | line text =>
    unfold Input.message? at h
    simp only at h
    split at h
    · next n hparse =>
      obtain rfl := Option.some.inj h
      rcases parse?_page hparse with ⟨e, rfl⟩ | rfl
      · refine Command.commaFree_of_parse? hparse ?_
        rintro t rfl
        exact plain t (by simp [Input.namedTag?, hparse])
      · exact True.intro
    · exact absurd h (by simp)

theorem followed_play (bootstrap : Bootstrap) (settings : Search.Settings) (location : String)
    {inputs : List Input} (plain : ∀ x ∈ inputs, ∀ t ∈ x.namedTag?, ',' ∉ t.toList) :
    Followed bootstrap settings location
      (((start bootstrap settings location).navigate location).1.play inputs).2
      (((start bootstrap settings location).navigate location).1.play inputs).1 := by
  refine play_induction (P := Followed bootstrap settings location)
    (followed_opened bootstrap settings location) ?_
  intro rounds t u x out hx h hears
  exact h.hears (fun m hm => commaFree_of_message? hm (plain x hx)) hears

/-- **A session takes up its inputs one by one, up to the first that asks to leave. After every session
in which no line names a tag with a comma, the history has one entry for each navigation; those left
behind are what they were when the reader went on, and each navigation added its own to all that was
there, which stays. A page is open just where the location visited last leads to a list page; without
one, messages come to nothing, and with one, the page that is opened at the current entry stands at the
same path and makes the same request.** -/
theorem history_follows_page (bootstrap : Bootstrap) (settings : Search.Settings) (location : String)
    {inputs : List Input} (plain : ∀ x ∈ inputs, ∀ t ∈ x.namedTag?, ',' ∉ t.toList) :
    let opened := ((start bootstrap settings location).navigate location).1
    let s := (opened.play inputs).1
    let rounds := (opened.play inputs).2
    rounds.map Round.input = (inputs.takeWhile fun x => !x.leaves) ∧
    (s.history.size = s.navigations ∧ s.navigations = 1 + (visits rounds).length) ∧
    (s.history.entries.dropLast = leftBehind rounds ∧
      ∀ r ∈ rounds, ∀ l, r.input.visit? = some l →
        r.after.history.entries = r.before.history.entries ++ [l] ∧
          r.before.history.entries <+: s.history.entries.dropLast) ∧
    (s.page.isSome ↔ LeadsHome ((visits rounds).getLastD location)) ∧
    (s.page = none → ∀ m, (s.dispatch m).1 = s ∧ texts (s.dispatch m).2 = [] ∧
      commands (s.dispatch m).2 = []) ∧
    ∀ p, s.page = some p →
      LeadsHome s.history.current ∧
        ∃ q, (({ s with page := none } : Session).openPage s.history.current).1.page = some q ∧
          q.path = p.path ∧ q.request = p.request := by
  intro opened s rounds
  have inv : Followed bootstrap settings location rounds s :=
    followed_play bootstrap settings location plain
  have hpast : s.history.entries.dropLast = s.history.past.reverse := List.dropLast_concat
  have hsize : s.history.size = 1 + (visits rounds).length := by
    rw [History.size, ← List.length_reverse, inv.past_eq, length_leftBehind, Nat.add_comm]
  refine ⟨map_input_play opened inputs, ⟨hsize.trans inv.counted.symm, inv.counted⟩, ?left, inv.page_iff,
    fun hclosed m => dispatch_closed hclosed m, ?shown⟩
  case left =>
    rw [hpast]
    exact ⟨inv.past_eq, inv.added⟩
  case shown =>
    intro p hp
    obtain ⟨q, hq, hpath, hrequest⟩ := (inv.recalled p hp).back
    refine ⟨(listPage?_eq_some_iff.mp hq).1, q, ?_, hpath, hrequest⟩
    have hopen := (openPage_eq (s := { s with page := none }) rfl s.history.current).1
    rw [hopen]
    show listPage? s.bootstrap s.settings s.history.current = some q
    rw [inv.bootstrap_eq, inv.settings_eq]
    exact hq

/-- A search that is still under way as the reader goes on, a location without a path, one that leads to
no list page, and back to a list that grows. -/
theorem history_follows_page_visited :
    let inputs : List Input := [.line "search  Dark ", .line "go ?view=recent#top",
      .event (.debounceElapsed 1), .line "tag a&b", .line "go /admin/tags", .line "more", .line "go /",
      .line "more"]
    let s := (((start {} { pageSize := 5 } "/").navigate "/").1.play inputs).1
    s.history.entries =
        ["/?query=dark", "/?tags=a%26b&view=recent", "/admin/tags", "/?limit=15"] ∧
      s.navigations = 4 ∧ s.page.isSome ∧ LeadsHome s.history.current := by
  intro inputs s
  have plain : ∀ x ∈ inputs, ∀ t ∈ x.namedTag?, ',' ∉ t.toList := by decide +kernel
  have hentries : s.history.entries =
      ["/?query=dark", "/?tags=a%26b&view=recent", "/admin/tags", "/?limit=15"] := by
    decide +kernel
  obtain ⟨_, ⟨hsize, _⟩, _, _, _, hback⟩ := history_follows_page {} { pageSize := 5 } "/" plain
  have hcount : s.navigations = 4 := by
    rw [← hsize, ← History.length_entries, hentries]
    rfl
  have hopen : s.page.isSome := by decide +kernel
  obtain ⟨p, hp⟩ := Option.isSome_iff_exists.mp hopen
  exact ⟨hentries, hcount, hopen, (hback p hp).1⟩

end Session

end IdeaBoard
