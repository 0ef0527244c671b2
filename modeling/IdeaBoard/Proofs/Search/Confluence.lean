import Mathlib.Data.List.Induction
import IdeaBoard.Proofs.Search.Burst
import IdeaBoard.Proofs.Search.Coherence

/-!
# IdeaBoard — what a burst of edits comes to

Edits follow each other, undo each other, and some of them change nothing. What a burst leaves behind
depends on the filter that it ends with, and on whether it changed anything on the way; the order and the
number of its edits are seen in the generation alone.

* **`Edit.Asks`** — the query, view and tags that an edit asks for, said by their members.
  `Edit.change?_eq_none_iff` and `Edit.asks_of_change` relate it to what an edit does.
* **`update_edit_cases`** — an edit leaves the page as it is where the filter is already as asked, and
  else starts the search over.
* **`StartedOver`** — a page that started over once or many times: only the last filter and the number
  of times can be told (`StartedOver.restart`).
* **`run_edits_cases`** — a burst leaves the page as it was, with no effects, or has started it over.
* **`edits_confluent`** — so two bursts that end with the same filter come to the same.
-/

namespace IdeaBoard.Search

/-! ## What an edit asks for -/

/-- The query, view and tags of `g` are those of `f` with the edit made. -/
def Edit.Asks (e : Edit) (f g : Filter) : Prop :=
  match e with
  | .setQuery q => g.query = q ∧ g.view = f.view ∧ g.tags = f.tags
  | .clearQuery => g.query = "" ∧ g.view = f.view ∧ g.tags = f.tags
  | .setView v => g.query = f.query ∧ g.view = v ∧ g.tags = f.tags
  | .toggleTag t => g.query = f.query ∧ g.view = f.view ∧
      ∀ x, x ∈ g.tags ↔ if x = t ∧ t ≠ "" then x ∉ f.tags else x ∈ f.tags
  | .setTags ts => g.query = f.query ∧ g.view = f.view ∧ ∀ x, x ∈ g.tags ↔ x ∈ ts ∧ x ≠ ""

theorem mem_filter_nonempty {ts : TagSet} {x : String} :
    (x ∈ ts.filter fun t => !t.isEmpty) ↔ x ∈ ts ∧ x ≠ "" := by
  simp [TagSet.mem_filter]

/-- An edit that changes the filter makes it as it asks. -/
theorem Edit.asks_of_change {e : Edit} {f g : Filter} (change : e.change? f = some g) :
    e.Asks f g := by
  cases e with
  | setQuery q =>
    obtain ⟨_, ⟨⟩⟩ := Option.ite_none_left_eq_some.mp change
    exact ⟨rfl, rfl, rfl⟩
  | clearQuery =>
    obtain ⟨_, ⟨⟩⟩ := Option.ite_none_left_eq_some.mp change
    exact ⟨rfl, rfl, rfl⟩
  | setView v =>
    obtain ⟨_, ⟨⟩⟩ := Option.ite_none_left_eq_some.mp change
    exact ⟨rfl, rfl, rfl⟩
  | toggleTag t =>
    obtain ⟨hne, ⟨⟩⟩ := Option.ite_none_left_eq_some.mp change
    have htag : t ≠ "" := by simpa using hne
    refine ⟨rfl, rfl, fun x => ?_⟩
    rw [TagSet.mem_toggle]
    by_cases hx : x = t
    · subst hx
      simp [htag]
    · simp [hx]
  | setTags ts =>
    obtain ⟨_, ⟨⟩⟩ := Option.ite_none_left_eq_some.mp change
    exact ⟨rfl, rfl, fun x => mem_filter_nonempty⟩

/-- **An edit changes nothing just where query, view and tags are as it asks already.** -/
theorem Edit.change?_eq_none_iff {e : Edit} {f : Filter} : e.change? f = none ↔ e.Asks f f := by
  -- query, view and a whole selection are compared; a single tag is flipped whatever it is
  cases e with
  | setQuery q => simp [change?, Asks]
  | clearQuery => simp [change?, Asks]
  | setView v => simp [change?, Asks]
  | toggleTag t =>
    have hchange : (Edit.toggleTag t).change? f = none ↔ t = "" := by simp [change?]
    rw [hchange]
    constructor
    · rintro rfl
      exact ⟨rfl, rfl, fun x => by simp⟩
    · rintro ⟨_, _, hmem⟩
      by_contra hne
      -- a tag that has a name is in the selection before or after, and not in both
      have hflip : t ∈ f.tags ↔ t ∉ f.tags := by simpa [hne] using hmem t
      exact iff_not_self hflip
  | setTags ts =>
    have hchange : (Edit.setTags ts).change? f = none ↔
        f.tags = ts.filter fun t => !t.isEmpty := by simp [change?]
    rw [hchange]
    constructor
    · intro h
      refine ⟨rfl, rfl, fun x => ?_⟩
      rw [h, mem_filter_nonempty]
    · rintro ⟨_, _, hmem⟩
      exact TagSet.ext fun x => (hmem x).trans mem_filter_nonempty.symm

namespace State

variable {s t u : State}

/-! ## One edit -/

/-- **An edit of what is there already is ignored; any other starts the search over.** -/
theorem update_edit_cases (mounted : s.unmounted = false) (e : Edit) :
    (e.Asks s.filter s.filter ∧ s.update (.edit e) = (s, [])) ∨
      (¬e.Asks s.filter s.filter ∧
        ∃ f, e.Asks s.filter f ∧ s.update (.edit e) = s.restartWith f) := by
  cases hchange : e.change? s.filter with
  | none => exact .inl ⟨Edit.change?_eq_none_iff.mp hchange, update_of_ignores (.inr hchange)⟩
  | some f =>
    have hnot : ¬e.Asks s.filter s.filter := by
      rw [← Edit.change?_eq_none_iff, hchange]
      simp
    refine .inr ⟨hnot, f, Edit.asks_of_change hchange, ?_⟩
    unfold update
    rw [mounted, if_neg Bool.false_ne_true]
    simp only [hchange]

/-- The filter of the page is as the edit asks, whether that was a change or not. -/
theorem asks_update (mounted : s.unmounted = false) (e : Edit) :
    e.Asks s.filter (s.update (.edit e)).1.filter := by
  rcases update_edit_cases mounted e with ⟨hasks, hupdate⟩ | ⟨_, f, hasks, hupdate⟩
  · rw [hupdate]
    exact hasks
  · rw [hupdate]
    -- starting over takes the limit away, which no edit asks about
    cases e <;> exact hasks

/-- An edit has no effect just where the filter is already as it asks. -/
theorem update_edit_eq_iff (mounted : s.unmounted = false) (e : Edit) :
    s.update (.edit e) = (s, []) ↔ e.Asks s.filter s.filter := by
  rcases update_edit_cases mounted e with ⟨hasks, hupdate⟩ | ⟨hnot, f, _, hupdate⟩
  · exact iff_of_true hupdate hasks
  · refine iff_of_false ?_ hnot
    rw [hupdate]
    intro hsame
    exact absurd (congrArg Prod.snd hsame) (by simp [restartWith])

/-! ## Starting over again and again -/

/-- The page `t` is the page `s` started over, for some filter and under some generation. -/
def StartedOver (s t : State) : Prop := ∃ f g, t = { s.restart f with generation := g }

/-- **Starting over once more is starting over once**: the list is put aside by the first time, and the
others find none on show. -/
theorem StartedOver.restart (h : t = s ∨ StartedOver s t) (f : Filter) :
    StartedOver s (t.restart f) := by
  rcases h with rfl | ⟨f', g, rfl⟩
  · exact ⟨f, t.generation + 1, rfl⟩
  · exact ⟨f, g + 1, rfl⟩

/-- **Only filter and generation tell two pages apart that started over from one.** -/
theorem StartedOver.eq (ht : StartedOver s t) (hu : StartedOver s u)
    (query : t.filter.query = u.filter.query) (view : t.filter.view = u.filter.view)
    (tags : t.filter.tags = u.filter.tags) : t = { u with generation := t.generation } := by
  obtain ⟨f, g, rfl⟩ := ht
  obtain ⟨f', g', rfl⟩ := hu
  have hfilter : { f with limit := none } = { f' with limit := none } := by
    rw [Filter.mk.injEq]
    exact ⟨query, view, tags, rfl⟩
  simp only [State.restart, hfilter]

/-! ## Many edits -/

/-- **A burst of edits leaves the page as it was, with no effects, or has started it over; then the
location put into the history last is that of the page.** -/
theorem run_edits_cases (mounted : s.unmounted = false) (es : List Edit) :
    s.run (es.map .edit) = (s, []) ∨
      (StartedOver s (s.run (es.map .edit)).1 ∧
        (locations (s.run (es.map .edit)).2).getLast? = some (s.run (es.map .edit)).1.location) := by
  -- the last edit first: all but it have left the page or started it over
  induction es using List.reverseRecOn with
  | nil => exact .inl rfl
  | append_singleton es e ih =>
    have hbefore : (s.run (es.map .edit)).1.unmounted = false := (run_edits mounted es).1
    rw [List.map_append, List.map_singleton, run_concat]
    rcases update_edit_cases hbefore e with ⟨_, hupdate⟩ | ⟨_, f, _, hupdate⟩
    · rw [hupdate, List.append_nil]
      exact ih
    · have hstarted : (s.run (es.map .edit)).1 = s ∨ StartedOver s (s.run (es.map .edit)).1 :=
        ih.imp (congrArg Prod.fst) And.left
      have hput : locations ((s.run (es.map .edit)).1.restartWith f).2 =
          [((s.run (es.map .edit)).1.restart f).location] := rfl
      rw [hupdate]
      refine .inr ⟨.restart hstarted f, ?_⟩
      rw [locations_append, hput, List.getLast?_concat]
      rfl

/-- A burst that changes the filter somewhere has effects, even where later edits undo the change. -/
theorem effects_ne_nil_of_changes {es : List Edit} (changes : s.Changes es) :
    (s.run (es.map .edit)).2 ≠ [] := by
  obtain ⟨before, e, after, rfl, hfilter⟩ := changes
  rw [List.map_append, List.map_singleton, run_concat] at hfilter
  have move := update_step (s.run (before.map .edit)).1 (.edit e)
  rw [List.map_append, run_append, List.map_cons, run]
  generalize (s.run (before.map .edit)).1.update (.edit e) = r at move hfilter ⊢
  obtain ⟨u, fs⟩ := r
  -- the edit that changes the filter is no ignored one
  cases move with
  | ignored => exact absurd rfl hfilter
  | edited => simp

/-- A burst that changes something somewhere has started the page over. -/
theorem startedOver_of_changes (mounted : s.unmounted = false) {es : List Edit}
    (changes : s.Changes es) :
    StartedOver s (s.run (es.map .edit)).1 ∧
      (locations (s.run (es.map .edit)).2).getLast? = some (s.run (es.map .edit)).1.location := by
  refine (run_edits_cases mounted es).resolve_left fun hsame => ?_
  exact effects_ne_nil_of_changes changes (congrArg Prod.snd hsame)

/-! ## Tags one by one -/

/-- **After each of some tags has been flipped once, those with a name have changed sides.** -/
theorem run_toggles (mounted : s.unmounted = false) {ts : List String} (nodup : ts.Nodup) :
    let f := (s.run ((ts.map Edit.toggleTag).map .edit)).1.filter
    f.query = s.filter.query ∧ f.view = s.filter.view ∧
      ∀ x, x ∈ f.tags ↔ if x ∈ ts ∧ x ≠ "" then x ∉ s.filter.tags else x ∈ s.filter.tags := by
  -- on the tags still to be flipped; each of them is flipped once
  induction ts generalizing s with
  | nil => exact ⟨rfl, rfl, fun x => by simp [run]⟩
  | cons t ts ih =>
    obtain ⟨hnot, hrest⟩ := List.nodup_cons.mp nodup
    obtain ⟨hquery, hview, htags⟩ := asks_update mounted (.toggleTag t)
    obtain ⟨hquery', hview', htags'⟩ := ih (update_edit mounted (.toggleTag t)).1 hrest
    refine ⟨hquery'.trans hquery, hview'.trans hview, fun x => (htags' x).trans ?_⟩
    rw [htags x]
    by_cases hx : x = t
    · -- the flip of `t` itself: it comes once
      subst hx
      simp [hnot]
    · simp [hx]

/-- A burst that flips a tag with a name changes the filter at that point. -/
theorem changes_of_toggle (mounted : s.unmounted = false) {ts : List String} {t : String}
    (mem : t ∈ ts) (hne : t ≠ "") : s.Changes (ts.map Edit.toggleTag) := by
  obtain ⟨before, after, rfl⟩ := List.append_of_mem mem
  refine ⟨before.map .toggleTag, .toggleTag t, after.map .toggleTag, by simp, ?_⟩
  rw [List.map_append, List.map_singleton, run_concat]
  have hbefore := (run_edits mounted (before.map Edit.toggleTag)).1
  obtain ⟨_, _, htags⟩ := asks_update hbefore (.toggleTag t)
  intro hsame
  have hflip := htags t
  rw [hsame, if_pos ⟨rfl, hne⟩] at hflip
  exact iff_not_self hflip

/-- Flipping the tags in which a selection differs from the one that is asked for changes something just
where asking for the selection does. -/
theorem asks_setTags_iff (named : ∀ t ∈ s.filter.tags, t ≠ "") {tags : TagSet} {ts : List String}
    (differ : ∀ t, t ∈ ts ↔ ¬(t ∈ s.filter.tags ↔ t ∈ tags)) :
    (Edit.setTags tags).Asks s.filter s.filter ↔ ∀ t ∈ ts, t = "" := by
  constructor
  · rintro ⟨_, _, hmem⟩ t ht
    by_contra hne
    exact (differ t).mp ht ((hmem t).trans (and_iff_left hne))
  · intro hall
    refine ⟨rfl, rfl, fun x => ?_⟩
    -- the empty tag may be among those that differ, but no selection has it
    by_cases hx : x = ""
    · subst hx
      simp [mt (named "") (by simp)]
    · have hsame : x ∈ s.filter.tags ↔ x ∈ tags := by
        by_contra hdiffer
        exact hx (hall x ((differ x).mpr hdiffer))
      simp [hsame, hx]

/-! ## What a burst comes to -/

/-- Two bursts that both changed something, and end with the same filter. -/
theorem confluent_of_changes (mounted : s.unmounted = false) {es fs : List Edit}
    (hes : s.Changes es) (hfs : s.Changes fs)
    (query : (s.run (es.map .edit)).1.filter.query = (s.run (fs.map .edit)).1.filter.query)
    (view : (s.run (es.map .edit)).1.filter.view = (s.run (fs.map .edit)).1.filter.view)
    (tags : (s.run (es.map .edit)).1.filter.tags = (s.run (fs.map .edit)).1.filter.tags) :
    (s.run (es.map .edit)).1 =
        { (s.run (fs.map .edit)).1 with generation := (s.run (es.map .edit)).1.generation } ∧
      (locations (s.run (es.map .edit)).2).getLast? =
        (locations (s.run (fs.map .edit)).2).getLast? := by
  obtain ⟨hstarted, hlast⟩ := startedOver_of_changes mounted hes
  obtain ⟨hstarted', hlast'⟩ := startedOver_of_changes mounted hfs
  -- both have started over from `s`
  have hsame := hstarted.eq hstarted' query view tags
  refine ⟨hsame, ?_⟩
  rw [hlast, hlast', hsame]
  rfl

/-- The selection that is asked for, said by what was selected before and what is flipped. -/
theorem mem_and_ne_iff (named : ∀ t ∈ s.filter.tags, t ≠ "") {tags : TagSet} {ts : List String}
    (differ : ∀ t, t ∈ ts ↔ ¬(t ∈ s.filter.tags ↔ t ∈ tags)) (x : String) :
    (x ∈ tags ∧ x ≠ "") ↔
      if x ∈ ts ∧ x ≠ "" then x ∉ s.filter.tags else x ∈ s.filter.tags := by
  by_cases hempty : x = ""
  · have hnot : "" ∉ s.filter.tags := fun hin => named "" hin rfl
    simp [hempty, hnot]
  · by_cases hts : x ∈ ts
    · have hdiffer : ¬(x ∈ s.filter.tags ↔ x ∈ tags) := (differ x).mp hts
      rw [if_pos ⟨hts, hempty⟩, and_iff_left hempty]
      exact (not_iff.mp hdiffer).symm
    · have hsame : x ∈ s.filter.tags ↔ x ∈ tags := by
        by_contra hdiffer
        exact hts ((differ x).mpr hdiffer)
      rw [if_neg fun h => hts h.1, and_iff_left hempty, hsame]

/-- Asking for a selection, and flipping the tags in which it differs from the one that is there. -/
theorem toggles_confluent (mounted : s.unmounted = false) (named : ∀ t ∈ s.filter.tags, t ≠ "")
    {tags : TagSet} {ts : List String} (nodup : ts.Nodup)
    (differ : ∀ t, t ∈ ts ↔ ¬(t ∈ s.filter.tags ↔ t ∈ tags)) :
    (s.run ([Edit.setTags tags].map .edit)).1 =
        { (s.run ((ts.map Edit.toggleTag).map .edit)).1 with
          generation := (s.run ([Edit.setTags tags].map .edit)).1.generation } ∧
      (locations (s.run ([Edit.setTags tags].map .edit)).2).getLast? =
        (locations (s.run ((ts.map Edit.toggleTag).map .edit)).2).getLast? := by
  by_cases hasks : (Edit.setTags tags).Asks s.filter s.filter
  · -- nothing to flip but the empty tag, which is ignored
    have hset : s.run ([Edit.setTags tags].map .edit) = (s, []) := by
      show s.run [.edit (.setTags tags)] = (s, [])
      rw [run, (update_edit_eq_iff mounted _).mpr hasks]
      rfl
    have hflipped : s.run ((ts.map Edit.toggleTag).map .edit) = (s, []) := by
      refine run_of_ignores fun m hm => ?_
      obtain ⟨e, he, rfl⟩ := List.mem_map.mp hm
      obtain ⟨t, ht, rfl⟩ := List.mem_map.mp he
      have hempty : t = "" := (asks_setTags_iff named differ).mp hasks t ht
      exact .inr (by simp [hempty, Edit.change?])
    rw [hset, hflipped]
    exact ⟨rfl, rfl⟩
  · -- some tag with a name differs, so both bursts change something
    obtain ⟨t, ht, hne⟩ : ∃ t ∈ ts, t ≠ "" := by
      by_contra hno
      refine hasks ((asks_setTags_iff named differ).mpr fun t ht => ?_)
      by_contra hne
      exact hno ⟨t, ht, hne⟩
    have hset := asks_update mounted (.setTags tags)
    have hchanges : s.Changes [.setTags tags] :=
      ⟨[], .setTags tags, [], rfl, fun hsame => hasks (hsame ▸ hset)⟩
    obtain ⟨hquery, hview, htags⟩ := hset
    obtain ⟨hquery', hview', htags'⟩ := run_toggles mounted nodup
    have hsame : ∀ x, x ∈ (s.update (.edit (.setTags tags))).1.filter.tags ↔
        x ∈ (s.run ((ts.map Edit.toggleTag).map .edit)).1.filter.tags := fun x =>
      (htags x).trans ((mem_and_ne_iff named differ x).trans (htags' x).symm)
    exact confluent_of_changes mounted hchanges (changes_of_toggle mounted ht hne)
      (hquery.trans hquery'.symm) (hview.trans hview'.symm) (TagSet.ext hsame)

/-- **From every state of a mounted page, an edit leaves everything as it is and has no effects just
where query, view and tags are as it asks already; any other makes them so under the next generation,
and asks to stop what is under way, to put the new location into the history and to start the timer. Two
bursts of edits that each change something somewhere, and end with the same query, view and tags, end in
the same state but for the generation, with the same location put into the history last. So it makes no
difference whether a selection of tags is asked for as a whole, or each tag that is in one of the old and
the new selection is flipped, in any order.** -/
theorem edits_confluent (reached : s.Reached) (mounted : s.unmounted = false) :
    (∀ e, (s.update (.edit e) = (s, []) ↔ e.Asks s.filter s.filter) ∧
      (¬e.Asks s.filter s.filter →
        let t := (s.update (.edit e)).1
        e.Asks s.filter t.filter ∧ t.generation = s.generation + 1 ∧
        (s.update (.edit e)).2 = [.cancelPending, .replaceLocation t.location,
          .scheduleSearch t.generation s.settings.debounceMs])) ∧
    (∀ es fs, s.Changes es → s.Changes fs →
      let a := s.run (es.map .edit)
      let b := s.run (fs.map .edit)
      a.1.filter.query = b.1.filter.query → a.1.filter.view = b.1.filter.view →
      a.1.filter.tags = b.1.filter.tags →
      a.1 = { b.1 with generation := a.1.generation } ∧
      (locations a.2).getLast? = (locations b.2).getLast? ∧
      (locations a.2).getLast? = some a.1.location) ∧
    (∀ (tags : TagSet) (ts : List String), ts.Nodup →
      (∀ t, t ∈ ts ↔ ¬(t ∈ s.filter.tags ↔ t ∈ tags)) →
      let a := s.run ([Edit.setTags tags].map .edit)
      let b := s.run ((ts.map Edit.toggleTag).map .edit)
      a.1 = { b.1 with generation := a.1.generation } ∧
      (locations a.2).getLast? = (locations b.2).getLast?) := by
  refine ⟨fun e => ⟨update_edit_eq_iff mounted e, ?edited⟩, ?confluent, ?toggled⟩
  case edited =>
    intro hnot
    refine ⟨asks_update mounted e, ?_⟩
    obtain ⟨_, f, _, hupdate⟩ := (update_edit_cases mounted e).resolve_left fun h => hnot h.1
    rw [hupdate]
    exact ⟨rfl, rfl⟩
  case confluent =>
    intro es fs hes hfs a b query view tags
    obtain ⟨hsame, hlast⟩ := confluent_of_changes mounted hes hfs query view tags
    exact ⟨hsame, hlast, (startedOver_of_changes mounted hes).2⟩
  case toggled =>
    intro tags ts nodup differ a b
    exact toggles_confluent mounted reached.coherent.tags nodup differ

/-- A page that awaits a longer list: emptying an empty search box leaves it as it is, limit and all. Three
edits and two flips lead to the same selection of tags, and to the same page but for its generation. -/
theorem edits_confluent_flipped :
    let s := ((mount "/" "tags=a,b&limit=40" [⟨.string "kept"⟩] {}).update .showMore).1
    let es : List Edit := [.setView "x", .setTags (.ofList ["c", "", "b"]), .setView ""]
    let fs : List Edit := [.toggleTag "c", .toggleTag "a"]
    let a := s.run (es.map .edit)
    let b := s.run (fs.map .edit)
    Reached s ∧ s.unmounted = false ∧ s.filter.limit = some 50 ∧
      s.update (.edit .clearQuery) = (s, []) ∧ s.Changes es ∧ s.Changes fs ∧
      a.1.generation = 4 ∧ b.1.generation = 3 ∧ a.1 = { b.1 with generation := 4 } ∧
      (locations a.2).getLast? = some "/?tags=b,c" := by
  intro s es fs a b
  have reached : Reached s := .updated (.mounted "/" "tags=a,b&limit=40" _ {}) _
  have mounted : s.unmounted = false := by decide +kernel
  have limit : s.filter.limit = some 50 := by decide +kernel
  have asked : Edit.clearQuery.Asks s.filter s.filter := ⟨by decide +kernel, rfl, rfl⟩
  have changes : s.Changes es :=
    ⟨[], .setView "x", [.setTags (.ofList ["c", "", "b"]), .setView ""], rfl, by decide +kernel⟩
  have changes' : s.Changes fs := ⟨[], .toggleTag "c", [.toggleTag "a"], rfl, by decide +kernel⟩
  have generation : a.1.generation = 4 := by decide +kernel
  have location : a.1.location = "/?tags=b,c" := by decide +kernel
  obtain ⟨single, confluent, _⟩ := edits_confluent reached mounted
  obtain ⟨hsame, _, hlast⟩ := confluent es fs changes changes' (by decide +kernel)
    (by decide +kernel) (by decide +kernel)
  rw [generation] at hsame
  rw [location] at hlast
  exact ⟨reached, mounted, limit, (single .clearQuery).1.mpr asked, changes, changes', generation,
    by decide +kernel, hsame, hlast⟩

end State

end IdeaBoard.Search
