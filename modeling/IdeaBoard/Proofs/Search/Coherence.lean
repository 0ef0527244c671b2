import IdeaBoard.Proofs.Search.Committed
import IdeaBoard.Proofs.Search.Drawn
import IdeaBoard.Proofs.Tags

/-!
# IdeaBoard — a list page and its lines agree

Each transition of a list page sets only some of what is shown of it, and the lines are drawn from what
is shown alone. That the parts fit together is an invariant of all pages that can be reached.

* **`Line`** — the lines of a page and when each is there; `line_of_mem_search` says that there are no
  others. Lines of different kinds start with different characters (`mark`), so that none can be taken
  for one of another kind, whatever the texts in it.
* **`Coherent`** — the invariant: a page loads while it waits, has no failure while it waits, keeps one
  list, and hides it only while it waits. `Coherent.step` keeps it over one move, `Reached.coherent`
  over all.
* **`view_coherent`** — what it says of the page, and of its lines.
-/

namespace IdeaBoard.Screen

open IdeaBoard.Text
open IdeaBoard.Search (View Phase)

/-! ## Telling lines apart -/

def mark (line : String) : Option Char := line.toList.head?

def StartsWith (line start : String) : Prop := start.toList <+: line.toList

/-- What follows does not change how a line starts. -/
theorem mark_append {a : String} {c : Char} (h : mark a = some c) (b : String) :
    mark (a ++ b) = some c := by
  rw [mark, String.toList_append, List.head?_append, show a.toList.head? = some c from h]
  rfl

/-- A line has the mark of the text that it starts with. -/
theorem mark_of_startsWith {line start : String} {c : Char} (h : StartsWith line start)
    (hstart : mark start = some c) : mark line = some c := by
  obtain ⟨rest, hrest⟩ := h
  rw [mark, ← hrest, List.head?_append, show start.toList.head? = some c from hstart]
  rfl

theorem startsWith_append (a b : String) : StartsWith (a ++ b) a :=
  ⟨b.toList, by rw [String.toList_append]⟩

theorem mark_loadingLine (p : Phase) : mark (loadingLine p) = some '.' := by
  cases p <;> decide

theorem mark_failureLine (e : String) : mark (failureLine e) = some '!' := mark_append (by decide) e

theorem mark_filterLine (v : View) :
    mark (filterLine v) = some 'v' ∨ mark (filterLine v) = some 's' := by
  unfold filterLine
  simp only [String.append_assoc]
  split
  · exact .inl (mark_append (by decide) _)
  · exact .inr (mark_append (by decide) _)

/-- A number at its place starts with a space or with a digit. -/
theorem mark_padLeft (n : Nat) :
    ∃ c, mark (padLeft 3 (numeral n)) = some c ∧ (c = ' ' ∨ c.isDigit = true) := by
  have hlist : (padLeft 3 (numeral n)).toList =
      List.replicate (3 - (numeral n).length) ' ' ++ (numeral n).toList := by
    rw [padLeft, String.toList_append, String.toList_ofList]
  rw [mark, hlist]
  cases hpad : 3 - (numeral n).length with
  | succ k => exact ⟨' ', rfl, .inl rfl⟩
  | zero =>
    -- three digits or more leave no room for spaces
    cases hdigits : (numeral n).toList with
    | nil =>
      rw [← String.length_toList, hdigits] at hpad
      exact absurd hpad (by decide)
    | cons c cs =>
      have hdigit : c.isDigit = true := isDigit_of_mem_numeral (hdigits ▸ List.mem_cons_self)
      exact ⟨c, rfl, .inr hdigit⟩

/-- The line of a post starts with its place. -/
theorem mark_postLine (i : Nat) (p : Post) :
    ∃ c, mark (postLine i p) = some c ∧ (c = ' ' ∨ c.isDigit = true) := by
  obtain ⟨c, hmark, hc⟩ := mark_padLeft (i + 1)
  refine ⟨c, ?_, hc⟩
  unfold postLine
  simp only [String.append_assoc]
  cases p.number with
  | none => exact mark_append hmark _
  | some n => exact mark_append hmark _

/-- A line with any other mark is not that of a post. -/
theorem ne_postLine {line : String} {c : Char} (hmark : mark line = some c) (hspace : c ≠ ' ')
    (hdigit : c.isDigit = false) (i : Nat) (p : Post) : line ≠ postLine i p := by
  rintro rfl
  obtain ⟨d, hd, hchar⟩ := mark_postLine i p
  obtain rfl : c = d := Option.some.inj (hmark.symm.trans hd)
  rcases hchar with rfl | hdigit'
  · exact hspace rfl
  · rw [hdigit] at hdigit'
    exact absurd hdigit' (by decide)

/-! ## All lines -/

/-- The lines of a page, and when each is there. -/
inductive Line (v : View) : String → Prop where
  | filter : Line v (filterLine v)
  | empty (list : v.posts = some []) (still : v.loading = false) : Line v emptyText
  | post (i : Nat) (p : Post) : Line v (postLine i p)
  | loading (under_way : v.loading = true) : Line v (loadingLine v.phase)
  | failure {e : String} (failed : v.lastError = some e) : Line v (failureLine e)
  | more (offered : v.canShowMore = true) : Line v moreLine

/-- The lines of posts are those of the posts, each at its place. -/
theorem postLinesFrom_eq (n : Nat) (ps : List Post) :
    postLinesFrom n ps = ps.mapIdx fun i p => postLine (n + i) p := by
  induction ps generalizing n with
  | nil => rfl
  | cons p ps ih =>
    rw [postLinesFrom, ih, List.mapIdx_cons]
    simp only [Nat.add_zero, Nat.add_assoc, Nat.add_comm 1]

/-- The lines of a list are those of its posts, or the note that it is empty. -/
theorem line_of_mem_listLines {v : View} {line : String} (h : line ∈ listLines v) : Line v line := by
  unfold listLines at h
  split at h
  · exact absurd h List.not_mem_nil
  · next posts hposts =>
    split at h
    · next hempty =>
      obtain ⟨hnil, hstill⟩ : posts = [] ∧ v.loading = false := by simpa using hempty
      rw [List.mem_singleton.mp h]
      exact .empty (hnil ▸ hposts) hstill
    · rw [postLinesFrom_eq, List.mem_mapIdx] at h
      obtain ⟨i, hi, rfl⟩ := h
      exact .post _ _

/-- **There are no other lines.** -/
theorem line_of_mem_search {v : View} {line : String} (h : line ∈ search v) : Line v line := by
  unfold search at h
  simp only [List.mem_append, List.mem_cons] at h
  -- the parts of the screen from top to bottom
  rcases h with (((rfl | hlist) | hloading) | hfailure) | hmore
  · exact .filter
  · exact line_of_mem_listLines hlist
  · obtain ⟨hunder, hline⟩ := List.mem_ite_nil_right.mp hloading
    rw [List.mem_singleton.mp hline]
    exact .loading hunder
  · obtain ⟨e, he, rfl⟩ := List.mem_map.mp hfailure
    exact .failure (Option.mem_toList.mp he)
  · obtain ⟨hoffered, hline⟩ := List.mem_ite_nil_right.mp hmore
    rw [List.mem_singleton.mp hline]
    exact .more hoffered

variable {v : View} {line : String}

/-- **A line of loading, of a failure and of an empty list can be told by its mark.** -/
theorem Line.of_mark (h : Line v line) :
    (mark line = some '.' → v.loading = true ∧ line = loadingLine v.phase) ∧
    (mark line = some '!' → ∃ e, v.lastError = some e) ∧
    (mark line = some 'N' → v.posts = some [] ∧ v.loading = false) := by
  -- each kind of line has its mark: `v` or `s`, `N`, a space or a digit, `.`, `!`, `>`
  cases h with
  | filter => rcases mark_filterLine v with hmark | hmark <;> simp [hmark]
  | empty list still =>
    have hmark : mark emptyText = some 'N' := by decide
    simp [hmark, list, still]
  | post i p =>
    obtain ⟨c, hmark, rfl | hdigit⟩ := mark_postLine i p
    · simp [hmark]
    · rw [hmark]
      refine ⟨?_, ?_, ?_⟩ <;> rintro ⟨⟩ <;> exact absurd hdigit (by decide)
  | loading under_way => simp [mark_loadingLine, under_way]
  | @failure e failed => simp [mark_failureLine, failed]
  | more =>
    have hmark : mark moreLine = some '>' := by decide
    simp [hmark]

/-- A line of loading is there only while something is under way, and tells what for. -/
theorem loading_of_startsWith (h : line ∈ search v) (start : StartsWith line "... loading") :
    v.loading = true ∧ line = loadingLine v.phase :=
  (line_of_mem_search h).of_mark.1 (mark_of_startsWith start (by decide))

/-- A line of a failure is there only after one. -/
theorem failed_of_startsWith (h : line ∈ search v) (start : StartsWith line "! search failed") :
    ∃ e, v.lastError = some e :=
  (line_of_mem_search h).of_mark.2.1 (mark_of_startsWith start (by decide))

theorem startsWith_loadingLine (p : Phase) : StartsWith (loadingLine p) "... loading" := by
  have hline : loadingLine p = "... loading" ++ (" (" ++ phaseLabel p ++ ")") := by
    cases p <;> rfl
  rw [hline]
  exact startsWith_append _ _

theorem loadingLine_mem (h : v.loading = true) : loadingLine v.phase ∈ search v := by
  simp [search, h]

/-- The note on an empty list is there just where nothing is under way and the list is empty. -/
theorem emptyText_mem_iff : emptyText ∈ search v ↔ v.posts = some [] ∧ v.loading = false := by
  constructor
  · exact fun h => (line_of_mem_search h).of_mark.2.2 (by decide)
  · rintro ⟨hposts, hstill⟩
    simp [search, listLines, hposts, hstill]

/-- While nothing is under way each post of the list has its line, in order, and no other line is that
of a post. -/
theorem search_of_still {posts : List Post} (still : v.loading = false) (list : v.posts = some posts) :
    ∃ rest, search v = filterLine v :: (posts.mapIdx postLine ++ rest) ∧
      ∀ line ∈ filterLine v :: rest, ∀ i p, line ≠ postLine i p := by
  let note : List String := if posts.isEmpty then [emptyText] else []
  let failure : List String := v.lastError.toList.map failureLine
  let more : List String := if v.canShowMore then [moreLine] else []
  have hlist : listLines v = posts.mapIdx postLine ++ note := by
    cases posts with
    | nil => simp [listLines, list, still, note]
    | cons p ps => simp [listLines, list, note, postLinesFrom_eq]
  refine ⟨note ++ failure ++ more, ?_, ?_⟩
  · simp [search, hlist, still, failure, more]
  · intro line hline i p
    simp only [List.mem_cons, List.mem_append] at hline
    -- by the marks again: a line of a post starts with a space or a digit
    rcases hline with rfl | (hnote | hfailure) | hmore
    · rcases mark_filterLine v with hmark | hmark
      · exact ne_postLine hmark (by decide) (by decide) i p
      · exact ne_postLine hmark (by decide) (by decide) i p
    · obtain ⟨_, hline⟩ := List.mem_ite_nil_right.mp hnote
      rw [List.mem_singleton.mp hline]
      exact ne_postLine (c := 'N') (by decide) (by decide) (by decide) i p
    · obtain ⟨e, _, rfl⟩ := List.mem_map.mp hfailure
      exact ne_postLine (mark_failureLine e) (by decide) (by decide) i p
    · obtain ⟨_, hline⟩ := List.mem_ite_nil_right.mp hmore
      rw [List.mem_singleton.mp hline]
      exact ne_postLine (c := '>') (by decide) (by decide) (by decide) i p

end IdeaBoard.Screen

namespace IdeaBoard.Search.State

open IdeaBoard.Screen

/-! ## The pages that can be reached -/

/-- The parts of a page fit together. -/
structure Coherent (s : State) : Prop where
  poised : s.Poised
  quiet : s.phase ≠ .idle → s.lastError = none
  held : ∃ list, s.Holds list
  hidden : s.posts = none → s.phase ≠ .idle ∨ s.unmounted = true
  tags : ∀ t ∈ s.filter.tags, t ≠ ""
  limit : s.filter.limit = some 0 → s.settings.pageSize = 0

variable {s u : State} {m : Message} {fs : List Effect}

/-- A page that is mounted shows the posts it was given, and waits for nothing. -/
theorem coherent_mount (path queryString : String) (posts : List Post) (settings : Settings) :
    (mount path queryString posts settings).Coherent where
  poised := (Reached.mounted path queryString posts settings).poised
  quiet := fun _ => rfl
  held := ⟨posts, holds_mount path queryString posts settings⟩
  hidden := fun h => absurd h (by simp [mount])
  tags := fun t ht => (Filter.plainTags_decode queryString t ht).1
  limit := fun h => absurd h (Filter.decode_limit_ne_zero queryString)

/-- **Every move keeps a page coherent.** -/
theorem Coherent.step (h : s.Coherent) (move : Step s m u fs) : u.Coherent := by
  have poised := h.poised.step move
  have held : ∃ list, u.Holds list := h.held.elim fun _ holds => ⟨_, holds.step move⟩
  cases move with
  | ignored => exact h
  | edited mounted change =>
    refine ⟨poised, fun _ => rfl, held, fun _ => .inl (by simp), ?_, ?_⟩
    · intro t ht
      rcases Edit.mem_tags_change change ht with hin | ⟨hne, _⟩
      · exact h.tags t hin
      · exact hne
    · -- an edit goes back to the first page
      exact fun hlimit => absurd hlimit (by simp)
  | grown =>
    exact ⟨poised, fun _ => rfl, held, fun _ => .inl (by simp), h.tags, pageSize_of_grow h.limit⟩
  | asked mounted phase =>
    -- the timer has run out and the page still waits, so what held of it while it waited holds on
    have hwaits : s.phase ≠ .idle := by simp [phase]
    exact ⟨poised, fun _ => h.quiet hwaits, held, fun _ => .inl (by simp), h.tags, h.limit⟩
  | settled mounted phase outcome =>
    -- whatever the outcome, a list is on show after it
    have hshown : (s.settle outcome).posts ≠ none := by
      cases outcome with
      | ok posts => simp [settle, commit]
      | error e =>
        obtain ⟨list, holds⟩ := h.held
        rw [settle, (holds.fail e).1]
        simp
    have hfilter : (s.settle outcome).filter = s.filter ∧
        (s.settle outcome).settings = s.settings := by
      cases outcome <;> exact ⟨rfl, rfl⟩
    refine ⟨poised, ?_, held, fun hnone => absurd hnone hshown, ?_, ?_⟩
    · exact fun hwaits => absurd (phase_settle s outcome) hwaits
    · rw [hfilter.1]
      exact h.tags
    · rw [hfilter.1, hfilter.2]
      exact h.limit
  | closed =>
    exact ⟨poised, fun hwaits => absurd rfl hwaits, held, fun _ => .inr rfl, h.tags, h.limit⟩

/-- Every page that can be reached is coherent. -/
theorem Reached.coherent (h : s.Reached) : s.Coherent := by
  induction h with
  | mounted path queryString posts settings => exact coherent_mount path queryString posts settings
  | updated _ m ih => exact ih.step (update_step _ m)
  | drawn _ ih =>
    exact ⟨⟨ih.poised.loading_iff, ih.poised.limit_eq⟩, ih.quiet, ih.held, ih.hidden, ih.tags, ih.limit⟩

/-- Nothing is under way just where the page is idle. -/
theorem Coherent.still_iff (h : s.Coherent) : s.loading = false ↔ s.phase = .idle := by
  have hwaits : ¬s.loading = true ↔ s.phase = .idle := (not_congr h.poised.loading_iff).trans not_not
  rwa [Bool.not_eq_true] at hwaits

/-! ## What is shown of them -/

/-- **Every page that can be reached loads just while it waits, has a failure only while it does not, and
none after an answer; it hides its list only while it waits, or once it has gone away; it never has an
empty tag, and a limit of zero only where that is its page size. So the lines of a page have one of
loading just while it waits, which never says that the page is idle and never stands beside one of a
failure; they have the note on an empty list just where the page is idle and its list is empty; and the
lines of an idle page have one for each post, in order.** -/
theorem view_coherent (reached : s.Reached) :
    ((s.loading = true ↔ s.phase ≠ .idle) ∧
      (s.lastError ≠ none → s.phase = .idle) ∧
      (∀ g posts, s.Accepts g → (s.update (.searchCompleted g (.ok posts))).1.lastError = none) ∧
      (s.posts = none → s.phase ≠ .idle ∨ s.unmounted = true) ∧
      (∀ t ∈ s.filter.tags, t ≠ "") ∧
      (s.filter.limit = some 0 → s.settings.pageSize = 0)) ∧
    (s.unmounted = false →
      let lines := search s.view
      ((∃ line ∈ lines, StartsWith line "... loading") ↔ s.phase ≠ .idle) ∧
      (∀ line ∈ lines, StartsWith line "... loading" →
        line = loadingLine s.phase ∧ line ≠ loadingLine .idle ∧
        ∀ other ∈ lines, ¬StartsWith other "! search failed") ∧
      (emptyText ∈ lines ↔ s.phase = .idle ∧ s.posts = some []) ∧
      (s.phase = .idle → ∃ posts rest, s.posts = some posts ∧
        lines = filterLine s.view :: (posts.mapIdx postLine ++ rest) ∧
        ∀ line ∈ filterLine s.view :: rest, ∀ i p, line ≠ postLine i p)) := by
  have coherent := reached.coherent
  have hloading : s.loading = true ↔ s.phase ≠ .idle := coherent.poised.loading_iff
  refine ⟨⟨hloading, ?failed, ?answered, coherent.hidden, coherent.tags, coherent.limit⟩, ?lines⟩
  case failed =>
    intro hfailed
    by_contra hwaits
    exact hfailed (coherent.quiet hwaits)
  case answered =>
    intro g posts accepts
    have hwaits : s.phase ≠ .idle := by simp [accepts.2.2]
    rw [update_of_accepts accepts]
    exact coherent.quiet hwaits
  case lines =>
    intro mounted lines
    refine ⟨⟨?_, ?_⟩, ?_, ?_, ?_⟩
    · rintro ⟨line, hline, start⟩
      exact hloading.mp (loading_of_startsWith hline start).1
    · intro hwaits
      exact ⟨_, loadingLine_mem (hloading.mpr hwaits), startsWith_loadingLine _⟩
    · intro line hline start
      obtain ⟨hunder, rfl⟩ := loading_of_startsWith hline start
      have hwaits : s.phase ≠ .idle := hloading.mp hunder
      refine ⟨rfl, fun hidle => hwaits (loadingLine_injective hidle), ?_⟩
      intro other hother hfailure
      -- both lines at once would make it wait with a failure
      obtain ⟨e, he⟩ := failed_of_startsWith hother hfailure
      exact absurd (he.symm.trans (coherent.quiet hwaits)) (by simp)
    · rw [emptyText_mem_iff, ← coherent.still_iff]
      exact and_comm
    · intro hidle
      -- an idle page hides nothing unless it has gone away
      have hshown : s.posts ≠ none := by
        intro hnone
        rcases coherent.hidden hnone with hwaits | hgone
        · exact hwaits hidle
        · exact absurd (hgone.symm.trans mounted) (by decide)
      obtain ⟨posts, hposts⟩ := Option.ne_none_iff_exists'.mp hshown
      have hstill : s.view.loading = false := coherent.still_iff.mpr hidle
      have hlist : s.view.posts = some posts := hposts
      obtain ⟨rest, hlines, hother⟩ := search_of_still hstill hlist
      exact ⟨posts, rest, hposts, hlines, hother⟩

/-- A failure after an edit brings the list back: its post is shown beside the failure, and no line says
that anything is under way. -/
theorem view_coherent_failed :
    let waiting := ((mount "/" "" [⟨.string "kept"⟩] {}).update (.edit (.setView "new"))).1.consumeDirty.2
    let s := ((waiting.update (.debounceElapsed 1)).1.update (.searchCompleted 1 (.error "lost"))).1
    Reached s ∧ s.unmounted = false ∧
      search s.view = ["view: new | tags: any | showing 1", "  1. (untitled)", "! search failed: lost"] ∧
      ¬∃ line ∈ search s.view, StartsWith line "... loading" := by
  intro waiting s
  have reached : Reached s := .updated (.updated (.drawn (.updated (.mounted "/" "" _ {}) _)) _) _
  have mounted : s.unmounted = false := by decide +kernel
  have hidle : s.phase = .idle := by decide +kernel
  obtain ⟨hloading, _⟩ := (view_coherent reached).2 mounted
  exact ⟨reached, mounted, by decide +kernel, fun h => hloading.mp h hidle⟩

end IdeaBoard.Search.State
