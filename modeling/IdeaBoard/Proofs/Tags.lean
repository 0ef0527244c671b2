import IdeaBoard.Proofs.Command
import IdeaBoard.Proofs.Search.Reload

/-!
# IdeaBoard — tags that are typed in

A selection that is typed in as a list is cut at its commas, so that no tag of it holds one. A single
tag is taken as it stands, and the query string of a filter cannot tell a comma inside a tag from one
between two: such a tag comes back in pieces.

* **`commaFree_of_parse?`** — the tags of a list are its pieces, trimmed (`mem_tagList`); so a line gives
  the page no tag with a comma, unless it names that one tag.
* **`TagsNamed`** — the invariant: no tag is empty, and a tag with a comma was named by itself.
  `TagsNamed.step` keeps it over one move, `tagsNamed_run` over a run.
* **`tags_survive_iff`** — the tags come back from the location, and reach the server, just where none
  of them holds a comma.
-/

namespace IdeaBoard.Command

open IdeaBoard.Text IdeaBoard.Search

/-- Only a list of tags chooses a whole selection. -/
theorem eq_tagList_of_of? {verb : Verb} {arg : List Char} {ts : TagSet}
    (h : of? verb arg = some (.page (.edit (.setTags ts)))) : ts = tagList arg := by
  unfold of? at h
  -- every other verb makes another message, or none
  cases verb with
  | tags => simpa using h.symm
  | tag =>
    obtain ⟨_, hsome⟩ := Option.ite_none_left_eq_some.mp h
    exact absurd hsome (by simp)
  | go =>
    obtain ⟨_, hsome⟩ := Option.ite_none_left_eq_some.mp h
    exact absurd hsome (by simp)
  | _ => exact absurd h (by simp)

/-- **A line gives the page no tag with a comma, unless it names that one tag.** -/
theorem commaFree_of_parse? {line : String} {e : Edit} (h : parse? line = some (.page (.edit e)))
    (plain : ∀ t, e = .toggleTag t → ',' ∉ t.toList) : e.CommaFree := by
  obtain ⟨verb, _, hverb⟩ := Option.bind_eq_some_iff.mp h
  cases e with
  | toggleTag t => exact plain t rfl
  | setTags ts =>
    obtain rfl := eq_tagList_of_of? hverb
    exact fun t ht => not_mem_of_mem_tagList ht
  | setQuery q => exact True.intro
  | clearQuery => exact True.intro
  | setView v => exact True.intro

end IdeaBoard.Command

namespace IdeaBoard.Filter

/-- The text of a selection without empty tags is read back as the selection just where no tag holds a
comma. -/
theorem readTags_tagText_eq_iff {tags : TagSet} (hne : ∀ t ∈ tags, t ≠ "") :
    readTags (tagText tags) = tags ↔ ∀ t ∈ tags, ',' ∉ t.toList := by
  constructor
  · intro h t ht
    rw [← h] at ht
    exact (plainTags_readTags _ t ht).2
  · exact fun h => readTags_tagText fun t ht => ⟨hne t ht, h t ht⟩

/-- The tags that are read from a query string are those of the filter, cut at their commas. -/
theorem tags_decode_encodeWith (f : Filter) (default : UInt32) :
    (decode (f.encodeWith default)).tags = readTags (tagText f.tags) := by
  rw [decode_encodeWith]
  rfl

end IdeaBoard.Filter

namespace IdeaBoard.Search

open IdeaBoard.Text IdeaBoard.Filter

/-- A tag is there after an edit because it was there before, or because the edit chooses it. -/
theorem Edit.mem_tags_change {f g : Filter} {e : Edit} {t : String} (change : e.change? f = some g)
    (ht : t ∈ g.tags) :
    t ∈ f.tags ∨ t ≠ "" ∧ (e = .toggleTag t ∨ ∃ ts, e = .setTags ts ∧ t ∈ ts) := by
  cases e with
  | setQuery q =>
    obtain ⟨_, ⟨⟩⟩ := Option.ite_none_left_eq_some.mp change
    exact .inl ht
  | clearQuery =>
    obtain ⟨_, ⟨⟩⟩ := Option.ite_none_left_eq_some.mp change
    exact .inl ht
  | setView v =>
    obtain ⟨_, ⟨⟩⟩ := Option.ite_none_left_eq_some.mp change
    exact .inl ht
  | toggleTag v =>
    obtain ⟨hne, ⟨⟩⟩ := Option.ite_none_left_eq_some.mp change
    rcases TagSet.mem_toggle.mp ht with ⟨_, hin⟩ | ⟨rfl, _⟩
    · exact .inl hin
    · exact .inr ⟨by simpa using hne, .inl rfl⟩
  | setTags ts =>
    obtain ⟨_, ⟨⟩⟩ := Option.ite_none_left_eq_some.mp change
    obtain ⟨hin, hne⟩ := TagSet.mem_filter.mp ht
    exact .inr ⟨by simpa using hne, .inr ⟨ts, rfl, hin⟩⟩

namespace State

/-! ## Where tags come from -/

/-- Every edit among the messages was typed in as a line. -/
def Typed (ms : List Message) : Prop :=
  ∀ e, Message.edit e ∈ ms → ∃ line, Command.parse? line = some (.page (.edit e))

/-- No tag is empty, and a tag with a comma was named by itself in some message. -/
def TagsNamed (s : State) (ms : List Message) : Prop :=
  ∀ t ∈ s.filter.tags, t ≠ "" ∧ (',' ∈ t.toList → Message.edit (.toggleTag t) ∈ ms)

variable {s u : State} {ms : List Message} {m : Message} {fs : List Effect}

/-- A message that leaves the tags alone. -/
theorem TagsNamed.still (h : s.TagsNamed ms) (same : u.filter.tags = s.filter.tags) :
    u.TagsNamed (ms ++ [m]) := by
  intro t ht
  rw [same] at ht
  obtain ⟨hne, hnamed⟩ := h t ht
  exact ⟨hne, fun hcomma => List.mem_append_left _ (hnamed hcomma)⟩

/-- **Every move keeps the invariant, as long as edits are typed in.** -/
theorem TagsNamed.step (h : s.TagsNamed ms) (typed : Typed [m]) (move : Step s m u fs) :
    u.TagsNamed (ms ++ [m]) := by
  cases move with
  | ignored => exact h.still rfl
  | grown => exact h.still rfl
  | asked => exact h.still rfl
  | settled _ _ outcome => cases outcome <;> exact h.still rfl
  | closed => exact h.still rfl
  | @edited e f mounted change =>
    intro t ht
    rcases Edit.mem_tags_change change ht with hin | ⟨hne, rfl | ⟨ts, rfl, hin⟩⟩
    · exact (h.still (u := s) rfl) t hin
    · -- the tag was named by itself just now
      exact ⟨hne, fun _ => List.mem_append_right _ List.mem_cons_self⟩
    · -- a whole selection is typed in as a list, which is cut at its commas
      obtain ⟨line, hparse⟩ := typed (.setTags ts) List.mem_cons_self
      have hfree : (Edit.setTags ts).CommaFree :=
        Command.commaFree_of_parse? hparse fun t htoggle => absurd htoggle (by simp)
      exact ⟨hne, fun hcomma => absurd hcomma (hfree t hin)⟩

/-- The tags of a page are named over every run whose edits are typed in. -/
theorem tagsNamed_run (path queryString : String) (posts : List Post) (settings : Settings)
    {ms : List Message} (typed : Typed ms) :
    ((mount path queryString posts settings).run ms).1.TagsNamed ms := by
  refine run_induction (P := fun ms s _ => Typed ms → s.TagsNamed ms) ?start ?step ms typed
  case start =>
    intro _ t ht
    -- what is read from a query string holds no comma in a tag
    obtain ⟨hne, hcomma⟩ := plainTags_decode queryString t ht
    exact ⟨hne, fun hin => absurd hin hcomma⟩
  case step =>
    intro ms m t u es fs _ h move typed
    have hbefore : Typed ms := fun e he => typed e (List.mem_append_left _ he)
    have hlast : Typed [m] := fun e he => typed e (List.mem_append_right _ he)
    exact (h hbefore).step hlast move

/-- A location that a message puts into the history is that of the page after it. -/
theorem Step.location_eq {l : String} (move : Step s m u fs) (put : .replaceLocation l ∈ fs) :
    l = u.location := by
  cases move with
  | ignored => exact absurd put List.not_mem_nil
  | edited => simpa using put
  | grown => simpa using put
  | asked => exact absurd put (by simp)
  | settled => exact absurd put List.not_mem_nil
  | closed => exact absurd put (by simp)

/-! ## What comes back of them -/

/-- **Whenever a page whose edits are typed in puts a location into the history, the tags that are read
back from its query string are the non-empty pieces of the tags of the page, cut at their commas. They
are the tags of the page, there and in the request to the server, just where none of these holds a
comma; and a tag with a comma is there only because a line named it by itself.** -/
theorem tags_survive_iff (path queryString : String) (posts : List Post) (settings : Settings)
    {ms : List Message} {m : Message} (typed : Typed (ms ++ [m])) {l : String}
    (put : .replaceLocation l ∈ (((mount path queryString posts settings).run ms).1.update m).2) :
    let u := (((mount path queryString posts settings).run ms).1.update m).1
    let Plain := ∀ t ∈ u.filter.tags, ',' ∉ t.toList
    (∃ query, l = Location.withQuery path query ∧
      ('?' ∉ path.toList → '#' ∉ path.toList → Location.split l = (path, query)) ∧
      (∀ t, t ∈ (decode query).tags ↔
        t ≠ "" ∧ ∃ v ∈ u.filter.tags, IsPiece ',' v.toList t.toList) ∧
      ((decode query).tags = u.filter.tags ↔ Plain)) ∧
    ((decode u.request.queryString).tags = u.filter.tags ↔ Plain) ∧
    ∀ t ∈ u.filter.tags, ',' ∈ t.toList → Message.edit (.toggleTag t) ∈ ms ++ [m] := by
  intro u Plain
  have hu : u = ((mount path queryString posts settings).run (ms ++ [m])).1 := by
    rw [run_concat]
  have named : u.TagsNamed (ms ++ [m]) := by
    rw [hu]
    exact tagsNamed_run path queryString posts settings typed
  have hplain : readTags (tagText u.filter.tags) = u.filter.tags ↔ Plain :=
    readTags_tagText_eq_iff fun t ht => (named t ht).1
  have hlocation : l = Location.ofFilterWith path u.filter.normalized u.settings.pageSize := by
    have hpath : u.path = path := by
      rw [hu]
      exact (fixed_run _ _).1
    -- the last message put the location of the page after it
    have hl : l = u.location := (update_step _ m).location_eq put
    rw [hl, location, hpath]
  refine ⟨⟨u.filter.normalized.encodeWith u.settings.pageSize, hlocation, ?split, ?read, ?same⟩,
    ?asked, fun t ht => (named t ht).2⟩
  case split =>
    intro hmark hhash
    rw [hlocation]
    exact Location.split_ofFilterWith hmark hhash _ _
  case read =>
    intro t
    rw [tags_decode_encodeWith]
    exact mem_readTags_tagText
  case same =>
    rw [tags_decode_encodeWith]
    exact hplain
  case asked =>
    rw [Request.queryString, Filter.encode, tags_decode_encodeWith]
    exact hplain

/-- A list with blanks around its tags, and then a tag with separators of the query string in it: all of
them come back. -/
theorem tags_survive_typed :
    let ms : List Message := [.edit (.setTags (Command.tagList " ux ,, bug".toList)), .showMore]
    let m : Message := .edit (.toggleTag "a&b=c +%")
    let u := (((mount "/" "tags=old" [] {}).run ms).1.update m).1
    let l := "/?tags=a%26b%3Dc+%2B%25,bug,ux"
    Typed (ms ++ [m]) ∧ .replaceLocation l ∈ (((mount "/" "tags=old" [] {}).run ms).1.update m).2 ∧
      u.filter.tags.toList = ["a&b=c +%", "bug", "ux"] ∧
      (decode (Location.split l).2).tags = u.filter.tags := by
  intro ms m u l
  have typed : Typed (ms ++ [m]) := by
    intro e he
    rcases List.mem_cons.mp he with heq | he
    · obtain rfl := Message.edit.inj heq
      exact ⟨"tags  ux ,, bug", rfl⟩
    rcases List.mem_cons.mp he with heq | he
    · exact absurd heq (by simp)
    · obtain rfl := Message.edit.inj (List.mem_singleton.mp he)
      exact ⟨"tag a&b=c +%", rfl⟩
  have put : .replaceLocation l ∈ (((mount "/" "tags=old" [] {}).run ms).1.update m).2 := by
    decide +kernel
  have tags : u.filter.tags.toList = ["a&b=c +%", "bug", "ux"] := by decide +kernel
  have plain : ∀ t ∈ u.filter.tags, ',' ∉ t.toList := by
    intro t ht
    rw [← TagSet.mem_toList, tags] at ht
    revert t
    decide
  obtain ⟨⟨query, _, hsplit, _, hsame⟩, _⟩ :=
    tags_survive_iff "/" "tags=old" [] {} typed put
  refine ⟨typed, put, tags, ?_⟩
  rw [hsplit (by decide) (by decide)]
  exact hsame.mpr plain

/-- **A single tag is not cut at its comma, and its location is read as two.** -/
theorem tag_with_comma :
    let s := mount "/" "" [] {}
    let m : Message := .edit (.toggleTag "a,b")
    let l := "/?tags=a%2Cb"
    Command.parse? "tag a,b" = some (.page m) ∧ .replaceLocation l ∈ (s.update m).2 ∧
      (s.update m).1.filter.tags.toList = ["a,b"] ∧
      (decode (Location.split l).2).tags.toList = ["a", "b"] ∧
      (decode (Location.split l).2).tags ≠ (s.update m).1.filter.tags := by
  exact ⟨rfl, by decide +kernel, by decide +kernel, by decide +kernel, by decide +kernel⟩

end State

end IdeaBoard.Search
