import Mathlib.Data.List.Basic
import IdeaBoard.Command
import IdeaBoard.Proofs.Blank
import IdeaBoard.Proofs.Split

/-!
# IdeaBoard — what a line says

Everything in a line that counts stands between the white space in front of it and the line ends behind
it. The first space there ends the command word; without one the whole line is the word, but for the
white space behind it.

* **`Bare`**, **`Cut`** — the part of a line that counts, and its word and argument.
  `wordAndArgument_of_cut`: every line has one of each, those that are read.
* **`parse?_eq_none_iff`** — a line is refused for its word, or for the blank argument of a tag or a
  location.
* **`parse?_typed`** — a word, a space and any argument are read as that word and argument.
* **`tagList_join`** — a selection is read from its tags between commas, in any order, with anything
  blank around them and between the commas.
* **`line_grammar`** — the whole of it: what is refused, and how everything can be said.
-/

namespace IdeaBoard.Command

open IdeaBoard.Text IdeaBoard.Search

/-! ## The part of a line that counts -/

/-- `core` is the line without the white space in front of it and the line ends behind it. -/
def Bare (line core : List Char) : Prop :=
  ∃ front ends, line = front ++ core ++ ends ∧
    (∀ c ∈ front, isBlank c = true) ∧ (∀ c ∈ ends, isLineEnd c = true) ∧
    (∀ c, core.head? = some c → isBlank c = false) ∧
    ∀ c, core.getLast? = some c → isLineEnd c = false

/-- The command word and the argument: what stands before and after the first space, or all but the white
space at the end, and nothing. -/
inductive Cut : (core word arg : List Char) → Prop where
  | spaced {word : List Char} (free : ' ' ∉ word) (arg : List Char) : Cut (word ++ ' ' :: arg) word arg
  | whole {core word : List Char} (free : ' ' ∉ core) (pad : Padded core word) (trimmed : Trimmed word) :
      Cut core word []

/-- The words that are commands. -/
def words : List String :=
  ["search", "clear", "view", "tag", "tags", "more", "go", "where", "help", "quit", "exit"]

theorem isBlank_of_isLineEnd {c : Char} (h : isLineEnd c = true) : isBlank c = true := by
  have hc : c = '\r' ∨ c = '\n' := by simpa [isLineEnd] using h
  rcases hc with rfl | rfl <;> decide

theorem bare_iff {line core : List Char} :
    Bare line core ↔ core = trimLeft (dropRight isLineEnd line) := by
  constructor
  · rintro ⟨front, ends, rfl, hfront, hends, hhead, hlast⟩
    rw [dropRight_append hends]
    cases core with
    | nil =>
      -- what is left in front is white space
      obtain ⟨back, hback, -⟩ := exists_dropRight isLineEnd front
      have hblank : ∀ c ∈ dropRight isLineEnd front, isBlank c = true := by
        intro c hc
        apply hfront
        rw [hback]
        exact List.mem_append_left back hc
      rw [List.append_nil, ← List.append_nil (dropRight isLineEnd front), trimLeft_append hblank]
      rfl
    | cons c core =>
      have hkept : dropRight isLineEnd (front ++ c :: core) = front ++ c :: core := by
        apply dropRight_of_last
        intro d hd
        apply hlast
        rwa [List.getLast?_append_of_ne_nil _ (List.cons_ne_nil c core)] at hd
      rw [hkept, trimLeft_append hfront]
      exact (dropWhile_of_head hhead).symm
  · rintro rfl
    obtain ⟨ends, hends, hall⟩ := exists_dropRight isLineEnd line
    have hsplit := List.takeWhile_append_dropWhile (p := isBlank) (l := dropRight isLineEnd line)
    refine ⟨(dropRight isLineEnd line).takeWhile isBlank, ends, ?_, forall_mem_takeWhile, hall,
      fun c => head_dropWhile, fun c hc => ?_⟩
    · rw [trimLeft, hsplit]
      exact hends
    · -- the last character is that of the line without its line ends
      have hlast : (dropRight isLineEnd line).getLast? = some c := by
        rw [← hsplit, List.getLast?_append, show (dropRight isLineEnd line).dropWhile isBlank =
          trimLeft (dropRight isLineEnd line) from rfl, hc]
        rfl
      exact getLast?_dropRight hlast

/-- The part that counts is all that counts of itself. -/
theorem Bare.self {line core : List Char} (h : Bare line core) : Bare core core := by
  obtain ⟨-, -, -, -, -, hhead, hlast⟩ := h
  exact ⟨[], [], by simp, by simp, by simp, hhead, hlast⟩

theorem exists_bare (line : List Char) : ∃ core, Bare line core := ⟨_, bare_iff.mpr rfl⟩

/-- Every line has a word and an argument. -/
theorem exists_cut (core : List Char) : ∃ word arg, Cut core word arg := by
  by_cases h : ' ' ∈ core
  · obtain ⟨word, arg, rfl, hfree⟩ := List.eq_append_cons_of_mem h
    exact ⟨word, arg, .spaced hfree arg⟩
  · exact ⟨trim core, [], .whole h (padded_trim core) (trimmed_trim core)⟩

/-- **A line is read as its word and argument.** -/
theorem wordAndArgument_of_cut {line core word arg : List Char} (bare : Bare line core)
    (cut : Cut core word arg) : wordAndArgument line = (word, arg) := by
  have hcore := bare_iff.mp bare
  unfold wordAndArgument
  simp only
  rw [← hcore]
  cases cut with
  | spaced free arg => rw [cutFirst?_append free]; rfl
  | whole free pad trimmed =>
    -- in front there is no white space any more
    have hleft : trimLeft core = core := by
      obtain ⟨-, -, -, -, -, hhead, -⟩ := bare
      exact dropWhile_of_head hhead
    have hline : trim (dropRight isLineEnd line) = trim core := by
      rw [trim, ← hcore, trim, hleft]
    rw [cutFirst?_of_not_mem free, hline, trim_of_padded pad trimmed]
    rfl

/-! ## What is refused -/

theorem named?_eq_none_iff {word : String} : Verb.named? word = none ↔ word ∉ words := by
  unfold Verb.named? words
  split <;> simp_all

theorem named?_eq_tag_iff {word : String} : Verb.named? word = some .tag ↔ word = "tag" := by
  unfold Verb.named?
  split <;> simp_all

theorem named?_eq_go_iff {word : String} : Verb.named? word = some .go ↔ word = "go" := by
  unfold Verb.named?
  split <;> simp_all

/-- Only a tag and a location may not be blank. -/
theorem of?_eq_none_iff {verb : Verb} {arg : List Char} :
    of? verb arg = none ↔ (verb = .tag ∨ verb = .go) ∧ ∀ c ∈ arg, isBlank c = true := by
  have hempty : (String.ofList (trim arg)).isEmpty = true ↔ ∀ c ∈ arg, isBlank c = true := by
    rw [String.isEmpty_iff, ← String.toList_eq_nil_iff, String.toList_ofList, trim_eq_nil_iff]
  unfold of?
  cases verb with
  | tag => simp [← hempty]
  | go => simp [← hempty]
  | _ => simp

/-- A line is its word, looked up, with its argument. -/
theorem parse?_of_cut {line : String} {core word arg : List Char} (bare : Bare line.toList core)
    (cut : Cut core word arg) :
    parse? line = (Verb.named? (String.ofList word)).bind fun verb => of? verb arg := by
  rw [parse?, wordAndArgument_of_cut bare cut]

/-- **A line is refused for its word, or for the blank argument of a tag or a location.** -/
theorem parse?_eq_none_iff {line : String} {core word arg : List Char} (bare : Bare line.toList core)
    (cut : Cut core word arg) :
    parse? line = none ↔ String.ofList word ∉ words ∨
      (String.ofList word = "tag" ∨ String.ofList word = "go") ∧ ∀ c ∈ arg, isBlank c = true := by
  rw [parse?_of_cut bare cut, ← named?_eq_none_iff, ← named?_eq_tag_iff, ← named?_eq_go_iff]
  cases Verb.named? (String.ofList word) with
  | none => simp
  | some verb =>
    rw [Option.bind_some, of?_eq_none_iff]
    simp

/-- Nothing but the part that counts is read of a line. -/
theorem parse?_bare {line : String} {core : List Char} (bare : Bare line.toList core) :
    parse? line = parse? (String.ofList core) := by
  obtain ⟨word, arg, cut⟩ := exists_cut core
  have hself : Bare (String.ofList core).toList core := by
    rw [String.toList_ofList]
    exact bare.self
  rw [parse?_of_cut bare cut, parse?_of_cut hself cut]

/-! ## What is said -/

/-- A word that is typed with its argument after a space is read with the argument, but for the line ends
behind it. -/
theorem parse?_typed {word : String} {verb : Verb} (hverb : Verb.named? word = some verb)
    (arg : String) : parse? (word ++ " " ++ arg) = of? verb (dropRight isLineEnd arg.toList) := by
  have hword : word ∈ words := by
    by_contra hnot
    rw [named?_eq_none_iff.mpr hnot] at hverb
    exact absurd hverb (by simp)
  -- each of the words is one without spaces, and trimmed
  have hplain : ' ' ∉ word.toList ∧ word.toList ≠ [] ∧ trim word.toList = word.toList := by
    clear hverb
    revert word
    decide
  obtain ⟨hfree, hne, htrim⟩ := hplain
  have hhead : ∀ c, word.toList.head? = some c → isBlank c = false := (trim_eq_iff.mp htrim).2.1
  obtain ⟨ends, hends, hall⟩ := exists_dropRight isLineEnd arg.toList
  have hbare : Bare (word ++ " " ++ arg).toList
      (word.toList ++ ' ' :: dropRight isLineEnd arg.toList) := by
    refine ⟨[], ends, ?_, by simp, hall, fun c hc => ?_, fun c hc => ?_⟩
    · rw [String.toList_append, String.toList_append]
      simpa using hends
    · rw [List.head?_append_of_ne_nil _ hne] at hc
      exact hhead c hc
    · -- behind the word stands the space, or the argument without its line ends
      rw [List.getLast?_append_of_ne_nil _ (List.cons_ne_nil _ _), List.getLast?_cons] at hc
      cases hlast : (dropRight isLineEnd arg.toList).getLast? with
      | none =>
        rw [hlast] at hc
        obtain rfl : ' ' = c := Option.some.inj hc
        decide
      | some d =>
        rw [hlast] at hc
        obtain rfl : d = c := Option.some.inj hc
        exact getLast?_dropRight hlast
  rw [parse?_of_cut hbare (.spaced hfree _), String.ofList_toList, hverb, Option.bind_some]

/-- Line ends count as white space. -/
theorem trim_dropRight (arg : List Char) : trim (dropRight isLineEnd arg) = trim arg := by
  obtain ⟨ends, hends, hall⟩ := exists_dropRight isLineEnd arg
  have hboth : trim (dropRight isLineEnd arg ++ ends) = trim (dropRight isLineEnd arg) :=
    trim_append_blank fun c hc => isBlank_of_isLineEnd (hall c hc)
  rw [← hboth, ← hends]

theorem ofList_trim_dropRight {s : String} (h : Trimmed s.toList) :
    String.ofList (trim (dropRight isLineEnd s.toList)) = s := by
  rw [trim_dropRight, trim_of_trimmed h, String.ofList_toList]

/-! ## Tags between commas -/

/-- What is left of a text without the white space at its ends was in the text. -/
theorem mem_of_mem_trim {c : Char} {cs : List Char} (h : c ∈ trim cs) : c ∈ cs := by
  have hleft : c ∈ trimLeft cs := by
    have hrev := List.mem_reverse.mp h
    exact List.mem_reverse.mp ((List.dropWhile_suffix isBlank).subset hrev)
  exact (List.dropWhile_suffix isBlank).subset hleft

/-- The tags of a list are what is left of its pieces without the white space around them. -/
theorem mem_tagList {arg : List Char} {t : String} :
    t ∈ tagList arg ↔ t ≠ "" ∧ ∃ p ∈ pieces ',' arg, t.toList = trim p := by
  rw [tagList, TagSet.mem_ofList, List.mem_map]
  constructor
  · rintro ⟨cs, hcs, rfl⟩
    obtain ⟨hpiece, hne⟩ := List.mem_filter.mp hcs
    obtain ⟨p, hp, rfl⟩ := List.mem_map.mp hpiece
    refine ⟨?_, p, hp, String.toList_ofList⟩
    intro hempty
    rw [← String.toList_eq_nil_iff, String.toList_ofList] at hempty
    exact absurd hempty (by simpa using hne)
  · rintro ⟨hne, p, hp, hlist⟩
    refine ⟨trim p, List.mem_filter.mpr ⟨List.mem_map_of_mem hp, ?_⟩, ?_⟩
    · rw [← hlist]
      simpa [String.toList_eq_nil_iff] using hne
    · rw [← hlist, String.ofList_toList]

/-- No tag of a list holds a comma. -/
theorem not_mem_of_mem_tagList {arg : List Char} {t : String} (h : t ∈ tagList arg) :
    ',' ∉ t.toList := by
  obtain ⟨_, p, hp, hlist⟩ := mem_tagList.mp h
  rw [hlist]
  exact fun hcomma => not_mem_of_mem_pieces hp (mem_of_mem_trim hcomma)

/-- Line ends behind a list belong to the white space around its last tag. -/
theorem tagList_dropRight (arg : List Char) : tagList (dropRight isLineEnd arg) = tagList arg := by
  obtain ⟨ends, hends, hall⟩ := exists_dropRight isLineEnd arg
  have hfree : ',' ∉ ends := fun hcomma => absurd (hall ',' hcomma) (by decide)
  -- a line end is no comma, so only the last piece is longer
  obtain ⟨init, last, hkept, hwhole⟩ := pieces_append_free hfree (dropRight isLineEnd arg)
  have hlast : trim (last ++ ends) = trim last :=
    trim_append_blank fun c hc => isBlank_of_isLineEnd (hall c hc)
  rw [← hends] at hwhole
  have htrimmed : (pieces ',' (dropRight isLineEnd arg)).map trim = (pieces ',' arg).map trim := by
    rw [hkept, hwhole, List.map_append, List.map_append, List.map_singleton, List.map_singleton, hlast]
  rw [tagList, tagList, htrimmed]

/-- The texts stand for a selection of tags that can be typed in: each is nothing but white space, or a
tag of the selection with white space around it, and every tag is among them. -/
structure Spells (tags : TagSet) (texts : List (List Char)) : Prop where
  plain : ∀ t ∈ tags, t ≠ "" ∧ Trimmed t.toList ∧ ',' ∉ t.toList
  padded : ∀ p ∈ texts, (∀ c ∈ p, isBlank c = true) ∨ ∃ t ∈ tags, Padded p t.toList
  all : ∀ t ∈ tags, ∃ p ∈ texts, Padded p t.toList

/-- White space brings no other character with it. -/
theorem not_mem_of_padded {c : Char} {cs t : List Char} (hc : isBlank c = false) (ht : c ∉ t)
    (h : Padded cs t) : c ∉ cs := by
  obtain ⟨front, back, rfl, hfront, hback⟩ := h
  intro hin
  rcases List.mem_append.mp hin with hin | hin
  · rcases List.mem_append.mp hin with hin | hin
    · exact absurd (hfront c hin) (by simp [hc])
    · exact ht hin
  · exact absurd (hback c hin) (by simp [hc])

/-- **The tags between the commas are the selection.** -/
theorem tagList_join {tags : TagSet} {texts : List (List Char)} (h : Spells tags texts) :
    tagList (join [','] texts) = tags := by
  -- without texts the joined text is one blank piece; else no text holds a comma, and the pieces
  -- are the texts
  have hpieces : ∀ p, trim p ≠ [] → (p ∈ pieces ',' (join [','] texts) ↔ p ∈ texts) := by
    intro p hp
    by_cases hne : texts = []
    · subst hne
      refine iff_of_false (fun hin => hp ?_) List.not_mem_nil
      rw [List.mem_singleton.mp hin]
      rfl
    · have hfree : ∀ p ∈ texts, ',' ∉ p := by
        intro p hin
        rcases h.padded p hin with hblank | ⟨t, ht, hpad⟩
        · exact fun hcomma => absurd (hblank ',' hcomma) (by decide)
        · exact not_mem_of_padded (by decide) (h.plain t ht).2.2 hpad
      rw [pieces_join_of_not_mem hne hfree]
  refine TagSet.ext fun t => ?_
  rw [mem_tagList]
  constructor
  · rintro ⟨hne, p, hin, hlist⟩
    have hp : trim p ≠ [] := by
      rw [← hlist]
      exact mt String.toList_eq_nil_iff.mp hne
    -- what is left of a piece is a tag of the selection, for it is not blank
    rcases h.padded p ((hpieces p hp).mp hin) with hblank | ⟨u, hu, hpad⟩
    · exact absurd (trim_eq_nil_iff.mpr hblank) hp
    · rw [trim_of_padded hpad (h.plain u hu).2.1] at hlist
      rw [String.toList_inj.mp hlist]
      exact hu
  · intro ht
    obtain ⟨hne, htrimmed, -⟩ := h.plain t ht
    obtain ⟨p, hin, hpad⟩ := h.all t ht
    have hlist : trim p = t.toList := trim_of_padded hpad htrimmed
    refine ⟨hne, p, (hpieces p ?_).mpr hin, hlist.symm⟩
    rw [hlist]
    exact mt String.toList_eq_nil_iff.mp hne

/-! ## The whole of it -/

/-- **Of a line, only the part between the white space in front and the line ends behind counts; it is
refused just where its word is no command, or is that of a tag or a location with a blank argument. And
everything can be said: any text that does not end in a line end is what is searched for after `search`,
any text without white space at its ends is the view, the tag or the location after its word, and any
selection of such texts without commas is read after `tags`, in any order, with white space and empty
pieces between the commas.** -/
theorem line_grammar :
    (∀ line : String, (∃ core word arg, Bare line.toList core ∧ Cut core word arg) ∧
      ∀ core word arg, Bare line.toList core → Cut core word arg →
        parse? line = parse? (String.ofList core) ∧
        (parse? line = none ↔ String.ofList word ∉ words ∨
          (String.ofList word = "tag" ∨ String.ofList word = "go") ∧ ∀ c ∈ arg, isBlank c = true)) ∧
    (∀ t : String, (∀ c, t.toList.getLast? = some c → isLineEnd c = false) →
      parse? ("search " ++ t) = some (.page (.edit (.setQuery t)))) ∧
    (∀ v : String, Trimmed v.toList → parse? ("view " ++ v) = some (.page (.edit (.setView v)))) ∧
    (∀ t : String, Trimmed t.toList → t ≠ "" →
      parse? ("tag " ++ t) = some (.page (.edit (.toggleTag t))) ∧
      parse? ("go " ++ t) = some (.navigate t)) ∧
    (∀ tags texts, Spells tags texts →
      parse? ("tags " ++ String.ofList (join [','] texts)) = some (.page (.edit (.setTags tags)))) ∧
    parse? "clear" = some (.page (.edit .clearQuery)) ∧ parse? "more" = some (.page .showMore) := by
  refine ⟨fun line => ⟨?read, fun core word arg bare cut => ⟨parse?_bare bare, ?refused⟩⟩,
    ?search, ?view, ?named, ?tags, rfl, rfl⟩
  case read =>
    obtain ⟨core, bare⟩ := exists_bare line.toList
    obtain ⟨word, arg, cut⟩ := exists_cut core
    exact ⟨core, word, arg, bare, cut⟩
  case refused => exact parse?_eq_none_iff bare cut
  case search =>
    intro t hlast
    have hread : parse? ("search " ++ t) = of? .search (dropRight isLineEnd t.toList) :=
      @parse?_typed "search" _ rfl t
    rw [hread, dropRight_of_last hlast, of?, String.ofList_toList]
  case view =>
    intro v htrimmed
    have hread : parse? ("view " ++ v) = of? .view (dropRight isLineEnd v.toList) :=
      @parse?_typed "view" _ rfl v
    rw [hread, of?, ofList_trim_dropRight htrimmed]
  case named =>
    intro t htrimmed hne
    have htag : parse? ("tag " ++ t) = of? .tag (dropRight isLineEnd t.toList) :=
      @parse?_typed "tag" _ rfl t
    have hgo : parse? ("go " ++ t) = of? .go (dropRight isLineEnd t.toList) :=
      @parse?_typed "go" _ rfl t
    have hfilled : ¬t.isEmpty = true := mt String.isEmpty_iff.mp hne
    rw [htag, hgo, of?, of?, ofList_trim_dropRight htrimmed]
    exact ⟨if_neg hfilled, if_neg hfilled⟩
  case tags =>
    intro tags texts spells
    have hread (arg : String) : parse? ("tags " ++ arg) = of? .tags (dropRight isLineEnd arg.toList) :=
      @parse?_typed "tags" _ rfl arg
    rw [hread, of?, tagList_dropRight, String.toList_ofList, tagList_join spells]

/-- A tag of nothing but a no-break space, a search that ends in a tabulator, and two tags between line
ends and empty pieces. -/
theorem line_grammar_crowded :
    let tags := TagSet.ofList ["bug", "ux"]
    let texts := [" ux\u00a0".toList, [], "\n".toList, "bug\r\n".toList, "ux".toList]
    parse? "\u3000\ttag \u00a0\r\n" = none ∧
      parse? "search  Dark\nMode\t" = some (.page (.edit (.setQuery " Dark\nMode\t"))) ∧
      parse? "tags  ux\u00a0,,\n,bug\r\n,ux" = some (.page (.edit (.setTags tags))) ∧
      Spells tags texts := by
  intro tags texts
  obtain ⟨hread, hsearch, -, -, htags, -, -⟩ := line_grammar
  have hbare : Bare "\u3000\ttag \u00a0\r\n".toList "tag \u00a0".toList := bare_iff.mpr (by decide)
  have hcut : Cut "tag \u00a0".toList "tag".toList "\u00a0".toList :=
    @Cut.spaced "tag".toList (by decide) "\u00a0".toList
  have hmem (t : String) : t ∈ tags ↔ t = "bug" ∨ t = "ux" := by simp [tags]
  -- the pieces one by one
  have hspells : Spells tags texts := by
    refine ⟨fun t ht => ?_, fun p hp => ?_, fun t ht => ?_⟩
    · rcases (hmem t).mp ht with rfl | rfl
      · exact ⟨by decide, ((@trim_eq_iff "bug".toList _).mp (by decide)).2, by decide⟩
      · exact ⟨by decide, ((@trim_eq_iff "ux".toList _).mp (by decide)).2, by decide⟩
    · have hp' : p = " ux\u00a0".toList ∨ p = [] ∨ p = "\n".toList ∨ p = "bug\r\n".toList ∨
          p = "ux".toList := by simpa [texts] using hp
      rcases hp' with rfl | rfl | rfl | rfl | rfl
      · exact .inr ⟨"ux", (hmem _).mpr (.inr rfl), (trim_eq_iff.mp (by decide)).1⟩
      · exact .inl (trim_eq_nil_iff.mp (by decide))
      · exact .inl (trim_eq_nil_iff.mp (by decide))
      · exact .inr ⟨"bug", (hmem _).mpr (.inl rfl), (trim_eq_iff.mp (by decide)).1⟩
      · exact .inr ⟨"ux", (hmem _).mpr (.inr rfl), (trim_eq_iff.mp (by decide)).1⟩
    · rcases (hmem t).mp ht with rfl | rfl
      · exact ⟨"bug\r\n".toList, by decide, (trim_eq_iff.mp (by decide)).1⟩
      · exact ⟨"ux".toList, by decide, (trim_eq_iff.mp (by decide)).1⟩
  refine ⟨?_, hsearch " Dark\nMode\t" ?_, htags tags texts hspells, hspells⟩
  · exact (((hread _).2 _ _ _ hbare hcut).2).mpr (.inr ⟨.inl (by decide), trim_eq_nil_iff.mp (by decide)⟩)
  · intro c hc
    obtain rfl : '\t' = c := Option.some.inj hc
    decide

end IdeaBoard.Command
