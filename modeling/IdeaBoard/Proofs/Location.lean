import IdeaBoard.Location
import IdeaBoard.Proofs.QueryString

/-!
# IdeaBoard — taking a location apart again

A location that was put together from a path and a filter is split into just these, for every filter:
a query string holds neither `?` nor `#`, so only the path could bring one in. And any location at all is
split where its marks stand, the first `#` before the first `?`.

* **`split_ofFilterWith`** — the location of a filter is split into its path and its query string.
* **`Parts`** — how a location is made of a path, a query string and a fragment; there is one way
  (`splitText_eq_iff`).
* **`ofFilterWith_eq_path_iff`** — the filters that leave no trace, because their query
  string is empty.
* **`split_exact`** — splitting and joining, for every location and for every filter.
-/

namespace IdeaBoard.Location

open IdeaBoard.Text

theorem before_of_not_mem {sep : Char} {cs : List Char} (h : sep ∉ cs) : before sep cs = cs := by
  rw [before, cutFirst?_of_not_mem h]

/-- Where the path holds neither separator and the query holds no `#`, splitting undoes joining. -/
theorem split_withQuery {path query : String} (hmark : '?' ∉ path.toList)
    (hhash : '#' ∉ path.toList) (hquery : '#' ∉ query.toList) :
    split (withQuery path query) = (path, query) := by
  unfold withQuery
  split
  · next hempty =>
    rw [String.isEmpty_iff.mp hempty, Location.split, splitText, before_of_not_mem hhash,
      cutFirst?_of_not_mem hmark]
    simp
  · have hlist : (path ++ "?" ++ query).toList = path.toList ++ '?' :: query.toList := by
      rw [String.toList_append, String.toList_append]
      simp
    have hno : '#' ∉ path.toList ++ '?' :: query.toList := by
      simp only [List.mem_append, List.mem_cons, not_or]
      exact ⟨hhash, by decide, hquery⟩
    rw [Location.split, hlist, splitText, before_of_not_mem hno, cutFirst?_append hmark]
    simp

/-- **The location of a filter is split into its path and its query string.** -/
theorem split_ofFilterWith {path : String} (hmark : '?' ∉ path.toList) (hhash : '#' ∉ path.toList)
    (f : Filter) (default : UInt32) :
    split (ofFilterWith path f default) = (path, f.encodeWith default) :=
  split_withQuery hmark hhash (Filter.not_mem_encodeWith (by decide) f default)

/-! ## The parts of any location -/

/-- What stands before a separator holds none, and nothing that the text does not hold. -/
theorem before_spec (sep : Char) (cs : List Char) :
    sep ∉ before sep cs ∧ ∀ c ∈ before sep cs, c ∈ cs := by
  unfold before
  split
  · next head rest hcut =>
    obtain ⟨rfl, hfree⟩ := eq_append_of_cutFirst? hcut
    exact ⟨hfree, fun c hc => List.mem_append_left _ hc⟩
  · next hcut => exact ⟨not_mem_of_cutFirst?_eq_none hcut, fun c hc => hc⟩

/-- **The path of a location holds neither separator**, whatever the location holds. -/
theorem not_mem_path (location : String) :
    '?' ∉ (split location).1.toList ∧ '#' ∉ (split location).1.toList := by
  obtain ⟨hhash, _⟩ := before_spec '#' location.toList
  have hpath : (split location).1.toList = (splitText location.toList).1 := String.toList_ofList
  rw [hpath]
  unfold splitText
  simp only
  generalize before '#' location.toList = addressed at hhash
  -- the path is what stands before both marks, so it is free of the nearer one in either case
  cases hcut : cutFirst? '?' addressed with
  | none => exact ⟨not_mem_of_cutFirst?_eq_none hcut, hhash⟩
  | some parts =>
    obtain ⟨rfl, hmark⟩ := eq_append_of_cutFirst? hcut
    exact ⟨hmark, fun hc => hhash (List.mem_append_left _ hc)⟩

/-! ## The one way to take a location apart -/

/-- The location is the path, then `?` and the query string or neither, then `#` and a fragment or
neither. -/
structure Parts (location path query : List Char) : Prop where
  path_mark : '?' ∉ path
  path_hash : '#' ∉ path
  query_hash : '#' ∉ query
  whole : ∃ marked fragment, location = path ++ marked ++ fragment ∧
    (marked = '?' :: query ∨ (marked = [] ∧ query = [])) ∧
    (fragment = [] ∨ ∃ cs, fragment = '#' :: cs)

/-- What follows the text before the first separator is nothing, or starts with it. -/
theorem eq_before_append (sep : Char) (cs : List Char) :
    ∃ rest, cs = before sep cs ++ rest ∧ (rest = [] ∨ ∃ after, rest = sep :: after) := by
  unfold before
  split
  · next head after hcut => exact ⟨sep :: after, (eq_append_of_cutFirst? hcut).1, .inr ⟨after, rfl⟩⟩
  · exact ⟨[], (List.append_nil cs).symm, .inl rfl⟩

/-- A text without the separator is all of what stands before it. -/
theorem before_append {sep : Char} {head rest : List Char} (free : sep ∉ head)
    (ends : rest = [] ∨ ∃ after, rest = sep :: after) : before sep (head ++ rest) = head := by
  rcases ends with rfl | ⟨after, rfl⟩
  · rw [List.append_nil, before_of_not_mem free]
  · rw [before, cutFirst?_append free]

/-- What a location is split into are its parts. -/
theorem parts_splitText (cs : List Char) : Parts cs (splitText cs).1 (splitText cs).2 := by
  obtain ⟨hhash, _⟩ := before_spec '#' cs
  obtain ⟨fragment, hwhole, hends⟩ := eq_before_append '#' cs
  unfold splitText
  simp only
  generalize before '#' cs = addressed at hhash hwhole
  cases hcut : cutFirst? '?' addressed with
  | none =>
    -- no `?` before the fragment: all of it is the path
    have hmark := not_mem_of_cutFirst?_eq_none hcut
    exact ⟨hmark, hhash, List.not_mem_nil, [], fragment, by simpa using hwhole, .inr ⟨rfl, rfl⟩, hends⟩
  | some parts =>
    obtain ⟨path, query⟩ := parts
    obtain ⟨rfl, hmark⟩ := eq_append_of_cutFirst? hcut
    -- else the path ends at the first `?`, and what is between that and the fragment is the query
    -- string
    refine ⟨hmark, fun hc => hhash (List.mem_append_left _ hc), fun hc => hhash ?_,
      '?' :: query, fragment, hwhole, .inl rfl, hends⟩
    exact List.mem_append_right _ (List.mem_cons_of_mem _ hc)

/-- A location that is made of parts is split into them. -/
theorem Parts.splitText_eq {cs path query : List Char} (h : Parts cs path query) :
    splitText cs = (path, query) := by
  obtain ⟨marked, fragment, rfl, hmarked, hends⟩ := h.whole
  -- the fragment starts at the first `#`, since neither of the other parts holds one
  have hfree : '#' ∉ path ++ marked := by
    rcases hmarked with rfl | ⟨rfl, _⟩
    · simp only [List.mem_append, List.mem_cons, not_or]
      exact ⟨h.path_hash, by decide, h.query_hash⟩
    · simpa using h.path_hash
  rw [splitText, before_append hfree hends]
  rcases hmarked with rfl | ⟨rfl, rfl⟩
  · rw [cutFirst?_append h.path_mark]
    rfl
  · rw [List.append_nil, cutFirst?_of_not_mem h.path_mark]
    rfl

/-- **A location is split the one way in which it can be made of its parts.** -/
theorem splitText_eq_iff {cs path query : List Char} :
    splitText cs = (path, query) ↔ Parts cs path query := by
  constructor
  · intro h
    have hparts := parts_splitText cs
    rwa [h] at hparts
  · exact Parts.splitText_eq

theorem split_eq_iff {location path query : String} :
    split location = (path, query) ↔ Parts location.toList path.toList query.toList := by
  rw [← splitText_eq_iff, split, Prod.mk.injEq, Prod.ext_iff, ← String.toList_inj, ← String.toList_inj,
    String.toList_ofList, String.toList_ofList]

/-! ## Filters that leave no trace -/

/-- **The location of a filter is its path alone just where the query string is empty.** -/
theorem ofFilterWith_eq_path_iff {path : String} {f : Filter} {default : UInt32} :
    ofFilterWith path f default = path ↔ f.encodeWith default = "" := by
  rw [ofFilterWith, withQuery]
  split
  · next hempty => simp [String.isEmpty_iff.mp hempty]
  · next hsome =>
    have hlonger : path ++ "?" ++ f.encodeWith default ≠ path := by
      intro h
      have hlength := congrArg String.length h
      rw [String.length_append, String.length_append, show "?".length = 1 from rfl] at hlength
      omega
    simp only [hlonger, false_iff]
    exact fun h => hsome (String.isEmpty_iff.mpr h)

/-! ## Splitting and joining -/

/-- **Every location is split the one way in which it is a path without `?` and `#`, then `?` and a query
string without `#` or neither, then `#` and a fragment or neither; where no `?` comes before the first
`#`, all before it is the path, and the query string is empty. The location put together from a path
without these marks and any filter is split into that path and the query string of the filter, and is the
path alone just where each field of the filter holds its default.** -/
theorem split_exact :
    (∀ location path query : String,
      split location = (path, query) ↔ Parts location.toList path.toList query.toList) ∧
    (∀ (location : String) (head rest : List Char), location.toList = head ++ rest →
      (rest = [] ∨ ∃ cs, rest = '#' :: cs) → '#' ∉ head → '?' ∉ head →
      split location = (String.ofList head, "")) ∧
    ∀ path : String, '?' ∉ path.toList → '#' ∉ path.toList → ∀ (f : Filter) (default : UInt32),
      split (ofFilterWith path f default) = (path, f.encodeWith default) ∧
      (ofFilterWith path f default = path ↔
        f.tags = ∅ ∧ f.query = "" ∧ f.view = "" ∧ (f.limit = none ∨ f.limit = some default)) := by
  refine ⟨fun _ _ _ => split_eq_iff, ?unmarked, ?joined⟩
  case unmarked =>
    intro location head rest hwhole hends hhash hmark
    rw [split_eq_iff, String.toList_ofList]
    exact ⟨hmark, hhash, List.not_mem_nil, [], rest, by simpa using hwhole, .inr ⟨rfl, rfl⟩, hends⟩
  case joined =>
    intro path hmark hhash f default
    refine ⟨split_ofFilterWith hmark hhash f default, ?_⟩
    rw [ofFilterWith_eq_path_iff, Filter.encodeWith_eq_empty_iff]

/-- A `?` behind the first `#` is part of the fragment; and a filter that has every mark in it, an empty
tag and a tag that is a comma. -/
theorem split_exact_crowded :
    let f : Filter := { query := "?#", view := "=&", tags := TagSet.ofList [",", ""], limit := some 30 }
    split "/ideas#top?x" = ("/ideas", "") ∧
    split (ofFilterWith "/ä &b" f 30) = ("/ä &b", "tags=,%2C&query=%3F%23&view=%3D%26") ∧
    ofFilterWith "/ä &b" f 30 ≠ "/ä &b" := by
  intro f
  obtain ⟨_, hunmarked, hjoined⟩ := split_exact
  obtain ⟨hsplit, hpath⟩ := hjoined "/ä &b" (by decide) (by decide) f 30
  have htext : f.encodeWith 30 = "tags=,%2C&query=%3F%23&view=%3D%26" := by decide +kernel
  refine ⟨?_, by rw [hsplit, htext], ?_⟩
  · exact hunmarked "/ideas#top?x" "/ideas".toList "#top?x".toList (by decide) (.inr ⟨_, rfl⟩)
      (by decide) (by decide)
  · intro h
    exact absurd (hpath.mp h).2.1 (by decide)

end IdeaBoard.Location
