import Mathlib.Logic.Relation
import IdeaBoard.Proofs.QueryString

/-!
# IdeaBoard — the first pair of a name

A field is read from the first pair with its name, even where the value there is worth nothing. So two
query strings, one after the other, are read as the filter of the first laid over the filter of the
second; and a query string can be tidied in many ways that no reader notices.

* **`said_append`** — what two query strings say together of a field: what the first says, if it names the
  field at all, else what the second says.
* **`Tidied`** — one change to the segments of a query string: an empty one, one with an unknown name or
  one with a name that came before is gone, or neighbours with different names change places.
* **`Tidied.first?_eq`** — one change leaves alone what is said of every field, `first?_of_tidied` any
  number of them.
* **`first_pair_decides`** — both for the filters that are read.
-/

namespace IdeaBoard.Filter

open IdeaBoard.Text IdeaBoard.Form

/-! ## What is said of a field -/

/-- The value of the first pair with the name of the field. -/
def said (queryString : String) (field : Field) : Option (List Char) :=
  first? field.key (Form.pairs (withoutMark queryString.toList))

/-- A filter is what is said of its fields. -/
theorem decode_eq (queryString : String) : decode queryString = ofTexts (said queryString) := by
  rw [decode, ofPairs_eq]
  rfl

/-- Some pair of the query string has the name of the field. -/
def Names (queryString : String) (field : Field) : Prop :=
  ∃ value, (field.key, value) ∈ Form.pairs (withoutMark queryString.toList)

theorem isSome_said_iff {queryString : String} {field : Field} :
    (said queryString field).isSome ↔ Names queryString field := isSome_first?_iff

/-- The two filters hold the same in the field. -/
def SameIn (f g : Filter) : Field → Prop
  | .tags => f.tags = g.tags
  | .query => f.query = g.query
  | .view => f.view = g.view
  | .limit => f.limit = g.limit

/-- Where the same is said of a field, the filters hold the same in it. -/
theorem sameIn_of_said {a b : String} {field : Field} (h : said a field = said b field) :
    SameIn (decode a) (decode b) field := by
  rw [decode_eq, decode_eq]
  cases field <;> simp only [SameIn, ofTexts, h]

/-! ## One query string after another -/

/-- A mark in front of the first is in front of the whole. -/
theorem withoutMark_append (a b : List Char) :
    withoutMark (a ++ '&' :: b) = withoutMark a ++ '&' :: b := by
  -- an empty text takes no mark from what follows, since an ampersand comes first
  cases a with
  | nil => rfl
  | cons c cs =>
    by_cases hmark : c = '?'
    · subst hmark
      rfl
    · have hwhole : (c :: cs ++ '&' :: b).head? ≠ some '?' := by simpa using hmark
      rw [withoutMark_of_head hwhole, withoutMark_of_head (by simpa using hmark)]

/-- **Of a field that the first query string names, the second says nothing.** -/
theorem said_append {b : String} (unmarked : b.toList.head? ≠ some '?') (a : String) (field : Field) :
    said (a ++ "&" ++ b) field = (said a field).or (said b field) := by
  have hlist : (a ++ "&" ++ b).toList = a.toList ++ '&' :: b.toList := by
    rw [String.toList_append, String.toList_append, List.append_assoc]
    rfl
  rw [said, said, said, hlist, withoutMark_append, pairs_append, first?_append,
    withoutMark_of_head unmarked]

/-! ## Tidying -/

/-- The second list of segments is the first, tidied in one place. -/
inductive Tidied : List (List Char) → List (List Char) → Prop
  | empty (before after : List (List Char)) : Tidied (before ++ [] :: after) (before ++ after)
  | unknown {segment : List Char} (before after : List (List Char))
      (no_field : ∀ field : Field, (pairOf segment).1 ≠ field.key) :
      Tidied (before ++ segment :: after) (before ++ after)
  | repeated {segment : List Char} (before after : List (List Char))
      (earlier : ∃ s ∈ before, s ≠ [] ∧ (pairOf s).1 = (pairOf segment).1) :
      Tidied (before ++ segment :: after) (before ++ after)
  | exchanged {first second : List Char} (before gap after : List (List Char))
      (nothing_between : ∀ s ∈ gap, s = []) (differ : (pairOf first).1 ≠ (pairOf second).1) :
      Tidied (before ++ first :: (gap ++ second :: after)) (before ++ second :: (gap ++ first :: after))

/-- What the first segment says, or what the others say. -/
theorem first?_pairsOf_cons (name segment : List Char) (segments : List (List Char)) :
    first? name (pairsOf (segment :: segments)) =
      if segment ≠ [] ∧ (pairOf segment).1 = name then some (pairOf segment).2
      else first? name (pairsOf segments) := by
  by_cases hempty : segment = []
  · subst hempty
    rw [pairsOf_empty_cons, if_neg fun h => h.1 rfl]
  · rw [pairsOf_cons hempty, first?_cons]
    simp [hempty]

/-- Empty segments are no pairs. -/
theorem pairsOf_gap {gap : List (List Char)} (h : ∀ s ∈ gap, s = []) : pairsOf gap = [] := by
  rw [pairsOf, List.filter_eq_nil_iff.mpr fun s hs => by simp [h s hs]]
  rfl

/-- **Tidying in one place leaves alone what is said of every field.** -/
theorem Tidied.first?_eq {p q : List (List Char)} (h : Tidied p q) (field : Field) :
    first? field.key (pairsOf q) = first? field.key (pairsOf p) := by
  cases h with
  | empty before after => rw [pairsOf_append, pairsOf_append, pairsOf_empty_cons]
  | unknown before after no_field =>
    -- a segment with an unknown name is never the one that is looked for
    rw [pairsOf_append, pairsOf_append, first?_append, first?_append, first?_pairsOf_cons,
      if_neg fun h => no_field field h.2]
  | @repeated segment before after earlier =>
    rw [pairsOf_append, pairsOf_append, first?_append, first?_append, first?_pairsOf_cons]
    split
    · -- the segment names the field, so the one before has said it all
      next hsegment =>
      obtain ⟨s, hs, hne, hsame⟩ := earlier
      have hpair : (field.key, (pairOf s).2) ∈ pairsOf before := by
        rw [← hsegment.2, ← hsame]
        exact List.mem_map_of_mem (List.mem_filter.mpr ⟨hs, by simpa using hne⟩)
      obtain ⟨value, hvalue⟩ := Option.isSome_iff_exists.mp (isSome_first?_iff.mpr ⟨_, hpair⟩)
      rw [hvalue, Option.some_or, Option.some_or]
    · rfl
  | @exchanged first second before gap after nothing_between differ =>
    rw [pairsOf_append, pairsOf_append, first?_append, first?_append]
    congr 1
    have hgap := pairsOf_gap nothing_between
    rw [first?_pairsOf_cons, first?_pairsOf_cons, pairsOf_append, pairsOf_append, hgap, List.nil_append,
      List.nil_append, first?_pairsOf_cons, first?_pairsOf_cons]
    -- at most one of the two names the field
    by_cases hfirst : (pairOf first).1 = field.key
    · have hsecond : ¬(second ≠ [] ∧ (pairOf second).1 = field.key) := fun h =>
        differ (hfirst.trans h.2.symm)
      rw [if_neg hsecond, if_neg hsecond]
    · have hfirst' : ¬(first ≠ [] ∧ (pairOf first).1 = field.key) := fun h => hfirst h.2
      rw [if_neg hfirst', if_neg hfirst']

/-- Tidying brings in no segment. -/
theorem Tidied.subset {p q : List (List Char)} (h : Tidied p q) : q ⊆ p := by
  intro s hs
  cases h with
  | empty before after => grind
  | unknown before after _ => grind
  | repeated before after _ => grind
  | exchanged before gap after _ _ => grind

/-- However often the segments are tidied, the same is said of every field. -/
theorem first?_of_tidied {p q : List (List Char)} (h : Relation.ReflTransGen Tidied p q) (field : Field) :
    first? field.key (pairsOf q) = first? field.key (pairsOf p) := by
  induction h with
  | refl => rfl
  | tail _ last ih => rw [last.first?_eq, ih]

theorem subset_of_tidied {p q : List (List Char)} (h : Relation.ReflTransGen Tidied p q) : q ⊆ p := by
  induction h with
  | refl => exact List.Subset.refl p
  | tail _ last ih => exact fun s hs => ih (last.subset hs)

/-- What segments without a mark and an ampersand say when they are joined. -/
theorem said_join {segments : List (List Char)} (unmarked : ∀ s ∈ segments, '?' ∉ s)
    (whole : ∀ s ∈ segments, '&' ∉ s) (field : Field) :
    said (String.ofList (join ['&'] segments)) field = first? field.key (pairsOf segments) := by
  have hno : '?' ∉ join ['&'] segments := by
    intro hmark
    rcases mem_join hmark with hsep | ⟨s, hs, hin⟩
    · exact absurd (List.mem_singleton.mp hsep) (by decide)
    · exact unmarked s hs hin
  rw [said, String.toList_ofList, withoutMark_of_head fun h => hno (List.mem_of_mem_head? h),
    pairs_join whole]

/-- **A query string without a mark says of every field what it says when it has been tidied.** -/
theorem said_tidied {text : String} (unmarked : '?' ∉ text.toList) {segments : List (List Char)}
    (h : Relation.ReflTransGen Tidied (pieces '&' text.toList) segments) (field : Field) :
    said (String.ofList (join ['&'] segments)) field = said text field := by
  -- the segments are pieces of a text without a mark, so joining them brings in none
  have hpieces : ∀ s ∈ segments, s ∈ pieces '&' text.toList := fun s hs => subset_of_tidied h hs
  have hmark : ∀ s ∈ segments, '?' ∉ s := fun s hs hin =>
    unmarked (mem_of_mem_pieces (hpieces s hs) hin)
  have hwhole : ∀ s ∈ segments, '&' ∉ s := fun s hs => not_mem_of_mem_pieces (hpieces s hs)
  rw [said_join hmark hwhole, first?_of_tidied h, said,
    withoutMark_of_head fun h => unmarked (List.mem_of_mem_head? h), pairs_eq]

/-- **Of two query strings with an ampersand between them each field is read as from the first, where one
of its pairs has the name of the field, and else as from the second, if that has no mark in front. And a
query string without a mark is read the same after any number of changes to its segments by which empty
ones, ones with unknown names and ones with names that came before are left out, and neighbours with
different names change places.** -/
theorem first_pair_decides :
    (∀ a b : String, b.toList.head? ≠ some '?' → ∀ field : Field,
      (Names a field → SameIn (decode (a ++ "&" ++ b)) (decode a) field) ∧
      (¬Names a field → SameIn (decode (a ++ "&" ++ b)) (decode b) field)) ∧
    ∀ text : String, '?' ∉ text.toList → ∀ segments : List (List Char),
      Relation.ReflTransGen Tidied (pieces '&' text.toList) segments →
      decode (String.ofList (join ['&'] segments)) = decode text := by
  constructor
  · intro a b unmarked field
    have hsaid := said_append unmarked a field
    constructor
    · intro hnames
      obtain ⟨value, hvalue⟩ := Option.isSome_iff_exists.mp (isSome_said_iff.mpr hnames)
      apply sameIn_of_said
      rw [hsaid, hvalue, Option.some_or]
    · intro hnames
      have hnone : said a field = none := by
        rw [← Option.not_isSome_iff_eq_none, isSome_said_iff]
        exact hnames
      apply sameIn_of_said
      rw [hsaid, hnone, Option.none_or]
  · -- a filter is what is said of its fields, so nothing else has to be compared
    intro text unmarked segments tidied
    rw [decode_eq, decode_eq]
    exact congrArg ofTexts (funext fun field => said_tidied unmarked tidied field)

/-- A limit of zero and tags that are none close their fields; the name of the tags is written with an
escape. And of five segments two are left, in another order. -/
theorem first_pair_decides_unusable :
    let a := "?limit=0&%74ags=,,"
    let b := "limit=5&tags=x&query=q"
    let text := "x=1&&limit=0&view=v&limit=7"
    SameIn (decode (a ++ "&" ++ b)) (decode a) .limit ∧ (decode (a ++ "&" ++ b)).limit = none ∧
    SameIn (decode (a ++ "&" ++ b)) (decode a) .tags ∧
    SameIn (decode (a ++ "&" ++ b)) (decode b) .query ∧ (decode (a ++ "&" ++ b)).query = "q" ∧
    decode "view=v&limit=0" = decode text := by
  intro a b text
  obtain ⟨hmerge, htidied⟩ := first_pair_decides
  have hpairs : Form.pairs (withoutMark a.toList) =
      [("limit".toList, "0".toList), ("tags".toList, ",,".toList)] := by decide +kernel
  have hlimit : Names a .limit := ⟨"0".toList, by rw [hpairs]; decide⟩
  have htags : Names a .tags := ⟨",,".toList, by rw [hpairs]; decide⟩
  have hquery : ¬Names a .query := by
    rintro ⟨value, hvalue⟩
    rw [hpairs] at hvalue
    simp [Field.key] at hvalue
  have hmerged := hmerge a b (by decide)
  refine ⟨(hmerged .limit).1 hlimit, by decide +kernel, (hmerged .tags).1 htags,
    (hmerged .query).2 hquery, by decide +kernel, ?_⟩
  have hpieces : pieces '&' text.toList =
      ["x=1".toList, [], "limit=0".toList, "view=v".toList, "limit=7".toList] := by decide
  refine htidied text (by decide) ["view=v".toList, "limit=0".toList] ?_
  rw [hpieces]
  have hunknown : ∀ field : Field, (pairOf "x=1".toList).1 ≠ field.key := by
    intro field
    cases field <;> decide +kernel
  have hrepeated : ∃ s ∈ ["limit=0".toList, "view=v".toList], s ≠ [] ∧
      (pairOf s).1 = (pairOf "limit=7".toList).1 :=
    ⟨"limit=0".toList, by decide, by decide, by decide +kernel⟩
  exact .head (.unknown [] _ hunknown) (.head (.empty [] _) (.head (.repeated _ [] hrepeated)
    (.head (.exchanged [] [] [] (by simp) (by decide +kernel)) .refl)))

end IdeaBoard.Filter
