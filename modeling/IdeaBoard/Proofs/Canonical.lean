import IdeaBoard.Proofs.QueryString

/-!
# IdeaBoard — canonical query strings

A filter that was read from a query string, however malformed, lies where writing loses nothing but the
limit that the reader takes anyway. So what is written for it is the canonical form of the query string.

* **`kept_of_writable`** — a filter that its query string can say (`Writable`) comes back but for a limit
  equal to the one taken where none is given (`brief`).
* **`writable_decode`** — every filter that was read is of this kind: `plainTags_decode` for its tags,
  `decode_limit_ne_zero` for its limit.
* **`encodeWith_eq_iff`** — two such filters are written alike just where the reader takes them for the
  same.
* **`canonical_form`** — what follows for all query strings.
-/

namespace IdeaBoard.Filter

open IdeaBoard.Text

/-! ## Filters that a query string can say -/

/-- The query string of the filter says its tags, and its limit but for the one taken where none is
given. -/
structure Writable (f : Filter) (default : UInt32) : Prop where
  tags : PlainTags f.tags
  limit : f.limit = some 0 → default = 0

/-- The filter without a limit that the reader of its query string takes anyway. -/
def brief (f : Filter) (default : UInt32) : Filter :=
  { f with limit := f.limit.filter (· ≠ default) }

/-- What comes back of a filter that a query string can say is the filter, but for a limit that its
reader takes anyway. -/
theorem kept_of_writable {f : Filter} {default : UInt32} (h : f.Writable default) :
    f.kept default = f.brief default := by
  rw [kept, readTags_tagText h.tags, brief]
  congr 1
  cases hlimit : f.limit with
  | none => rfl
  | some n =>
    by_cases hn : n = default
    · subst hn
      rw [if_pos (.inl rfl), Option.filter_some, if_neg (by simp)]
    · -- a limit of zero is the default too, so what is left is positive
      have hzero : n ≠ 0 := by
        intro h0
        have hdefault : default = 0 := h.limit (by rw [hlimit, h0])
        exact hn (by rw [h0, hdefault])
      have hkept : ¬(some n = some default ∨ some n = some 0) := by
        simp only [Option.some.injEq]
        exact not_or.mpr ⟨hn, hzero⟩
      rw [if_neg hkept, Option.filter_some, if_pos (by simpa using hn)]

/-- The limit that is left out would not have been written. -/
theorem encodeWith_brief (f : Filter) (default : UInt32) :
    (f.brief default).encodeWith default = f.encodeWith default := by
  have hfields : (f.brief default).written? default = f.written? default := by
    -- only the value of the limit has to do with the default
    funext field
    cases field with
    | limit =>
      simp only [written?, brief]
      rw [Option.filter_filter]
      simp
    | tags => rfl
    | query => rfl
    | view => rfl
  rw [encodeWith, writtenPairs, hfields]
  rfl

/-- A reader that takes the limit anyway does not miss it. -/
theorem getD_filter_ne (limit : Option UInt32) (default : UInt32) :
    (limit.filter (· ≠ default)).getD default = limit.getD default := by
  cases limit with
  | none => rfl
  | some n =>
    by_cases hn : n = default
    · rw [Option.filter_some, if_neg (by simpa using hn), hn]
      rfl
    · rw [Option.filter_some, if_pos (by simpa using hn)]

/-- What is left of a limit says what it stands for. -/
theorem filter_ne_eq_iff {a b : Option UInt32} (default : UInt32) :
    a.filter (· ≠ default) = b.filter (· ≠ default) ↔ a.getD default = b.getD default := by
  constructor
  · intro h
    rw [← getD_filter_ne a, h, getD_filter_ne]
  · intro h
    -- none and the default are one case, every other number stands for itself
    have hleft : ∀ c : Option UInt32, c.filter (· ≠ default) =
        if c.getD default = default then none else some (c.getD default) := by
      intro c
      cases c with
      | none => simp
      | some n => by_cases hn : n = default <;> simp [hn]
    rw [hleft, hleft, h]

theorem writable_normalized {f : Filter} {default : UInt32} (h : f.Writable default) :
    f.normalized.Writable default := ⟨h.tags, h.limit⟩

/-! ## Filters that were read -/

/-- No text is read as a limit of zero. -/
theorem readLimit?_ne_zero (cs : List Char) : readLimit? cs ≠ some 0 := by
  intro h
  unfold readLimit? at h
  obtain ⟨n, hn, hzero⟩ := Option.map_eq_some_iff.mp h
  obtain ⟨hread, hpos⟩ := Option.filter_eq_some_iff.mp hn
  have hbound : n < UInt32.size := by
    unfold readBelow? at hread
    have hfits := (Option.filter_eq_some_iff.mp hread).2
    simpa using hfits
  -- below the bound the number is what the 32 bits hold
  have hvalue : (UInt32.ofNat n).toNat = n := UInt32.toNat_ofNat_of_lt hbound
  have hpositive : 0 < n := by simpa using hpos
  rw [hzero] at hvalue
  rw [← hvalue] at hpositive
  exact absurd hpositive (by decide)

/-- No query string gives a limit of zero. -/
theorem decode_limit_ne_zero (queryString : String) : (decode queryString).limit ≠ some 0 := by
  rw [decode, ofPairs_eq]
  unfold ofTexts
  simp only
  intro h
  obtain ⟨value, _, hvalue⟩ := Option.bind_eq_some_iff.mp h
  exact readLimit?_ne_zero value hvalue

/-- Every tag that is read from a query string can be told from a text again. -/
theorem plainTags_decode (queryString : String) : PlainTags (decode queryString).tags := by
  rw [decode, ofPairs_eq]
  unfold ofTexts
  simp only
  cases Form.first? Field.tags.key (Form.pairs (withoutMark queryString.toList)) with
  | none => exact fun t ht => absurd ht TagSet.not_mem_empty
  | some value => exact plainTags_readTags value

/-- A filter that was read from a query string can be written. -/
theorem writable_decode (queryString : String) (default : UInt32) :
    (decode queryString).Writable default where
  tags := plainTags_decode queryString
  limit := fun h => absurd h (decode_limit_ne_zero queryString)

/-! ## Canonical forms -/

/-- A filter that can be written comes back but for the limit that is taken anyway. -/
theorem decode_encodeWith_of_writable {f : Filter} {default : UInt32} (h : f.Writable default) :
    decode (f.encodeWith default) = f.brief default := by
  rw [decode_encodeWith, kept_of_writable h]

/-- Two filters are the same to a reader who takes the limit anyway. -/
theorem brief_eq_iff {f g : Filter} {default : UInt32} :
    f.brief default = g.brief default ↔
      f.query = g.query ∧ f.view = g.view ∧ f.tags = g.tags ∧
        f.limit.getD default = g.limit.getD default := by
  rw [← filter_ne_eq_iff, brief, brief, Filter.mk.injEq]

/-- **Filters that can be written are written alike just where the reader takes them for the same.** -/
theorem encodeWith_eq_iff {f g : Filter} {default : UInt32} (hf : f.Writable default)
    (hg : g.Writable default) :
    f.encodeWith default = g.encodeWith default ↔ f.brief default = g.brief default := by
  constructor
  · intro h
    have hread : decode (f.encodeWith default) = decode (g.encodeWith default) := by rw [h]
    rwa [decode_encodeWith_of_writable hf, decode_encodeWith_of_writable hg] at hread
  · intro h
    rw [← encodeWith_brief f, h, encodeWith_brief]

/-- **Whatever text is read, the filter has no empty tag, no tag with a comma and no limit of zero; what
is written for it reads as the same filter, but for a limit that the reader takes anyway; and it is the
canonical form of the text: reading and writing give it again, and another text has the same form just
where the reader finds the same query, view, tags and limit in it.** -/
theorem canonical_form (queryString : String) (default : UInt32) :
    let read := decode queryString
    let form := read.encodeWith default
    ((∀ t ∈ read.tags, t ≠ "" ∧ ',' ∉ t.toList) ∧ read.limit ≠ some 0) ∧
    decode form =
      { read with limit := if read.limit = some default then none else read.limit } ∧
    (decode form).encodeWith default = form ∧
    (∀ other, (decode other).encodeWith default = form ↔
      (decode other).query = read.query ∧ (decode other).view = read.view ∧
      (decode other).tags = read.tags ∧
      (decode other).limit.getD default = read.limit.getD default) := by
  intro read form
  have hread : read.Writable default := writable_decode queryString default
  have hform : decode form = read.brief default := decode_encodeWith_of_writable hread
  refine ⟨⟨hread.tags, decode_limit_ne_zero queryString⟩, ?comesBack, ?again, fun other => ?alike⟩
  case comesBack =>
    have hlimit : read.limit.filter (· ≠ default) =
        if read.limit = some default then none else read.limit := by
      cases read.limit with
      | none => rfl
      | some n => by_cases hn : n = default <;> simp [hn]
    rw [hform, brief, hlimit]
  case again =>
    -- the limit that is gone would not have been written
    rw [hform, encodeWith_brief]
  case alike =>
    -- both filters were read, so both can be written
    rw [encodeWith_eq_iff (writable_decode other default) hread, brief_eq_iff]

end IdeaBoard.Filter
