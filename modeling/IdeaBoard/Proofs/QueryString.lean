import IdeaBoard.Filter.QueryString
import IdeaBoard.Proofs.Form

/-!
# IdeaBoard — reading back the query string of a filter

The query string of a filter is read back as the filter, but for what the format cannot say: an empty
tag, a comma inside a tag, the limit 0, and the limit that the reader assumes anyway.

* **`meant?`** — the text that a field is written for, where it is written at all: the field's value in
  the query string is read back as it (`map_decode_written?`).
* **`pairs_encodeWith`** — so the pairs that are read are the fields that were written, each with its
  text.
* **`ofPairs_eq`** — a filter is read pair by pair, and the first pair of each name decides: what one pair
  keeps is `Reading.HasRead.take`.
* **`first?_filterMap`** — a field is found in them exactly where it was written.
* **`decode_encodeWith`** — the filter that comes back, as a whole (`kept`).
* **`not_mem_encodeWith`** — a query string has no `?`, so a mark in front of one is told apart.
* **`encodeWith_eq_empty_iff`** — it is empty just where there is nothing to say.
-/

namespace IdeaBoard.Filter

open IdeaBoard.Text IdeaBoard.Form

/-! ## Field names -/

/-- Fields are told apart by their names. -/
theorem Field.key_injective {a b : Field} (h : a.key = b.key) : a = b := by
  cases a <;> cases b <;> first | rfl | exact absurd h (by decide)

theorem Field.ofKey?_key (field : Field) : Field.ofKey? field.key = some field := by
  cases field <;> decide

theorem Field.ofKey?_eq_some_iff {name : List Char} {field : Field} :
    Field.ofKey? name = some field ↔ field.key = name := by
  constructor
  · intro h
    simpa using List.find?_some h
  · rintro rfl
    exact field.ofKey?_key

theorem Field.ofKey?_eq_none_iff {name : List Char} :
    Field.ofKey? name = none ↔ ∀ field : Field, field.key ≠ name := by
  constructor
  · rintro h field rfl
    rw [field.ofKey?_key] at h
    exact absurd h (by simp)
  · intro h
    cases hfield : Field.ofKey? name with
    | none => rfl
    | some field => exact absurd (Field.ofKey?_eq_some_iff.mp hfield) (h field)

theorem Field.isComponentChar_key (field : Field) :
    ∀ c ∈ field.key, isComponentChar c = true ∧ c ≠ '%' ∧ c ≠ '+' := by
  have hall : field.key.all
      (fun c => decide (isComponentChar c = true ∧ c ≠ '%' ∧ c ≠ '+')) = true := by
    cases field <;> decide
  intro c hc
  exact of_decide_eq_true (List.all_eq_true.mp hall c hc)

theorem isComponentChar_ascii {c : Char} (h : isComponentChar c = true) : c.toNat < 0x80 := by
  simp only [isComponentChar, Bool.or_eq_true, Bool.and_eq_true, decide_eq_true_eq] at h
  rcases h with (⟨hascii, _⟩ | rfl) | rfl
  · exact hascii
  · decide
  · decide

/-- The names are written as they are: nothing in them is escaped. -/
theorem Field.decode_key (field : Field) : Form.decode field.key = field.key := by
  refine (spells_chars fun c hc => ?_).decode_eq
  obtain ⟨hchar, hpercent, hplus⟩ := field.isComponentChar_key c hc
  exact ⟨isComponentChar_ascii hchar, hpercent, hplus⟩

theorem Field.not_mem_key {c : Char} (h : isComponentChar c = false) (field : Field) :
    c ∉ field.key := by
  intro hc
  rw [(field.isComponentChar_key c hc).1] at h
  exact absurd h (by decide)

/-! ## Values -/

def tagText (tags : TagSet) : List Char := join [','] (tags.toList.map String.toList)

/-- The text that each field is written for, where it is written at all. -/
def meant? (f : Filter) (default : UInt32) : Field → Option (List Char)
  | .tags => if f.tags.isEmpty then none else some (tagText f.tags)
  | .query => if f.query.isEmpty then none else some f.query.toList
  | .view => if f.view.isEmpty then none else some f.view.toList
  | .limit => (f.limit.filter (· ≠ default)).map fun n => (numeral n.toNat).toList

theorem isComponentChar_of_isDigit {c : Char} (h : c.isDigit = true) :
    isComponentChar c = true ∧ c ≠ '%' ∧ c ≠ '+' := by
  obtain ⟨hlo, hhi⟩ := toNat_of_isDigit h
  have hplain : isPlain (.ofNat c.toNat) = true := by
    simp only [isPlain, Utf8.toNat_octet (show c.toNat < 256 by omega)]
    simp [hlo, hhi]
  refine ⟨by simp [isComponentChar, hplain, show c.toNat < 0x80 by omega], ?_, ?_⟩
  · rintro rfl
    exact absurd hlo (by decide)
  · rintro rfl
    exact absurd hlo (by decide)

theorem spells_numeral (n : Nat) : Spells (numeral n).toList (numeral n).toList := by
  refine spells_chars fun c hc => ?_
  obtain ⟨hchar, hpercent, hplus⟩ := isComponentChar_of_isDigit (isDigit_of_mem_numeral hc)
  exact ⟨isComponentChar_ascii hchar, hpercent, hplus⟩

/-- The tags are escaped one by one, the commas between them not at all. -/
theorem spells_joinedTags (tags : TagSet) : Spells (joinedTags tags) (tagText tags) := by
  have hcomma : Spells [','] [','] := spells_char (by decide) (by decide) (by decide)
  have hjoin := spells_join hcomma (tags.toList.map String.toList)
  rw [List.map_map] at hjoin
  exact hjoin

/-- A text of its own that is left out where it is empty: so it is for the query and the view. -/
theorem map_decode_component (s : String) :
    (if s.isEmpty then none else some (component s)).map Form.decode =
      if s.isEmpty then none else some s.toList := by
  split
  · rfl
  · rw [Option.map_some, component, decode_encode]

/-- **The value that a field is written with spells the text it is written for.** -/
theorem map_decode_written? (f : Filter) (default : UInt32) (field : Field) :
    (f.written? default field).map Form.decode = f.meant? default field := by
  -- only the tags are not one text: they are joined by commas
  cases field with
  | tags =>
    simp only [written?, meant?]
    split
    · rfl
    · rw [Option.map_some, (spells_joinedTags f.tags).decode_eq]
  | query => exact map_decode_component f.query
  | view => exact map_decode_component f.view
  | limit =>
    simp only [written?, meant?, Option.map_map]
    cases f.limit.filter (· ≠ default) with
    | none => rfl
    | some n => rw [Option.map_some, Option.map_some, Function.comp, (spells_numeral _).decode_eq]

theorem mem_joinedTags {tags : TagSet} {c : Char} (h : c ∈ joinedTags tags) :
    isComponentChar c = true ∨ c = ',' := by
  rcases mem_join h with hsep | ⟨p, hp, hc⟩
  · exact .inr (List.mem_singleton.mp hsep)
  · obtain ⟨t, _, rfl⟩ := List.mem_map.mp hp
    exact .inl (isComponentChar_of_mem_encode hc)

theorem isComponentChar_of_component {s : String} {value : List Char} {c : Char}
    (h : (if s.isEmpty then none else some (component s)) = some value) (hc : c ∈ value) :
    isComponentChar c = true := by
  obtain ⟨_, hsome⟩ := Option.ite_none_left_eq_some.mp h
  obtain rfl := Option.some.inj hsome
  exact isComponentChar_of_mem_encode hc

/-- Values are made of components, digits and commas. -/
theorem mem_written? {f : Filter} {default : UInt32} {field : Field} {value : List Char} {c : Char}
    (h : f.written? default field = some value) (hc : c ∈ value) :
    isComponentChar c = true ∨ c = ',' := by
  cases field with
  | tags =>
    obtain ⟨_, hsome⟩ := Option.ite_none_left_eq_some.mp h
    obtain rfl := Option.some.inj hsome
    exact mem_joinedTags hc
  | query => exact .inl (isComponentChar_of_component h hc)
  | view => exact .inl (isComponentChar_of_component h hc)
  | limit =>
    obtain ⟨n, _, rfl⟩ := Option.map_eq_some_iff.mp h
    exact .inl (isComponentChar_of_isDigit (isDigit_of_mem_numeral hc)).1

/-! ## The query string as a whole -/

def isQueryChar (c : Char) : Bool := isComponentChar c || c = ',' || c = '=' || c = '&'

/-- A character that occurs in no component, and is neither `,` nor `=`, occurs in no pair. -/
theorem not_mem_pairText {f : Filter} {default : UInt32} {field : Field} {value : List Char}
    {c : Char} (hvalue : f.written? default field = some value) (h : isComponentChar c = false)
    (hcomma : c ≠ ',') (heq : c ≠ '=') : c ∉ pairText field value := by
  intro hc
  rcases List.mem_append.mp hc with hkey | hrest
  · exact Field.not_mem_key h field hkey
  · rcases List.mem_cons.mp hrest with rfl | hin
    · exact heq rfl
    · rcases mem_written? hvalue hin with hchar | rfl
      · rw [h] at hchar
        exact absurd hchar (by decide)
      · exact hcomma rfl

/-- Every pair that is written is a field with its value. -/
theorem exists_of_mem_writtenPairs {f : Filter} {default : UInt32} {pair : List Char}
    (h : pair ∈ f.writtenPairs default) :
    ∃ field value, f.written? default field = some value ∧ pair = pairText field value := by
  obtain ⟨field, _, hfield⟩ := List.mem_filterMap.mp h
  obtain ⟨value, hvalue, rfl⟩ := Option.map_eq_some_iff.mp hfield
  exact ⟨field, value, hvalue, rfl⟩

/-- A character outside the alphabet occurs in no query string. -/
theorem not_mem_encodeWith {c : Char} (h : isQueryChar c = false) (f : Filter) (default : UInt32) :
    c ∉ (f.encodeWith default).toList := by
  simp only [isQueryChar, Bool.or_eq_false_iff, decide_eq_false_iff_not] at h
  obtain ⟨⟨⟨hchar, hcomma⟩, heq⟩, hamp⟩ := h
  rw [encodeWith, String.toList_ofList]
  intro hc
  -- an ampersand between pairs, or a character of one of them
  rcases mem_join hc with hsep | ⟨pair, hpair, hin⟩
  · exact hamp (List.mem_singleton.mp hsep)
  · obtain ⟨field, value, hvalue, rfl⟩ := exists_of_mem_writtenPairs hpair
    exact not_mem_pairText hvalue hchar hcomma heq hin

/-- **A query string is empty just where each field of the filter holds its default.** -/
theorem encodeWith_eq_empty_iff (f : Filter) (default : UInt32) :
    f.encodeWith default = "" ↔
      f.tags = ∅ ∧ f.query = "" ∧ f.view = "" ∧ (f.limit = none ∨ f.limit = some default) := by
  have hpairs : ∀ pair ∈ f.writtenPairs default, pair ≠ [] := by
    intro pair hpair
    obtain ⟨field, value, _, rfl⟩ := exists_of_mem_writtenPairs hpair
    simp [pairText]
  have htags : f.tags.isEmpty ↔ f.tags = ∅ := by
    rw [TagSet.isEmpty, List.isEmpty_iff]
    constructor
    · intro hnil
      exact TagSet.ext fun t => by rw [← TagSet.mem_toList, hnil]; simp
    · intro hempty
      rw [hempty]
      rfl
  have hlimit : f.limit.filter (· ≠ default) = none ↔ f.limit = none ∨ f.limit = some default := by
    cases f.limit with
    | none => simp
    | some n => simp
  -- no pair is empty, so the whole is empty where no field is written
  rw [encodeWith, ← String.toList_inj, String.toList_ofList, show "".toList = [] from rfl,
    join_eq_nil_iff hpairs, writtenPairs, List.filterMap_eq_nil_iff]
  simp only [List.forall_mem_cons, Option.map_eq_none_iff, written?, ite_eq_left_iff,
    reduceCtorEq, imp_false, Classical.not_not, hlimit, htags, String.isEmpty_iff]
  simp

/-- **The pairs that are read are the fields that were written, each with its text.** -/
theorem pairs_encodeWith (f : Filter) (default : UInt32) :
    Form.pairs (f.encodeWith default).toList =
      [Field.tags, .query, .view, .limit].filterMap fun field =>
        (f.meant? default field).map fun text => (field.key, text) := by
  have hne : ∀ pair ∈ f.writtenPairs default, pair ≠ [] := by
    intro pair hpair
    obtain ⟨field, value, _, rfl⟩ := exists_of_mem_writtenPairs hpair
    simp [pairText]
  have hamp : ∀ pair ∈ f.writtenPairs default, '&' ∉ pair := by
    intro pair hpair
    obtain ⟨field, value, hvalue, rfl⟩ := exists_of_mem_writtenPairs hpair
    exact not_mem_pairText hvalue (by decide) (by decide) (by decide)
  have hpair : ∀ (field : Field) (value : List Char),
      pairOf (pairText field value) = (field.key, Form.decode value) := by
    intro field value
    rw [pairText, pairOf_append (Field.not_mem_key (by decide) field), Field.decode_key]
  -- so the ampersands are where they were put, and no pair is passed over
  rw [encodeWith, String.toList_ofList, pairs_join hamp, pairsOf_of_ne_nil hne, writtenPairs,
    List.map_filterMap]
  congr 1
  funext field
  rw [← map_decode_written? f default field, Option.map_map, Option.map_map]
  congr 1
  funext value
  exact hpair field value

/-! ## Reading pair by pair -/

/-- The filter that texts for its fields stand for; a field without a text holds its default. -/
def ofTexts (texts : Field → Option (List Char)) : Filter where
  tags := ((texts .tags).map readTags).getD ∅
  query := ((texts .query).map String.ofList).getD ""
  view := ((texts .view).map String.ofList).getD ""
  limit := (texts .limit).bind readLimit?

/-- The pairs `ps` have been read: the first of each name has been taken up, and its field is closed. -/
structure Reading.HasRead (ps : List (List Char × List Char)) (r : Reading) : Prop where
  filter_eq : r.filter = ofTexts fun field => first? field.key ps
  named_iff : ∀ field, field ∈ r.named ↔ (first? field.key ps).isSome

/-- A value that is taken up is the text of its field, and of no other. -/
theorem withValue_ofTexts (texts : Field → Option (List Char)) (value : List Char) (field : Field) :
    (ofTexts texts).withValue value field =
      ofTexts fun g => if g = field then some value else texts g := by
  cases field <;> simp [withValue, ofTexts]

/-- **One more pair: it counts where it names a field for the first time.** -/
theorem Reading.HasRead.take {ps : List (List Char × List Char)} {r : Reading}
    (h : HasRead ps r) (p : List Char × List Char) : HasRead (ps ++ [p]) (r.take p) := by
  have hafter : ∀ field : Field, first? field.key (ps ++ [p]) =
      (first? field.key ps).or (if p.1 = field.key then some p.2 else none) := by
    intro field
    rw [first?_append, first?_cons]
    rfl
  unfold Reading.take
  split
  · -- no field has the name
    next hnone =>
    have hsame : ∀ field : Field, first? field.key (ps ++ [p]) = first? field.key ps := by
      intro field
      rw [hafter, if_neg fun hname => Field.ofKey?_eq_none_iff.mp hnone field hname.symm, Option.or_none]
    exact ⟨by simp only [hsame, h.filter_eq], fun field => by rw [hsame, h.named_iff]⟩
  · next field hfield =>
    have hname : field.key = p.1 := Field.ofKey?_eq_some_iff.mp hfield
    split
    · -- the field is closed: what was found first stays
      next hnamed =>
      obtain ⟨value, hvalue⟩ := Option.isSome_iff_exists.mp ((h.named_iff field).mp hnamed)
      have hsame : ∀ g : Field, first? g.key (ps ++ [p]) = first? g.key ps := by
        intro g
        rw [hafter]
        by_cases hg : p.1 = g.key
        · rw [← Field.key_injective (hname.trans hg), hvalue]
          rfl
        · rw [if_neg hg, Option.or_none]
      exact ⟨by simp only [hsame, h.filter_eq], fun g => by rw [hsame, h.named_iff]⟩
    · next hnamed =>
      -- the field is open: this is the first pair with its name
      have hunseen : first? field.key ps = none := by
        rw [← Option.not_isSome_iff_eq_none, ← h.named_iff]
        exact hnamed
      have hfound : ∀ g : Field, first? g.key (ps ++ [p]) =
          if g = field then some p.2 else first? g.key ps := by
        intro g
        rw [hafter]
        by_cases hg : g = field
        · subst hg
          rw [hunseen, if_pos hname.symm, if_pos rfl]
          rfl
        · have hother : p.1 ≠ g.key := fun e => hg (Field.key_injective (hname.trans e)).symm
          rw [if_neg hother, if_neg hg, Option.or_none]
      refine ⟨?_, fun g => ?_⟩
      · simp only [hfound, h.filter_eq, withValue_ofTexts]
      · rw [List.mem_cons, h.named_iff, hfound]
        by_cases hg : g = field <;> simp [hg]

theorem Reading.HasRead.foldl {ps : List (List Char × List Char)} {r : Reading} (h : HasRead ps r)
    (qs : List (List Char × List Char)) : HasRead (ps ++ qs) (qs.foldl Reading.take r) := by
  -- on the pairs still to come
  induction qs generalizing ps r with
  | nil => rwa [List.append_nil]
  | cons q qs ih =>
    have hrest := ih (h.take q)
    rwa [List.append_assoc, List.singleton_append] at hrest

theorem Reading.hasRead_nil : HasRead [] {} := ⟨rfl, fun _ => by simp [first?]⟩

/-- **The first pair of each name decides**, whatever the others say and whatever its value is worth. -/
theorem ofPairs_eq (ps : List (List Char × List Char)) :
    ofPairs ps = ofTexts fun field => first? field.key ps := by
  rw [ofPairs]
  exact (Reading.hasRead_nil.foldl ps).filter_eq

/-! ## Finding a field -/

/-- Among fields with their texts, each is found with its own text, or not at all. -/
theorem first?_filterMap (texts : Field → Option (List Char)) {field : Field}
    {fields : List Field} (h : field ∈ fields) :
    first? field.key (fields.filterMap fun g => (texts g).map fun text => (g.key, text)) =
      texts field := by
  -- a field that is not written is found nowhere, so the first occurrence decides
  have hnone : texts field = none → ∀ gs : List Field,
      first? field.key (gs.filterMap fun g => (texts g).map fun text => (g.key, text)) = none := by
    intro hfield gs
    induction gs with
    | nil => rfl
    | cons g gs ih =>
      cases hg : texts g with
      | none => simpa [hg] using ih
      | some text =>
        have hne : g.key ≠ field.key := by
          intro heq
          rw [Field.key_injective heq, hfield] at hg
          exact absurd hg (by simp)
        simp only [List.filterMap_cons, hg, Option.map_some]
        rw [first?_cons, if_neg hne, ih]
  induction fields with
  | nil => exact absurd h List.not_mem_nil
  | cons g gs ih =>
    by_cases hg : g = field
    · subst hg
      cases htext : texts g with
      | none => exact hnone htext _
      | some text =>
        simp only [List.filterMap_cons, htext, Option.map_some]
        rw [first?_cons, if_pos rfl]
    · have hmem : field ∈ gs := by
        rcases List.mem_cons.mp h with rfl | hin
        · exact absurd rfl hg
        · exact hin
      cases htext : texts g with
      | none => simpa [htext] using ih hmem
      | some text =>
        simp only [List.filterMap_cons, htext, Option.map_some]
        rw [first?_cons, if_neg fun heq => hg (Field.key_injective heq), ih hmem]

/-- In the query string of a filter each field has the text it was written for. -/
theorem first?_encodeWith (f : Filter) (default : UInt32) (field : Field) :
    first? field.key (Form.pairs (f.encodeWith default).toList) = f.meant? default field := by
  rw [pairs_encodeWith]
  exact first?_filterMap (f.meant? default) (by cases field <;> decide)

/-! ## Tags and limits read back -/

/-- Every tag can be told from the text of the selection: none is empty or holds a comma. -/
def PlainTags (tags : TagSet) : Prop := ∀ t ∈ tags, t ≠ "" ∧ ',' ∉ t.toList

/-- The tags are the non-empty pieces between commas. -/
theorem mem_readTags {cs : List Char} {t : String} :
    t ∈ readTags cs ↔ t ≠ "" ∧ t.toList ∈ pieces ',' cs := by
  have hempty : t.toList ≠ [] ↔ t ≠ "" := not_congr String.toList_eq_nil_iff
  rw [readTags, TagSet.mem_ofList, List.mem_map]
  constructor
  · rintro ⟨p, hp, rfl⟩
    rw [List.mem_filter] at hp
    rw [← hempty, String.toList_ofList]
    exact ⟨by simpa using hp.2, hp.1⟩
  · rintro ⟨hne, hmem⟩
    refine ⟨t.toList, List.mem_filter.mpr ⟨hmem, ?_⟩, String.ofList_toList⟩
    simpa using hne

theorem plainTags_readTags (cs : List Char) : PlainTags (readTags cs) := by
  intro t ht
  obtain ⟨hne, hmem⟩ := mem_readTags.mp ht
  exact ⟨hne, not_mem_of_mem_pieces hmem⟩

theorem pieces_tagText {tags : TagSet} (h : tags.toList ≠ []) :
    pieces ',' (tagText tags) = tags.toList.flatMap fun u => pieces ',' u.toList := by
  rw [tagText, pieces_join ',' (by simpa using h), List.flatMap_map]

/-- What the text of a selection is read back as: the non-empty pieces of its tags. -/
theorem mem_readTags_tagText {tags : TagSet} {t : String} :
    t ∈ readTags (tagText tags) ↔ t ≠ "" ∧ ∃ u ∈ tags, IsPiece ',' u.toList t.toList := by
  rw [mem_readTags]
  refine and_congr_right fun hne => ?_
  by_cases hnil : tags.toList = []
  · -- no tag at all: the empty text has one piece, which is no tag
    have htext : tagText tags = [] := by rw [tagText, hnil]; rfl
    rw [htext]
    constructor
    · intro hmem
      exact absurd (String.toList_eq_nil_iff.mp (List.mem_singleton.mp hmem)) hne
    · rintro ⟨u, hu, _⟩
      rw [← TagSet.mem_toList, hnil] at hu
      exact absurd hu List.not_mem_nil
  · rw [pieces_tagText hnil, List.mem_flatMap]
    exact exists_congr fun u => and_congr_right fun _ => mem_pieces_iff

/-- Tags that can be told from the text come back from it. -/
theorem readTags_tagText {tags : TagSet} (h : PlainTags tags) : readTags (tagText tags) = tags := by
  refine TagSet.ext fun t => ?_
  rw [mem_readTags_tagText]
  constructor
  · -- a plain tag is its only piece
    rintro ⟨_, u, hu, hpiece⟩
    have hmem := mem_pieces_iff.mpr hpiece
    rw [pieces_of_not_mem (h u hu).2, List.mem_singleton] at hmem
    rwa [String.toList_inj.mp hmem]
  · intro ht
    refine ⟨(h t ht).1, t, ht, mem_pieces_iff.mp ?_⟩
    rw [pieces_of_not_mem (h t ht).2]
    exact List.mem_singleton_self _

theorem readLimit?_numeral (n : UInt32) :
    readLimit? (numeral n.toNat).toList = if n = 0 then none else some n := by
  have hbound : n.toNat < UInt32.size := n.toNat_lt
  rw [readLimit?, trim_of_trimmed (trimmed_numeral _), readBelow?_numeral, if_pos hbound]
  by_cases h : n = 0
  · subst h
    rfl
  · have hpos : 0 < n.toNat := Nat.pos_of_ne_zero fun h0 => h (UInt32.toNat_inj.mp h0)
    rw [if_neg h, Option.filter_some, if_pos (by simpa using hpos), Option.map_some,
      UInt32.ofNat_toNat]

/-! ## The filter read back -/

/-- What comes back of a filter. -/
def kept (f : Filter) (default : UInt32) : Filter :=
  { f with
    tags := readTags (tagText f.tags)
    limit := if f.limit = some default ∨ f.limit = some 0 then none else f.limit }

/-- A text as it is read where an empty one is left out and stands for itself. -/
theorem getD_map_ofList (s : String) :
    ((if s.isEmpty then none else some s.toList).map String.ofList).getD "" = s := by
  by_cases h : s.isEmpty = true
  · rw [if_pos h]
    exact (String.isEmpty_iff.mp h).symm
  · rw [if_neg h, Option.map_some, String.ofList_toList, Option.getD_some]

theorem bind_readLimit? (f : Filter) (default : UInt32) :
    (f.meant? default .limit).bind readLimit? = (f.kept default).limit := by
  simp only [meant?, kept]
  cases f.limit with
  | none => rfl
  | some n =>
    -- the default is not written; any other limit is, and zero is refused when it is read
    by_cases hd : n = default
    · subst hd
      simp
    · rw [Option.filter_some, if_pos (by simpa using hd), Option.map_some, Option.bind_some,
        readLimit?_numeral]
      simp [hd]

theorem withoutMark_of_head {cs : List Char} (h : cs.head? ≠ some '?') : withoutMark cs = cs := by
  unfold withoutMark
  split
  · exact absurd rfl h
  · rfl

theorem withoutMark_encodeWith (f : Filter) (default : UInt32) :
    withoutMark (f.encodeWith default).toList = (f.encodeWith default).toList := by
  have hno : '?' ∉ (f.encodeWith default).toList := not_mem_encodeWith (by decide) f default
  exact withoutMark_of_head fun h => hno (List.mem_of_mem_head? h)

/-- The query string of a filter is read as what is kept of it. -/
theorem decode_encodeWith (f : Filter) (default : UInt32) :
    decode (f.encodeWith default) = f.kept default := by
  have htags : ((f.meant? default .tags).map readTags).getD ∅ = readTags (tagText f.tags) := by
    simp only [meant?]
    split
    · next hempty =>
      have hnil : f.tags.toList = [] := List.isEmpty_iff.mp hempty
      rw [tagText, hnil]
      rfl
    · rfl
  have htexts : (fun field => first? field.key (Form.pairs (f.encodeWith default).toList)) =
      f.meant? default := funext fun field => first?_encodeWith f default field
  rw [decode, withoutMark_encodeWith, ofPairs_eq, htexts, ofTexts, htags, bind_readLimit?]
  simp only [meant?, getD_map_ofList]
  rfl

/-- A mark in front of a query string makes no difference. -/
theorem decode_mark (f : Filter) (default : UInt32) :
    decode ("?" ++ f.encodeWith default) = decode (f.encodeWith default) := by
  have hlist : ("?" ++ f.encodeWith default).toList = '?' :: (f.encodeWith default).toList := by
    rw [String.toList_append]
    rfl
  rw [decode, decode, withoutMark_encodeWith, hlist]
  rfl

/-- All of a filter is kept just where its tags are plain and its limit is neither zero nor the
default. -/
theorem kept_eq_self_iff (f : Filter) (default : UInt32) :
    f.kept default = f ↔ PlainTags f.tags ∧ f.limit ≠ some default ∧ f.limit ≠ some 0 := by
  constructor
  · intro h
    have htags : readTags (tagText f.tags) = f.tags := congrArg Filter.tags h
    have hlimit : (if f.limit = some default ∨ f.limit = some 0 then none else f.limit) = f.limit :=
      congrArg Filter.limit h
    -- tags that come back are what was read, and that is always plain
    refine ⟨htags ▸ plainTags_readTags _, ?_, ?_⟩
    · intro heq
      rw [if_pos (.inl heq), heq] at hlimit
      exact absurd hlimit (by simp)
    · intro heq
      rw [if_pos (.inr heq), heq] at hlimit
      exact absurd hlimit (by simp)
  · rintro ⟨hplain, hdefault, hzero⟩
    rw [kept, readTags_tagText hplain, if_neg (not_or.mpr ⟨hdefault, hzero⟩)]

/-- **What the query string of a filter is read back as**, with or without a mark in front. The filter
itself comes back exactly where the format can say it. -/
theorem decode_encodeWith_fields (f : Filter) (default : UInt32) :
    decode ("?" ++ f.encodeWith default) = decode (f.encodeWith default) ∧
    (decode (f.encodeWith default)).query = f.query ∧
    (decode (f.encodeWith default)).view = f.view ∧
    (∀ t, t ∈ (decode (f.encodeWith default)).tags ↔
      t ≠ "" ∧ ∃ u ∈ f.tags, IsPiece ',' u.toList t.toList) ∧
    (decode (f.encodeWith default)).limit =
      (if f.limit = some default ∨ f.limit = some 0 then none else f.limit) ∧
    (decode (f.encodeWith default) = f ↔
      (∀ t ∈ f.tags, t ≠ "" ∧ ',' ∉ t.toList) ∧ f.limit ≠ some default ∧ f.limit ≠ some 0) := by
  refine ⟨decode_mark f default, ?_⟩
  rw [decode_encodeWith]
  exact ⟨rfl, rfl, fun _ => mem_readTags_tagText, rfl, kept_eq_self_iff f default⟩

end IdeaBoard.Filter
