import IdeaBoard.Proofs.Blank
import IdeaBoard.Proofs.Split
import IdeaBoard.Proofs.Utf8
import IdeaBoard.Url.Join

/-!
# IdeaBoard — paths that have been read

The segments of a path that has been read are what they are: nothing is left in them to encode, to cut or
to follow. So the text of such a path is read as the same path. All of it is about the schemes with the
common form, files apart.

* **`percentEncode_of_unset`** — a text is left alone that has no octet of the set that is encoded.
* **`Settled`** — a segment as it stands in a path that has been read. `settled_percentEncode` is the way
  in: encoding makes no dot, so a segment that was no dot segment does not become one.
* **`followAll_of_settled`** — settled segments are followed as they are.
* **`settled_segmentsAfterHost`** — what has been read is settled.
* **`segmentsAfterHost_text`** — so reading the text of a path that was read gives the path.
-/

namespace IdeaBoard.Url

open IdeaBoard.Text

/-! ## Encoding -/

/-- A text without octets of the set is its own encoding. -/
theorem percentEncode_of_unset {set : UInt8 → Bool} {cs : List Char}
    (h : ∀ c ∈ cs, c.toNat < 0x80 ∧ set (.ofNat c.toNat) = false) : percentEncode set cs = cs := by
  rw [percentEncode, Utf8.encode_ascii fun c hc => (h c hc).1, List.flatMap_map]
  induction cs with
  | nil => rfl
  | cons c cs ih =>
    obtain ⟨hascii, hunset⟩ := h c List.mem_cons_self
    have hoctet : (UInt8.ofNat c.toNat).toNat = c.toNat := Utf8.toNat_octet (by omega)
    rw [List.flatMap_cons, ih fun d hd => h d (List.mem_cons_of_mem c hd), hunset, hoctet,
      Char.ofNat_toNat]
    rfl

/-- An encoded text is made of octets that stand for themselves and of encoded ones. -/
theorem mem_percentEncode {set : UInt8 → Bool} {cs : List Char} {c : Char}
    (h : c ∈ percentEncode set cs) :
    ∃ b ∈ Utf8.encode cs,
      (set b = false ∧ c = Char.ofNat b.toNat) ∨ (set b = true ∧ c ∈ Form.percent b) := by
  obtain ⟨b, hb, hc⟩ := List.mem_flatMap.mp h
  refine ⟨b, hb, ?_⟩
  cases hset : set b with
  | true =>
    rw [hset] at hc
    exact .inr ⟨rfl, hc⟩
  | false =>
    rw [hset] at hc
    exact .inl ⟨rfl, List.mem_singleton.mp hc⟩

theorem ascii_of_unset {b : UInt8} (h : inPathSet b = false) : b.toNat < 0x80 := by
  simp only [inPathSet, inFragmentSet, isControl, Bool.or_eq_false_iff, decide_eq_false_iff_not] at h
  omega

/-! ## Settled segments -/

/-- The characters of a segment: no octet to encode, and neither of the slashes. -/
def isSegmentChar (c : Char) : Bool :=
  decide (c.toNat < 0x80) && !inPathSet (.ofNat c.toNat) && c ≠ '/' && c ≠ '\\'

theorem isSegmentChar_iff {c : Char} :
    isSegmentChar c = true ↔
      (c.toNat < 0x80 ∧ inPathSet (.ofNat c.toNat) = false) ∧ c ≠ '/' ∧ c ≠ '\\' := by
  simp [isSegmentChar, and_assoc]

theorem isSegmentChar_hexChar : ∀ n < 16, isSegmentChar (Form.hexChar n) = true := by decide

theorem isSegmentChar_percent {b : UInt8} {c : Char} (h : c ∈ Form.percent b) :
    isSegmentChar c = true := by
  have hb : b.toNat < 256 := b.toNat_lt
  simp only [Form.percent, List.mem_cons, List.not_mem_nil, or_false] at h
  rcases h with rfl | rfl | rfl
  · decide
  · exact isSegmentChar_hexChar _ (by omega)
  · exact isSegmentChar_hexChar _ (by omega)

/-- A segment as it stands in a path that has been read. -/
structure Settled (s : List Char) : Prop where
  chars : ∀ c ∈ s, isSegmentChar c = true
  single : isSingleDot s = false
  double : isDoubleDot s = false

theorem settled_nil : Settled [] := ⟨fun _ hc => absurd hc List.not_mem_nil, rfl, rfl⟩

theorem Settled.slash {s : List Char} (h : Settled s) : '/' ∉ s := fun hc =>
  (isSegmentChar_iff.mp (h.chars _ hc)).2.1 rfl

theorem Settled.backslash {s : List Char} (h : Settled s) : '\\' ∉ s := fun hc =>
  (isSegmentChar_iff.mp (h.chars _ hc)).2.2 rfl

theorem Settled.percentEncode_eq {s : List Char} (h : Settled s) : percentEncode inPathSet s = s :=
  percentEncode_of_unset fun c hc => (isSegmentChar_iff.mp (h.chars c hc)).1

/-! ## Encoding makes no dot -/

/-- The texts of the segments that are followed, in lower case. -/
def dotTexts : List (List Char) :=
  [".".toList, "%2e".toList, "..".toList, ".%2e".toList, "%2e.".toList, "%2e%2e".toList]

/-- Every dot segment is one of six texts, but for its case. -/
theorem mem_dotTexts {s : List Char} (h : isSingleDot s = true ∨ isDoubleDot s = true) :
    s.map Char.toLower ∈ dotTexts := by
  simp only [isSingleDot, isDoubleDot, decide_eq_true_eq] at h
  simp only [dotTexts, List.mem_cons, List.not_mem_nil, or_false] at h ⊢
  rcases h with (h | h) | (h | h | h | h) <;> simp [h]

/-- No octet that is encoded in a path is written with the digits of a dot. -/
theorem percent_not_part_dotTexts : ∀ n < 256, inPathSet (.ofNat n) = true →
    ∀ d ∈ dotTexts, ¬(Form.percent (.ofNat n)).map Char.toLower <:+: d := by decide +kernel

/-- What is a dot segment when it has been encoded was written so. -/
theorem percentEncode_of_dots {s : List Char}
    (h : isSingleDot (percentEncode inPathSet s) = true ∨
      isDoubleDot (percentEncode inPathSet s) = true) : percentEncode inPathSet s = s := by
  have hunset : ∀ b ∈ Utf8.encode s, inPathSet b = false := by
    intro b hb
    cases hset : inPathSet b with
    | false => rfl
    | true =>
      -- its hexadecimal digits would be part of the dots
      have hpart : Form.percent b <:+: percentEncode inPathSet s := by
        obtain ⟨before, after, heq⟩ := List.append_of_mem hb
        let write (b : UInt8) := if inPathSet b then Form.percent b else [Char.ofNat b.toNat]
        refine ⟨before.flatMap write, after.flatMap write, ?_⟩
        rw [percentEncode, heq, List.flatMap_append, List.flatMap_cons, hset, List.append_assoc]
        rfl
      have hnone := percent_not_part_dotTexts b.toNat b.toNat_lt
      rw [UInt8.ofNat_toNat] at hnone
      exact absurd (hpart.map Char.toLower) (hnone hset _ (mem_dotTexts h))
  have hascii : ∀ c ∈ s, c.toNat < 0x80 :=
    Utf8.ascii_of_encode fun b hb => ascii_of_unset (hunset b hb)
  refine percentEncode_of_unset fun c hc => ⟨hascii c hc, hunset _ ?_⟩
  rw [Utf8.encode_ascii hascii]
  exact List.mem_map_of_mem hc

/-- **Encoding settles a segment** that holds no slash and is not to be followed. -/
theorem settled_percentEncode {s : List Char} (slash : '/' ∉ s) (backslash : '\\' ∉ s)
    (single : isSingleDot s = false) (double : isDoubleDot s = false) :
    Settled (percentEncode inPathSet s) where
  chars := by
    intro c hc
    obtain ⟨b, hb, ⟨hunset, rfl⟩ | ⟨_, hhex⟩⟩ := mem_percentEncode hc
    · -- an octet that stands for itself is a character of `s`, and so no slash
      have hascii := ascii_of_unset hunset
      have hmem : Char.ofNat b.toNat ∈ s := Utf8.mem_of_mem_encode hb hascii
      have hcode : (Char.ofNat b.toNat).toNat = b.toNat := toNat_ofNat_of_valid (.inl (by omega))
      rw [isSegmentChar_iff, hcode, UInt8.ofNat_toNat]
      refine ⟨⟨hascii, hunset⟩, ?_, ?_⟩
      · exact fun e => slash (e ▸ hmem)
      · exact fun e => backslash (e ▸ hmem)
    · exact isSegmentChar_percent hhex
  single := by
    cases h : isSingleDot (percentEncode inPathSet s) with
    | false => rfl
    | true =>
      rw [percentEncode_of_dots (.inl h), single] at h
      exact h.symm
  double := by
    cases h : isDoubleDot (percentEncode inPathSet s) with
    | false => rfl
    | true =>
      rw [percentEncode_of_dots (.inr h), double] at h
      exact h.symm

/-! ## Following -/

theorem shortened_eq (path : List (List Char)) : shortened false path = path.dropLast := by
  unfold shortened
  split <;> rfl

/-- What one more segment does: a step back, no step, or a step. -/
theorem follow_eq (last : Bool) (path : List (List Char)) (s : List Char) :
    follow false last path s =
      if isDoubleDot s then path.dropLast ++ (if last then [[]] else [])
      else if isSingleDot s then path ++ (if last then [[]] else [])
      else path ++ [percentEncode inPathSet s] := by
  simp [follow, shortened_eq]

/-- A settled segment is a step, and stays as it is. -/
theorem follow_of_settled {s : List Char} (h : Settled s) (last : Bool) (path : List (List Char)) :
    follow false last path s = path ++ [s] := by
  simp [follow_eq, h.single, h.double, h.percentEncode_eq]

/-- **Settled segments are followed as they are.** -/
theorem followAll_of_settled {ss : List (List Char)} (h : ∀ s ∈ ss, Settled s)
    (path : List (List Char)) : followAll false path ss = path ++ ss := by
  -- along the recursion: each segment goes to the end of the path so far
  induction path, ss using followAll.induct false with
  | case1 path => simp [followAll]
  | case2 path s => exact follow_of_settled (h s List.mem_cons_self) true path
  | case3 path s ss hne ih =>
    rw [followAll, ih fun t ht => h t (List.mem_cons_of_mem s ht),
      follow_of_settled (h s List.mem_cons_self)]
    · simp
    · exact hne

/-- A path as it stands in a URL: settled segments, of which there is at least one. -/
structure SettledPath (path : List (List Char)) : Prop where
  settled : ∀ s ∈ path, Settled s
  ne_nil : path ≠ []

/-- One more segment keeps a path settled, whatever it is. -/
theorem settled_follow {path : List (List Char)} (h : ∀ p ∈ path, Settled p) {s : List Char}
    (slash : '/' ∉ s) (backslash : '\\' ∉ s) (last : Bool) :
    ∀ p ∈ follow false last path s, Settled p := by
  have hended : ∀ p ∈ (if last then [[]] else [] : List (List Char)), Settled p := by
    cases last with
    | false => exact fun _ hp => absurd hp List.not_mem_nil
    | true => exact fun p hp => List.mem_singleton.mp hp ▸ settled_nil
  intro p hp
  rw [follow_eq] at hp
  split at hp
  · -- a step back
    rcases List.mem_append.mp hp with hp | hp
    · exact h p (List.dropLast_sublist path |>.subset hp)
    · exact hended p hp
  · next double =>
    split at hp
    · -- no step
      rcases List.mem_append.mp hp with hp | hp
      · exact h p hp
      · exact hended p hp
    · next single =>
      rcases List.mem_append.mp hp with hp | hp
      · exact h p hp
      · rw [List.mem_singleton.mp hp]
        exact settled_percentEncode slash backslash (by simpa using single) (by simpa using double)

/-- The last segment leaves something in the path, be it empty. -/
theorem follow_last_ne_nil (path : List (List Char)) (s : List Char) :
    follow false true path s ≠ [] := by
  rw [follow_eq, if_pos rfl]
  split
  · simp
  · split <;> simp

/-- **Following ends in a settled path**, wherever it begins. -/
theorem settledPath_followAll {path ss : List (List Char)} (h : ∀ p ∈ path, Settled p)
    (hss : ∀ s ∈ ss, '/' ∉ s ∧ '\\' ∉ s) (hne : ss ≠ []) : SettledPath (followAll false path ss) := by
  -- every segment keeps the path settled, and the last one leaves something in it
  induction path, ss using followAll.induct false with
  | case1 path => exact absurd rfl hne
  | case2 path s =>
    obtain ⟨slash, backslash⟩ := hss s List.mem_cons_self
    exact ⟨settled_follow h slash backslash true, follow_last_ne_nil path s⟩
  | case3 path s ss hmore ih =>
    obtain ⟨slash, backslash⟩ := hss s List.mem_cons_self
    rw [followAll]
    · exact ih (settled_follow h slash backslash false)
        (fun t ht => hss t (List.mem_cons_of_mem s ht)) hmore
    · exact hmore

/-! ## Reading -/

/-- Segments are cut at both slashes. -/
theorem not_mem_of_mem_segmentsOf {cs s : List Char} (h : s ∈ segmentsOf true cs) :
    '/' ∉ s ∧ '\\' ∉ s := by
  refine ⟨not_mem_of_mem_pieces h, fun hback => ?_⟩
  -- a backslash has become a slash, and nothing else becomes one
  obtain ⟨c, _, hc⟩ := List.mem_map.mp (mem_of_mem_pieces h hback)
  split at hc
  · exact absurd hc (by decide)
  · next hne => exact hne hc

/-- **What has been read is settled.** -/
theorem settled_segmentsAfterHost (cs : List Char) :
    SettledPath (segmentsAfterHost true false cs) := by
  unfold segmentsAfterHost
  split
  · exact ⟨fun s hs => List.mem_singleton.mp hs ▸ settled_nil, List.cons_ne_nil _ _⟩
  · exact settledPath_followAll (fun _ hp => absurd hp List.not_mem_nil)
      (fun _ => not_mem_of_mem_segmentsOf) (pieces_ne_nil _ _)

/-! ## The text of a path -/

theorem text_append (a b : List (List Char)) :
    (Path.segments (a ++ b)).text = (Path.segments a).text ++ (Path.segments b).text := by
  simp [Path.text]

/-- The text of a path has a slash in front of every segment. -/
theorem text_eq_join {ss : List (List Char)} (h : ss ≠ []) :
    (Path.segments ss).text = '/' :: Text.join ['/'] ss := by
  induction ss with
  | nil => exact absurd rfl h
  | cons s ss ih =>
    -- joining looks ahead whether there is another segment
    cases ss with
    | nil => simp [Path.text, Text.join]
    | cons t ts =>
      have htail : (Path.segments (t :: ts)).text = '/' :: Text.join ['/'] (t :: ts) := ih (by simp)
      have hhead : (Path.segments (s :: t :: ts)).text = ('/' :: s) ++ (Path.segments (t :: ts)).text :=
        rfl
      rw [hhead, htail]
      simp [Text.join]

/-- The text of a settled path is cut into its segments. -/
theorem segmentsOf_join {ss : List (List Char)} (h : SettledPath ss) :
    segmentsOf true (Text.join ['/'] ss) = ss := by
  have hplain : (Text.join ['/'] ss).map (fun c => if c = '\\' then '/' else c) = Text.join ['/'] ss := by
    -- there is no backslash to become a slash
    have hkept : ∀ c ∈ Text.join ['/'] ss, (if c = '\\' then '/' else c) = id c := by
      intro c hc
      refine if_neg fun hback => ?_
      rcases mem_join hc with hc | ⟨s, hs, hc⟩
      · rw [hback] at hc
        exact absurd hc (by decide)
      · exact (h.settled s hs).backslash (hback ▸ hc)
    rw [List.map_congr_left hkept, List.map_id]
  unfold segmentsOf
  rw [if_pos rfl, hplain]
  exact pieces_join_of_not_mem h.ne_nil fun s hs => (h.settled s hs).slash

/-- **The text of a path that has been read is read as the path.** -/
theorem segmentsAfterHost_text {ss : List (List Char)} (h : SettledPath ss) :
    segmentsAfterHost true false (Path.segments ss).text = ss := by
  rw [text_eq_join h.ne_nil]
  show followAll false [] (segmentsOf true (Text.join ['/'] ss)) = ss
  rw [segmentsOf_join h, followAll_of_settled h.settled, List.nil_append]

/-- There are no tabs and line breaks in the text of a settled path. -/
theorem withoutBreaks_text {ss : List (List Char)} (h : ∀ s ∈ ss, Settled s) :
    withoutBreaks (Path.segments ss).text = (Path.segments ss).text := by
  refine List.filter_eq_self.mpr fun c hc => ?_
  obtain ⟨s, hs, hc⟩ := List.mem_flatMap.mp hc
  rcases List.mem_cons.mp hc with rfl | hc
  · decide
  · have hchar := (h s hs).chars c hc
    refine decide_eq_true ⟨?_, ?_, ?_⟩ <;>
    · rintro rfl
      exact absurd hchar (by decide)

/-- The text of a path ends with a slash where the last segment is empty. -/
theorem text_ends_slash_iff {ss : List (List Char)} (h : SettledPath ss) :
    (Path.segments ss).text.getLast? = some '/' ↔ ss.getLast? = some [] := by
  obtain ⟨front, s, rfl⟩ : ∃ front s, ss = front ++ [s] :=
    ⟨_, _, (List.dropLast_concat_getLast h.ne_nil).symm⟩
  rw [text_append, List.getLast?_concat]
  -- an empty segment leaves its slash at the end; any other ends in a character of its own
  cases s with
  | nil => simp [Path.text]
  | cons c cs =>
    have hlast : ((Path.segments front).text ++ (Path.segments [c :: cs]).text).getLast? =
        (c :: cs).getLast? := by
      simp [Path.text, List.getLast?_cons]
    have hslash : '/' ∉ c :: cs := (h.settled _ (by simp)).slash
    rw [hlast]
    constructor
    · exact fun hmem => absurd (List.mem_of_getLast? hmem) hslash
    · exact fun hnil => absurd (Option.some.inj hnil) (List.cons_ne_nil c cs)

end IdeaBoard.Url
