import IdeaBoard.Proofs.Casing
import IdeaBoard.Search.Request

/-!
# IdeaBoard — normal texts

What the server is asked for is the text of the filter without white space at its ends and in lower
case. Lower case looks at the neighbours of a capital sigma, and trimming takes neighbours away; since
white space is neither cased nor passed over, that makes no difference.

* **`Image`**, **`Lowered`** — the lower case of a text, character by character in its place, beside the
  function that computes it. `lowered_iff`: they are the same, because the runs of the table are apart
  (`find?_eq_some_iff`).
* **`lowerFrom_padded`** — white space around a text stays where it is, and changes no sigma.
* **`trim_lower`** — so the two halves of the normal text may change places.
* **`normalized_projection`** — what follows for filters and the requests made of them.
-/

namespace IdeaBoard.Text

/-! ## The table as a relation -/

/-- `r` is not empty and ends below `r'`. -/
def ShiftRun.below (r r' : ShiftRun) : Bool := r.first.ble r.last && r.last.blt r'.first

theorem ShiftRun.below_iff {r r' : ShiftRun} :
    r.below r' = true ↔ r.first ≤ r.last ∧ r.last < r'.first := by
  rw [below, Bool.and_eq_true, Nat.ble_eq, Nat.blt_eq]

instance : Trans (fun r r' : ShiftRun => r.below r' = true) (fun r r' => r.below r' = true)
    fun r r' => r.below r' = true where
  trans h h' := by
    rw [ShiftRun.below_iff] at *
    omega

/-- Every run of the table ends below its neighbour, and so below all runs after it. -/
theorem lowerRuns_chain : lowerRuns.IsChain (fun r r' => r.below r' = true) := by decide +kernel

theorem ShiftRun.bounds_of_image? {r : ShiftRun} {n m : Nat} (h : r.image? n = some m) :
    r.first ≤ n ∧ n ≤ r.last := by
  unfold image? at h
  obtain ⟨hin, -⟩ := Option.ite_none_right_eq_some.mp h
  exact ⟨hin.1, hin.2.1⟩

/-- In runs that increase and are apart, the search misses none: the first run past `n` ends it, and
the run that holds `n` is the only one. -/
theorem ShiftRun.find?_eq_some_iff {rs : List ShiftRun} {n m : Nat}
    (ordered : rs.Pairwise fun r r' => r.below r' = true) :
    find? rs n = some m ↔ ∃ r ∈ rs, r.image? n = some m := by
  refine ⟨exists_of_find?, ?_⟩
  rintro ⟨r, hr, himage⟩
  obtain ⟨hfirst, hlast⟩ := bounds_of_image? himage
  induction rs with
  | nil => exact absurd hr List.not_mem_nil
  | cons s rs ih =>
    obtain ⟨habove, hrest⟩ := List.pairwise_cons.mp ordered
    rcases List.mem_cons.mp hr with rfl | hr
    · rw [find?, if_neg (by omega), himage]
    · -- the run stands further on, so `s` ends below `n`
      obtain ⟨hfilled, hbelow⟩ := below_iff.mp (habove r hr)
      have hnone : s.image? n = none := if_neg (by omega)
      rw [find?, if_neg (by omega), hnone]
      exact ih hrest hr

theorem find?_lowerRuns_eq_some_iff {n m : Nat} :
    ShiftRun.find? lowerRuns n = some m ↔ ∃ r ∈ lowerRuns, r.image? n = some m :=
  ShiftRun.find?_eq_some_iff (List.isChain_iff_pairwise.mp lowerRuns_chain)

/-- A character that no run holds has no other case in the table. -/
theorem find?_lowerRuns_eq_none_iff {n : Nat} :
    ShiftRun.find? lowerRuns n = none ↔ ∀ r ∈ lowerRuns, r.image? n = none := by
  refine ⟨fun h r hr => ?_, ShiftRun.find?_eq_none⟩
  cases himage : r.image? n with
  | none => rfl
  | some m =>
    rw [find?_lowerRuns_eq_some_iff.mpr ⟨r, hr, himage⟩] at h
    exact absurd h (by simp)

/-! ## Lower case as a relation -/

/-- The first character that is not passed over is a letter with case. -/
def LeadsCased (cs : List Char) : Prop :=
  ∃ passed c rest, cs = passed ++ c :: rest ∧ (∀ d ∈ passed, isCaseIgnorable d = true) ∧
    isCaseIgnorable c = false ∧ isCased c = true

/-- A capital sigma ends a word where a letter with case is the nearest one before it and no such letter
is the nearest one after it. -/
def IsFinal (before after : List Char) : Prop := LeadsCased before.reverse ∧ ¬LeadsCased after

/-- The lower case image of a character between the text before it and the text after it. -/
inductive Image (before after : List Char) : Char → List Char → Prop where
  | finalSigma (final : IsFinal before after) : Image before after 'Σ' ['ς']
  | sigma (inner : ¬IsFinal before after) : Image before after 'Σ' ['σ']
  /-- The dotted capital I keeps its dot: it becomes two characters. -/
  | dotted : Image before after 'İ' ['i', '\u0307']
  | moved {c : Char} {n : Nat} {r : ShiftRun} (plain : c ≠ 'Σ') (run : r ∈ lowerRuns)
      (image : r.image? c.toNat = some n) : Image before after c [Char.ofNat n]
  | kept {c : Char} (plain : c ≠ 'İ') (unmoved : ∀ r ∈ lowerRuns, r.image? c.toNat = none) :
      Image before after c [c]

/-- The images of the characters of a text that stands after `before`, one after the other. -/
inductive Lowered : (before cs out : List Char) → Prop where
  | nil (before : List Char) : Lowered before [] []
  | cons {before after image out : List Char} {c : Char} (here : Image before after c image)
      (rest : Lowered (before ++ [c]) after out) : Lowered before (c :: after) (image ++ out)

/-- What is passed over is passed over, and the next character decides. -/
theorem startsCased_iff {cs : List Char} : startsCased cs = true ↔ LeadsCased cs := by
  have hsplit := List.takeWhile_append_dropWhile (p := isCaseIgnorable) (l := cs)
  unfold startsCased
  constructor
  · intro h
    cases hrest : cs.dropWhile isCaseIgnorable with
    | nil => rw [hrest] at h; exact absurd h (by simp)
    | cons c rest =>
      rw [hrest] at h hsplit
      have hhead : (cs.dropWhile isCaseIgnorable).head? = some c := by
        rw [hrest]
        rfl
      have hc : isCaseIgnorable c = false := head_dropWhile hhead
      exact ⟨cs.takeWhile isCaseIgnorable, c, rest, hsplit.symm, forall_mem_takeWhile, hc, h⟩
  · rintro ⟨passed, c, rest, rfl, hpassed, hc, hcased⟩
    rw [List.dropWhile_append_of_pos hpassed, dropWhile_of_head fun d hd => ?_]
    · exact hcased
    · rw [← Option.some.inj hd]
      exact hc

theorem endsWord_iff {before after : List Char} :
    endsWord before.reverse after = true ↔ IsFinal before after := by
  rw [endsWord, IsFinal, Bool.and_eq_true, Bool.not_eq_true', ← startsCased_iff, ← startsCased_iff,
    Bool.not_eq_true]

/-- **A character has one image in its place, the one that is computed.** -/
theorem image_iff {before after image : List Char} {c : Char} :
    Image before after c image ↔ image = lowerAt before.reverse c after := by
  constructor
  · -- the kinds of image exclude each other: sigma and the dotted I are no letters of the table
    intro h
    cases h with
    | finalSigma final => rw [lowerAt, if_pos rfl, if_pos (endsWord_iff.mpr final)]
    | sigma inner => rw [lowerAt, if_pos rfl, if_neg (mt endsWord_iff.mp inner)]
    | dotted => rfl
    | @moved _ n r plain run image =>
      have hfind := find?_lowerRuns_eq_some_iff.mpr ⟨r, run, image⟩
      have hdotted : c ≠ 'İ' := by
        rintro rfl
        exact absurd hfind (by rw [show ShiftRun.find? lowerRuns 'İ'.toNat = none by decide]; simp)
      rw [lowerAt, if_neg plain, if_neg hdotted, lowerChar, hfind]
    | kept plain unmoved =>
      have hfind := find?_lowerRuns_eq_none_iff.mpr unmoved
      have hsigma : c ≠ 'Σ' := by
        rintro rfl
        exact absurd hfind (by decide)
      rw [lowerAt, if_neg hsigma, if_neg plain, lowerChar, hfind]
  · rintro rfl
    -- and whatever is computed is of one of the kinds
    unfold lowerAt
    split
    · next hsigma =>
      subst hsigma
      split
      · next hend => exact .finalSigma (endsWord_iff.mp hend)
      · next hend => exact .sigma (mt endsWord_iff.mpr hend)
    · next hsigma =>
      split
      · next hdotted =>
        subst hdotted
        exact .dotted
      · next hdotted =>
        unfold lowerChar
        split
        · next n hfind =>
          obtain ⟨r, hr, himage⟩ := find?_lowerRuns_eq_some_iff.mp hfind
          exact .moved hsigma hr himage
        · next hfind => exact .kept hdotted (find?_lowerRuns_eq_none_iff.mp hfind)

/-- The images of a text in their places are its lower case. -/
theorem lowered_iff {before cs out : List Char} :
    Lowered before cs out ↔ out = lowerFrom before.reverse cs := by
  -- on the text; what stands before it grows at its end, and is held in reverse by the function
  induction cs generalizing before out with
  | nil =>
    constructor
    · rintro ⟨⟩
      rfl
    · rintro rfl
      exact .nil before
  | cons c after ih =>
    have hbefore : (before ++ [c]).reverse = c :: before.reverse := by simp
    rw [lowerFrom]
    constructor
    · rintro (_ | ⟨here, rest⟩)
      rw [image_iff.mp here, ih.mp rest, hbefore]
    · rintro rfl
      exact .cons (image_iff.mpr rfl) (ih.mpr (by rw [hbefore]))

theorem lowered_lower (cs : List Char) : Lowered [] cs (lower cs) := lowered_iff.mpr rfl

/-! ## White space and case -/

/-- No range of one list meets a range of the other. -/
def Ranges.apart (rs bs : Ranges) : Bool := rs.all fun r => bs.all fun b => r.2.blt b.1 || b.2.blt r.1

/-- White space has no case, is not passed over, and is no letter of the table. -/
theorem casing_apart_blank :
    casedRanges.apart blankRanges = true ∧ caseIgnorableRanges.apart blankRanges = true ∧
      (lowerRuns.all fun r => blankRanges.all fun b => r.last.blt b.1 || b.2.blt r.first) = true := by
  decide +kernel

theorem Ranges.exists_of_hasNat {rs : Ranges} {n : Nat} (h : rs.hasNat n = true) :
    ∃ b ∈ rs, b.1 ≤ n ∧ n ≤ b.2 := by
  induction rs with
  | nil => exact absurd h (by simp [hasNat])
  | cons b rs ih =>
    unfold hasNat at h
    split at h
    · exact absurd h (by simp)
    · rcases Bool.or_eq_true_iff.mp h with hin | hrest
      · exact ⟨b, List.mem_cons_self, by omega, of_decide_eq_true hin⟩
      · obtain ⟨b', hb', hin⟩ := ih hrest
        exact ⟨b', List.mem_cons_of_mem b hb', hin⟩

/-- A character of one list of ranges is in none that is apart from it. -/
theorem Ranges.has_eq_false_of_apart {rs bs : Ranges} {c : Char} (h : rs.apart bs = true)
    (hc : bs.has c = true) : rs.has c = false := by
  obtain ⟨b, hb, hlow, hhigh⟩ := exists_of_hasNat hc
  refine hasNat_eq_false fun r hr => ?_
  have hrb := List.all_eq_true.mp (List.all_eq_true.mp h r hr) b hb
  simp only [Bool.or_eq_true, Nat.blt_eq] at hrb
  omega

theorem isCased_of_isBlank {c : Char} (h : isBlank c = true) : isCased c = false :=
  Ranges.has_eq_false_of_apart casing_apart_blank.1 h

theorem isCaseIgnorable_of_isBlank {c : Char} (h : isBlank c = true) : isCaseIgnorable c = false :=
  Ranges.has_eq_false_of_apart casing_apart_blank.2.1 h

/-- White space is its own lower case. -/
theorem isLower_of_isBlank {c : Char} (h : isBlank c = true) : IsLower c := by
  have hunmoved : ∀ r ∈ lowerRuns, r.image? c.toNat = none := by
    intro r hr
    obtain ⟨b, hb, hlow, hhigh⟩ := Ranges.exists_of_hasNat h
    have hrb := List.all_eq_true.mp (List.all_eq_true.mp casing_apart_blank.2.2 r hr) b hb
    simp only [Bool.or_eq_true, Nat.blt_eq] at hrb
    rw [ShiftRun.image?, if_neg (by omega)]
  refine ⟨?_, ?_, find?_lowerRuns_eq_none_iff.mpr hunmoved⟩
  · rintro rfl
    exact absurd h (by decide)
  · rintro rfl
    exact absurd h (by decide)

/-- Behind a text, white space is as good as its end. -/
theorem startsCased_append_blank {cs back : List Char} (h : ∀ c ∈ back, isBlank c = true) :
    startsCased (cs ++ back) = startsCased cs := by
  have hback : back.dropWhile isCaseIgnorable = back :=
    dropWhile_of_head fun c hc => isCaseIgnorable_of_isBlank (h c (List.mem_of_mem_head? hc))
  unfold startsCased
  rw [List.dropWhile_append, hback]
  -- either the text itself decides, or the white space behind it, which leads to no letter
  cases hrest : cs.dropWhile isCaseIgnorable with
  | cons c rest => rfl
  | nil =>
    cases back with
    | nil => rfl
    | cons d back => exact isCased_of_isBlank (h d List.mem_cons_self)

/-- White space around its neighbours does not change the image of a character. -/
theorem lowerAt_padded {front back : List Char} (hfront : ∀ c ∈ front, isBlank c = true)
    (hback : ∀ c ∈ back, isBlank c = true) (before : List Char) (c : Char) (after : List Char) :
    lowerAt (before ++ front) c (after ++ back) = lowerAt before c after := by
  unfold lowerAt endsWord
  rw [startsCased_append_blank hfront, startsCased_append_blank hback]

/-- White space around a text stays as it is, and changes nothing in between. -/
theorem lowerFrom_padded {front back : List Char} (hfront : ∀ c ∈ front, isBlank c = true)
    (hback : ∀ c ∈ back, isBlank c = true) (before cs : List Char) :
    lowerFrom (before ++ front) (cs ++ back) = lowerFrom before cs ++ back := by
  -- on the text inside: its characters never see past the white space
  induction cs generalizing before with
  | nil => exact lowerFrom_of_isLower (fun c hc => isLower_of_isBlank (hback c hc)) _
  | cons c cs ih =>
    have hrest := ih (c :: before)
    rw [List.cons_append] at hrest
    rw [List.cons_append, lowerFrom, lowerAt_padded hfront hback, hrest, lowerFrom, List.append_assoc]

/-- A text that is its own lower case is kept, and the rest is read behind it. -/
theorem lowerFrom_append (before a b : List Char) (h : ∀ c ∈ a, IsLower c) :
    lowerFrom before (a ++ b) = a ++ lowerFrom (a.reverse ++ before) b := by
  induction a generalizing before with
  | nil => rfl
  | cons c a ih =>
    rw [List.cons_append, lowerFrom, lowerAt_of_isLower (h c List.mem_cons_self),
      ih (c :: before) fun d hd => h d (List.mem_cons_of_mem c hd)]
    simp

/-- Lower case leaves white space around a text around its lower case. -/
theorem padded_lower {cs body : List Char} (h : Padded cs body) : Padded (lower cs) (lower body) := by
  obtain ⟨front, back, rfl, hfront, hback⟩ := h
  refine ⟨front, back, ?_, hfront, hback⟩
  have hreverse : ∀ c ∈ front.reverse, isBlank c = true := fun c hc => hfront c (List.mem_reverse.mp hc)
  have hbody := lowerFrom_padded hreverse hback [] body
  rw [List.nil_append] at hbody
  -- the white space in front is kept, and then stands before all that follows
  rw [lower, List.append_assoc,
    lowerFrom_append [] front (body ++ back) fun c hc => isLower_of_isBlank (hfront c hc),
    List.append_nil, hbody, ← List.append_assoc]
  rfl

/-- **Lower case and trimming may be done in either order.** -/
theorem trim_lower (cs : List Char) : trim (lower cs) = lower (trim cs) :=
  trim_of_padded (padded_lower (padded_trim cs)) (trimmed_lower (trimmed_trim cs))

/-- Lower case makes no text empty. -/
theorem lower_eq_nil_iff {cs : List Char} : lower cs = [] ↔ cs = [] := by
  constructor
  · intro h
    cases cs with
    | nil => rfl
    | cons c cs => exact absurd (List.append_eq_nil_iff.mp h).1 (lowerAt_ne_nil [] c cs)
  · rintro rfl
    rfl

end IdeaBoard.Text

namespace IdeaBoard.Filter

open IdeaBoard.Text

theorem toList_query_normalized (f : Filter) :
    f.normalized.query.toList = lower (trim f.query.toList) := String.toList_ofList

/-- **The normal text of a filter is the lower case of its text without the white space around it, or,
which is the same, the lower case of all of it without the white space around that. So it has none at
its ends, and is empty just where the text is nothing but white space; a second time nothing changes, and
neither the rest of the filter nor the request to the server knows a filter from its normal form.** -/
theorem normalized_projection (f : Filter) :
    f.normalized.normalized = f.normalized ∧
    ((∃ body, Padded f.query.toList body ∧ Trimmed body ∧
        Lowered [] body f.normalized.query.toList) ∧
      ∃ out, Lowered [] f.query.toList out ∧ Padded out f.normalized.query.toList) ∧
    Trimmed f.normalized.query.toList ∧
    (f.normalized.query = "" ↔ ∀ c ∈ f.query.toList, isBlank c = true) ∧
    (f.normalized.view = f.view ∧ f.normalized.tags = f.tags ∧ f.normalized.limit = f.limit) ∧
    Search.Request.ofFilter f.normalized = Search.Request.ofFilter f := by
  have hprojection : f.normalized.normalized = f.normalized := by
    rw [normalized, normalized, normalText_normalText]
  have htrimmed : Trimmed (trim f.query.toList) := trimmed_trim _
  refine ⟨hprojection, ⟨?inner, ?outer⟩, ?ends, ?empty, ?rest, ?request⟩
  case inner =>
    refine ⟨trim f.query.toList, padded_trim _, htrimmed, ?_⟩
    rw [toList_query_normalized]
    exact lowered_lower _
  case outer =>
    refine ⟨lower f.query.toList, lowered_lower _, ?_⟩
    -- here lower case comes first, which is the same by `trim_lower`
    rw [toList_query_normalized, ← trim_lower]
    exact padded_trim _
  case ends =>
    rw [toList_query_normalized]
    exact trimmed_lower htrimmed
  case empty =>
    rw [← String.toList_eq_nil_iff, toList_query_normalized, lower_eq_nil_iff, trim_eq_nil_iff]
  case rest =>
    unfold normalized
    exact ⟨rfl, rfl, rfl⟩
  case request =>
    unfold Search.Request.ofFilter
    rw [hprojection]

/-- Over ASCII the table is the lower case of `Char.toLower`. -/
example : ∀ n < 128, lower [Char.ofNat n] = [(Char.ofNat n).toLower] := by decide +kernel

/-- Letters of other alphabets with two cases. -/
example : normalText "  ÀÉÎÕÜ ĞŁŽŸ ΑΒΓΏ ДЁЖЇ ԱՖ ẞ Ａ\t" = "àéîõü ğłžÿ αβγώ дёжї աֆ ß ａ" := by
  decide +kernel

/-- The last sigma before white space ends its word, the dotted capital I becomes two characters. -/
example : normalText " İΣ ΟΔΟΣ\u3000" = "i\u0307ς οδος" := by decide +kernel

end IdeaBoard.Filter
