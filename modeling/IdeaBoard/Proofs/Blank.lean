import IdeaBoard.Text.Numeral

/-!
# IdeaBoard — trimmed texts

A text is trimmed where it has no white space at either end. Trimming gives such a text
(`trimmed_trim`) and leaves one as it is (`trim_of_trimmed`); what it gives is the one trimmed text that
the text pads with white space (`trim_eq_iff`). A numeral is one, which is why a number that was written
is read back (`readBelow?_numeral`).
-/

namespace IdeaBoard.Text

theorem toNat_ofNat_of_valid {n : Nat} (h : n < 0xD800 ∨ (0xDFFF < n ∧ n < 0x110000)) :
    (Char.ofNat n).toNat = n := by
  rw [Char.ofNat, dif_pos h]
  rfl

/-- No white space at either end. -/
def Trimmed (cs : List Char) : Prop :=
  (∀ c, cs.head? = some c → isBlank c = false) ∧ ∀ c, cs.getLast? = some c → isBlank c = false

/-- Nothing is dropped of a text that does not start with it. -/
theorem dropWhile_of_head {p : Char → Bool} {cs : List Char}
    (h : ∀ c, cs.head? = some c → p c = false) : cs.dropWhile p = cs := by
  cases cs with
  | nil => rfl
  | cons c cs => rw [List.dropWhile_cons, if_neg (by simp [h c rfl])]

/-- Whatever is left in front of a dropped run does not satisfy `p`. -/
theorem head_dropWhile {p : Char → Bool} {cs : List Char} {c : Char}
    (h : (cs.dropWhile p).head? = some c) : p c = false := by
  have hnot := List.head?_dropWhile_not p cs
  rw [h] at hnot
  exact hnot

/-- Whatever is left of a dropped run at the end does not end in it. -/
theorem getLast?_dropRight {p : Char → Bool} {cs : List Char} {c : Char}
    (h : (dropRight p cs).getLast? = some c) : p c = false := by
  rw [dropRight, List.getLast?_reverse] at h
  exact head_dropWhile h

/-- Trimming leaves a trimmed text as it is. -/
theorem trim_of_trimmed {cs : List Char} (h : Trimmed cs) : trim cs = cs := by
  obtain ⟨hhead, hlast⟩ := h
  have hleft : trimLeft cs = cs := dropWhile_of_head hhead
  rw [trim, hleft, trimRight, dropRight]
  rw [dropWhile_of_head fun c hc => hlast c (by rwa [List.head?_reverse] at hc)]
  exact List.reverse_reverse cs

/-- What trimming gives is trimmed. -/
theorem trimmed_trim (cs : List Char) : Trimmed (trim cs) := by
  constructor
  · intro c hc
    -- what is left after the right end is dropped starts as before
    have hprefix : trim cs <+: trimLeft cs := by
      have hsuffix := (List.dropWhile_suffix isBlank (l := (trimLeft cs).reverse)).reverse
      rwa [List.reverse_reverse] at hsuffix
    obtain ⟨rest, hrest⟩ := hprefix
    have hleft : (cs.dropWhile isBlank).head? = some c := by
      rw [show cs.dropWhile isBlank = trim cs ++ rest from hrest.symm, List.head?_append, hc]
      rfl
    exact head_dropWhile hleft
  · intro c hc
    exact getLast?_dropRight hc

theorem trimmed_of_forall {cs : List Char} (h : ∀ c ∈ cs, isBlank c = false) : Trimmed cs :=
  ⟨fun c hc => h c (List.mem_of_head? hc), fun c hc => h c (List.mem_of_getLast? hc)⟩

/-! ## Padding -/

/-- The text is `t` with white space around it. -/
def Padded (cs t : List Char) : Prop :=
  ∃ front back, cs = front ++ t ++ back ∧
    (∀ c ∈ front, isBlank c = true) ∧ ∀ c ∈ back, isBlank c = true

theorem forall_mem_takeWhile {p : Char → Bool} {cs : List Char} : ∀ c ∈ cs.takeWhile p, p c = true :=
  List.all_eq_true.mp List.all_takeWhile

/-- What a dropped run at the end leaves, and the run. -/
theorem exists_dropRight (p : Char → Bool) (cs : List Char) :
    ∃ back, cs = dropRight p cs ++ back ∧ ∀ c ∈ back, p c = true := by
  refine ⟨(cs.reverse.takeWhile p).reverse, ?_, fun c hc => ?_⟩
  · rw [dropRight, ← List.reverse_append, List.takeWhile_append_dropWhile, List.reverse_reverse]
  · exact forall_mem_takeWhile c (List.mem_reverse.mp hc)

/-- A run behind a text is dropped with that at its end. -/
theorem dropRight_append {p : Char → Bool} {cs back : List Char} (h : ∀ c ∈ back, p c = true) :
    dropRight p (cs ++ back) = dropRight p cs := by
  rw [dropRight, List.reverse_append,
    List.dropWhile_append_of_pos fun c hc => h c (List.mem_reverse.mp hc), dropRight]

theorem dropRight_of_last {p : Char → Bool} {cs : List Char}
    (h : ∀ c, cs.getLast? = some c → p c = false) : dropRight p cs = cs := by
  rw [dropRight, dropWhile_of_head fun c hc => h c (by rwa [List.head?_reverse] at hc),
    List.reverse_reverse]

theorem trimLeft_append {front cs : List Char} (h : ∀ c ∈ front, isBlank c = true) :
    trimLeft (front ++ cs) = trimLeft cs := List.dropWhile_append_of_pos h

/-- A text is what trimming gives, padded. -/
theorem padded_trim (cs : List Char) : Padded cs (trim cs) := by
  obtain ⟨back, hback, hblank⟩ := exists_dropRight isBlank (trimLeft cs)
  refine ⟨cs.takeWhile isBlank, back, ?_, forall_mem_takeWhile, hblank⟩
  have hleft : trim cs ++ back = trimLeft cs := hback.symm
  rw [List.append_assoc, hleft, trimLeft, List.takeWhile_append_dropWhile]

/-- White space around a trimmed text is all that trimming takes away. -/
theorem trim_of_padded {cs t : List Char} (h : Padded cs t) (ht : Trimmed t) : trim cs = t := by
  obtain ⟨front, back, rfl, hfront, hback⟩ := h
  have hleft : trimLeft (front ++ t ++ back) = trimLeft (t ++ back) := by
    rw [List.append_assoc, trimLeft_append hfront]
  cases t with
  | nil =>
    -- nothing but white space: the left end takes it all
    have hall : trimLeft ([] ++ back) = [] := by
      rw [List.nil_append, ← List.append_nil back, trimLeft_append hback]
      rfl
    rw [trim, hleft, hall]
    rfl
  | cons c cs =>
    have hhead : trimLeft (c :: cs ++ back) = c :: cs ++ back :=
      dropWhile_of_head fun d hd => ht.1 d hd
    rw [trim, hleft, hhead, trimRight, dropRight_append hback, dropRight_of_last ht.2]

/-- **What trimming gives is the trimmed text with nothing but white space around it.** -/
theorem trim_eq_iff {cs t : List Char} : trim cs = t ↔ Padded cs t ∧ Trimmed t :=
  ⟨fun h => h ▸ ⟨padded_trim cs, trimmed_trim cs⟩, fun h => trim_of_padded h.1 h.2⟩

/-- White space behind a text is trimmed with the rest. -/
theorem trim_append_blank {cs back : List Char} (h : ∀ c ∈ back, isBlank c = true) :
    trim (cs ++ back) = trim cs := by
  obtain ⟨front, rest, hsplit, hfront, hrest⟩ := padded_trim cs
  -- the white space joins what was behind the trimmed text already
  refine trim_of_padded ⟨front, rest ++ back, ?_, hfront, fun c hc => ?_⟩ (trimmed_trim cs)
  · rw [← List.append_assoc, ← hsplit]
  · exact (List.mem_append.mp hc).elim (hrest c) (h c)

theorem padded_nil_iff {cs : List Char} : Padded cs [] ↔ ∀ c ∈ cs, isBlank c = true := by
  constructor
  · rintro ⟨front, back, rfl, hfront, hback⟩ c hc
    rw [List.append_nil] at hc
    exact (List.mem_append.mp hc).elim (hfront c) (hback c)
  · exact fun h => ⟨cs, [], by simp, h, by simp⟩

/-- Nothing is left of white space alone, and only of that. -/
theorem trim_eq_nil_iff {cs : List Char} : trim cs = [] ↔ ∀ c ∈ cs, isBlank c = true := by
  rw [trim_eq_iff, padded_nil_iff]
  exact and_iff_left ⟨by simp, by simp⟩

/-! ## Numerals -/

theorem isDigit_of_mem_numeral {n : Nat} {c : Char} (h : c ∈ (numeral n).toList) :
    c.isDigit = true := by
  rw [numeral, String.toList_ofList] at h
  exact Nat.isDigit_of_mem_toDigits (by decide) (by decide) h

theorem toNat_of_isDigit {c : Char} (h : c.isDigit = true) : 0x30 ≤ c.toNat ∧ c.toNat ≤ 0x39 := by
  simp only [Char.isDigit, Bool.and_eq_true, decide_eq_true_eq] at h
  exact ⟨UInt32.le_iff_toNat_le.mp h.1, UInt32.le_iff_toNat_le.mp h.2⟩

theorem isBlank_of_isDigit {c : Char} (h : c.isDigit = true) : isBlank c = false := by
  obtain ⟨hlo, hhi⟩ := toNat_of_isDigit h
  simp only [isBlank, Ranges.has, blankRanges, Ranges.hasNat]
  rw [if_neg (by omega), if_neg (by omega), if_pos (by omega)]
  simp
  omega

theorem trimmed_numeral (n : Nat) : Trimmed (numeral n).toList :=
  trimmed_of_forall fun _ hc => isBlank_of_isDigit (isDigit_of_mem_numeral hc)

/-- The digits of a numeral are read as its number. -/
theorem digitsValue?_numeral (n : Nat) : digitsValue? (numeral n).toList = some n := by
  have hne : (numeral n).toList ≠ [] := by
    rw [numeral, String.toList_ofList]
    exact Nat.toDigits_ne_nil
  have hall : (numeral n).toList.all Char.isDigit = true :=
    List.all_eq_true.mpr fun _ hc => isDigit_of_mem_numeral hc
  rw [digitsValue?, if_pos ⟨hne, hall⟩, numeral, String.toList_ofList,
    Nat.ofDigitChars_toDigits (by decide) (by decide)]

/-- A numeral is read back as its number, where that is below the bound. -/
theorem readBelow?_numeral (bound n : Nat) :
    readBelow? bound (numeral n).toList = if n < bound then some n else none := by
  have hdigits := digitsValue?_numeral n
  -- a numeral starts with a digit, so no sign is taken off it
  have hplus : ∀ ds, (numeral n).toList ≠ '+' :: ds := by
    intro ds heq
    have hdigit := isDigit_of_mem_numeral (n := n) (c := '+') (by rw [heq]; exact List.mem_cons_self)
    exact absurd hdigit (by decide)
  unfold readBelow?
  split
  next ds heq => exact absurd heq (hplus ds)
  next =>
    simp only [hdigits]
    by_cases h : n < bound
    · simp [h]
    · rw [if_neg h]
      simpa using h

end IdeaBoard.Text
