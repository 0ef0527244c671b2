import Mathlib.Data.List.Basic
import IdeaBoard.Filter
import IdeaBoard.Proofs.Blank

/-!
# IdeaBoard — lower case is final

A text that has been trimmed and put into lower case stays as it is when that is done again, for
every text: no lower case image has an image of its own, or is white space.

* **`isLower_of_find?`** — an image of the table is its own image: no run moves what another run, or
  the same one, gives (`lowerRuns_avoids`, checked run against run).
* **`mem_lowerAt`** — so every character of a lower case image is its own image.
* **`lower_of_isLower`** — a text of such characters is left alone, whatever its sigmas.
* **`trimmed_lower`** — the images at the ends of a trimmed text are not white space.
* **`normalText_normalText`** — the two together.
-/

namespace IdeaBoard.Text

/-! ## The table -/

def ShiftRun.low (r : ShiftRun) : Nat := (r.first + r.shift).toNat

def ShiftRun.high (r : ShiftRun) : Nat := (r.last + r.shift).toNat

/-- No image of `r` is moved by `r'`: the images lie apart from what `r'` moves, or fall between its
code points, every second one of which it moves. -/
def ShiftRun.avoids (r r' : ShiftRun) : Bool :=
  r.high.blt r'.first || r'.last.blt r.low ||
    (r'.stride.beq 2 && (r.stride.beq 2 || r.first.beq r.last) && ((r.low + r'.first) % 2).beq 1)

/-- No image of `r` is in one of the ranges. -/
def ShiftRun.misses (r : ShiftRun) (rs : Ranges) : Bool :=
  rs.all fun b => r.high.blt b.1 || b.2.blt r.low

/-- What is no character, and the one character that has an image of two. -/
def unmapped : Ranges := [(0x130, 0x130), (0xD800, 0xDFFF)]

/-- Every run of the table, against every other and itself. -/
theorem lowerRuns_avoids :
    (lowerRuns.all fun r => lowerRuns.all fun r' => r.avoids r') = true := by
  decide +kernel

theorem lowerRuns_misses :
    (lowerRuns.all fun r => decide (0 ≤ r.first + r.shift) && r.high.blt 0x110000 &&
      r.misses unmapped && r.misses blankRanges) = true := by
  decide +kernel

/-- What an image is, in a run whose images are no negative numbers. -/
theorem ShiftRun.image?_eq_some {r : ShiftRun} {n m : Nat} (h : r.image? n = some m)
    (hr : 0 ≤ r.first + r.shift) :
    r.first ≤ n ∧ n ≤ r.last ∧ (n - r.first) % r.stride = 0 ∧
      m + r.first = n + r.low ∧ r.low ≤ m ∧ m ≤ r.high := by
  simp only [image?] at h
  split at h
  · next hn =>
    obtain ⟨hfirst, hlast, hmod⟩ := hn
    have hm : (n + r.shift).toNat = m := by simpa using h
    simp only [low, high]
    exact ⟨hfirst, hlast, hmod, by omega, by omega, by omega⟩
  · exact absurd h (by simp)

/-- Where the table moves no image of a run again, the image is final. -/
theorem ShiftRun.image?_eq_none_of_avoids {r r' : ShiftRun} {n m : Nat} (h : r.image? n = some m)
    (hr : 0 ≤ r.first + r.shift) (havoid : r.avoids r' = true) : r'.image? m = none := by
  obtain ⟨hfirst, hlast, hmod, hm, hlow, hhigh⟩ := image?_eq_some h hr
  simp only [avoids, Bool.or_eq_true, Bool.and_eq_true, Nat.blt_eq, Nat.beq_eq] at havoid
  rw [image?, if_neg]
  rintro ⟨hfirst', hlast', hmod'⟩
  -- apart below, apart above, or on the code points between those that are moved
  rcases havoid with (hbelow | habove) | ⟨⟨hstride', hstride | hsingle⟩, hodd⟩
  · omega
  · omega
  · rw [hstride] at hmod
    rw [hstride'] at hmod'
    omega
  · rw [hstride'] at hmod'
    omega

/-- The search finds nothing where no run has an image. -/
theorem ShiftRun.find?_eq_none {rs : List ShiftRun} {n : Nat} (h : ∀ r ∈ rs, r.image? n = none) :
    find? rs n = none := by
  induction rs with
  | nil => rfl
  | cons r rs ih =>
    simp only [find?]
    split
    · rfl
    · rw [h r List.mem_cons_self]
      exact ih fun r' hr' => h r' (List.mem_cons_of_mem r hr')

/-- What the search finds is the image in some run. -/
theorem ShiftRun.exists_of_find? {rs : List ShiftRun} {n m : Nat} (h : find? rs n = some m) :
    ∃ r ∈ rs, r.image? n = some m := by
  induction rs with
  | nil => exact absurd h (by simp [find?])
  | cons r rs ih =>
    simp only [find?] at h
    split at h
    · exact absurd h (by simp)
    · cases hi : r.image? n with
      | some m' =>
        rw [hi] at h
        exact ⟨r, List.mem_cons_self, by rw [hi]; exact h⟩
      | none =>
        rw [hi] at h
        obtain ⟨r', hr', himage⟩ := ih h
        exact ⟨r', List.mem_cons_of_mem r hr', himage⟩

theorem Ranges.hasNat_eq_false {rs : Ranges} {n : Nat} (h : ∀ b ∈ rs, n < b.1 ∨ b.2 < n) :
    rs.hasNat n = false := by
  induction rs with
  | nil => rfl
  | cons b rs ih =>
    simp only [hasNat]
    split
    · rfl
    · have hb : b.2 < n := by
        rcases h b List.mem_cons_self with hlt | hgt <;> omega
      rw [ih fun b' hb' => h b' (List.mem_cons_of_mem b hb'), decide_eq_false (by omega)]
      rfl

/-- An image of a run that misses some ranges is in none of them. -/
theorem ShiftRun.lt_or_lt_of_misses {r : ShiftRun} {rs : Ranges} {n m : Nat}
    (hmiss : r.misses rs = true) (h : r.image? n = some m) (hr : 0 ≤ r.first + r.shift) :
    ∀ b ∈ rs, m < b.1 ∨ b.2 < m := by
  obtain ⟨_, _, _, _, hlow, hhigh⟩ := image?_eq_some h hr
  intro b hb
  have hapart := List.all_eq_true.mp hmiss b hb
  simp only [Bool.or_eq_true, Nat.blt_eq] at hapart
  rcases hapart with hbelow | habove
  · exact .inl (by omega)
  · exact .inr (by omega)

/-! ## Characters -/

/-- The lower case image of `c` is `c` alone, between any neighbours. -/
def IsLower (c : Char) : Prop := c ≠ 'Σ' ∧ c ≠ 'İ' ∧ ShiftRun.find? lowerRuns c.toNat = none

instance (c : Char) : Decidable (IsLower c) := inferInstanceAs (Decidable (_ ∧ _))

/-- **An image of the table is its own image, and no white space.** -/
theorem isLower_of_find? {n m : Nat} (h : ShiftRun.find? lowerRuns n = some m) :
    IsLower (Char.ofNat m) ∧ isBlank (Char.ofNat m) = false := by
  obtain ⟨r, hr, himage⟩ := ShiftRun.exists_of_find? h
  have hmisses := List.all_eq_true.mp lowerRuns_misses r hr
  simp only [Bool.and_eq_true, decide_eq_true_eq, Nat.blt_eq] at hmisses
  obtain ⟨⟨⟨hnonneg, hbound⟩, hunmapped⟩, hblank⟩ := hmisses
  -- what has no image of its own there is far from every image of the table
  have hfree := ShiftRun.lt_or_lt_of_misses hunmapped himage hnonneg
  have hdotted : m < 0x130 ∨ 0x130 < m := hfree (0x130, 0x130) (by decide)
  have hsurrogate : m < 0xD800 ∨ 0xDFFF < m := hfree (0xD800, 0xDFFF) (by decide)
  obtain ⟨_, _, _, _, _, hhigh⟩ := ShiftRun.image?_eq_some himage hnonneg
  -- the image is a character: it is neither a surrogate nor past the last one
  have hchar : (Char.ofNat m).toNat = m := toNat_ofNat_of_valid (by omega)
  have hfind : ShiftRun.find? lowerRuns m = none := ShiftRun.find?_eq_none fun r' hr' =>
    ShiftRun.image?_eq_none_of_avoids himage hnonneg
      (List.all_eq_true.mp (List.all_eq_true.mp lowerRuns_avoids r hr) r' hr')
  refine ⟨⟨?_, ?_, by rw [hchar]; exact hfind⟩, ?_⟩
  · -- the table itself moves a capital sigma
    intro hsigma
    rw [show m = 0x3A3 from by rw [← hchar, hsigma]; rfl] at hfind
    exact absurd hfind (by decide)
  · intro hdot
    have hm : m = 0x130 := by
      rw [← hchar, hdot]
      rfl
    omega
  · rw [isBlank, Ranges.has, hchar]
    exact Ranges.hasNat_eq_false (ShiftRun.lt_or_lt_of_misses hblank himage hnonneg)

/-- The image of one character, where that is a single character. -/
theorem lowerChar_cases (c : Char) :
    (lowerChar c = c ∧ ShiftRun.find? lowerRuns c.toNat = none) ∨
      (IsLower (lowerChar c) ∧ isBlank (lowerChar c) = false) := by
  unfold lowerChar
  cases h : ShiftRun.find? lowerRuns c.toNat with
  | none => exact .inl ⟨rfl, rfl⟩
  | some n => exact .inr (isLower_of_find? h)

/-- Every character of an image is its own image, and white space only where it is what it was. -/
theorem mem_lowerAt {before after : List Char} {c x : Char} (h : x ∈ lowerAt before c after) :
    IsLower x ∧ (isBlank x = false ∨ x = c) := by
  unfold lowerAt at h
  split at h
  · -- a capital sigma becomes one of the two small ones
    rcases List.mem_singleton.mp h with rfl
    split <;> exact ⟨by decide, .inl (by decide)⟩
  · next hsigma =>
    split at h
    · -- the dotted capital I falls apart into a letter and its dot
      rcases List.mem_cons.mp h with rfl | hdot
      · exact ⟨by decide, .inl (by decide)⟩
      · rw [List.mem_singleton.mp hdot]
        exact ⟨by decide, .inl (by decide)⟩
    · next hdotted =>
      rw [List.mem_singleton.mp h]
      -- any other character stays, or becomes an image of the table
      rcases lowerChar_cases c with ⟨heq, hfind⟩ | ⟨hlower, hblank⟩
      · rw [heq]
        exact ⟨⟨hsigma, hdotted, hfind⟩, .inr rfl⟩
      · exact ⟨hlower, .inl hblank⟩

/-- No character of the image of a character that is not white space is white space. -/
theorem isBlank_of_mem_lowerAt {before after : List Char} {c x : Char}
    (h : x ∈ lowerAt before c after) (hc : isBlank c = false) : isBlank x = false := by
  rcases (mem_lowerAt h).2 with hblank | rfl
  · exact hblank
  · exact hc

/-- No character vanishes. -/
theorem lowerAt_ne_nil (before : List Char) (c : Char) (after : List Char) :
    lowerAt before c after ≠ [] := by
  unfold lowerAt
  split
  · simp
  · split <;> simp

theorem lowerAt_of_isLower {c : Char} (h : IsLower c) (before after : List Char) :
    lowerAt before c after = [c] := by
  obtain ⟨hsigma, hdotted, hfind⟩ := h
  rw [lowerAt, if_neg hsigma, if_neg hdotted, lowerChar, hfind]

/-! ## Texts -/

/-- In lower case every character is its own image. -/
theorem isLower_of_mem_lowerFrom {before cs : List Char} {x : Char}
    (h : x ∈ lowerFrom before cs) : IsLower x := by
  induction cs generalizing before with
  | nil => exact absurd h List.not_mem_nil
  | cons c cs ih =>
    rw [lowerFrom] at h
    rcases List.mem_append.mp h with hhere | hrest
    · exact (mem_lowerAt hhere).1
    · exact ih hrest

/-- Characters that are their own images make a text that is its own image. -/
theorem lowerFrom_of_isLower {cs : List Char} (h : ∀ c ∈ cs, IsLower c) (before : List Char) :
    lowerFrom before cs = cs := by
  induction cs generalizing before with
  | nil => rfl
  | cons c cs ih =>
    rw [lowerFrom, lowerAt_of_isLower (h c List.mem_cons_self),
      ih fun d hd => h d (List.mem_cons_of_mem c hd), List.singleton_append]

theorem lower_of_isLower {cs : List Char} (h : ∀ c ∈ cs, IsLower c) : lower cs = cs :=
  lowerFrom_of_isLower h []

/-- Lower case is final. -/
theorem lower_lower (cs : List Char) : lower (lower cs) = lower cs :=
  lower_of_isLower fun _ hx => isLower_of_mem_lowerFrom hx

/-- The image of a text ends in the image of its last character. -/
theorem lowerFrom_concat (before cs : List Char) (c : Char) :
    ∃ front, lowerFrom before (cs ++ [c]) = front ++ lowerAt (cs.reverse ++ before) c [] := by
  induction cs generalizing before with
  | nil => exact ⟨[], by simp [lowerFrom]⟩
  | cons d cs ih =>
    obtain ⟨front, hfront⟩ := ih (d :: before)
    refine ⟨lowerAt before d (cs ++ [c]) ++ front, ?_⟩
    rw [List.cons_append, lowerFrom, hfront]
    simp

/-- Lower case brings no white space to the ends of a text. -/
theorem trimmed_lower {cs : List Char} (h : Trimmed cs) : Trimmed (lower cs) := by
  obtain ⟨hhead, hlast⟩ := h
  constructor
  · -- the first character comes of the first, and the image of none is empty
    intro x hx
    cases cs with
    | nil => exact absurd hx (by simp [lower, lowerFrom])
    | cons c cs =>
      rw [lower, lowerFrom, List.head?_append_of_ne_nil _ (lowerAt_ne_nil [] c cs)] at hx
      exact isBlank_of_mem_lowerAt (List.mem_of_head? hx) (hhead c rfl)
  · intro x hx
    rcases List.eq_nil_or_concat cs with rfl | ⟨init, c, rfl⟩
    · exact absurd hx (by simp [lower, lowerFrom])
    · -- the last one comes of the last
      obtain ⟨front, hfront⟩ := lowerFrom_concat [] init c
      rw [List.concat_eq_append] at hx hlast
      rw [lower, hfront,
        List.getLast?_append_of_ne_nil _ (lowerAt_ne_nil (init.reverse ++ []) c [])] at hx
      exact isBlank_of_mem_lowerAt (List.mem_of_getLast? hx) (hlast c (by simp))

end IdeaBoard.Text

namespace IdeaBoard.Filter

open IdeaBoard.Text

/-- **A normal text is its own normal text.** -/
theorem normalText_normalText (s : String) : normalText (normalText s) = normalText s := by
  have htrimmed : Trimmed (lower (trim s.toList)) := trimmed_lower (trimmed_trim s.toList)
  unfold normalText
  rw [String.toList_ofList, trim_of_trimmed htrimmed, lower_lower]

end IdeaBoard.Filter
