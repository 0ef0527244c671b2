import Mathlib.Data.List.Induction
import Mathlib.Data.Nat.Digits.Defs
import IdeaBoard.Proofs.QueryString

/-!
# IdeaBoard — the limit in a query string

A limit is a decimal number: white space around it, one plus sign in front of it and leading zeros do
not count, and it lies between one and the largest number of 32 bits.

* **`Decimal`** — the texts that write a number, by the place values of their digits.
* **`readBelow?_eq_some_iff`** — what is read of a text without white space at its ends is the number that
  it writes, below the bound.
* **`takeDigits?_eq`** — a reader that holds 32 bits only, and looks for an overflow at each digit, finds
  the same: the digits before the last never take it past a value that fits.
* **`limit_grammar`** — what follows for every text, and for the limits that are written.
-/

namespace IdeaBoard.Text

/-! ## Texts that write a number -/

def digitValue (c : Char) : Nat := c.toNat - '0'.toNat

/-- The value of digits by their places, the last one counting once. -/
def placeValue (ds : List Char) : Nat := Nat.ofDigits 10 (ds.reverse.map digitValue)

/-- The text is a number in decimal, perhaps with a plus sign and leading zeros. -/
def Decimal (cs : List Char) (n : Nat) : Prop :=
  ∃ sign ds, cs = sign ++ ds ∧ (sign = [] ∨ sign = ['+']) ∧
    ds ≠ [] ∧ (∀ c ∈ ds, c.isDigit = true) ∧ n = placeValue ds

/-- A digit more at the end moves the others up a place. -/
theorem placeValue_append (ds : List Char) (d : Char) :
    placeValue (ds ++ [d]) = 10 * placeValue ds + digitValue d := by
  simp only [placeValue, List.reverse_append, List.reverse_singleton, List.singleton_append,
    List.map_cons, Nat.ofDigits_cons]
  omega

/-- Reading from the front gives the value by places. -/
theorem ofDigitChars_eq (ds : List Char) : Nat.ofDigitChars 10 ds 0 = placeValue ds := by
  induction ds using List.reverseRecOn with
  | nil => rfl
  | append_singleton ds d ih =>
    rw [placeValue_append, ← ih]
    simp only [Nat.ofDigitChars, List.foldl_append, List.foldl_cons, List.foldl_nil]
    rfl

theorem ne_plus_of_isDigit {c : Char} (h : c.isDigit = true) : c ≠ '+' := by
  rintro rfl
  exact absurd h (by decide)

/-- There is no white space in a number, so trimming takes nothing of it. -/
theorem isBlank_of_mem_decimal {cs : List Char} {n : Nat} (h : Decimal cs n) {c : Char} (hc : c ∈ cs) :
    isBlank c = false := by
  obtain ⟨sign, ds, rfl, hsign, -, hdigits, -⟩ := h
  rcases List.mem_append.mp hc with hin | hin
  · rcases hsign with rfl | rfl
    · exact absurd hin List.not_mem_nil
    · rw [List.mem_singleton.mp hin]
      decide
  · exact isBlank_of_isDigit (hdigits c hin)

theorem trimmed_decimal {cs : List Char} {n : Nat} (h : Decimal cs n) : Trimmed cs :=
  trimmed_of_forall fun _ hc => isBlank_of_mem_decimal h hc

/-- What is written for a number is a number in decimal. -/
theorem decimal_numeral (n : Nat) : Decimal (numeral n).toList n := by
  have hvalue := digitsValue?_numeral n
  unfold digitsValue? at hvalue
  obtain ⟨⟨hne, hall⟩, hsome⟩ := Option.ite_none_right_eq_some.mp hvalue
  refine ⟨[], (numeral n).toList, rfl, .inl rfl, hne, List.all_eq_true.mp hall, ?_⟩
  rw [← ofDigitChars_eq]
  exact (Option.some.inj hsome).symm

/-! ## Reading them -/

/-- What is read of a text is the number that it writes, if that is below the bound. -/
theorem readBelow?_eq_some_iff {bound n : Nat} {cs : List Char} :
    readBelow? bound cs = some n ↔ Decimal cs n ∧ n < bound := by
  have hdigits (ds : List Char) : (digitsValue? ds).filter (· < bound) = some n ↔
      (ds ≠ [] ∧ (∀ c ∈ ds, c.isDigit = true) ∧ n = placeValue ds) ∧ n < bound := by
    rw [Option.filter_eq_some_iff, digitsValue?, ofDigitChars_eq, Option.ite_none_right_eq_some,
      List.all_eq_true, Option.some.injEq, decide_eq_true_iff, and_assoc (a := ds ≠ []), eq_comm]
  unfold readBelow?
  split
  next ds =>
    rw [hdigits]
    refine and_congr_left fun _ => ⟨fun h => ⟨['+'], ds, rfl, .inr rfl, h⟩, ?_⟩
    rintro ⟨sign, es, heq, rfl | rfl, h⟩
    · -- without the sign the plus would be a digit
      obtain rfl : es = '+' :: ds := heq.symm
      exact absurd rfl (ne_plus_of_isDigit (h.2.1 '+' List.mem_cons_self))
    · obtain rfl : ds = es := (List.cons.inj heq).2
      exact h
  next hplus =>
    rw [hdigits]
    refine and_congr_left fun _ => ⟨fun h => ⟨[], cs, rfl, .inl rfl, h⟩, ?_⟩
    rintro ⟨sign, es, heq, rfl | rfl, h⟩
    · obtain rfl : cs = es := heq
      exact h
    · exact absurd heq (hplus es)

/-- A text writes one number only. -/
theorem Decimal.unique {cs : List Char} {m n : Nat} (hm : Decimal cs m) (hn : Decimal cs n) : m = n := by
  have hread (k : Nat) (hk : Decimal cs k) (hle : k ≤ m + n) : readBelow? (m + n + 1) cs = some k :=
    readBelow?_eq_some_iff.mpr ⟨hk, by omega⟩
  exact Option.some.inj ((hread m hm (by omega)).symm.trans (hread n hn (by omega)))

/-! ## Digit by digit -/

/-- Takes the digits of a number into 32 bits, one by one; gives up at the first that does not fit. -/
def takeDigits? (acc : UInt32) : List Char → Option UInt32
  | [] => some acc
  | d :: ds =>
    if acc.toNat * 10 + digitValue d < UInt32.size then
      takeDigits? (acc * 10 + UInt32.ofNat (digitValue d)) ds
    else none

/-- Digits that follow never make a number smaller. -/
theorem le_ofDigitChars (ds : List Char) (acc : Nat) : acc ≤ Nat.ofDigitChars 10 ds acc := by
  induction ds generalizing acc with
  | nil => exact Nat.le_refl acc
  | cons d ds ih =>
    rw [Nat.ofDigitChars_cons]
    have hrest := ih (10 * acc + (d.toNat - '0'.toNat))
    omega

/-- **No digit overflows on the way to a value that fits, and one does on the way to any other.** -/
theorem takeDigits?_eq (ds : List Char) (acc : UInt32) :
    takeDigits? acc ds =
      if Nat.ofDigitChars 10 ds acc.toNat < UInt32.size then
        some (UInt32.ofNat (Nat.ofDigitChars 10 ds acc.toNat))
      else none := by
  -- on the digits that are left, with the value of those taken
  induction ds generalizing acc with
  | nil =>
    show some acc = if acc.toNat < UInt32.size then some (UInt32.ofNat acc.toNat) else none
    rw [if_pos acc.toNat_lt_size, UInt32.ofNat_toNat]
  | cons d ds ih =>
    have hvalue : Nat.ofDigitChars 10 (d :: ds) acc.toNat =
        Nat.ofDigitChars 10 ds (acc.toNat * 10 + digitValue d) := by
      rw [Nat.ofDigitChars_cons, Nat.mul_comm]
      rfl
    rw [takeDigits?, hvalue]
    by_cases hfits : acc.toNat * 10 + digitValue d < UInt32.size
    · -- no wrapping: the value with the new digit is below 2 ^ 32
      have hacc : (acc * 10 + UInt32.ofNat (digitValue d)).toNat = acc.toNat * 10 + digitValue d := by
        have hsize : UInt32.size = 2 ^ 32 := rfl
        rw [UInt32.toNat_add, UInt32.toNat_mul, UInt32.toNat_ofNat']
        show (acc.toNat * 10 % 2 ^ 32 + digitValue d % 2 ^ 32) % 2 ^ 32 = _
        omega
      rw [if_pos hfits, ih, hacc]
    · -- the digits that follow only make it larger
      have hlarger := le_ofDigitChars ds (acc.toNat * 10 + digitValue d)
      rw [if_neg hfits, if_neg (by omega)]

end IdeaBoard.Text

namespace IdeaBoard.Filter

open IdeaBoard.Text

/-- A text that pads a decimal number gives the limit of that number, if there is one. -/
theorem readLimit?_eq_some_iff {cs : List Char} {n : UInt32} :
    readLimit? cs = some n ↔ ∃ body, Padded cs body ∧ Decimal body n.toNat ∧ 0 < n.toNat := by
  unfold readLimit?
  rw [Option.map_eq_some_iff]
  constructor
  · rintro ⟨m, hm, rfl⟩
    obtain ⟨hread, hpos⟩ := Option.filter_eq_some_iff.mp hm
    obtain ⟨hdecimal, hbound⟩ := readBelow?_eq_some_iff.mp hread
    rw [UInt32.toNat_ofNat_of_lt' hbound]
    exact ⟨trim cs, padded_trim cs, hdecimal, by simpa using hpos⟩
  · rintro ⟨body, hpad, hdecimal, hpos⟩
    refine ⟨n.toNat, Option.filter_eq_some_iff.mpr ⟨?_, by simpa using hpos⟩, UInt32.ofNat_toNat⟩
    rw [trim_of_padded hpad (trimmed_decimal hdecimal)]
    exact readBelow?_eq_some_iff.mpr ⟨hdecimal, n.toNat_lt_size⟩

/-- The limit is the one that a reader of 32 bits finds in the digits, if it is not zero. -/
theorem readLimit?_eq_takeDigits? {cs sign ds : List Char} (hpad : Padded cs (sign ++ ds))
    (hsign : sign = [] ∨ sign = ['+']) (hne : ds ≠ []) (hdigits : ∀ c ∈ ds, c.isDigit = true) :
    readLimit? cs = (takeDigits? 0 ds).filter (· ≠ 0) := by
  have hdecimal : Decimal (sign ++ ds) (placeValue ds) := ⟨sign, ds, rfl, hsign, hne, hdigits, rfl⟩
  have htake := takeDigits?_eq ds 0
  rw [UInt32.toNat_zero, ofDigitChars_eq] at htake
  rw [htake, readLimit?, trim_of_padded hpad (trimmed_decimal hdecimal)]
  -- digits that fit are taken to their value, and only zero is refused after that
  by_cases hfits : placeValue ds < UInt32.size
  · rw [if_pos hfits, readBelow?_eq_some_iff.mpr ⟨hdecimal, hfits⟩]
    by_cases hzero : placeValue ds = 0
    · rw [hzero]
      rfl
    · have hne : UInt32.ofNat (placeValue ds) ≠ 0 := by
        intro h
        apply hzero
        rw [← UInt32.toNat_ofNat_of_lt' hfits, h]
        rfl
      rw [Option.filter_some, if_pos (by simpa using Nat.pos_of_ne_zero hzero), Option.filter_some,
        if_pos (by simpa using hne)]
      rfl
  · rw [if_neg hfits]
    have hnone : readBelow? UInt32.size (sign ++ ds) = none := by
      rw [Option.eq_none_iff_forall_ne_some]
      intro m hm
      obtain ⟨hother, hbound⟩ := readBelow?_eq_some_iff.mp hm
      exact hfits (hdecimal.unique hother ▸ hbound)
    rw [hnone]
    rfl

/-- **A text gives a limit just where it is, but for white space around it, a decimal number from one to
the largest of 32 bits, with at most one plus sign and any number of zeros in front; any other text gives
none. No digit of such a number overflows on the way, and no longer number comes back into range. A limit
that is written is such a number, and is read again.** -/
theorem limit_grammar (cs : List Char) :
    (∀ n : Nat, (readLimit? cs).map UInt32.toNat = some n ↔
      (∃ body, Padded cs body ∧ Decimal body n) ∧ 1 ≤ n ∧ n ≤ 2 ^ 32 - 1) ∧
    (readLimit? cs = none ↔
      ∀ body n, Padded cs body → Decimal body n → n = 0 ∨ 2 ^ 32 ≤ n) ∧
    (∀ sign ds, Padded cs (sign ++ ds) → (sign = [] ∨ sign = ['+']) → ds ≠ [] →
      (∀ c ∈ ds, c.isDigit = true) → readLimit? cs = (takeDigits? 0 ds).filter (· ≠ 0)) ∧
    ∀ (f : Filter) (default n : UInt32), f.limit = some n → n ≠ default →
      ∃ text, f.written? default .limit = some text ∧ Decimal text n.toNat ∧
        (n ≠ 0 → readLimit? text = some n) := by
  have hsome (n : Nat) : (readLimit? cs).map UInt32.toNat = some n ↔
      (∃ body, Padded cs body ∧ Decimal body n) ∧ 1 ≤ n ∧ n ≤ 2 ^ 32 - 1 := by
    rw [Option.map_eq_some_iff]
    constructor
    · rintro ⟨m, hm, rfl⟩
      obtain ⟨body, hpad, hdecimal, hpos⟩ := readLimit?_eq_some_iff.mp hm
      have hlt : m.toNat < 2 ^ 32 := m.toNat_lt_size
      exact ⟨⟨body, hpad, hdecimal⟩, hpos, by omega⟩
    · rintro ⟨⟨body, hpad, hdecimal⟩, hpos, hle⟩
      have hn : (UInt32.ofNat n).toNat = n := UInt32.toNat_ofNat_of_lt' (show n < 2 ^ 32 by omega)
      refine ⟨UInt32.ofNat n, readLimit?_eq_some_iff.mpr ⟨body, hpad, ?_, ?_⟩, hn⟩
      · rwa [hn]
      · rwa [hn]
  refine ⟨hsome, ?refused, ?digits, ?written⟩
  case refused =>
    constructor
    · intro hnone body n hpad hdecimal
      -- a number in range would have been read
      by_contra hrange
      have hread := (hsome n).mpr ⟨⟨body, hpad, hdecimal⟩, by omega, by omega⟩
      rw [hnone] at hread
      exact absurd hread (by simp)
    · intro hrange
      rw [Option.eq_none_iff_forall_ne_some]
      intro n hn
      obtain ⟨body, hpad, hdecimal, hpos⟩ := readLimit?_eq_some_iff.mp hn
      have hlt : n.toNat < 2 ^ 32 := n.toNat_lt_size
      rcases hrange body n.toNat hpad hdecimal with hzero | hlarge <;> omega
  case digits =>
    exact fun sign ds hpad hsign hne hdigits => readLimit?_eq_takeDigits? hpad hsign hne hdigits
  case written =>
    intro f default n hlimit hdefault
    refine ⟨(numeral n.toNat).toList, ?_, decimal_numeral n.toNat, fun hne => ?_⟩
    · simp only [written?, hlimit, Option.filter_some]
      rw [if_pos (by simpa using hdefault)]
      rfl
    · -- only a limit of zero is written and not read back
      rw [readLimit?_numeral, if_neg hne]

/-- The largest limit, with all that may stand around it, and the number after it. -/
theorem limit_grammar_edge :
    let largest := "\u00a0\n+0004294967295\t".toList
    let past := "4294967296".toList
    readLimit? largest = some 4294967295 ∧ (takeDigits? 0 "0004294967295".toList).isSome ∧
      readLimit? past = none := by
  intro largest past
  have hpad : Padded largest (['+'] ++ "0004294967295".toList) := (trim_eq_iff.mp (by decide)).1
  have hdigits : ∀ c ∈ "0004294967295".toList, c.isDigit = true := List.all_eq_true.mp (by decide)
  have hdecimal : Decimal (['+'] ++ "0004294967295".toList) 4294967295 :=
    ⟨['+'], _, rfl, .inr rfl, by decide, hdigits, by decide⟩
  have hlargest : (readLimit? largest).map UInt32.toNat = some 4294967295 :=
    ((limit_grammar largest).1 4294967295).mpr ⟨⟨_, hpad, hdecimal⟩, by decide, by decide⟩
  have hread : readLimit? largest = some 4294967295 := by
    obtain ⟨n, hn, hvalue⟩ := Option.map_eq_some_iff.mp hlargest
    rw [hn, show n = 4294967295 from UInt32.toNat_inj.mp hvalue]
  have htake := (limit_grammar largest).2.2.1 ['+'] _ hpad (.inr rfl) (by decide) hdigits
  refine ⟨hread, ?_, (limit_grammar past).2.1.mpr fun body n hother hvalue => .inr ?_⟩
  · rw [hread] at htake
    rw [(Option.filter_eq_some_iff.mp htake.symm).1]
    rfl
  · -- the number after it pads itself alone
    have hdigits : ∀ c ∈ past, c.isDigit = true := List.all_eq_true.mp (by decide)
    have hself : Decimal past 4294967296 := ⟨[], past, rfl, .inl rfl, by decide, hdigits, by decide⟩
    have hbody : body = past := by
      rw [← trim_of_padded hother (trimmed_decimal hvalue), trim_of_trimmed (trimmed_decimal hself)]
    subst hbody
    exact (hvalue.unique hself).ge

end IdeaBoard.Filter
