import IdeaBoard.Text.Utf8

/-!
# IdeaBoard — reading back the octets of a text

The octets of a text are read back as the text, by the lenient and by the strict reading alike.

* **`lead_two` / `lead_three` / `lead_four`** — the first octet of a character of two, three or four
  octets puts a character in progress, with a range that admits the second octet that is written.
* **`step_more` / `step_last`** — an octet of that range continues the character.
* **`itemsFrom_encodeChar`** — so the octets of one character give that character, whatever follows.
-/

namespace IdeaBoard.Text.Utf8

/-! ## Single octets -/

theorem toNat_octet {n : Nat} (h : n < 256) : (UInt8.ofNat n).toNat = n :=
  UInt8.toNat_ofNat_of_lt' h

theorem lead_one {n : Nat} (h : n < 0x80) : lead (.ofNat n) = .char (Char.ofNat n) := by
  have hn : (UInt8.ofNat n).toNat = n := toNat_octet (by omega)
  simp only [lead, hn]
  rw [if_pos h]

theorem lead_two {n : Nat} (h : 0xC2 ≤ n) (h' : n < 0xE0) :
    lead (.ofNat n) = .pending ⟨1, n - 0xC0, 0x80, 0xBF⟩ := by
  have hn : (UInt8.ofNat n).toNat = n := toNat_octet (by omega)
  simp only [lead, hn]
  rw [if_neg (by omega), if_neg (by omega), if_pos h']

/-- The second octet `m` of three is narrowed after `E0` (nothing overlong) and after `ED` (no
surrogate). -/
theorem lead_three {n m : Nat} (h : 0xE0 ≤ n) (h' : n < 0xF0) (hm : 0x80 ≤ m) (hm' : m ≤ 0xBF)
    (hlow : n = 0xE0 → 0xA0 ≤ m) (hhigh : n = 0xED → m ≤ 0x9F) :
    ∃ lo hi, lead (.ofNat n) = .pending ⟨2, n - 0xE0, lo, hi⟩ ∧ lo ≤ m ∧ m ≤ hi := by
  have hn : (UInt8.ofNat n).toNat = n := toNat_octet (by omega)
  simp only [lead, hn]
  rw [if_neg (by omega), if_neg (by omega), if_neg (by omega)]
  -- the leads with a narrower range for the second octet come first
  by_cases h0 : n = 0xE0
  · rw [if_pos h0]
    exact ⟨0xA0, 0xBF, by rw [h0], hlow h0, hm'⟩
  · rw [if_neg h0]
    by_cases hd : n = 0xED
    · rw [if_pos hd]
      exact ⟨0x80, 0x9F, by rw [hd], hm, hhigh hd⟩
    · rw [if_neg hd, if_pos h']
      exact ⟨0x80, 0xBF, rfl, hm, hm'⟩

/-- The second octet `m` of four is narrowed after `F0` (nothing overlong) and after `F4` (nothing
past U+10FFFF). -/
theorem lead_four {n m : Nat} (h : 0xF0 ≤ n) (h' : n ≤ 0xF4) (hm : 0x80 ≤ m) (hm' : m ≤ 0xBF)
    (hlow : n = 0xF0 → 0x90 ≤ m) (hhigh : n = 0xF4 → m ≤ 0x8F) :
    ∃ lo hi, lead (.ofNat n) = .pending ⟨3, n - 0xF0, lo, hi⟩ ∧ lo ≤ m ∧ m ≤ hi := by
  have hn : (UInt8.ofNat n).toNat = n := toNat_octet (by omega)
  simp only [lead, hn]
  rw [if_neg (by omega), if_neg (by omega), if_neg (by omega), if_neg (by omega),
    if_neg (by omega), if_neg (by omega)]
  by_cases h0 : n = 0xF0
  · rw [if_pos h0]
    exact ⟨0x90, 0xBF, by rw [h0], hlow h0, hm'⟩
  · rw [if_neg h0]
    by_cases h4 : n < 0xF4
    · rw [if_pos h4]
      exact ⟨0x80, 0xBF, rfl, hm, hm'⟩
    · have heq : n = 0xF4 := by omega
      rw [if_neg h4, if_pos heq]
      exact ⟨0x80, 0x8F, by rw [heq], hm, hhigh heq⟩

/-! ## A character in progress -/

/-- An octet in range goes into the value, and more are missing. -/
theorem step_more {p : Pending} {n : Nat} (hn : n < 256) (hlo : p.lo ≤ n) (hhi : n ≤ p.hi)
    (hmissing : 1 < p.missing) :
    step (some p) (.ofNat n)
      = ([], some ⟨p.missing - 1, p.value * 0x40 + (n - 0x80), 0x80, 0xBF⟩) := by
  simp only [step, toNat_octet hn]
  rw [if_pos ⟨hlo, hhi⟩, if_neg (by omega)]

/-- The last octet completes the character. -/
theorem step_last {p : Pending} {n : Nat} (hn : n < 256) (hlo : p.lo ≤ n) (hhi : n ≤ p.hi)
    (hmissing : p.missing = 1) :
    step (some p) (.ofNat n) = ([.char (Char.ofNat (p.value * 0x40 + (n - 0x80)))], none) := by
  simp only [step, toNat_octet hn]
  rw [if_pos ⟨hlo, hhi⟩, if_pos (by omega)]

theorem itemsFrom_cons (state : Option Pending) (b : UInt8) (bs : List UInt8) :
    itemsFrom state (b :: bs) = (step state b).1 ++ itemsFrom (step state b).2 bs := by
  cases state <;> rfl

theorem itemsFrom_lead {b : UInt8} {p : Pending} (h : lead b = .pending p) (bs : List UInt8) :
    itemsFrom none (b :: bs) = itemsFrom (some p) bs := by
  rw [itemsFrom_cons]
  simp [step, start, h]

/-! ## Whole characters -/

/-- The octets of a character are read as it, whatever follows. -/
theorem itemsFrom_encodeChar (c : Char) (rest : List UInt8) :
    itemsFrom none (encodeChar c ++ rest) = .char c :: itemsFrom none rest := by
  -- no surrogate, and none past the last code point: this is what the narrowed ranges leave out
  have hvalid : c.toNat < 0xD800 ∨ (0xDFFF < c.toNat ∧ c.toNat < 0x110000) := c.valid
  simp only [encodeChar]
  by_cases h1 : c.toNat < 0x80
  · -- one octet: the code point itself
    rw [if_pos h1, List.singleton_append, itemsFrom_cons]
    simp [step, start, lead_one h1]
  rw [if_neg h1]
  by_cases h2 : c.toNat < 0x800
  · -- two octets
    rw [if_pos h2]
    simp only [List.cons_append, List.nil_append]
    rw [itemsFrom_lead (lead_two (by omega) (by omega)), itemsFrom_cons,
      step_last (by omega) (by simp only; omega) (by simp only; omega) rfl]
    simp only [List.cons_append, List.nil_append]
    rw [show (0xC0 + c.toNat / 0x40 - 0xC0) * 0x40 + (0x80 + c.toNat % 0x40 - 0x80) = c.toNat from by
      omega, Char.ofNat_toNat]
  rw [if_neg h2]
  by_cases h3 : c.toNat < 0x10000
  · -- three octets
    rw [if_pos h3]
    simp only [List.cons_append, List.nil_append]
    obtain ⟨lo, hi, hlead, hlo, hhi⟩ := lead_three (n := 0xE0 + c.toNat / 0x1000)
      (m := 0x80 + c.toNat / 0x40 % 0x40) (by omega) (by omega) (by omega) (by omega)
      (by omega) (by omega)
    rw [itemsFrom_lead hlead, itemsFrom_cons, step_more (by omega) hlo hhi (by simp only; omega),
      itemsFrom_cons, step_last (by omega) (by simp only; omega) (by simp only; omega) rfl]
    simp only [List.cons_append, List.nil_append]
    rw [show ((0xE0 + c.toNat / 0x1000 - 0xE0) * 0x40 + (0x80 + c.toNat / 0x40 % 0x40 - 0x80)) * 0x40
      + (0x80 + c.toNat % 0x40 - 0x80) = c.toNat from by omega, Char.ofNat_toNat]
  · -- four octets
    rw [if_neg h3]
    simp only [List.cons_append, List.nil_append]
    obtain ⟨lo, hi, hlead, hlo, hhi⟩ := lead_four (n := 0xF0 + c.toNat / 0x40000)
      (m := 0x80 + c.toNat / 0x1000 % 0x40) (by omega) (by omega) (by omega) (by omega)
      (by omega) (by omega)
    rw [itemsFrom_lead hlead, itemsFrom_cons, step_more (by omega) hlo hhi (by simp only; omega),
      itemsFrom_cons, step_more (by omega) (by simp only; omega) (by simp only; omega)
        (by simp only; omega),
      itemsFrom_cons, step_last (by omega) (by simp only; omega) (by simp only; omega) rfl]
    simp only [List.cons_append, List.nil_append]
    rw [show (((0xF0 + c.toNat / 0x40000 - 0xF0) * 0x40
      + (0x80 + c.toNat / 0x1000 % 0x40 - 0x80)) * 0x40
      + (0x80 + c.toNat / 0x40 % 0x40 - 0x80)) * 0x40
      + (0x80 + c.toNat % 0x40 - 0x80) = c.toNat from by omega, Char.ofNat_toNat]

/-! ## Whole texts -/

/-- **The octets of a text hold its characters and nothing ill-formed.** -/
theorem items_encode (cs : List Char) : items (encode cs) = cs.map .char := by
  unfold items encode
  induction cs with
  | nil => rfl
  | cons c cs ih => rw [List.flatMap_cons, itemsFrom_encodeChar, ih, List.map_cons]

/-- Lenient reading gives the text back. -/
theorem decodeLenient_encode (cs : List Char) : decodeLenient (encode cs) = cs := by
  rw [decodeLenient, items_encode, List.map_map]
  exact List.map_id cs

/-- Strict reading gives the text back. -/
theorem decode?_encode (cs : List Char) : decode? (encode cs) = some cs := by
  rw [decode?, items_encode]
  induction cs with
  | nil => rfl
  | cons c cs ih =>
    rw [List.map_cons, List.mapM_cons, ih]
    rfl

theorem encodeChar_ascii {c : Char} (h : c.toNat < 0x80) : encodeChar c = [.ofNat c.toNat] := by
  simp only [encodeChar]
  rw [if_pos h]

/-- Octets below 128, read as characters, are their own octets. -/
theorem encode_ascii {cs : List Char} (h : ∀ c ∈ cs, c.toNat < 0x80) :
    encode cs = cs.map fun c => .ofNat c.toNat := by
  unfold encode
  induction cs with
  | nil => rfl
  | cons c cs ih =>
    rw [List.flatMap_cons, encodeChar_ascii (h c List.mem_cons_self),
      ih fun d hd => h d (List.mem_cons_of_mem c hd)]
    rfl

theorem encodeChar_ne_nil (c : Char) : encodeChar c ≠ [] := by
  simp only [encodeChar]
  repeat' split
  all_goals exact List.cons_ne_nil _ _

/-- The octets of a character beyond ASCII are beyond it too. -/
theorem le_of_mem_encodeChar {c : Char} (h : ¬c.toNat < 0x80) {b : UInt8} (hb : b ∈ encodeChar c) :
    0x80 ≤ b.toNat := by
  have hvalid : c.toNat < 0x110000 := by
    rcases c.valid with hlow | ⟨_, hhigh⟩
    · exact Nat.lt_trans hlow (by decide)
    · exact hhigh
  simp only [encodeChar, if_neg h] at hb
  -- two, three or four octets, each of them from `0x80` on
  split at hb
  · simp only [List.mem_cons, List.not_mem_nil, or_false] at hb
    rcases hb with rfl | rfl <;> rw [toNat_octet (by omega)] <;> omega
  · split at hb
    · simp only [List.mem_cons, List.not_mem_nil, or_false] at hb
      rcases hb with rfl | rfl | rfl <;> rw [toNat_octet (by omega)] <;> omega
    · simp only [List.mem_cons, List.not_mem_nil, or_false] at hb
      rcases hb with rfl | rfl | rfl | rfl <;> rw [toNat_octet (by omega)] <;> omega

/-- An octet below 128 is there for a character of its own. -/
theorem mem_of_mem_encode {cs : List Char} {b : UInt8} (h : b ∈ encode cs) (ascii : b.toNat < 0x80) :
    Char.ofNat b.toNat ∈ cs := by
  obtain ⟨c, hc, hb⟩ := List.mem_flatMap.mp h
  by_cases hascii : c.toNat < 0x80
  · rw [encodeChar_ascii hascii, List.mem_singleton] at hb
    have hoctet : b.toNat = c.toNat := by rw [hb, toNat_octet (by omega)]
    rwa [hoctet, Char.ofNat_toNat]
  · have habove := le_of_mem_encodeChar hascii hb
    omega

/-- Where all octets are below 128, so are the characters. -/
theorem ascii_of_encode {cs : List Char} (h : ∀ b ∈ encode cs, b.toNat < 0x80) :
    ∀ c ∈ cs, c.toNat < 0x80 := by
  intro c hc
  -- a character beyond ASCII would have left an octet beyond it
  apply Classical.byContradiction
  intro hascii
  obtain ⟨b, bs, hbs⟩ := List.exists_cons_of_ne_nil (encodeChar_ne_nil c)
  have hb : b ∈ encodeChar c := hbs ▸ List.mem_cons_self
  have hbelow := h b (List.mem_flatMap.mpr ⟨c, hc, hb⟩)
  have habove := le_of_mem_encodeChar hascii hb
  omega

end IdeaBoard.Text.Utf8
