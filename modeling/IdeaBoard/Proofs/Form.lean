import IdeaBoard.Form
import IdeaBoard.Proofs.Blank
import IdeaBoard.Proofs.Split
import IdeaBoard.Proofs.Utf8

/-!
# IdeaBoard — reading back form-encoded text

What is written into a form-encoded text is read back, for every text.

* **`Spells`** — a written text stands for a text wherever it occurs: reading takes its octets up and
  goes on behind them. Spelled texts can be put one after the other (`Spells.append`), so it is enough
  to say what is spelled by one octet's writing, and by one character that stands for itself.
* **`decode_encode`** — a written component is read back.
* **`isComponentChar_of_mem_encode`** — the alphabet of components; it has no `&`, `=`, `,`, `?` or `#`,
  so none of these can leak out of a value into the structure around it.
* **`pairs_join` / `pairOf_append`** — the cuts at `&` and at the first `=` undo the joining.
-/

namespace IdeaBoard.Form

open IdeaBoard.Text

/-! ## Octets -/

/-- An octet that stands for itself is ASCII, and neither a percent sign nor a plus sign. -/
theorem isPlain_bounds {b : UInt8} (h : isPlain b = true) :
    b.toNat < 0x80 ∧ b.toNat ≠ 0x25 ∧ b.toNat ≠ 0x2B := by
  simp only [isPlain, Bool.or_eq_true, Bool.and_eq_true, decide_eq_true_eq] at h
  omega

theorem hexDigit?_hexChar : ∀ n < 16, hexDigit? (hexChar n) = some n := by decide

theorem hexChar_bounds : ∀ n < 16, (hexChar n).toNat < 0x80 ∧ hexChar n ≠ '+' := by decide

/-- An octet that is no `%` stands for itself. -/
theorem percentDecode_cons_of_ne {b : UInt8} (h : b.toNat ≠ 0x25) (bs : List UInt8) :
    percentDecode (b :: bs) = b :: percentDecode bs := by
  match bs with
  | [] => rfl
  | [_] => rfl
  | _ :: _ :: _ =>
    rw [percentDecode, escaped?, if_neg h]

/-- `%` and the hexadecimal digits of an octet stand for the octet. -/
theorem percentDecode_escape (b : UInt8) (rest : List UInt8) :
    percentDecode (.ofNat ('%').toNat :: .ofNat (hexChar (b.toNat / 16)).toNat ::
      .ofNat (hexChar (b.toNat % 16)).toNat :: rest) = b :: percentDecode rest := by
  have hb : b.toNat < 256 := b.toNat_lt
  have hdigit : ∀ n < 16, hexOctet? (.ofNat (hexChar n).toNat) = some n := by
    intro n hn
    obtain ⟨hascii, _⟩ := hexChar_bounds n hn
    rw [hexOctet?, Utf8.toNat_octet (by omega), Char.ofNat_toNat, hexDigit?_hexChar n hn]
  -- high digit and low digit make the octet again
  have hescaped : escaped? (.ofNat ('%').toNat) (.ofNat (hexChar (b.toNat / 16)).toNat)
      (.ofNat (hexChar (b.toNat % 16)).toNat) = some b := by
    rw [escaped?, if_pos (by decide), hdigit _ (by omega), hdigit _ (by omega)]
    simp only [Option.bind_eq_bind, Option.bind_some, Option.pure_def]
    rw [show b.toNat / 16 * 16 + b.toNat % 16 = b.toNat from by omega, UInt8.ofNat_toNat]
  rw [percentDecode, hescaped]

/-! ## Spelled texts -/

/-- The octets that reading sees. -/
def octets (cs : List Char) : List UInt8 := Utf8.encode (cs.map plusToSpace)

/-- Wherever `cs` occurs, reading finds `text` there and goes on behind it. -/
def Spells (cs text : List Char) : Prop :=
  ∀ rest, percentDecode (octets cs ++ rest) = Utf8.encode text ++ percentDecode rest

theorem octets_append (a b : List Char) : octets (a ++ b) = octets a ++ octets b := by
  simp [octets, Utf8.encode]

/-- ASCII characters are octets as they are, but for the plus sign. -/
theorem octets_ascii {cs : List Char} (h : ∀ c ∈ cs, c.toNat < 0x80 ∧ c ≠ '+') :
    octets cs = cs.map fun c => .ofNat c.toNat := by
  have hmap : cs.map plusToSpace = cs.map id :=
    List.map_congr_left fun c hc => by rw [plusToSpace, if_neg (h c hc).2, id]
  rw [octets, hmap, List.map_id]
  exact Utf8.encode_ascii fun c hc => (h c hc).1

/-- Texts that are spelled one after the other spell their texts one after the other. -/
theorem Spells.append {a b s t : List Char} (ha : Spells a s) (hb : Spells b t) :
    Spells (a ++ b) (s ++ t) := by
  intro rest
  rw [octets_append, List.append_assoc, ha, hb]
  simp [Utf8.encode]

theorem spells_nil : Spells [] [] := fun _ => rfl

/-- Reading a spelled text gives what it spells. -/
theorem Spells.decode_eq {cs text : List Char} (h : Spells cs text) : decode cs = text := by
  have hall := h []
  rw [List.append_nil, show percentDecode [] = [] from rfl, List.append_nil] at hall
  rw [decode, show Utf8.encode (cs.map plusToSpace) = octets cs from rfl, hall,
    Utf8.decodeLenient_encode]

/-- An ASCII character that is neither `%` nor `+` spells itself. -/
theorem spells_char {c : Char} (hascii : c.toNat < 0x80) (hpercent : c ≠ '%') (hplus : c ≠ '+') :
    Spells [c] [c] := by
  intro rest
  have hne : c.toNat ≠ 0x25 := fun h => hpercent (Char.toNat_inj.mp h)
  have hoctets : octets [c] = [.ofNat c.toNat] := octets_ascii (by simp [hascii, hplus])
  rw [hoctets, Utf8.encode_ascii (by simp [hascii])]
  simp only [List.map_cons, List.map_nil, List.singleton_append]
  exact percentDecode_cons_of_ne (by rwa [Utf8.toNat_octet (by omega)]) rest

theorem spells_chars {cs : List Char} (h : ∀ c ∈ cs, c.toNat < 0x80 ∧ c ≠ '%' ∧ c ≠ '+') :
    Spells cs cs := by
  induction cs with
  | nil => exact spells_nil
  | cons c cs ih =>
    obtain ⟨hascii, hpercent, hplus⟩ := h c List.mem_cons_self
    exact (spells_char hascii hpercent hplus).append
      (ih fun d hd => h d (List.mem_cons_of_mem c hd))

/-! ## Components -/

/-- The three ways of writing an octet, read back. -/
theorem percentDecode_encodeOctet (b : UInt8) (rest : List UInt8) :
    percentDecode (octets (encodeOctet b) ++ rest) = b :: percentDecode rest := by
  unfold encodeOctet
  split
  · -- the octet stands for itself
    next hplain =>
    obtain ⟨hascii, hpercent, hplus⟩ := isPlain_bounds hplain
    have hchar : (Char.ofNat b.toNat).toNat = b.toNat := toNat_ofNat_of_valid (.inl (by omega))
    have hne : Char.ofNat b.toNat ≠ '+' := by
      intro h
      rw [h] at hchar
      exact hplus hchar.symm
    rw [octets_ascii (by simp [hchar, hascii, hne])]
    simp only [List.map_cons, List.map_nil, List.singleton_append, hchar, UInt8.ofNat_toNat]
    exact percentDecode_cons_of_ne hpercent rest
  · split
    · -- a space is written as a plus sign
      next hspace =>
      obtain rfl : b = 0x20 := UInt8.toNat_inj.mp hspace
      exact percentDecode_cons_of_ne (by decide) rest
    · -- anything else is written in hexadecimal
      obtain ⟨hhigh, hhigh'⟩ := hexChar_bounds (b.toNat / 16) (by have := b.toNat_lt; omega)
      obtain ⟨hlow, hlow'⟩ := hexChar_bounds (b.toNat % 16) (by omega)
      rw [percent, octets_ascii (by simp [hhigh, hhigh', hlow, hlow'])]
      exact percentDecode_escape b rest

/-- Octets are read back one by one. -/
theorem percentDecode_encodeOctets (bs rest : List UInt8) :
    percentDecode (octets (bs.flatMap encodeOctet) ++ rest) = bs ++ percentDecode rest := by
  induction bs with
  | nil => rfl
  | cons b bs ih =>
    rw [List.flatMap_cons, octets_append, List.append_assoc, percentDecode_encodeOctet, ih,
      List.cons_append]

/-- A written component spells its text. -/
theorem spells_encode (cs : List Char) : Spells (encode cs) cs :=
  fun rest => percentDecode_encodeOctets (Utf8.encode cs) rest

/-- **A written component is read back.** -/
theorem decode_encode (cs : List Char) : decode (encode cs) = cs := (spells_encode cs).decode_eq

/-- Joined components spell the joined texts. -/
theorem spells_join {sep : Char} (hsep : Spells [sep] [sep]) (ps : List (List Char)) :
    Spells (join [sep] (ps.map encode)) (join [sep] ps) := by
  induction ps with
  | nil => exact spells_nil
  | cons p ps ih =>
    cases ps with
    | nil => exact spells_encode p
    | cons q qs => exact ((spells_encode p).append hsep).append ih

/-! ## The alphabet of components -/

def isComponentChar (c : Char) : Bool :=
  (decide (c.toNat < 0x80) && isPlain (.ofNat c.toNat)) || c = '+' || c = '%'

theorem isComponentChar_hexChar : ∀ n < 16, isComponentChar (hexChar n) = true := by decide

/-- Whatever a component holds is of the alphabet. -/
theorem isComponentChar_of_mem_encode {cs : List Char} {c : Char} (h : c ∈ encode cs) :
    isComponentChar c = true := by
  obtain ⟨b, _, hc⟩ := List.mem_flatMap.mp h
  unfold encodeOctet at hc
  split at hc
  · next hplain =>
    obtain ⟨hascii, _, _⟩ := isPlain_bounds hplain
    have hchar : (Char.ofNat b.toNat).toNat = b.toNat := toNat_ofNat_of_valid (.inl (by omega))
    rw [List.mem_singleton.mp hc]
    simp [isComponentChar, hchar, hascii, hplain]
  · split at hc
    · rw [List.mem_singleton.mp hc]
      decide
    · have hb : b.toNat < 256 := b.toNat_lt
      simp only [percent, List.mem_cons, List.not_mem_nil, or_false] at hc
      rcases hc with rfl | rfl | rfl
      · decide
      · exact isComponentChar_hexChar _ (by omega)
      · exact isComponentChar_hexChar _ (by omega)

/-! ## Pairs -/

/-- The pairs of the segments between the ampersands; empty segments hold none. -/
def pairsOf (segments : List (List Char)) : List (List Char × List Char) :=
  (segments.filter (· ≠ [])).map pairOf

theorem pairs_eq (cs : List Char) : pairs cs = pairsOf (pieces '&' cs) := rfl

theorem pairsOf_append (a b : List (List Char)) : pairsOf (a ++ b) = pairsOf a ++ pairsOf b := by
  rw [pairsOf, List.filter_append, List.map_append]
  rfl

theorem pairsOf_cons {segment : List Char} (h : segment ≠ []) (segments : List (List Char)) :
    pairsOf (segment :: segments) = pairOf segment :: pairsOf segments := by
  simp [pairsOf, h]

theorem pairsOf_empty_cons (segments : List (List Char)) :
    pairsOf ([] :: segments) = pairsOf segments := rfl

theorem pairsOf_of_ne_nil {segments : List (List Char)} (h : ∀ s ∈ segments, s ≠ []) :
    pairsOf segments = segments.map pairOf := by
  rw [pairsOf, List.filter_eq_self.mpr fun s hs => by simpa using h s hs]

/-- The segments between the ampersands are the ones that were joined. -/
theorem pairs_join {segments : List (List Char)} (h : ∀ s ∈ segments, '&' ∉ s) :
    pairs (join ['&'] segments) = pairsOf segments := by
  by_cases hnil : segments = []
  · subst hnil
    rfl
  · rw [pairs_eq, pieces_join_of_not_mem hnil h]

/-- An ampersand between two texts separates their pairs. -/
theorem pairs_append (a b : List Char) : pairs (a ++ '&' :: b) = pairs a ++ pairs b := by
  rw [pairs_eq, pieces_append, pairsOf_append]
  rfl

/-- A pair is cut at the first equals sign. -/
theorem pairOf_append {name : List Char} (h : '=' ∉ name) (value : List Char) :
    pairOf (name ++ '=' :: value) = (decode name, decode value) := by
  rw [pairOf, cutFirst?_append h]

/-! ## The first pair of a name -/

def first? (name : List Char) (ps : List (List Char × List Char)) : Option (List Char) :=
  (ps.find? fun p => p.1 = name).map Prod.snd

theorem first?_cons (name : List Char) (p : List Char × List Char)
    (ps : List (List Char × List Char)) :
    first? name (p :: ps) = if p.1 = name then some p.2 else first? name ps := by
  unfold first?
  rw [List.find?_cons]
  by_cases h : p.1 = name <;> simp [h]

theorem first?_append (name : List Char) (ps qs : List (List Char × List Char)) :
    first? name (ps ++ qs) = (first? name ps).or (first? name qs) := by
  induction ps with
  | nil => rfl
  | cons p ps ih =>
    rw [List.cons_append, first?_cons, first?_cons, ih]
    split <;> rfl

/-- There is a first pair of a name where there is a pair of that name. -/
theorem isSome_first?_iff {name : List Char} {ps : List (List Char × List Char)} :
    (first? name ps).isSome ↔ ∃ value, (name, value) ∈ ps := by
  induction ps with
  | nil => simp [first?]
  | cons p ps ih =>
    rw [first?_cons]
    split
    · next hname =>
      subst hname
      simp only [Option.isSome_some, true_iff]
      exact ⟨p.2, List.mem_cons_self⟩
    · next hname =>
      rw [ih]
      refine exists_congr fun value => ?_
      have hother : (name, value) ≠ p := fun h => hname (h ▸ rfl)
      simp [hother]

end IdeaBoard.Form
