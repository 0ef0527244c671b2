import Mathlib.Data.List.Forall2
import IdeaBoard.Config.Reader
import IdeaBoard.Config.Writer
import IdeaBoard.Proofs.Blank

/-!
# IdeaBoard — the tokens of a written configuration

The text of a configuration is cut into the tokens that it was put together from: for every line the name
of the field, a colon, the value as one token, and a comma.

* **`Scan.scan?`** — the scanner over a part of a text: the tokens completed there and the state behind
  it. Parts follow each other (`scan?_append`), so each kind of part is scanned on its own.
* **`scan?_escapeChar`** — whichever way a character is written between quotes, the scanner takes it for
  that character. So a quoted text is one token with the text in it (`scan?_quotedText`).
* **`scan?_toDigits`** — a numeral is one token with its digits in it, where a comma follows.
* **`fieldTokens` / `tokens?_text`** — the tokens of each field, and of the whole text.
-/

namespace IdeaBoard.Config

open IdeaBoard.Text

namespace Scan

/-! ## Parts of a text -/

/-- The tokens completed by some characters, and the state behind them. -/
def scan? : Scan → List Char → Option (List Token × Scan)
  | state, [] => some ([], state)
  | state, c :: cs => do
    let (found, next) ← state.step? c
    let (more, last) ← next.scan? cs
    return (found ++ more, last)

variable {a b d : Scan} {cs ds : List Char} {ts us : List Token}

/-- A part is scanned by a step over its first character and on from the state behind that. -/
theorem scan?_cons_iff {c : Char} :
    a.scan? (c :: cs) = some (ts, d) ↔
      ∃ found next more, a.step? c = some (found, next) ∧ next.scan? cs = some (more, d) ∧
        ts = found ++ more := by
  rw [scan?]
  simp only [Option.bind_eq_bind, Option.bind_eq_some_iff]
  constructor
  · rintro ⟨⟨found, next⟩, hstep, ⟨more, last⟩, hrest, hpair⟩
    obtain ⟨rfl, rfl⟩ := Prod.mk.inj (Option.some.inj hpair)
    exact ⟨found, next, more, hstep, hrest, rfl⟩
  · rintro ⟨found, next, more, hstep, hrest, rfl⟩
    exact ⟨(found, next), hstep, (more, d), hrest, rfl⟩

theorem scan?_cons {c : Char} (hc : a.step? c = some (ts, b)) (hcs : b.scan? cs = some (us, d)) :
    a.scan? (c :: cs) = some (ts ++ us, d) :=
  scan?_cons_iff.mpr ⟨ts, b, us, hc, hcs, rfl⟩

/-- **What follows a part is scanned from the state behind it.** -/
theorem scan?_append (hcs : a.scan? cs = some (ts, b)) (hds : b.scan? ds = some (us, d)) :
    a.scan? (cs ++ ds) = some (ts ++ us, d) := by
  -- over the first part, from any state; the second starts wherever that ends
  induction cs generalizing a ts with
  | nil =>
    obtain ⟨rfl, rfl⟩ := Prod.mk.inj (Option.some.inj hcs)
    exact hds
  | cons c cs ih =>
    obtain ⟨found, next, more, hstep, hrest, rfl⟩ := scan?_cons_iff.mp hcs
    rw [List.cons_append, List.append_assoc]
    exact scan?_cons hstep (ih hrest)

/-- A text that is scanned to its end has the tokens found on the way, and those that its end
completes. -/
theorem tokens?_of_scan? (hcs : a.scan? cs = some (ts, b)) (hend : b.finish? = some us) :
    a.tokens? cs = some (ts ++ us) := by
  induction cs generalizing a ts with
  | nil =>
    obtain ⟨rfl, rfl⟩ := Prod.mk.inj (Option.some.inj hcs)
    exact hend
  | cons c cs ih =>
    obtain ⟨found, next, more, hstep, hrest, rfl⟩ := scan?_cons_iff.mp hcs
    have hmore : next.tokens? cs = some (more ++ us) := ih hrest
    rw [Scan.tokens?, hstep, List.append_assoc]
    simp only [Option.bind_eq_bind, Option.bind_some, hmore]
    rfl

end Scan

/-! ## Digits -/

/-- The digits of a numeral are the first ones of its base. -/
theorem mem_toDigits {base n : Nat} (hbase : 1 < base) {c : Char} (h : c ∈ Nat.toDigits base n) :
    ∃ k < base, c = k.digitChar := by
  -- on the quotient, which has the digits before the last one
  induction n using Nat.strongRecOn with
  | ind n ih =>
    rw [Nat.toDigits_eq_if hbase] at h
    split at h
    · next hlt => exact ⟨n, hlt, List.mem_singleton.mp h⟩
    · next hge =>
      rcases List.mem_append.mp h with hin | hlast
      · exact ih (n / base) (Nat.div_lt_self (by omega) hbase) hin
      · exact ⟨n % base, Nat.mod_lt n (by omega), List.mem_singleton.mp hlast⟩

theorem hexDigit?_digitChar : ∀ k < 16, hexDigit? k.digitChar = some k := by decide

/-- A numeral is read on from the value of its front. -/
theorem hexValueFrom?_append {acc v : Nat} {cs : List Char} (h : hexValueFrom? acc cs = some v)
    (ds : List Char) : hexValueFrom? acc (cs ++ ds) = hexValueFrom? v ds := by
  induction cs generalizing acc with
  | nil =>
    obtain rfl := Option.some.inj h
    rfl
  | cons c cs ih =>
    rw [hexValueFrom?] at h
    obtain ⟨k, hk, hrest⟩ := Option.bind_eq_some_iff.mp h
    rw [List.cons_append, hexValueFrom?, hk]
    exact ih hrest

/-- A hexadecimal numeral has the value that it was written for. -/
theorem hexValueFrom?_toDigits (n : Nat) : hexValueFrom? 0 (Nat.toDigits 16 n) = some n := by
  induction n using Nat.strongRecOn with
  | ind n ih =>
    rw [Nat.toDigits_eq_if (by decide)]
    split
    · next hlt =>
      rw [hexValueFrom?, hexDigit?_digitChar n hlt, Nat.zero_mul]
      simp [hexValueFrom?]
    · next hge =>
      have hlast : hexDigit? (n % 16).digitChar = some (n % 16) :=
        hexDigit?_digitChar _ (Nat.mod_lt n (by decide))
      rw [hexValueFrom?_append (ih (n / 16) (by omega)), hexValueFrom?, hlast]
      simp only [Option.bind_eq_bind, Option.bind_some, hexValueFrom?, Option.some.injEq]
      omega

/-! ## Between quotes -/

namespace Scan

theorem charOf?_toNat (c : Char) : charOf? c.toNat = some c := by
  have hvalid : c.toNat.isValidChar := c.valid
  rw [charOf?, dif_pos hvalid]
  exact congrArg some (Char.toNat_inj.mp rfl)

/-- The digits of a code point, of which there may be six. -/
theorem scan?_codePointDigits (done : List Char) {count value v : Nat} {cs : List Char}
    (h : hexValueFrom? value cs = some v) (hcount : count + cs.length ≤ 6) :
    (codePointDigits .text done count value).scan? cs =
      some ([], codePointDigits .text done (count + cs.length) v) := by
  -- each digit moves one from the length to the count, so their sum stays below the bound
  induction cs generalizing count value with
  | nil =>
    obtain rfl := Option.some.inj h
    rfl
  | cons c cs ih =>
    rw [hexValueFrom?] at h
    obtain ⟨k, hk, hrest⟩ := Option.bind_eq_some_iff.mp h
    rw [List.length_cons] at hcount
    have hbrace : c ≠ '\x7d' := by
      rintro rfl
      rw [show hexDigit? '\x7d' = none from by decide] at hk
      exact absurd hk (by simp)
    have hstep : (codePointDigits .text done count value).step? c =
        some ([], codePointDigits .text done (count + 1) (value * 16 + k)) := by
      rw [step?, if_neg hbrace, if_neg (by omega), hk]
      rfl
    have hcount' : count + 1 + cs.length ≤ 6 := by omega
    rw [List.length_cons, show count + (cs.length + 1) = count + 1 + cs.length from by omega]
    exact scan?_cons hstep (ih hrest hcount')

/-- An escape by code point stands for its character. -/
theorem scan?_codePointEscape (done : List Char) (c : Char) :
    (quoted .text done).scan? (codePointEscape c) = some ([], quoted .text (c :: done)) := by
  have hvalue : hexValueFrom? 0 (Nat.toDigits 16 c.toNat) = some c.toNat := hexValueFrom?_toDigits _
  -- no code point has more than six digits
  have hlength : 0 + (Nat.toDigits 16 c.toNat).length ≤ 6 := by
    rw [Nat.zero_add, Nat.length_toDigits_le_iff (by decide) (by decide)]
    have hvalid : c.toNat < 0xD800 ∨ (0xDFFF < c.toNat ∧ c.toNat < 0x110000) := c.valid
    omega
  have hdigits := scan?_codePointDigits done hvalue hlength
  have hpos : 0 + (Nat.toDigits 16 c.toNat).length ≠ 0 := by
    have := Nat.length_toDigits_pos (b := 16) (n := c.toNat)
    omega
  have hclose : (codePointDigits .text done (0 + (Nat.toDigits 16 c.toNat).length) c.toNat).scan?
      ['\x7d'] = some ([], quoted .text (c :: done)) := by
    rw [scan?, step?, if_pos rfl, if_neg hpos, charOf?_toNat]
    rfl
  have hopen : (quoted .text done).scan? ['\\', 'u', '\x7b'] =
      some ([], codePointDigits .text done 0 0) := rfl
  exact scan?_append (scan?_append hopen hdigits) hclose

/-- A one-letter escape stands for its character. -/
theorem scan?_shortEscape (done : List Char) {c e : Char} (h : shortEscape? c = some e) :
    (quoted .text done).scan? ['\\', e] = some ([], quoted .text (c :: done)) := by
  unfold shortEscape? at h
  split_ifs at h with hslash htab hnewline hreturn hnul
  · rw [← Option.some.inj h, hslash]
    rfl
  · rw [← Option.some.inj h, htab]
    rfl
  · rw [← Option.some.inj h, hnewline]
    rfl
  · rw [← Option.some.inj h, hreturn]
    rfl
  · have hc : c = Char.ofNat 0 := Char.toNat_inj.mp hnul
    rw [← Option.some.inj h, hc]
    rfl

/-- **A character between quotes is found again**, whether it stands for itself, takes a backslash, or is
written by a letter or by its code point. -/
theorem scan?_escapeChar (done : List Char) (c : Char) :
    (quoted .text done).scan? (escapeChar ['"', '\''] c) = some ([], quoted .text (c :: done)) := by
  unfold escapeChar
  split
  · next hquote =>
    -- a quote mark of either kind, behind its backslash
    rcases List.mem_cons.mp hquote with rfl | hquote
    · rfl
    · obtain rfl := List.mem_singleton.mp hquote
      rfl
  · next hquote =>
    cases hshort : shortEscape? c with
    | some e => exact scan?_shortEscape done hshort
    | none =>
      simp only
      split
      · exact scan?_codePointEscape done c
      · -- neither the quote nor the backslash, which would not stand for themselves
        have hmark : c ≠ '"' := fun h => hquote (h ▸ List.mem_cons_self)
        have hslash : c ≠ '\\' := by
          rintro rfl
          exact absurd hshort (by decide)
        rw [scan?, step?, if_neg hslash]
        simp only [if_neg hmark]
        rfl

/-- Between quotes, a text is found again character by character. -/
theorem scan?_escapeChars (done cs : List Char) :
    (quoted .text done).scan? (cs.flatMap (escapeChar ['"', '\''])) =
      some ([], quoted .text (cs.reverse ++ done)) := by
  induction cs generalizing done with
  | nil => rfl
  | cons c cs ih =>
    rw [List.flatMap_cons, List.reverse_cons, List.append_assoc]
    exact scan?_append (scan?_escapeChar done c) (ih (c :: done))

/-! ## Values -/

/-- **A quoted text is one token, with the text in it.** -/
theorem scan?_quotedText (s : String) : outside.scan? (quotedText s) = some ([.text s], outside) := by
  have hopen : outside.scan? ['"'] = some ([], quoted .text []) := rfl
  have hclose : (quoted .text (s.toList.reverse ++ [])).scan? ['"'] = some ([.text s], outside) := by
    have htoken : quotedToken .text (s.toList.reverse ++ []) = .text s := by
      rw [List.append_nil, quotedToken, List.reverse_reverse, String.ofList_toList]
    rw [scan?, step?, if_neg (by decide)]
    simp only [if_true, htoken]
    rfl
  exact scan?_append (scan?_append hopen (scan?_escapeChars [] s.toList)) hclose

theorem begin?_digitChar : ∀ k < 10, begin? k.digitChar = some ([], number [k.digitChar]) := by
  decide +kernel

theorem continuesIdentifier_digitChar : ∀ k < 10, continuesIdentifier k.digitChar = true := by
  decide +kernel

/-- Digits go on with the number. -/
theorem scan?_digits (done : List Char) {cs : List Char} (h : ∀ c ∈ cs, ∃ k < 10, c = k.digitChar) :
    (number done).scan? cs = some ([], number (cs.reverse ++ done)) := by
  induction cs generalizing done with
  | nil => rfl
  | cons c cs ih =>
    obtain ⟨k, hk, rfl⟩ := h c List.mem_cons_self
    have hstep : (number done).step? k.digitChar = some ([], number (k.digitChar :: done)) := by
      rw [step?, continuesIdentifier_digitChar k hk, Bool.true_or, if_pos rfl]
    rw [List.reverse_cons, List.append_assoc]
    exact scan?_cons hstep (ih _ fun d hd => h d (List.mem_cons_of_mem _ hd))

/-- **A numeral is one token, with its digits in it**; it ends with the comma behind it. -/
theorem scan?_toDigits (n : Nat) :
    outside.scan? (Nat.toDigits 10 n ++ [',']) = some ([.number (Nat.toDigits 10 n), .comma], outside) := by
  have hdigits : ∀ c ∈ Nat.toDigits 10 n, ∃ k < 10, c = k.digitChar := fun c hc =>
    mem_toDigits (by decide) hc
  cases hlist : Nat.toDigits 10 n with
  | nil => exact absurd hlist Nat.toDigits_ne_nil
  | cons c cs =>
    rw [hlist] at hdigits
    obtain ⟨k, hk, rfl⟩ := hdigits c List.mem_cons_self
    have hfirst : outside.scan? [k.digitChar] = some ([], number [k.digitChar]) := by
      rw [scan?, step?, begin?_digitChar k hk]
      rfl
    have hrest := scan?_digits [k.digitChar] fun d hd => hdigits d (List.mem_cons_of_mem _ hd)
    -- the comma ends the number and is a token of its own
    have hcomma : (number (cs.reverse ++ [k.digitChar])).scan? [','] =
        some ([.number (k.digitChar :: cs), .comma], outside) := by
      have hstep : (number (cs.reverse ++ [k.digitChar])).step? ',' =
          some ([.number (cs.reverse ++ [k.digitChar]).reverse, .comma], outside) := by
        rw [step?, if_neg (by decide +kernel)]
        rfl
      rw [List.reverse_append, List.reverse_reverse] at hstep
      rw [scan?, hstep]
      rfl
    exact scan?_append (scan?_append hfirst hrest) hcomma

end Scan

/-! ## Lines -/

/-- The name of each field of a configuration and the token of its value, in order. -/
def fieldTokens (c : Config) : List (String × Token) :=
  [("base_url", .text c.baseUrl),
   ("debounce_ms", .number (Nat.toDigits 10 c.debounceMs.toNat)),
   ("page_size", .number (Nat.toDigits 10 c.pageSize.toNat)),
   ("page_step", .number (Nat.toDigits 10 c.pageStep.toNat)),
   ("connect_timeout_ms", .number (Nat.toDigits 10 c.connectTimeoutMs.toNat)),
   ("request_timeout_ms", .number (Nat.toDigits 10 c.requestTimeoutMs.toNat)),
   ("max_response_bytes", .number (Nat.toDigits 10 c.maxResponseBytes.toNat)),
   ("log_destination", .name c.logDestination.name false)]

def lineTokens (field : String × Token) : List Token :=
  [.name field.1 false, .colon, field.2, .comma]

/-- The texts of a name and a value are scanned as the name and the token. -/
structure Writes (texts : List Char × List Char) (field : String × Token) : Prop where
  key : Scan.outside.scan? (List.replicate 4 ' ' ++ texts.1 ++ [':', ' ']) =
    some ([.name field.1 false, .colon], .outside)
  value : Scan.outside.scan? (texts.2 ++ [',']) = some ([field.2, .comma], .outside)

/-- The names of the fields are no numbers and no quoted texts, though some start with letters that
could open these. -/
theorem scan?_key : ∀ key ∈ keys, Scan.outside.scan? (List.replicate 4 ' ' ++ key.toList ++ [':', ' ']) =
    some ([.name key false, .colon], .outside) := by
  decide +kernel

theorem scan?_destination (d : Log.Destination) :
    Scan.outside.scan? (d.name.toList ++ [',']) = some ([.name d.name false, .comma], .outside) := by
  cases d <;> decide +kernel

theorem writes_text {key : String} (hkey : key ∈ keys) (s : String) :
    Writes (key.toList, quotedText s) (key, .text s) where
  key := scan?_key key hkey
  value := Scan.scan?_append (Scan.scan?_quotedText s) rfl

theorem writes_number {key : String} (hkey : key ∈ keys) (n : Nat) :
    Writes (key.toList, Nat.toDigits 10 n) (key, .number (Nat.toDigits 10 n)) where
  key := scan?_key key hkey
  value := Scan.scan?_toDigits n

/-- **Every field is written as its name and its value.** -/
theorem writes_fieldTexts (c : Config) : List.Forall₂ Writes c.fieldTexts c.fieldTokens :=
  .cons (writes_text (by decide) _) <| .cons (writes_number (by decide) _) <|
  .cons (writes_number (by decide) _) <| .cons (writes_number (by decide) _) <|
  .cons (writes_number (by decide) _) <| .cons (writes_number (by decide) _) <|
  .cons (writes_number (by decide) _) <|
  .cons ⟨scan?_key _ (by decide), scan?_destination _⟩ .nil

/-- The line of a field is scanned as the tokens of the field. -/
theorem Writes.scan?_fieldLine {texts : List Char × List Char} {field : String × Token}
    (h : Writes texts field) :
    Scan.outside.scan? (fieldLine texts) = some (lineTokens field, .outside) := by
  have hline : fieldLine texts =
      List.replicate 4 ' ' ++ texts.1 ++ [':', ' '] ++ (texts.2 ++ [',']) ++ ['\n'] := by
    simp [fieldLine]
  have hend : Scan.outside.scan? ['\n'] = some ([], .outside) := rfl
  rw [hline]
  exact Scan.scan?_append (Scan.scan?_append h.key h.value) hend

/-- Lines are scanned one after the other, each from between two tokens. -/
theorem scan?_fieldLines {texts : List (List Char × List Char)} {fields : List (String × Token)}
    (h : List.Forall₂ Writes texts fields) :
    Scan.outside.scan? (texts.flatMap fieldLine) = some (fields.flatMap lineTokens, .outside) := by
  induction h with
  | nil => rfl
  | cons hline _ ih =>
    rw [List.flatMap_cons, List.flatMap_cons]
    exact Scan.scan?_append hline.scan?_fieldLine ih

/-- **The tokens of a written configuration** are those of its fields, between parentheses. -/
theorem tokens?_text (c : Config) :
    tokens? c.text.toList =
      some (.openParen :: c.fieldTokens.flatMap lineTokens ++ [.closeParen]) := by
  have hopen : Scan.outside.scan? ['(', '\n'] = some ([.openParen], .outside) := rfl
  have hclose : Scan.outside.scan? [')'] = some ([.closeParen], .outside) := rfl
  have hall := Scan.scan?_append (Scan.scan?_append hopen (scan?_fieldLines (writes_fieldTexts c))) hclose
  have htext : c.text.toList = ['(', '\n'] ++ c.fieldTexts.flatMap fieldLine ++ [')'] := by
    rw [text, String.toList_ofList]
    rfl
  rw [htext, tokens?, Scan.tokens?_of_scan? hall rfl]
  simp

end IdeaBoard.Config
