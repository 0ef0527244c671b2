import IdeaBoard.Json.Token

/-!
# IdeaBoard — JSON texts around their punctuation

Brackets, commas and colons cut a text into parts that are scanned on their own.

* **`tokens?_append_mark`** — a mark of punctuation behind a part completes the part, and what follows is
  scanned afresh.
* **`Completes`** — what a step completes. `completes_of_step?`: the only step that completes a mark is the
  one over its character, at a place where the text could end.
* **`tokens?_mark_iff`** — so a mark among the tokens is a character of the text, with the other tokens in
  the parts around it.
* **`tokens?_eq_nil_iff`** — nothing but white space has no tokens.
-/

namespace IdeaBoard.Json

def markOf? : Char → Option Token
  | '[' => some .openArray
  | ']' => some .closeArray
  | '\x7b' => some .openObject
  | '\x7d' => some .closeObject
  | ',' => some .comma
  | ':' => some .colon
  | _ => none

def Token.isMark : Token → Bool
  | .openArray | .closeArray | .openObject | .closeObject | .comma | .colon => true
  | _ => false

theorem isMark_of_markOf? {c : Char} {tok : Token} (hc : markOf? c = some tok) : tok.isMark = true := by
  unfold markOf? at hc
  split at hc <;> cases hc <;> rfl

/-- Every mark has one character. -/
theorem markOf?_inj {c d : Char} {tok : Token} (hc : markOf? c = some tok) (hd : markOf? d = some tok) :
    c = d := by
  unfold markOf? at hc hd
  split at hc <;> cases hc <;> split at hd <;> first | rfl | cases hd

namespace Scan

variable {s next : Scan} {c : Char} {cs : List Char} {tok : Token} {ts us found : List Token}

/-- The tokens of a text are those of its first step and then those of the rest. -/
theorem tokens?_cons_iff :
    s.tokens? (c :: cs) = some ts ↔
      ∃ found next more, s.step? c = some (found, next) ∧ next.tokens? cs = some more ∧
        ts = found ++ more := by
  rw [tokens?]
  simp only [Option.bind_eq_bind, Option.bind_eq_some_iff]
  constructor
  · rintro ⟨⟨found, next⟩, hstep, more, hmore, hts⟩
    exact ⟨found, next, more, hstep, hmore, (Option.some.inj hts).symm⟩
  · rintro ⟨found, next, more, hstep, hmore, rfl⟩
    exact ⟨(found, next), hstep, more, hmore, rfl⟩

/-! ## Behind a part -/

/-- Between tokens a mark is a token by itself. -/
theorem begin?_of_mark (hc : markOf? c = some tok) : begin? c = some ([tok], outside) := by
  unfold markOf? at hc
  split at hc <;> cases hc <;> rfl

theorem continue?_of_mark (hc : markOf? c = some tok) (s : Scan) : s.continue? c = none := by
  unfold markOf? at hc
  split at hc <;> cases hc <;> cases s <;> rfl

/-- A mark completes what the end of the text would, and itself. -/
theorem step?_of_mark (hc : markOf? c = some tok) (hs : s.finish? = some ts) :
    s.step? c = some (ts ++ [tok], outside) := by
  have hbegin := begin?_of_mark hc
  -- only between tokens and behind the digits of a number may a text end
  cases s with
  | outside =>
    obtain rfl := Option.some.inj hs
    exact hbegin
  | zero | whole | fraction | exponent =>
    obtain rfl := Option.some.inj hs
    simp [step?, finished?, continue?_of_mark hc, hbegin]
  | _ => exact absurd hs (by simp [finish?, finished?])

/-- **What follows a mark is scanned afresh.** -/
theorem tokens?_append_mark (hc : markOf? c = some tok) (hcs : s.tokens? cs = some ts) {rest : List Char}
    (hrest : outside.tokens? rest = some us) : s.tokens? (cs ++ c :: rest) = some (ts ++ tok :: us) := by
  induction cs generalizing s ts with
  | nil =>
    exact tokens?_cons_iff.mpr ⟨ts ++ [tok], outside, us, step?_of_mark hc hcs, hrest, by simp⟩
  | cons d cs ih =>
    obtain ⟨found, next, more, hstep, hmore, rfl⟩ := tokens?_cons_iff.mp hcs
    rw [List.append_assoc]
    exact tokens?_cons_iff.mpr ⟨found, next, more ++ tok :: us, hstep, ih hmore, rfl⟩

/-! ## Where the marks come from -/

/-- The scanner is in the middle of a token that is no mark. -/
def Inside : Scan → Prop
  | outside => False
  | word _ tok => tok.isMark = false
  | _ => True

/-- Between tokens a character is white space, the start of a token that is no mark, or a mark. -/
theorem begin?_cases (h : begin? c = some (found, next)) :
    found = [] ∧ (isSpace c = true ∧ next = outside ∨ Inside next) ∨
      ∃ tok, markOf? c = some tok ∧ found = [tok] ∧ next = outside := by
  unfold begin? at h
  split at h
  · next hspace =>
    cases h
    exact .inl ⟨rfl, .inl ⟨hspace, rfl⟩⟩
  · split at h
    -- the six marks, then what starts other tokens
    iterate 6
      cases h
      exact .inr ⟨_, rfl, rfl, rfl⟩
    iterate 6
      cases h
      exact .inl ⟨rfl, .inr (by first | rfl | trivial)⟩
    · obtain ⟨d, -, heq⟩ := Option.map_eq_some_iff.mp h
      cases heq
      exact .inl ⟨rfl, .inr trivial⟩

/-- A number that goes on is still a number. -/
theorem inside_of_continue? (h : s.continue? c = some next) : Inside next := by
  cases s with
  | zero neg =>
    rw [continue?] at h
    split at h
    · cases h
      trivial
    · split at h <;> cases h
      trivial
  | whole neg ds =>
    rw [continue?] at h
    split at h
    · cases h
      trivial
    · split at h
      · cases h
        trivial
      · obtain ⟨d, -, rfl⟩ := Option.map_eq_some_iff.mp h
        trivial
  | fraction neg w ds =>
    rw [continue?] at h
    split at h
    · cases h
      trivial
    · obtain ⟨d, -, rfl⟩ := Option.map_eq_some_iff.mp h
      trivial
  | exponent neg w f down ds =>
    obtain ⟨d, -, rfl⟩ := Option.map_eq_some_iff.mp h
    trivial
  | _ => cases h

/-- Where a number may end, it goes on or something else begins. -/
theorem step?_of_finished {n : NumberText} (hn : s.finished? = some n)
    (h : s.step? c = some (found, next)) :
    s.continue? c = some next ∧ found = [] ∨
      ∃ more, begin? c = some (more, next) ∧ found = .number n :: more := by
  -- a number takes every character that it can; another one ends it and begins something
  cases hcontinue : s.continue? c with
  | some after =>
    have hstep : s.step? c = some ([], after) := by
      cases s with
      | zero | whole | fraction | exponent => simp only [step?, hcontinue]
      | _ => cases hn
    rw [hstep] at h
    cases h
    exact .inl ⟨rfl, rfl⟩
  | none =>
    have hstep : s.step? c = (begin? c).map fun b => (.number n :: b.1, b.2) := by
      cases s with
      | zero | whole | fraction | exponent =>
        obtain rfl := Option.some.inj hn
        simp only [step?, hcontinue, Option.map_eq_bind]
        rfl
      | _ => cases hn
    rw [hstep] at h
    obtain ⟨⟨more, _⟩, hbegin, heq⟩ := Option.map_eq_some_iff.mp h
    cases heq
    exact .inr ⟨more, hbegin, rfl⟩

/-- What a step completes: nothing, and the scanner is in the middle of a token; other tokens than marks,
of which there is one unless it came from between the tokens; or a mark of its own, after all that the end
of the text would complete. -/
inductive Completes (s : Scan) (c : Char) : List Token → Scan → Prop where
  | nothing {next : Scan} (inside : Inside next) : Completes s c [] next
  | tokens {found : List Token} {next : Scan} (unmarked : ∀ t ∈ found, t.isMark = false)
      (back : s ≠ outside → found ≠ []) (rest : next = outside ∨ Inside next) :
      Completes s c found next
  | mark {tok : Token} {ts : List Token} (mark : markOf? c = some tok) (done : s.finish? = some ts) :
      Completes s c (ts ++ [tok]) outside

theorem Completes.rest (h : Completes s c found next) : next = outside ∨ Inside next := by
  cases h with
  | nothing inside => exact .inr inside
  | tokens _ _ rest => exact rest
  | mark => exact .inl rfl

/-- What begins completes at most a mark. -/
theorem completes_of_begin? (h : begin? c = some (found, next)) : Completes outside c found next := by
  obtain ⟨rfl, ⟨-, rfl⟩ | hinside⟩ | ⟨tok, hc, rfl, rfl⟩ := begin?_cases h
  · exact .tokens (by simp) (fun hne => absurd rfl hne) (.inl rfl)
  · exact .nothing hinside
  · exact @Completes.mark _ _ _ [] hc rfl

/-- **A step completes no mark, or one of its own after all that the end of the text would complete.** -/
theorem completes_of_step? (hs : s = outside ∨ Inside s) (h : s.step? c = some (found, next)) :
    Completes s c found next := by
  obtain rfl | hs := hs
  · exact completes_of_begin? h
  cases s with
  | outside => exact hs.elim
  | zero | whole | fraction | exponent =>
    obtain ⟨hcontinue, rfl⟩ | ⟨more, hbegin, rfl⟩ := step?_of_finished rfl h
    · -- the number goes on
      exact .nothing (inside_of_continue? hcontinue)
    · -- it ends at white space, at another token, or at a mark
      obtain ⟨rfl, ⟨-, rfl⟩ | hinside⟩ | ⟨tok, hc, rfl, rfl⟩ := begin?_cases hbegin
      · exact .tokens (by simp [Token.isMark]) (by simp) (.inl rfl)
      · exact .tokens (by simp [Token.isMark]) (by simp) (.inr hinside)
      · exact @Completes.mark _ _ _ [_] hc rfl
  | word rest tok =>
    cases rest with
    | nil => cases h
    | cons d rest =>
      -- the last letter of the word completes it, the others do not
      cases rest with
      | nil =>
        rw [step?] at h
        split at h <;> cases h
        exact .tokens (List.forall_mem_singleton.mpr hs) (by simp) (.inl rfl)
      | cons e rest =>
        simp only [step?] at h
        split at h <;> cases h
        exact .nothing hs
  | minus =>
    rw [step?] at h
    split at h
    · cases h
      exact .nothing trivial
    · obtain ⟨d, -, heq⟩ := Option.map_eq_some_iff.mp h
      cases heq
      exact .nothing trivial
  | point | sign =>
    obtain ⟨d, -, heq⟩ := Option.map_eq_some_iff.mp h
    cases heq
    exact .nothing trivial
  | mark neg w f =>
    rw [step?] at h
    split at h
    · cases h
      exact .nothing trivial
    · split at h
      · cases h
        exact .nothing trivial
      · obtain ⟨d, -, heq⟩ := Option.map_eq_some_iff.mp h
        cases heq
        exact .nothing trivial
  | text done =>
    rw [step?] at h
    split at h
    · cases h
      exact .tokens (by simp [Token.isMark]) (by simp) (.inl rfl)
    · split at h
      · cases h
        exact .nothing trivial
      · split at h <;> cases h
        exact .nothing trivial
  | escape done =>
    rw [step?] at h
    split at h
    · cases h
      exact .nothing trivial
    · obtain ⟨e, -, heq⟩ := Option.map_eq_some_iff.mp h
      cases heq
      exact .nothing trivial
  | hex done missing value =>
    obtain ⟨digit, -, h⟩ := Option.bind_eq_some_iff.mp h
    split at h <;> cases h
    · exact .nothing trivial
    · exact .nothing trivial

/-- The end of a text completes no mark. -/
theorem not_isMark_of_finish? (h : s.finish? = some ts) : ∀ t ∈ ts, t.isMark = false := by
  cases s with
  | outside =>
    obtain rfl := Option.some.inj h
    simp
  | zero | whole | fraction | exponent =>
    obtain rfl := Option.some.inj h
    simp [Token.isMark]
  | _ => cases h

/-- A mark that a step completes is the last that it completes. -/
theorem Completes.of_mark (h : Completes s c found next) (htok : tok.isMark = true)
    (hfound : found = ts ++ tok :: us) :
    us = [] ∧ markOf? c = some tok ∧ s.finish? = some ts ∧ next = outside := by
  cases h with
  | nothing => exact absurd hfound (by simp)
  | tokens hunmarked =>
    have hnot := hunmarked tok (by simp [hfound])
    exact absurd htok (by simp [hnot])
  | @mark mark done hc hdone =>
    obtain rfl | ⟨us, last, rfl⟩ := List.eq_nil_or_concat us
    · obtain ⟨rfl, hmark⟩ := List.append_inj' hfound rfl
      obtain rfl : mark = tok := List.singleton_inj.mp hmark
      exact ⟨rfl, hc, hdone, rfl⟩
    · -- otherwise it would be among what the end of the text completes
      have hconcat : done ++ [mark] = ts ++ tok :: us ++ [last] := by
        rw [hfound]
        simp
      have hin : tok ∈ done := by
        rw [(List.append_inj' hconcat rfl).1]
        simp
      exact absurd htok (by simp [not_isMark_of_finish? hdone tok hin])

/-- **A mark among the tokens is a character of the text.** -/
theorem exists_of_tokens?_mark (hs : s = outside ∨ Inside s) (htok : tok.isMark = true)
    (h : s.tokens? cs = some (ts ++ tok :: us)) :
    ∃ front c back, markOf? c = some tok ∧ cs = front ++ c :: back ∧ s.tokens? front = some ts ∧
      outside.tokens? back = some us := by
  -- on the text, with the state of the scanner in front of it
  induction cs generalizing s ts with
  | nil =>
    have hnot := not_isMark_of_finish? h tok (by simp)
    exact absurd htok (by simp [hnot])
  | cons c cs ih =>
    obtain ⟨found, next, more, hstep, hmore, hsplit⟩ := tokens?_cons_iff.mp h
    have hcompletes := completes_of_step? hs hstep
    -- where the mark is completed later, what is completed here stands in front of it
    have hlater (as : List Token) (hts : ts = found ++ as)
        (has : next.tokens? cs = some (as ++ tok :: us)) :
        ∃ front d back, markOf? d = some tok ∧ c :: cs = front ++ d :: back ∧
          s.tokens? front = some ts ∧ outside.tokens? back = some us := by
      obtain ⟨front, d, back, hd, rfl, hfront, hback⟩ := ih hcompletes.rest has
      exact ⟨c :: front, d, back, hd, rfl, tokens?_cons_iff.mpr ⟨_, _, _, hstep, hfront, hts⟩, hback⟩
    -- the mark is among what this step completes, or behind it
    obtain ⟨as, hfound, has⟩ | ⟨bs, hts, hbs⟩ := List.append_eq_append_iff.mp hsplit
    · cases as with
      | nil =>
        rw [List.append_nil] at hfound
        -- it is the first token of the rest
        exact hlater [] (by rw [hfound, List.append_nil]) (by rw [hmore, has]; rfl)
      | cons first as =>
        obtain ⟨rfl, rfl⟩ := List.cons.inj has
        obtain ⟨rfl, hc, hdone, rfl⟩ := hcompletes.of_mark htok hfound
        exact ⟨[], c, cs, hc, rfl, hdone, hmore⟩
    · exact hlater bs hts (hbs ▸ hmore)

/-- In the middle of a token, there is one to come. -/
theorem Inside.tokens?_ne_nil (hs : Inside s) (cs : List Char) : s.tokens? cs ≠ some [] := by
  induction cs generalizing s with
  | nil =>
    cases s with
    | outside => exact hs.elim
    | _ => simp [tokens?, finish?, finished?]
  | cons c cs ih =>
    intro h
    obtain ⟨found, next, more, hstep, hmore, hnil⟩ := tokens?_cons_iff.mp h
    obtain ⟨rfl, rfl⟩ := List.append_eq_nil_iff.mp hnil.symm
    have hout : s ≠ outside := by
      rintro rfl
      exact hs
    generalize hfound : ([] : List Token) = found at hstep
    -- a step stays inside or completes something, as the scanner was not between tokens
    cases completes_of_step? (.inr hs) hstep with
    | nothing inside => exact ih inside hmore
    | tokens _ hback => exact hback hout hfound.symm
    | mark => exact absurd hfound (by simp)

end Scan

variable {cs : List Char} {c : Char} {tok : Token} {ts us : List Token}

/-- **A mark among the tokens cuts the text into the two parts around its character.** -/
theorem tokens?_mark_iff (hc : markOf? c = some tok) :
    tokens? cs = some (ts ++ tok :: us) ↔
      ∃ front back, cs = front ++ c :: back ∧ tokens? front = some ts ∧ tokens? back = some us := by
  constructor
  · intro h
    obtain ⟨front, d, back, hd, rfl, hfront, hback⟩ :=
      Scan.exists_of_tokens?_mark (.inl rfl) (isMark_of_markOf? hc) h
    obtain rfl := markOf?_inj hc hd
    exact ⟨front, back, rfl, hfront, hback⟩
  · rintro ⟨front, back, rfl, hfront, hback⟩
    exact Scan.tokens?_append_mark hc hfront hback

/-- **Nothing but white space has no tokens.** -/
theorem tokens?_eq_nil_iff : tokens? cs = some [] ↔ ∀ c ∈ cs, Scan.isSpace c = true := by
  induction cs with
  | nil => simp [tokens?, Scan.tokens?, Scan.finish?]
  | cons c cs ih =>
    rw [List.forall_mem_cons, ← ih]
    constructor
    · intro h
      obtain ⟨found, next, more, hbegin, hmore, hnil⟩ := Scan.tokens?_cons_iff.mp h
      obtain ⟨rfl, rfl⟩ := List.append_eq_nil_iff.mp hnil.symm
      -- what is no white space is a token or begins one
      obtain ⟨-, ⟨hspace, rfl⟩ | hinside⟩ | ⟨tok, -, htok, -⟩ := Scan.begin?_cases hbegin
      · exact ⟨hspace, hmore⟩
      · exact absurd hmore (hinside.tokens?_ne_nil cs)
      · cases htok
    · rintro ⟨hc, hcs⟩
      have hbegin : Scan.outside.step? c = some ([], .outside) := by
        show Scan.begin? c = _
        unfold Scan.begin?
        exact if_pos hc
      exact Scan.tokens?_cons_iff.mpr ⟨_, _, _, hbegin, hcs, rfl⟩

end IdeaBoard.Json
