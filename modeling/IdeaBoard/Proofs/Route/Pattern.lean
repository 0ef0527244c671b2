import IdeaBoard.Route.Pattern

/-!
# IdeaBoard — the language of a path pattern

The text of a pattern says which paths belong to it. The matcher works on the items of the pattern, and
from the last of them to the first; here it is held against the text, read from left to right.

* **`Language`** — the paths of a pattern, by its text alone: `:number` where that text starts, `*`, and
  any other character for itself.
* **`splits_char_cons`**, **`splits_number_cons`**, **`splits_rest_cons`** — what the first item of a
  pattern can take of a text, character by character.
* **`Told`** — a list says of each end of a text whether it has a property. `Told.prepend` is the step
  of the matcher, `told_endsOf` its whole run.
* **`accepts_ofText_iff`** — a path is accepted by a pattern just when it is in the language of its text.
-/

namespace IdeaBoard.Pattern

open IdeaBoard.Text

/-! ## The language of a text -/

def numberText : List Char := [':', 'n', 'u', 'm', 'b', 'e', 'r']

/-- The paths that the text of a pattern describes: the path splits into consecutive pieces, one for
each placeholder and each other character of the text. -/
inductive Language : List Char → List Char → Prop
  | nil : Language [] []
  | number {text digits path : List Char} (some_digit : digits ≠ [])
      (all_digits : ∀ d ∈ digits, isDecimalDigit d) (rest : Language text path) :
      Language (numberText ++ text) (digits ++ path)
  | star {text slash any path : List Char} (optional : slash = [] ∨ slash = ['/'])
      (one_line : ∀ c ∈ any, c ≠ '\n') (rest : Language text path) :
      Language ('*' :: text) (slash ++ any ++ path)
  | itself {c : Char} {text path : List Char} (no_number : ¬numberText <+: c :: text)
      (no_star : c ≠ '*') (rest : Language text path) : Language (c :: text) (c :: path)

/-! ### Reading the items -/

theorem itemsOf_number (text : List Char) : itemsOf (numberText ++ text) = .number :: itemsOf text :=
  rfl

theorem itemsOf_star (text : List Char) : itemsOf ('*' :: text) = .rest :: itemsOf text := rfl

theorem itemsOf_itself {c : Char} {text : List Char} (no_number : ¬numberText <+: c :: text)
    (no_star : c ≠ '*') : itemsOf (c :: text) = .char c :: itemsOf text := by
  rw [itemsOf]
  · rintro rest rfl rfl
    exact no_number ⟨rest, rfl⟩
  · exact no_star

/-- A text splits along the items where a piece of it goes to the first and the rest to the
others. -/
theorem splits_cons_iff {item : Item} {items : List Item} {path : List Char} :
    Splits (item :: items) path ↔
      ∃ piece rest, path = piece ++ rest ∧ Piece item piece ∧ Splits items rest := by
  constructor
  · intro h
    cases h with
    | cons hpiece hrest => exact ⟨_, _, rfl, hpiece, hrest⟩
  · rintro ⟨piece, rest, rfl, hpiece, hrest⟩
    exact .cons hpiece hrest

/-- The pieces for `*`: an optional slash and any text without a line break. -/
theorem piece_rest_iff {piece : List Char} :
    Piece .rest piece ↔
      ∃ slash any, piece = slash ++ any ∧ (slash = [] ∨ slash = ['/']) ∧ ∀ c ∈ any, c ≠ '\n' := by
  constructor
  · intro h
    cases h with
    | rest hline => exact ⟨[], _, rfl, .inl rfl, hline⟩
    | slashRest hline => exact ⟨['/'], _, rfl, .inr rfl, hline⟩
  · rintro ⟨slash, any, rfl, rfl | rfl, hline⟩
    · exact .rest hline
    · exact .slashRest hline

/-- A path in the language of a text splits along the items of the text. -/
theorem Language.splits {text path : List Char} (h : Language text path) :
    Splits (itemsOf text) path := by
  induction h with
  | nil => exact .nil
  | number some_digit all_digits _ ih =>
    rw [itemsOf_number]
    exact .cons (.number some_digit all_digits) ih
  | star optional one_line _ ih =>
    rw [itemsOf_star]
    exact .cons (piece_rest_iff.mpr ⟨_, _, rfl, optional, one_line⟩) ih
  | itself no_number no_star _ ih =>
    rw [itemsOf_itself no_number no_star]
    exact .cons (.char _) ih

theorem language_of_splits (text : List Char) :
    ∀ path : List Char, Splits (itemsOf text) path → Language text path := by
  -- the cases are those of reading the text: a number, a star, any other character, the end
  induction text using itemsOf.induct with
  | case1 text ih =>
    intro path h
    obtain ⟨digits, rest, rfl, hpiece, hrest⟩ := splits_cons_iff.mp h
    cases hpiece with
    | number some_digit all_digits => exact .number some_digit all_digits (ih rest hrest)
  | case2 text ih =>
    intro path h
    obtain ⟨piece, rest, rfl, hpiece, hrest⟩ := splits_cons_iff.mp h
    obtain ⟨slash, any, rfl, optional, one_line⟩ := piece_rest_iff.mp hpiece
    exact .star optional one_line (ih rest hrest)
  | case3 c text no_number no_star ih =>
    intro path h
    have hnumber : ¬numberText <+: c :: text := by
      rintro ⟨rest, hrest⟩
      obtain ⟨rfl, rfl⟩ := List.cons.inj hrest
      exact no_number rest rfl rfl
    -- where no placeholder starts, the character stands for itself
    rw [itemsOf_itself hnumber no_star] at h
    obtain ⟨piece, rest, rfl, hpiece, hrest⟩ := splits_cons_iff.mp h
    cases hpiece with
    | char => exact .itself hnumber no_star (ih rest hrest)
  | case4 =>
    intro path h
    cases h
    exact .nil

theorem language_iff_splits {text path : List Char} :
    Language text path ↔ Splits (itemsOf text) path :=
  ⟨Language.splits, language_of_splits text path⟩

/-- The items of a text describe the paths of its language. -/
theorem describes_ofText_iff {text : String} {path : List Char} :
    (ofText text).Describes path ↔ Language text.toList path := language_iff_splits.symm

/-! ## Deciding -/

/-! ### What the first item takes -/

variable {items : List Item} {c : Char} {cs : List Char}

theorem splits_nil_iff {path : List Char} : Splits [] path ↔ path = [] := by
  constructor
  · intro h
    cases h
    rfl
  · rintro rfl
    exact .nil

/-- A character takes itself. -/
theorem splits_char_cons {d : Char} :
    Splits (.char d :: items) (c :: cs) ↔ c = d ∧ Splits items cs := by
  constructor
  · intro h
    obtain ⟨piece, rest, hpath, hpiece, hrest⟩ := splits_cons_iff.mp h
    cases hpiece with
    | char =>
      obtain ⟨rfl, rfl⟩ := List.cons.inj hpath
      exact ⟨rfl, hrest⟩
  · rintro ⟨rfl, hrest⟩
    exact .cons (.char c) hrest

/-- A number takes a digit, and may go on after it. -/
theorem splits_number_cons :
    Splits (.number :: items) (c :: cs) ↔
      isDecimalDigit c ∧ (Splits items cs ∨ Splits (.number :: items) cs) := by
  constructor
  · intro h
    obtain ⟨digits, rest, hpath, hpiece, hrest⟩ := splits_cons_iff.mp h
    cases hpiece with
    | number some_digit all_digits =>
      obtain ⟨d, ds, rfl⟩ := List.exists_cons_of_ne_nil some_digit
      obtain ⟨rfl, rfl⟩ := List.cons.inj hpath
      refine ⟨all_digits c List.mem_cons_self, ?_⟩
      -- the digit is the whole number, or more digits follow
      by_cases hlast : ds = []
      · subst hlast
        exact .inl hrest
      · exact .inr (.cons (.number hlast fun d hd => all_digits d (List.mem_cons_of_mem _ hd)) hrest)
  · rintro ⟨hdigit, hrest | hmore⟩
    · have hpiece : Piece .number [c] := .number (by simp) (by simpa using hdigit)
      exact .cons hpiece hrest
    · obtain ⟨digits, rest, rfl, hpiece, hrest⟩ := splits_cons_iff.mp hmore
      cases hpiece with
      | number _ all_digits =>
        have hlonger : Piece .number (c :: digits) :=
          .number (by simp) (List.forall_mem_cons.mpr ⟨hdigit, all_digits⟩)
        exact .cons hlonger hrest

/-- The optional slash is one of the characters that a star takes anyway. -/
theorem piece_rest_iff_one_line {piece : List Char} :
    Piece .rest piece ↔ ∀ c ∈ piece, c ≠ '\n' := by
  constructor
  · intro h
    cases h with
    | rest hline => exact hline
    | slashRest hline => exact List.forall_mem_cons.mpr ⟨by decide, hline⟩
  · exact .rest

theorem piece_rest_nil : Piece .rest [] := .rest (by simp)

/-- A star takes a character of its line, or nothing more. -/
theorem splits_rest_cons :
    Splits (.rest :: items) (c :: cs) ↔
      Splits items (c :: cs) ∨ (c ≠ '\n' ∧ Splits (.rest :: items) cs) := by
  constructor
  · intro h
    obtain ⟨piece, rest, hpath, hpiece, hrest⟩ := splits_cons_iff.mp h
    have hline := piece_rest_iff_one_line.mp hpiece
    -- the star takes nothing, or the first character and then more
    cases piece with
    | nil =>
      rw [List.nil_append] at hpath
      rw [hpath]
      exact .inl hrest
    | cons d ds =>
      obtain ⟨rfl, rfl⟩ := List.cons.inj hpath
      obtain ⟨hhead, htail⟩ := List.forall_mem_cons.mp hline
      exact .inr ⟨hhead, .cons (.rest htail) hrest⟩
  · rintro (hnone | ⟨hline, hmore⟩)
    · exact .cons piece_rest_nil hnone
    · obtain ⟨piece, rest, rfl, hpiece, hrest⟩ := splits_cons_iff.mp hmore
      have htail := piece_rest_iff_one_line.mp hpiece
      have hlonger : Piece .rest (c :: piece) := .rest (List.forall_mem_cons.mpr ⟨hline, htail⟩)
      exact .cons hlonger hrest

/-- Of the items only `*` can take nothing. -/
theorem splits_nil_text {item : Item} :
    Splits (item :: items) [] ↔ item = .rest ∧ Splits items [] := by
  constructor
  · intro h
    obtain ⟨piece, rest, hpath, hpiece, hrest⟩ := splits_cons_iff.mp h
    obtain ⟨rfl, rfl⟩ := List.append_eq_nil_iff.mp hpath.symm
    cases hpiece with
    | number some_digit => exact absurd rfl some_digit
    | rest => exact ⟨rfl, hrest⟩
  · rintro ⟨rfl, hrest⟩
    exact .cons piece_rest_nil hrest

/-! ### The ends of a text -/

/-- The list says of each end of a text, longest first, whether it has a property. -/
inductive Told (P : List Char → Prop) : List Char → Ends → Prop
  | nil {b : Bool} (here : b ↔ P []) : Told P [] [b]
  | cons {c : Char} {cs : List Char} {b : Bool} {ends : Ends} (here : b ↔ P (c :: cs))
      (below : Told P cs ends) : Told P (c :: cs) (b :: ends)

variable {P : List Char → Prop} {ends : Ends}

theorem Told.whole {path : List Char} (h : Told P path ends) : ends.whole ↔ P path := by
  cases h with
  | nil here => exact here
  | cons here _ => exact here

theorem Told.tail (h : Told P (c :: cs) ends) : Told P cs ends.tail := by
  cases h with
  | cons _ below => exact below

/-- Behind the last item only the empty end is described. -/
theorem told_emptyEnds (path : List Char) : Told (Splits []) path (emptyEnds path) := by
  induction path with
  | nil => exact .nil (by simp [splits_nil_iff])
  | cons c cs ih => exact .cons (by simp [splits_nil_iff]) ih

/-- What the matcher says of one end, from what is known of the items after the first. -/
theorem atChar_iff (item : Item) {here next again : Bool} (hhere : here ↔ Splits items (c :: cs))
    (hnext : next ↔ Splits items cs) (hagain : again ↔ Splits (item :: items) cs) :
    item.atChar c here next again ↔ Splits (item :: items) (c :: cs) := by
  -- each kind of item takes what `splits_char_cons` and its siblings say
  cases item with
  | char d =>
    rw [splits_char_cons, ← hnext]
    simp [Item.atChar]
  | number =>
    rw [splits_number_cons, ← hnext, ← hagain]
    simp [Item.atChar]
  | rest =>
    rw [splits_rest_cons, ← hhere, ← hagain]
    simp [Item.atChar]

/-- **One more item in front: the matcher goes on to tell the ends that the items describe.** -/
theorem Told.prepend (item : Item) {path : List Char} {after : Ends}
    (h : Told (Splits items) path after) :
    Told (Splits (item :: items)) path (item.ends path after) := by
  induction path generalizing after with
  | nil =>
    -- nothing is left of the text, which only `*` can do with
    have hafter := h.whole
    cases item with
    | char d =>
      show Told _ [] [false]
      exact .nil (by simp [splits_nil_text])
    | number =>
      show Told _ [] [false]
      exact .nil (by simp [splits_nil_text])
    | rest =>
      show Told _ [] [after.whole]
      exact .nil (by simp [splits_nil_text, hafter])
  | cons c cs ih =>
    have hbelow := ih h.tail
    rw [Item.ends]
    exact .cons (atChar_iff item h.whole h.tail.whole hbelow.whole) hbelow

/-- The matcher tells the ends of a path that the items describe. -/
theorem told_endsOf (path : List Char) (items : List Item) :
    Told (Splits items) path (endsOf path items) := by
  -- from the last item to the first, as the matcher goes
  induction items with
  | nil => exact told_emptyEnds path
  | cons item items ih => exact ih.prepend item

/-- **A pattern accepts the paths that it describes.** -/
theorem accepts_iff (p : Pattern) (path : List Char) : p.accepts path ↔ p.Describes path :=
  (told_endsOf path p.items).whole

/-- **A pattern accepts the language of its text.** -/
theorem accepts_ofText_iff (text : String) (path : List Char) :
    (ofText text).accepts path ↔ Language text.toList path :=
  (accepts_iff _ path).trans describes_ofText_iff

/-- The number after a colon that stands for itself is a placeholder all the same. -/
example : (ofText "/x::number").accepts "/x:12".toList ∧
    ¬(ofText "/x::number").accepts "/x:12a".toList := by decide +kernel

end IdeaBoard.Pattern
