import IdeaBoard.Text.Split

/-!
# IdeaBoard — cutting and joining

Cutting at a separator and joining with it undo each other.

* **`pieces_append`** — a separator between two texts separates their pieces.
* **`pieces_join`** — so the pieces of joined texts are the pieces of each in turn; texts that hold no
  separator come back as they were (`pieces_join_of_not_mem`).
* **`mem_pieces_iff`** — the pieces are the stretches between neighbouring separators (`IsPiece`),
  because joining the pieces gives the text (`join_pieces`) and no piece holds a separator.
* **`cutFirst?_append`** / **`eq_append_of_cutFirst?`** — the first separator is the one after a text
  that holds none.
-/

namespace IdeaBoard.Text

variable {α : Type} [DecidableEq α]

/-! ## Pieces -/

/-- Even an empty text has a piece. -/
theorem pieces_ne_nil (sep : α) (cs : List α) : pieces sep cs ≠ [] := by
  cases cs with
  | nil => simp [pieces]
  | cons c cs =>
    unfold pieces
    split
    · simp
    · split <;> simp

/-- A character that is no separator goes to the first piece. -/
theorem pieces_cons_of_ne {sep c : α} {cs p : List α} {ps : List (List α)} (hc : c ≠ sep)
    (h : pieces sep cs = p :: ps) : pieces sep (c :: cs) = (c :: p) :: ps := by
  simp only [pieces]
  rw [if_neg hc, h]

/-- A separator between two texts separates their pieces. -/
theorem pieces_append (sep : α) (a b : List α) :
    pieces sep (a ++ sep :: b) = pieces sep a ++ pieces sep b := by
  induction a with
  | nil => simp [pieces]
  | cons c a ih =>
    by_cases hc : c = sep
    · subst hc
      simp [pieces, ih]
    · -- the first piece grows by the character on both sides
      obtain ⟨p, ps, hp⟩ := List.exists_cons_of_ne_nil (pieces_ne_nil sep a)
      rw [pieces_cons_of_ne hc hp, List.cons_append]
      refine pieces_cons_of_ne hc ?_
      rw [ih, hp]
      rfl

/-- A text without a separator is one piece. -/
theorem pieces_of_not_mem {sep : α} {cs : List α} (h : sep ∉ cs) : pieces sep cs = [cs] := by
  induction cs with
  | nil => rfl
  | cons c cs ih =>
    have hc : c ≠ sep := fun e => h (e ▸ List.mem_cons_self)
    exact pieces_cons_of_ne hc (ih fun hm => h (List.mem_cons_of_mem c hm))

omit [DecidableEq α] in
theorem join_cons_cons (sep p q : List α) (ps : List (List α)) :
    join sep (p :: q :: ps) = p ++ sep ++ join sep (q :: ps) := rfl

/-- The pieces of joined texts are the pieces of each of them in turn. -/
theorem pieces_join (sep : α) {ps : List (List α)} (hne : ps ≠ []) :
    pieces sep (join [sep] ps) = ps.flatMap (pieces sep) := by
  induction ps with
  | nil => exact absurd rfl hne
  | cons p ps ih =>
    cases ps with
    | nil => simp [join]
    | cons q qs =>
      rw [List.flatMap_cons, ← ih (by simp), ← pieces_append]
      simp [join]

/-- Texts without a separator are the pieces of what they are joined to. -/
theorem pieces_join_of_not_mem {sep : α} {ps : List (List α)} (hne : ps ≠ [])
    (h : ∀ p ∈ ps, sep ∉ p) : pieces sep (join [sep] ps) = ps := by
  rw [pieces_join sep hne]
  clear hne
  induction ps with
  | nil => rfl
  | cons p ps ih =>
    rw [List.flatMap_cons, pieces_of_not_mem (h p List.mem_cons_self),
      ih fun q hq => h q (List.mem_cons_of_mem p hq), List.singleton_append]

/-- Joining the pieces gives the text back. -/
theorem join_pieces (sep : α) (cs : List α) : join [sep] (pieces sep cs) = cs := by
  induction cs with
  | nil => rfl
  | cons c cs ih =>
    obtain ⟨p, ps, hp⟩ := List.exists_cons_of_ne_nil (pieces_ne_nil sep cs)
    by_cases hc : c = sep
    · subst hc
      rw [show pieces c (c :: cs) = [] :: pieces c cs from by simp [pieces], hp]
      rw [hp] at ih
      simp [join, ih]
    · rw [pieces_cons_of_ne hc hp]
      rw [hp] at ih
      -- joining looks ahead whether there is another piece
      cases ps with
      | nil => simpa [join] using ih
      | cons q qs => simpa [join] using ih

/-- No piece holds a separator. -/
theorem not_mem_of_mem_pieces {sep : α} {cs p : List α} (h : p ∈ pieces sep cs) : sep ∉ p := by
  induction cs generalizing p with
  | nil =>
    rw [show p = [] from by simpa [pieces] using h]
    exact List.not_mem_nil
  | cons c cs ih =>
    obtain ⟨q, qs, hq⟩ := List.exists_cons_of_ne_nil (pieces_ne_nil sep cs)
    by_cases hc : c = sep
    · subst hc
      rw [show pieces c (c :: cs) = [] :: pieces c cs from by simp [pieces]] at h
      rcases List.mem_cons.mp h with rfl | hm
      · exact List.not_mem_nil
      · exact ih hm
    · -- the first piece has one character more, and that is no separator
      rw [pieces_cons_of_ne hc hq] at h
      rw [hq] at ih
      rcases List.mem_cons.mp h with rfl | hm
      · intro hsep
        rcases List.mem_cons.mp hsep with rfl | hin
        · exact hc rfl
        · exact ih List.mem_cons_self hin
      · exact ih (List.mem_cons_of_mem q hm)

/-- What follows a text without a separator goes to its last piece. -/
theorem pieces_append_free {sep : α} {back : List α} (h : sep ∉ back) (cs : List α) :
    ∃ init last, pieces sep cs = init ++ [last] ∧ pieces sep (cs ++ back) = init ++ [last ++ back] := by
  induction cs with
  | nil => exact ⟨[], [], rfl, pieces_of_not_mem h⟩
  | cons c cs ih =>
    obtain ⟨init, last, hcs, hback⟩ := ih
    by_cases hc : c = sep
    · refine ⟨[] :: init, last, ?_, ?_⟩
      · simp [pieces, hc, hcs]
      · simp [pieces, hc, hback]
    · -- the character goes to the first piece, which may be the last one too
      cases init with
      | nil => exact ⟨[], c :: last, pieces_cons_of_ne hc hcs, pieces_cons_of_ne hc hback⟩
      | cons p init =>
        exact ⟨(c :: p) :: init, last, pieces_cons_of_ne hc hcs, pieces_cons_of_ne hc hback⟩

/-! ## What a piece is -/

/-- `p` is a stretch of `cs` without a separator that reaches from one separator, or the start, to the
next one, or the end. -/
def IsPiece (sep : α) (cs p : List α) : Prop :=
  sep ∉ p ∧ ∃ a b, cs = a ++ p ++ b ∧
    (a = [] ∨ ∃ a', a = a' ++ [sep]) ∧ (b = [] ∨ ∃ b', b = sep :: b')

omit [DecidableEq α] in
/-- Among joined texts each reaches from a separator, or the start, to the next, or the end. -/
theorem join_append_cons (sep : α) (before : List (List α)) (p : List α) (after : List (List α)) :
    ∃ a b, join [sep] (before ++ p :: after) = a ++ p ++ b ∧
      (a = [] ∨ ∃ a', a = a' ++ [sep]) ∧ (b = [] ∨ ∃ b', b = sep :: b') := by
  induction before with
  | nil =>
    cases after with
    | nil => exact ⟨[], [], by simp [join], .inl rfl, .inl rfl⟩
    | cons q qs => exact ⟨[], sep :: join [sep] (q :: qs), by simp [join], .inl rfl, .inr ⟨_, rfl⟩⟩
  | cons q qs ih =>
    obtain ⟨a, b, heq, ha, hb⟩ := ih
    have hjoin : join [sep] (q :: (qs ++ p :: after)) = q ++ [sep] ++ join [sep] (qs ++ p :: after) := by
      cases qs <;> rfl
    refine ⟨q ++ [sep] ++ a, b, ?_, .inr ?_, hb⟩
    · rw [List.cons_append, hjoin, heq]
      simp
    · rcases ha with rfl | ⟨a', rfl⟩
      · exact ⟨q, by simp⟩
      · exact ⟨q ++ [sep] ++ a', by simp⟩

/-- **The pieces are the stretches between the separators.** -/
theorem mem_pieces_iff {sep : α} {cs p : List α} : p ∈ pieces sep cs ↔ IsPiece sep cs p := by
  constructor
  · intro h
    obtain ⟨before, after, heq⟩ := List.append_of_mem h
    obtain ⟨a, b, hjoin, ha, hb⟩ := join_append_cons sep before p after
    refine ⟨not_mem_of_mem_pieces h, a, b, ?_, ha, hb⟩
    rw [← hjoin, ← heq, join_pieces]
  · rintro ⟨hsep, a, b, rfl, ha, hb⟩
    -- the part from the start of `p` on, whatever stands before it
    have hrest : p ∈ pieces sep (p ++ b) := by
      rcases hb with rfl | ⟨b', rfl⟩
      · rw [List.append_nil, pieces_of_not_mem hsep]
        exact List.mem_singleton_self p
      · rw [pieces_append, pieces_of_not_mem hsep]
        exact List.mem_cons_self
    -- and a separator in front of it only adds the pieces before
    rcases ha with rfl | ⟨a', rfl⟩
    · exact hrest
    · rw [show a' ++ [sep] ++ p ++ b = a' ++ sep :: (p ++ b) from by simp, pieces_append]
      exact List.mem_append_right _ hrest

/-- A piece holds nothing that the text does not hold. -/
theorem mem_of_mem_pieces {sep c : α} {cs p : List α} (h : p ∈ pieces sep cs) (hc : c ∈ p) :
    c ∈ cs := by
  obtain ⟨_, a, b, rfl, _, _⟩ := mem_pieces_iff.mp h
  exact List.mem_append_left b (List.mem_append_right a hc)

/-! ## The first separator -/

/-- What holds no separator stands in front of the first one. -/
theorem cutFirst?_append {sep : α} {a : List α} (h : sep ∉ a) (b : List α) :
    cutFirst? sep (a ++ sep :: b) = some (a, b) := by
  induction a with
  | nil => simp [cutFirst?]
  | cons c a ih =>
    have hc : c ≠ sep := fun e => h (e ▸ List.mem_cons_self)
    simp only [List.cons_append, cutFirst?]
    rw [if_neg hc, ih fun hm => h (List.mem_cons_of_mem c hm)]
    rfl

theorem cutFirst?_of_not_mem {sep : α} {cs : List α} (h : sep ∉ cs) : cutFirst? sep cs = none := by
  induction cs with
  | nil => rfl
  | cons c cs ih =>
    have hc : c ≠ sep := fun e => h (e ▸ List.mem_cons_self)
    simp only [cutFirst?]
    rw [if_neg hc, ih fun hm => h (List.mem_cons_of_mem c hm)]
    rfl

/-- The cut is at the first separator. -/
theorem eq_append_of_cutFirst? {sep : α} {cs a b : List α} (h : cutFirst? sep cs = some (a, b)) :
    cs = a ++ sep :: b ∧ sep ∉ a := by
  induction cs generalizing a with
  | nil => exact absurd h (by simp [cutFirst?])
  | cons c cs ih =>
    unfold cutFirst? at h
    split at h
    · next hc =>
      obtain ⟨rfl, rfl⟩ := Prod.mk.inj (Option.some.inj h)
      exact ⟨congrArg (· :: cs) hc, List.not_mem_nil⟩
    · next hc =>
      obtain ⟨⟨a', b'⟩, hcut, hpair⟩ := Option.map_eq_some_iff.mp h
      obtain ⟨rfl, rfl⟩ := Prod.mk.inj hpair
      obtain ⟨rfl, hfree⟩ := ih hcut
      refine ⟨rfl, fun hsep => ?_⟩
      rcases List.mem_cons.mp hsep with rfl | hin
      · exact hc rfl
      · exact hfree hin

/-- Where there is no cut there is no separator. -/
theorem not_mem_of_cutFirst?_eq_none {sep : α} {cs : List α} (h : cutFirst? sep cs = none) :
    sep ∉ cs := by
  intro hsep
  obtain ⟨a, b, rfl, hfree⟩ := List.eq_append_cons_of_mem hsep
  rw [cutFirst?_append hfree] at h
  exact absurd h (by simp)

/-! ## What joined texts hold -/

/-- Joined texts hold what is in one of them, or in the separator. -/
theorem mem_join {β : Type} {sep : List β} {ps : List (List β)} {c : β} (h : c ∈ join sep ps) :
    c ∈ sep ∨ ∃ p ∈ ps, c ∈ p := by
  induction ps with
  | nil => exact absurd h List.not_mem_nil
  | cons p ps ih =>
    cases ps with
    | nil => exact .inr ⟨p, List.mem_cons_self, by simpa [join] using h⟩
    | cons q qs =>
      simp only [join, List.mem_append] at h
      rcases h with (hp | hsep) | hrest
      · exact .inr ⟨p, List.mem_cons_self, hp⟩
      · exact .inl hsep
      · rcases ih hrest with hsep | ⟨r, hr, hc⟩
        · exact .inl hsep
        · exact .inr ⟨r, List.mem_cons_of_mem p hr, hc⟩

omit [DecidableEq α] in
/-- Joined texts are empty only where there is none, if none of them is empty. -/
theorem join_eq_nil_iff {sep : List α} {ps : List (List α)} (h : ∀ p ∈ ps, p ≠ []) :
    join sep ps = [] ↔ ps = [] := by
  constructor
  · intro hjoin
    cases ps with
    | nil => rfl
    | cons p ps =>
      have hp : p ≠ [] := h p List.mem_cons_self
      cases ps with
      | nil => exact absurd hjoin hp
      | cons q qs =>
        have hparts : p ++ sep ++ join sep (q :: qs) = [] := hjoin
        rw [List.append_assoc, List.append_eq_nil_iff] at hparts
        exact absurd hparts.1 hp
  · rintro rfl
    rfl

end IdeaBoard.Text
