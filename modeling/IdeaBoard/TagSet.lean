/-!
# IdeaBoard — tag selections

The tags chosen in a filter: a set, held as the list of its members in increasing order, so that
two selections with the same members are the same value.

Main statements: what is in a selection after `insert`, `erase`, `filter`, `ofList` and `toggle`,
and `TagSet.ext`: the members decide the selection.
-/

namespace IdeaBoard

/-- A finite set of tags: its members in increasing order. -/
structure TagSet where
  toList : List String
  sorted : toList.Pairwise (· < ·)
deriving DecidableEq

namespace TagSet

/-- Puts a tag at its place in an increasing list that may hold it already. -/
def insertInto (t : String) : List String → List String
  | [] => [t]
  | u :: us =>
    if t < u then t :: u :: us
    else if t = u then u :: us
    else u :: insertInto t us

/-- A list with a tag put into it holds that tag and what it held before. -/
theorem mem_insertInto {t x : String} {us : List String} :
    x ∈ insertInto t us ↔ x = t ∨ x ∈ us := by
  induction us with
  | nil => simp [insertInto]
  | cons u us ih =>
    unfold insertInto
    split
    · simp
    · split
      · next h => subst h; simp
      · simp only [List.mem_cons, ih]
        constructor
        · rintro (h | h | h) <;> simp [h]
        · rintro (h | h | h) <;> simp [h]

/-- It stays in increasing order. -/
theorem pairwise_insertInto {t : String} {us : List String} (h : us.Pairwise (· < ·)) :
    (insertInto t us).Pairwise (· < ·) := by
  induction us with
  | nil => simp [insertInto]
  | cons u us ih =>
    obtain ⟨hu, hus⟩ := List.pairwise_cons.1 h
    unfold insertInto
    split
    · next htu =>
      refine List.pairwise_cons.2 ⟨fun x hx => ?_, h⟩
      rcases List.mem_cons.1 hx with rfl | hx
      · exact htu
      · exact String.lt_trans htu (hu x hx)
    · split
      · exact h
      · next htu hne =>
        refine List.pairwise_cons.2 ⟨fun x hx => ?_, ih hus⟩
        -- the new tag is above the head, as it is neither below it nor the head itself
        rcases mem_insertInto.1 hx with rfl | hx
        · rcases Decidable.em (u < x) with hlt | hge
          · exact hlt
          · exact absurd (String.le_antisymm (String.not_lt.1 hge) (String.not_lt.1 htu)) hne
        · exact hu x hx

def empty : TagSet := ⟨[], .nil⟩

instance : EmptyCollection TagSet := ⟨empty⟩
instance : Inhabited TagSet := ⟨empty⟩
instance : Membership String TagSet := ⟨fun s t => t ∈ s.toList⟩
instance (t : String) (s : TagSet) : Decidable (t ∈ s) :=
  inferInstanceAs (Decidable (t ∈ s.toList))

def insert (s : TagSet) (t : String) : TagSet := ⟨insertInto t s.toList, pairwise_insertInto s.sorted⟩

def filter (s : TagSet) (p : String → Bool) : TagSet := ⟨s.toList.filter p, s.sorted.filter p⟩

def erase (s : TagSet) (t : String) : TagSet := s.filter (· ≠ t)

/-- The set of the listed tags; order and repeats do not matter. -/
def ofList (ts : List String) : TagSet := ts.foldl insert empty

/-- Removes a tag that is selected, adds one that is not. -/
def toggle (s : TagSet) (t : String) : TagSet := if t ∈ s then s.erase t else s.insert t

def size (s : TagSet) : Nat := s.toList.length

def isEmpty (s : TagSet) : Bool := s.toList.isEmpty

@[simp] theorem mem_toList {s : TagSet} {t : String} : t ∈ s.toList ↔ t ∈ s := Iff.rfl

@[simp] theorem not_mem_empty {t : String} : ¬ t ∈ (∅ : TagSet) := List.not_mem_nil

@[simp] theorem mem_insert {s : TagSet} {t x : String} : x ∈ s.insert t ↔ x = t ∨ x ∈ s :=
  mem_insertInto

@[simp] theorem mem_filter {s : TagSet} {p : String → Bool} {x : String} :
    x ∈ s.filter p ↔ x ∈ s ∧ p x := List.mem_filter

@[simp] theorem mem_erase {s : TagSet} {t x : String} : x ∈ s.erase t ↔ x ∈ s ∧ x ≠ t := by
  simp [erase]

theorem mem_foldl_insert {ts : List String} {s : TagSet} {x : String} :
    x ∈ ts.foldl insert s ↔ x ∈ s ∨ x ∈ ts := by
  induction ts generalizing s with
  | nil => simp
  | cons t ts ih =>
    simp only [List.foldl_cons, ih, mem_insert, List.mem_cons]
    constructor
    · rintro ((h | h) | h) <;> simp [h]
    · rintro (h | h | h) <;> simp [h]

@[simp] theorem mem_ofList {ts : List String} {x : String} : x ∈ ofList ts ↔ x ∈ ts :=
  mem_foldl_insert.trans (by simp [show ¬ x ∈ empty from List.not_mem_nil])

/-- A tag is in the flipped selection where it was before, but for the one that is flipped. -/
theorem mem_toggle {s : TagSet} {t x : String} :
    x ∈ s.toggle t ↔ (x ≠ t ∧ x ∈ s) ∨ (x = t ∧ ¬ t ∈ s) := by
  unfold toggle
  split
  · next h =>
    rw [mem_erase]
    constructor
    · exact fun hx => .inl ⟨hx.2, hx.1⟩
    · rintro (hx | hx)
      · exact ⟨hx.2, hx.1⟩
      · exact absurd h hx.2
  · next h =>
    rw [mem_insert]
    constructor
    · rintro (rfl | hx)
      · exact .inr ⟨rfl, h⟩
      · exact .inl ⟨fun e => h (e ▸ hx), hx⟩
    · rintro (hx | hx)
      · exact .inr hx.2
      · exact .inl hx.1

/-- Increasing lists with the same members are equal. -/
theorem list_ext {xs ys : List String} (hx : xs.Pairwise (· < ·)) (hy : ys.Pairwise (· < ·))
    (h : ∀ t, t ∈ xs ↔ t ∈ ys) : xs = ys := by
  induction xs generalizing ys with
  | nil =>
    cases ys with
    | nil => rfl
    | cons y ys => exact absurd ((h y).2 List.mem_cons_self) List.not_mem_nil
  | cons x xs ih =>
    cases ys with
    | nil => exact absurd ((h x).1 List.mem_cons_self) List.not_mem_nil
    | cons y ys =>
      obtain ⟨hx1, hx2⟩ := List.pairwise_cons.1 hx
      obtain ⟨hy1, hy2⟩ := List.pairwise_cons.1 hy
      -- each head is in the other list, and neither can be behind the other
      have hxy : x = y := by
        rcases List.mem_cons.1 ((h x).1 List.mem_cons_self) with e | hm
        · exact e
        · rcases List.mem_cons.1 ((h y).2 List.mem_cons_self) with e | hm'
          · exact e.symm
          · exact absurd (String.lt_trans (hy1 x hm) (hx1 y hm')) (String.lt_irrefl y)
      subst hxy
      refine congrArg (x :: ·) (ih hx2 hy2 fun t => ?_)
      -- so the tails have the same members too: the head is in neither of them
      constructor
      · intro ht
        rcases List.mem_cons.1 ((h t).1 (List.mem_cons_of_mem _ ht)) with e | hm
        · exact absurd (e ▸ hx1 t ht) (String.lt_irrefl _)
        · exact hm
      · intro ht
        rcases List.mem_cons.1 ((h t).2 (List.mem_cons_of_mem _ ht)) with e | hm
        · exact absurd (e ▸ hy1 t ht) (String.lt_irrefl _)
        · exact hm

/-- The members decide the selection. -/
theorem ext {s u : TagSet} (h : ∀ t, t ∈ s ↔ t ∈ u) : s = u := by
  cases s with
  | mk xs hx =>
    cases u with
    | mk ys hy =>
      have : xs = ys := list_ext hx hy h
      subst this
      rfl

end TagSet

end IdeaBoard
