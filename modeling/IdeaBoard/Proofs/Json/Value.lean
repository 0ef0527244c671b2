import IdeaBoard.Proofs.Json.Record
import Mathlib.Data.List.Forall2
import Mathlib.Data.List.Induction

/-!
# IdeaBoard — values are what their trees say

How the value of a container is made of what it holds.

* **`Tree.value?_mono`** — a value within few containers is the value within more: how deep a tree stands
  in a document decides whether it has a value, never which.
* **`values?_eq_some_iff`** — the items of an array are evaluated one by one, in order.
* **`find?_members`** — a key of an object has the value of the last member with it.
-/

namespace IdeaBoard.Json

/-! ## Depth -/

mutual

theorem Tree.value?_mono : (t : Tree) → {d e : Nat} → {v : Value} → d ≤ e → t.value? d = some v →
    t.value? e = some v
  | .null, _, _, _, _, h => h
  | .bool _, _, _, _, _, h => h
  | .number _, _, _, _, _, h => h
  | .string _, _, _, _, _, h => h
  | .array items, 0, _, _, _, h => absurd h (by simp [Tree.value?])
  | .array items, d + 1, 0, _, hle, _ => absurd hle (by omega)
  | .array items, d + 1, e + 1, v, hle, h => by
    rw [Tree.value?] at h ⊢
    obtain ⟨vs, hvs, rfl⟩ := Option.map_eq_some_iff.mp h
    rw [Tree.values?_mono items (Nat.le_of_succ_le_succ hle) hvs]
    rfl
  | .object members, 0, _, _, _, h => absurd h (by simp [Tree.value?])
  | .object members, d + 1, 0, _, hle, _ => absurd hle (by omega)
  | .object members, d + 1, e + 1, v, hle, h => by
    rw [Tree.value?] at h ⊢
    obtain ⟨vs, hvs, rfl⟩ := Option.map_eq_some_iff.mp h
    rw [Tree.members?_mono members (Nat.le_of_succ_le_succ hle) hvs]
    rfl

theorem Tree.values?_mono : (ts : List Tree) → {d e : Nat} → {vs : List Value} → d ≤ e →
    Tree.values? d ts = some vs → Tree.values? e ts = some vs
  | [], _, _, _, _, h => h
  | t :: ts, _, _, _, hle, h => by
    rw [Tree.values?] at h ⊢
    obtain ⟨v, hv, hrest⟩ := Option.bind_eq_some_iff.mp h
    obtain ⟨vs, hvs, hcons⟩ := Option.bind_eq_some_iff.mp hrest
    rw [Tree.value?_mono t hle hv, Tree.values?_mono ts hle hvs]
    exact hcons

theorem Tree.members?_mono : (ms : List Member) → {d e : Nat} → {vs : List (String × Value)} → d ≤ e →
    Tree.members? d ms = some vs → Tree.members? e ms = some vs
  | [], _, _, _, _, h => h
  | (k, t) :: ms, _, _, _, hle, h => by
    rw [Tree.members?] at h ⊢
    obtain ⟨key, hkey, hrest⟩ := Option.bind_eq_some_iff.mp h
    obtain ⟨v, hv, hrest⟩ := Option.bind_eq_some_iff.mp hrest
    obtain ⟨vs, hvs, hcons⟩ := Option.bind_eq_some_iff.mp hrest
    rw [hkey, Tree.value?_mono t hle hv, Tree.members?_mono ms hle hvs]
    exact hcons

end

/-! ## Containers -/

variable {depth : Nat} {t : Tree} {ts : List Tree} {ms : List Member} {v : Value} {vs : List Value}
  {ws : List (String × Value)}

/-- **The items of an array are evaluated one by one.** -/
theorem values?_eq_some_iff :
    Tree.values? depth ts = some vs ↔ List.Forall₂ (fun t v => t.value? depth = some v) ts vs := by
  induction ts generalizing vs with
  | nil => simp [Tree.values?, eq_comm]
  | cons t ts ih =>
    rw [Tree.values?, List.forall₂_cons_left_iff]
    simp only [Option.bind_eq_bind, Option.bind_eq_some_iff, Option.pure_def, Option.some.injEq, ih]
    constructor
    · rintro ⟨v, hv, rest, hrest, rfl⟩
      exact ⟨v, rest, hv, hrest, rfl⟩
    · rintro ⟨v, rest, hv, hrest, rfl⟩
      exact ⟨v, hv, rest, hrest, rfl⟩

/-- The member as evaluated: its key as a text, its value. -/
def Evaluates (depth : Nat) (m : Member) (w : String × Value) : Prop :=
  m.1.text? = some w.1 ∧ m.2.value? depth = some w.2

/-- The members of an object are evaluated one by one, keys and values. -/
theorem forall₂_members (h : Tree.members? depth ms = some ws) :
    List.Forall₂ (Evaluates depth) ms ws := by
  induction ms generalizing ws with
  | nil =>
    obtain rfl := Option.some.inj h
    exact .nil
  | cons m ms ih =>
    rw [Tree.members?] at h
    obtain ⟨key, hkey, hrest⟩ := Option.bind_eq_some_iff.mp h
    obtain ⟨v, hv, hrest⟩ := Option.bind_eq_some_iff.mp hrest
    obtain ⟨vs, hvs, hcons⟩ := Option.bind_eq_some_iff.mp hrest
    obtain rfl := Option.some.inj hcons
    exact .cons ⟨hkey, hv⟩ (ih hvs)

/-! ## Keys of an object -/

def last? (key : String) (ms : List Member) : Option Tree :=
  (ms.reverse.find? fun m => m.1.text? = some key).map Prod.snd

/-- A key that is set has the new value, and the others keep theirs. -/
theorem find?_setMember (key other : String) (v : Value) (ws : List (String × Value)) :
    (setMember key v ws).find? (fun w => w.1 = other) =
      if key = other then some (key, v) else ws.find? fun w => w.1 = other := by
  induction ws with
  | nil => by_cases h : key = other <;> simp [setMember, h]
  | cons w ws ih =>
    -- the entries are kept in order, so the key goes in front of a greater one, in place of its
    -- own, or further back
    by_cases h : key = other
    · subst h
      rw [if_pos rfl] at ih ⊢
      rw [setMember]
      split
      · simp
      · split
        · simp
        · next hne => simpa [Ne.symm hne] using ih
    · rw [if_neg h] at ih ⊢
      rw [setMember]
      split
      · simp [h]
      · split
        · next heq => simp [h, ← heq]
        · rw [List.find?_cons, List.find?_cons, ih]

/-- The members of an object are looked up from the last to the first. -/
theorem find?_sortedMembers (key : String) (ws : List (String × Value)) :
    (sortedMembers ws).find? (fun w => w.1 = key) = ws.reverse.find? fun w => w.1 = key := by
  -- from behind: the member that is set last is the first that is found
  induction ws using List.reverseRecOn with
  | nil => rfl
  | append_singleton ws w ih =>
    obtain ⟨name, v⟩ := w
    have hset : sortedMembers (ws ++ [(name, v)]) = setMember name v (sortedMembers ws) := by
      simp [sortedMembers]
    rw [hset, find?_setMember, ih, List.reverse_concat, List.find?_cons]
    by_cases h : name = key <;> simp [h]

/-- The first member with a key is evaluated to the first entry with it. -/
theorem rel_find? (h : List.Forall₂ (Evaluates depth) ms ws) (key : String) :
    Option.Rel (Evaluates depth) (ms.find? fun m => m.1.text? = some key) (ws.find? fun w => w.1 = key) := by
  induction h with
  | nil => exact .none
  | @cons m w ms ws hmw _ ih =>
    by_cases hkey : w.1 = key
    · rw [List.find?_cons_of_pos (by simp [hmw.1, hkey]), List.find?_cons_of_pos (by simp [hkey])]
      exact .some hmw
    · rw [List.find?_cons_of_neg (by simp [hmw.1, hkey]), List.find?_cons_of_neg (by simp [hkey])]
      exact ih

/-- **A key of an object has the value of the last member with it.** -/
theorem find?_members (h : (Tree.object ms).value? (depth + 1) = some (.object ws)) (key : String) :
    Option.Rel (fun t v => t.value? depth = some v) (last? key ms)
      ((ws.find? fun w => w.1 = key).map Prod.snd) := by
  rw [Tree.value?] at h
  obtain ⟨raw, hraw, hobject⟩ := Option.map_eq_some_iff.mp h
  obtain rfl : sortedMembers raw = ws := by injection hobject
  have hrel := rel_find? (List.rel_reverse (forall₂_members hraw)) key
  rw [find?_sortedMembers, last?]
  -- both lookups fail, or both find the same member
  cases hm : ms.reverse.find? fun m => m.1.text? = some key <;>
    cases hw : raw.reverse.find? fun w => w.1 = key <;> rw [hm, hw] at hrel
  · exact .none
  · cases hrel
  · cases hrel
  · cases hrel with
    | some hmw => exact .some hmw.2

end IdeaBoard.Json
