import IdeaBoard.Json.Record
import Mathlib.Data.List.Nodup

/-!
# IdeaBoard — records are read by key alone

What a record reads from the members of an object, and what it does not depend on.

* **`Keyed`** — every key is a text and no known key occurs twice. `known?_isSome_iff`: just then the
  members make a record.
* **`Tells`** — what the members tell for a key, wherever the one with the key stands.
  `read?_eq_some_iff`: just this is read of the record.
* **`Rearranged`** — members in another order, with members of unknown keys or defaults spelled out, or
  with a value changed inside. `Rearranged.keyed_iff` and `Rearranged.tells_iff`: they tell the same.
-/

namespace IdeaBoard.Json

abbrev Member := StringText × Tree

def written (s : String) : StringText := s.toList.map .char

theorem text?_written (s : String) : (written s).text? = some s := by
  have hchars (cs : List Char) : StringText.chars? (cs.map .char) = some cs := by
    induction cs with
    | nil => rfl
    | cons c cs ih => rw [List.map_cons, StringText.chars?, ih]; rfl
  rw [StringText.text?, written, hchars, Option.map_some, String.ofList_toList]

namespace Record

/-- The members give the key the value. -/
def Given (ms : List Member) (key : String) (t : Tree) : Prop := ∃ k, (k, t) ∈ ms ∧ k.text? = some key

def occurrences (key : String) (ms : List Member) : Nat := ms.countP fun m => m.1.text? = some key

/-- Every key is a text, and no known key occurs twice. -/
def Keyed (keys : List String) (ms : List Member) : Prop :=
  (∀ m ∈ ms, m.1.text?.isSome) ∧ ∀ key ∈ keys, occurrences key ms ≤ 1

/-- The members tell `v` for a key: its value is read as that, and where it is missing, that stands for it. -/
def Tells {α : Type} (ms : List Member) (key : String) (reader : Tree → Option α) (missing : Option α)
    (v : α) : Prop :=
  (∀ t, Given ms key t → reader t = some v) ∧ ((∀ t, ¬Given ms key t) → missing = some v)

variable {keys : List String} {key : String} {k : StringText} {t u : Tree} {ms ns : List Member}
  {fs gs : List (String × Tree)}

/-- A value is given by the first member or by one behind it. -/
theorem given_cons : Given ((k, t) :: ms) key u ↔ (u = t ∧ k.text? = some key) ∨ Given ms key u := by
  constructor
  · rintro ⟨l, hmem, hl⟩
    rcases List.mem_cons.mp hmem with heq | hin
    · obtain ⟨rfl, rfl⟩ := Prod.mk.inj heq
      exact .inl ⟨rfl, hl⟩
    · exact .inr ⟨l, hin, hl⟩
  · rintro (⟨rfl, hk⟩ | ⟨l, hin, hl⟩)
    · exact ⟨k, List.mem_cons_self, hk⟩
    · exact ⟨l, List.mem_cons_of_mem _ hin, hl⟩

theorem given_perm (perm : ms.Perm ns) : Given ms key t ↔ Given ns key t :=
  exists_congr fun _ => and_congr_left fun _ => perm.mem_iff

theorem occurrences_cons_of_text (hk : k.text? = some key) :
    occurrences key ((k, t) :: ms) = occurrences key ms + 1 :=
  List.countP_cons_of_pos (by simpa using hk)

theorem occurrences_cons_of_other {other : String} (hk : k.text? = some other) (hne : other ≠ key) :
    occurrences key ((k, t) :: ms) = occurrences key ms :=
  List.countP_cons_of_neg (by simpa [hk] using hne)

/-- A key that does not occur is given no value. -/
theorem occurrences_eq_zero_iff : occurrences key ms = 0 ↔ ∀ t, ¬ Given ms key t := by
  rw [occurrences, List.countP_eq_zero]
  constructor
  · rintro h t ⟨k, hmem, hk⟩
    exact h (k, t) hmem (by simpa using hk)
  · intro h m hmem hm
    exact h m.2 ⟨m.1, hmem, by simpa using hm⟩

/-! ## The members of a record -/

/-- One member more: passed over, or a field that is not there yet. -/
theorem known?_cons_eq_some_iff :
    known? keys ((k, t) :: ms) = some gs ↔
      ∃ key fs, k.text? = some key ∧ known? keys ms = some fs ∧
        ((key ∉ keys ∧ gs = fs) ∨ (key ∈ keys ∧ (∀ f ∈ fs, f.1 ≠ key) ∧ gs = (key, t) :: fs)) := by
  -- the choice that is made once the key is a text and the rest is a record
  have hcons (key : String) (fs : List (String × Tree)) :
      (if key ∈ keys then if fs.any (·.1 = key) then none else some ((key, t) :: fs) else some fs) =
          some gs ↔
        (key ∉ keys ∧ gs = fs) ∨ (key ∈ keys ∧ (∀ f ∈ fs, f.1 ≠ key) ∧ gs = (key, t) :: fs) := by
    have hany : fs.any (·.1 = key) = false ↔ ∀ f ∈ fs, f.1 ≠ key := by
      simp only [List.any_eq_false, decide_eq_true_eq, ne_eq]
    by_cases hkey : key ∈ keys
    · by_cases hnew : ∀ f ∈ fs, f.1 ≠ key
      · rw [if_pos hkey, hany.mpr hnew, if_neg Bool.false_ne_true]
        constructor
        · intro h
          exact .inr ⟨hkey, hnew, (Option.some.inj h).symm⟩
        · rintro (⟨hunknown, -⟩ | ⟨-, -, rfl⟩)
          · exact absurd hkey hunknown
          · rfl
      · rw [if_pos hkey, if_pos (by simpa using mt hany.mp hnew)]
        constructor
        · intro h
          cases h
        · rintro (⟨hunknown, -⟩ | ⟨-, h, -⟩)
          · exact absurd hkey hunknown
          · exact absurd h hnew
    · simp [hkey, eq_comm]
  show (k.text?.bind fun key => (known? keys ms).bind fun fs => if key ∈ keys then _ else _) = _ ↔ _
  simp only [Option.bind_eq_some_iff, hcons]
  constructor
  · rintro ⟨key, hk, fs, hknown, h⟩
    exact ⟨key, fs, hk, hknown, h⟩
  · rintro ⟨key, fs, hk, hknown, h⟩
    exact ⟨key, hk, fs, hknown, h⟩

/-- The fields of a record are the values that its members give the known keys. -/
theorem mem_known (known : known? keys ms = some fs) (hkey : key ∈ keys) :
    (key, t) ∈ fs ↔ Given ms key t := by
  induction ms generalizing fs with
  | nil =>
    obtain rfl := Option.some.inj known
    simp [Given]
  | cons m ms ih =>
    obtain ⟨k, v⟩ := m
    obtain ⟨name, rest, hk, hrest, ⟨hname, rfl⟩ | ⟨-, -, rfl⟩⟩ := known?_cons_eq_some_iff.mp known
    · -- a member that is passed over has another key than a known one
      have hne : k.text? ≠ some key := by
        rw [hk]
        exact fun h => hname (Option.some.inj h ▸ hkey)
      rw [ih hrest, given_cons]
      simp [hne]
    · rw [List.mem_cons, ih hrest, given_cons, hk]
      simp [eq_comm, and_comm]

/-- **Members make a record just where every key is a text and no known key occurs twice.** -/
theorem known?_isSome_iff : (known? keys ms).isSome ↔ Keyed keys ms := by
  induction ms with
  | nil => simp [known?, Keyed, occurrences]
  | cons m ms ih =>
    obtain ⟨k, t⟩ := m
    constructor
    · intro h
      obtain ⟨gs, hgs⟩ := Option.isSome_iff_exists.mp h
      obtain ⟨name, fs, hk, hfs, hcase⟩ := known?_cons_eq_some_iff.mp hgs
      obtain ⟨htext, honce⟩ := ih.mp (by simp [hfs])
      refine ⟨List.forall_mem_cons.mpr ⟨by simp [hk], htext⟩, fun key hkey => ?_⟩
      -- only the count of the new key goes up, and that from nothing
      by_cases hname : name = key
      · subst hname
        obtain ⟨hunknown, -⟩ | ⟨-, hnew, -⟩ := hcase
        · exact absurd hkey hunknown
        · have hnone : occurrences name ms = 0 := by
            rw [occurrences_eq_zero_iff]
            exact fun u hu => hnew (name, u) ((mem_known hfs hkey).mpr hu) rfl
          rw [occurrences_cons_of_text hk]
          omega
      · rw [occurrences_cons_of_other hk hname]
        exact honce key hkey
    · rintro ⟨htext, honce⟩
      obtain ⟨name, hk⟩ := Option.isSome_iff_exists.mp (htext (k, t) List.mem_cons_self)
      have hrest : (known? keys ms).isSome := by
        refine ih.mpr ⟨fun m hm => htext m (List.mem_cons_of_mem _ hm), fun key hkey => ?_⟩
        exact Nat.le_trans (List.sublist_cons_self _ _).countP_le (honce key hkey)
      obtain ⟨fs, hfs⟩ := Option.isSome_iff_exists.mp hrest
      -- a known key is not among the fields of the rest, since it occurs but once
      by_cases hname : name ∈ keys
      · have hnone : occurrences name ms = 0 := by
          have hone := honce name hname
          rw [occurrences_cons_of_text hk] at hone
          omega
        have hnew : ∀ f ∈ fs, f.1 ≠ name := by
          rintro ⟨l, u⟩ hf rfl
          exact occurrences_eq_zero_iff.mp hnone u ((mem_known hfs hname).mp hf)
        exact Option.isSome_iff_exists.mpr
          ⟨_, known?_cons_eq_some_iff.mpr ⟨name, fs, hk, hfs, .inr ⟨hname, hnew, rfl⟩⟩⟩
      · exact Option.isSome_iff_exists.mpr
          ⟨_, known?_cons_eq_some_iff.mpr ⟨name, fs, hk, hfs, .inl ⟨hname, rfl⟩⟩⟩

/-- A known key that occurs twice leaves no record. -/
theorem not_keyed_of_repeated (hkey : key ∈ keys) (repeated : 2 ≤ occurrences key ms) : ¬Keyed keys ms := by
  rintro ⟨-, honce⟩
  have hone := honce key hkey
  omega

/-! ## Fields -/

/-- A record has each known key once. -/
theorem nodup_known (known : known? keys ms = some fs) : (fs.map Prod.fst).Nodup := by
  induction ms generalizing fs with
  | nil =>
    obtain rfl := Option.some.inj known
    exact List.nodup_nil
  | cons m ms ih =>
    obtain ⟨name, rest, -, hrest, ⟨-, rfl⟩ | ⟨-, hnew, rfl⟩⟩ := known?_cons_eq_some_iff.mp known
    · exact ih hrest
    · refine List.nodup_cons.mpr ⟨fun hmem => ?_, ih hrest⟩
      obtain ⟨f, hf, hname⟩ := List.mem_map.mp hmem
      exact hnew f hf hname

/-- **A field is the value of the member with its key.** -/
theorem field?_eq_some_iff (known : known? keys ms = some fs) (hkey : key ∈ keys) :
    (Record.mk fs).field? key = some t ↔ Given ms key t := by
  rw [← mem_known known hkey]
  show (fs.find? fun f => f.1 = key).map Prod.snd = some t ↔ _
  constructor
  · intro h
    obtain ⟨⟨name, v⟩, hfind, rfl⟩ := Option.map_eq_some_iff.mp h
    have hname : name = key := by simpa using List.find?_some hfind
    exact hname ▸ List.mem_of_find?_eq_some hfind
  · intro hmem
    -- the first field with the key is the only one, as no key is there twice
    cases hfind : fs.find? fun f => f.1 = key with
    | none => exact absurd (List.find?_eq_none.mp hfind (key, t) hmem) (by simp)
    | some f =>
      have hf : f.1 = key := by simpa using List.find?_some hfind
      have hsame : f = (key, t) :=
        List.inj_on_of_nodup_map (nodup_known known) (List.mem_of_find?_eq_some hfind) hmem hf
      rw [hsame]
      rfl

/-- **What is read of a record is what its members tell.** -/
theorem read?_eq_some_iff (known : known? keys ms = some fs) (hkey : key ∈ keys) {α : Type}
    {reader : Tree → Option α} {missing : Option α} {v : α} :
    (Record.mk fs).read? key reader missing = some v ↔ Tells ms key reader missing v := by
  rw [read?]
  -- a field that is there is read, one that is missing has its default
  cases hfield : (Record.mk fs).field? key with
  | some t =>
    have hgiven := (field?_eq_some_iff known hkey).mp hfield
    constructor
    · intro hread
      refine ⟨fun u hu => ?_, fun absent => absurd hgiven (absent t)⟩
      have hsame := (field?_eq_some_iff known hkey).mpr hu
      rw [hfield] at hsame
      rwa [← Option.some.inj hsame]
    · exact fun h => h.1 t hgiven
  | none =>
    have habsent (t : Tree) : ¬Given ms key t := by
      intro hgiven
      rw [(field?_eq_some_iff known hkey).mpr hgiven] at hfield
      cases hfield
    constructor
    · exact fun hread => ⟨fun t hgiven => absurd hgiven (habsent t), fun _ => hread⟩
    · exact fun h => h.2 habsent

/-- What is built of the record of an object, where it is built just under a condition. -/
theorem bind_ofTree?_eq_some_iff {α : Type} {build : Record → Option α} {v : α} {condition : Prop}
    (hbuild : ∀ fs, known? keys ms = some fs → (build (Record.mk fs) = some v ↔ condition)) :
    (ofTree? keys (.object ms)).bind build = some v ↔ Keyed keys ms ∧ condition := by
  rw [← known?_isSome_iff, ofTree?, Option.bind_map]
  cases hknown : known? keys ms with
  | none => simp
  | some fs =>
    rw [Option.bind_some, Function.comp_apply, hbuild fs hknown]
    exact (and_iff_right rfl).symm

/-! ## The same record in other words -/

/-- The members of one object and those of another that says the same of a record: in another order,
with members whose keys are unknown, with the default of a missing key spelled out, or with the value of
a key changed for one that says the same. -/
inductive Rearranged (keys : List String) (defaults : List (String × Tree))
    (within : String → Tree → Tree → Prop) : List Member → List Member → Prop where
  | reordered {ms ns : List Member} (perm : ms.Perm ns) : Rearranged keys defaults within ms ns
  | passedOver {ms : List Member} {key : String} (k : StringText) (t : Tree)
      (text : k.text? = some key) (unknown : key ∉ keys) :
      Rearranged keys defaults within ms ((k, t) :: ms)
  | spelledOut {ms : List Member} {key : String} (k : StringText) (t : Tree)
      (text : k.text? = some key) (default : (key, t) ∈ defaults) (absent : ∀ u, ¬ Given ms key u) :
      Rearranged keys defaults within ms ((k, t) :: ms)
  | inside {ms : List Member} {key : String} (k : StringText) (t u : Tree)
      (text : k.text? = some key) (same : within key t u) :
      Rearranged keys defaults within ((k, t) :: ms) ((k, u) :: ms)
  | symm {ms ns : List Member} (h : Rearranged keys defaults within ms ns) :
      Rearranged keys defaults within ns ms
  | trans {ls ms ns : List Member} (h : Rearranged keys defaults within ls ms)
      (h' : Rearranged keys defaults within ms ns) : Rearranged keys defaults within ls ns

variable {defaults : List (String × Tree)} {within : String → Tree → Tree → Prop}

/-- One member more, whose key is not among the known ones or is not there yet. -/
theorem keyed_cons_iff (hk : k.text? = some key) (hnew : key ∈ keys → occurrences key ms = 0) :
    Keyed keys ((k, t) :: ms) ↔ Keyed keys ms := by
  rw [Keyed, Keyed, List.forall_mem_cons]
  simp only [hk, Option.isSome_some, true_and]
  refine and_congr_right fun _ => forall₂_congr fun other hother => ?_
  by_cases hname : key = other
  · subst hname
    rw [occurrences_cons_of_text hk, hnew hother]
    omega
  · rw [occurrences_cons_of_other hk hname]

/-- What says the same makes a record just where the other does. -/
theorem Rearranged.keyed_iff (h : Rearranged keys defaults within ms ns) :
    Keyed keys ms ↔ Keyed keys ns := by
  -- one change at a time: a member more never adds to the count of a known key that is there
  induction h with
  | reordered perm => simp only [Keyed, perm.mem_iff, occurrences, perm.countP_eq]
  | passedOver k t text unknown =>
    exact (keyed_cons_iff text fun hkey => absurd hkey unknown).symm
  | spelledOut k t text default absent =>
    exact (keyed_cons_iff text fun _ => occurrences_eq_zero_iff.mpr absent).symm
  | inside k t u text same =>
    simp only [Keyed, List.forall_mem_cons, occurrences, List.countP_cons]
  | symm _ ih => exact ih.symm
  | trans _ _ ih ih' => exact ih.trans ih'

/-- A member with another key gives this one nothing. -/
theorem given_cons_of_other {other : String} (hk : k.text? = some other) (hne : other ≠ key) :
    Given ((k, t) :: ms) key u ↔ Given ms key u := by
  rw [given_cons, hk]
  simp [hne]

section Tells

variable {α : Type} {reader : Tree → Option α} {missing : Option α} {v : α}

theorem tells_congr (same : ∀ t, Given ms key t ↔ Given ns key t) :
    Tells ms key reader missing v ↔ Tells ns key reader missing v := by
  simp only [Tells, same]

/-- A member with the key tells its own value, and leaves the default out. -/
theorem tells_cons_of_text (hk : k.text? = some key) :
    Tells ((k, t) :: ms) key reader missing v ↔
      reader t = some v ∧ ∀ u, Given ms key u → reader u = some v := by
  have hgiven : Given ((k, t) :: ms) key t := ⟨k, List.mem_cons_self, hk⟩
  constructor
  · rintro ⟨hvalue, -⟩
    exact ⟨hvalue t hgiven, fun u hu => hvalue u (given_cons.mpr (.inr hu))⟩
  · rintro ⟨ht, hrest⟩
    refine ⟨fun u hu => ?_, fun absent => absurd hgiven (absent t)⟩
    obtain ⟨rfl, -⟩ | hu := given_cons.mp hu
    · exact ht
    · exact hrest u hu

/-- **What says the same tells every reader the same**, where the reader takes a default for what is
missing, and values that say the same for the same. -/
theorem Rearranged.tells_iff (h : Rearranged keys defaults within ms ns) (hkey : key ∈ keys)
    (hdefault : ∀ t, (key, t) ∈ defaults → reader t = missing)
    (hwithin : ∀ t u, within key t u → reader t = reader u) :
    Tells ms key reader missing v ↔ Tells ns key reader missing v := by
  induction h with
  | reordered perm => exact tells_congr fun _ => given_perm perm
  | @passedOver ms name k t text unknown =>
    have hname : name ≠ key := fun heq => unknown (heq ▸ hkey)
    exact tells_congr fun _ => (given_cons_of_other text hname).symm
  | @spelledOut ms name k t text default absent =>
    by_cases hname : name = key
    · -- the default that is spelled out is read as what is missing
      subst hname
      have hnone : Tells ms name reader missing v ↔ missing = some v :=
        ⟨fun h => h.2 absent, fun h => ⟨fun u hu => absurd hu (absent u), fun _ => h⟩⟩
      rw [hnone, tells_cons_of_text text, hdefault t default]
      exact (and_iff_left fun u hu => absurd hu (absent u)).symm
    · exact tells_congr fun _ => (given_cons_of_other text hname).symm
  | @inside ms name k t u text same =>
    -- a value inside is changed: only the reader of its key could see it
    by_cases hname : name = key
    · subst hname
      rw [tells_cons_of_text text, tells_cons_of_text text, hwithin t u same]
    · exact tells_congr fun _ => by rw [given_cons_of_other text hname, given_cons_of_other text hname]
  | symm _ ih => exact ih.symm
  | trans _ _ ih ih' => exact ih.trans ih'

end Tells

end Record

end IdeaBoard.Json
