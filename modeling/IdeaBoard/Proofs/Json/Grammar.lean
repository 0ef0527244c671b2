import IdeaBoard.Json.Tree
import IdeaBoard.Proofs.Json.Scan
import IdeaBoard.Proofs.Split
import Mathlib.Data.List.Forall2

/-!
# IdeaBoard — the grammar of JSON texts

What a JSON text is, beside the reader that takes it token by token with a stack of open containers.

* **`Writes`** — the tokens of a tree: brackets around its items, commas between them, a key and a colon
  in front of each member. `ofTokens?_eq_some_iff`: the reader takes just these to the tree, by
  `Taken.step` (what has been taken is what the open containers and the current value write) one way, and
  `Writes.read` the other.
* **`ObjectText`** — the characters of an object: braces around its members, commas between them.
  `objectText_iff`: a text is read as an object with some members just where it is a text of them.
-/

namespace IdeaBoard.Json

open IdeaBoard.Text

/-! ## The tokens of a tree -/

/-- A member of an object with the tokens of its value. -/
abbrev MemberTokens := StringText × List Token × Tree

def memberTokens (m : MemberTokens) : List Token := .string m.1 :: .colon :: m.2.1

def memberTree (m : MemberTokens) : StringText × Tree := (m.1, m.2.2)

/-- The tokens write the tree. -/
inductive Writes : List Token → Tree → Prop where
  | null : Writes [.null] .null
  | bool (b : Bool) : Writes [.bool b] (.bool b)
  | number (n : NumberText) : Writes [.number n] (.number n)
  | string (s : StringText) : Writes [.string s] (.string s)
  | array (items : List (List Token × Tree)) (each : ∀ i ∈ items, Writes i.1 i.2) :
      Writes (.openArray :: join [.comma] (items.map Prod.fst) ++ [.closeArray])
        (.array (items.map Prod.snd))
  | object (members : List MemberTokens) (each : ∀ m ∈ members, Writes m.2.1 m.2.2) :
      Writes (.openObject :: join [.comma] (members.map memberTokens) ++ [.closeObject])
        (.object (members.map memberTree))

def ended (ps : List (List Token)) : List Token := ps.flatMap (· ++ [.comma])

theorem ended_concat (ps : List (List Token)) (p : List Token) :
    ended (ps ++ [p]) = ended ps ++ p ++ [.comma] := by
  simp [ended]

/-- The last part ends no comma: it is joined to what the others have ended. -/
theorem join_concat (ps : List (List Token)) (p : List Token) :
    join [.comma] (ps ++ [p]) = ended ps ++ p := by
  induction ps with
  | nil => simp [join, ended]
  | cons q ps ih =>
    have hjoin : join [.comma] (q :: (ps ++ [p])) = q ++ [.comma] ++ join [.comma] (ps ++ [p]) := by
      cases ps <;> rfl
    rw [List.cons_append, hjoin, ih]
    simp [ended]

/-! ## What a reader has taken -/

/-- The tokens up to the inside of the open containers. -/
inductive Opened : List Frame → List Token → Prop where
  | nil : Opened [] []
  | array {frames : List Frame} {ts : List Token} (outer : Opened frames ts)
      (items : List (List Token × Tree)) (each : ∀ i ∈ items, Writes i.1 i.2) :
      Opened (.array (items.map Prod.snd).reverse :: frames)
        (ts ++ .openArray :: ended (items.map Prod.fst))
  | object {frames : List Frame} {ts : List Token} (outer : Opened frames ts)
      (members : List MemberTokens) (each : ∀ m ∈ members, Writes m.2.1 m.2.2) (key : StringText) :
      Opened (.object (members.map memberTree).reverse key :: frames)
        (ts ++ .openObject :: ended (members.map memberTokens) ++ [.string key, .colon])

/-- The tokens that a reader has taken when it is in a state. -/
inductive Taken : Reader → List Token → Prop where
  | value {frames : List Frame} {ts : List Token} (outer : Opened frames ts) :
      Taken ⟨frames, .value⟩ ts
  | firstItem {frames : List Frame} {ts : List Token} (outer : Opened frames ts) :
      Taken ⟨frames, .firstItem⟩ (ts ++ [.openArray])
  | firstKey {frames : List Frame} {ts : List Token} (outer : Opened frames ts) :
      Taken ⟨frames, .firstKey⟩ (ts ++ [.openObject])
  | key {frames : List Frame} {ts : List Token} (outer : Opened frames ts)
      (members : List MemberTokens) (each : ∀ m ∈ members, Writes m.2.1 m.2.2) :
      Taken ⟨frames, .key (members.map memberTree).reverse⟩
        (ts ++ .openObject :: ended (members.map memberTokens))
  | colon {frames : List Frame} {ts : List Token} (outer : Opened frames ts)
      (members : List MemberTokens) (each : ∀ m ∈ members, Writes m.2.1 m.2.2) (key : StringText) :
      Taken ⟨frames, .colon (members.map memberTree).reverse key⟩
        (ts ++ .openObject :: ended (members.map memberTokens) ++ [.string key])
  | after {frames : List Frame} {ts vs : List Token} {v : Tree} (outer : Opened frames ts)
      (value : Writes vs v) : Taken ⟨frames, .after v⟩ (ts ++ vs)

variable {frames : List Frame} {ts vs : List Token} {v t : Tree} {r r' : Reader} {tok : Token}

/-- Where a value is due, a token is one by itself or opens a container. -/
theorem Opened.onValue? (outer : Opened frames ts) (step : Reader.onValue? frames tok = some r') :
    Taken r' (ts ++ [tok]) := by
  cases tok with
  | null =>
    obtain rfl := Option.some.inj step
    exact .after outer .null
  | bool b =>
    obtain rfl := Option.some.inj step
    exact .after outer (.bool b)
  | number n =>
    obtain rfl := Option.some.inj step
    exact .after outer (.number n)
  | string s =>
    obtain rfl := Option.some.inj step
    exact .after outer (.string s)
  | openArray =>
    obtain rfl := Option.some.inj step
    exact .firstItem outer
  | openObject =>
    obtain rfl := Option.some.inj step
    exact .firstKey outer
  | _ => exact absurd step (by simp [Reader.onValue?])

/-- Behind a value, the innermost container goes on or closes; outside of all of them nothing
follows. -/
theorem Opened.onAfter? (outer : Opened frames ts) (value : Writes vs v)
    (step : Reader.onAfter? frames v tok = some r') : Taken r' (ts ++ vs ++ [tok]) := by
  cases outer with
  | nil => exact absurd step (by simp [Reader.onAfter?])
  | @array frames ts outer items each =>
    -- the value that has just been read is one more item of the array
    have heach : ∀ i ∈ items ++ [(vs, v)], Writes i.1 i.2 := by
      intro i hi
      rcases List.mem_append.mp hi with hin | hin
      · exact each i hin
      · obtain rfl := List.mem_singleton.mp hin
        exact value
    cases tok with
    | comma =>
      obtain rfl := Option.some.inj step
      have h := Taken.value (.array outer (items ++ [(vs, v)]) heach)
      simpa [ended_concat] using h
    | closeArray =>
      obtain rfl := Option.some.inj step
      have h := Taken.after outer (.array (items ++ [(vs, v)]) heach)
      simpa [join_concat] using h
    | _ => exact absurd step (by simp [Reader.onAfter?])
  | @object frames ts outer members each key =>
    -- here it is the value of the key that waits, so one more member
    have heach : ∀ m ∈ members ++ [(key, vs, v)], Writes m.2.1 m.2.2 := by
      intro m hm
      rcases List.mem_append.mp hm with hin | hin
      · exact each m hin
      · obtain rfl := List.mem_singleton.mp hin
        exact value
    cases tok with
    | comma =>
      obtain rfl := Option.some.inj step
      have h := Taken.key outer (members ++ [(key, vs, v)]) heach
      simpa [ended_concat, memberTokens, memberTree] using h
    | closeObject =>
      obtain rfl := Option.some.inj step
      have h := Taken.after outer (.object (members ++ [(key, vs, v)]) heach)
      simpa [join_concat, memberTokens, memberTree] using h
    | _ => exact absurd step (by simp [Reader.onAfter?])

/-- **A step adds its token to what has been taken.** -/
theorem Taken.step (taken : Taken r ts) (step : r.step? tok = some r') : Taken r' (ts ++ [tok]) := by
  cases taken with
  | value outer => exact outer.onValue? step
  | @firstItem frames ts outer =>
    -- an array that closes at once, or the first of its items with none done
    by_cases htok : tok = .closeArray
    · subst htok
      obtain rfl := Option.some.inj step
      simpa [join] using Taken.after outer (.array [] (by simp))
    · have hvalue : Reader.onValue? (.array [] :: frames) tok = some r' := by
        simpa [Reader.step?, htok] using step
      simpa [ended] using (Opened.array outer [] (by simp)).onValue? hvalue
  | firstKey outer =>
    cases tok with
    | closeObject =>
      obtain rfl := Option.some.inj step
      simpa [join] using Taken.after outer (.object [] (by simp))
    | string k =>
      obtain rfl := Option.some.inj step
      simpa [ended] using Taken.colon outer [] (by simp) k
    | _ => exact absurd step (by simp [Reader.step?])
  | key outer members each =>
    cases tok with
    | string k =>
      obtain rfl := Option.some.inj step
      exact .colon outer members each k
    | _ => exact absurd step (by simp [Reader.step?])
  | colon outer members each key =>
    cases tok with
    | colon =>
      obtain rfl := Option.some.inj step
      simpa using Taken.value (.object outer members each key)
    | _ => exact absurd step (by simp [Reader.step?])
  | after outer value => exact outer.onAfter? value step

/-- The reader has taken all the tokens that it was run on. -/
theorem Taken.run (taken : Taken r ts) {us : List Token} (run : r.run? us = some r') :
    Taken r' (ts ++ us) := by
  induction us generalizing r ts with
  | nil =>
    obtain rfl := Option.some.inj run
    simpa using taken
  | cons u us ih =>
    obtain ⟨next, hstep, hrest⟩ := Option.bind_eq_some_iff.mp run
    simpa using ih (taken.step hstep) hrest

/-! ## Reading what is written -/

/-- A value does not start with a bracket that closes. -/
theorem Writes.head (h : Writes vs v) : ∃ first rest, vs = first :: rest ∧ first ≠ .closeArray := by
  cases h <;> exact ⟨_, _, rfl, by simp⟩

/-- Behind the bracket of an array a value is taken as any item is. -/
theorem run?_firstItem (h : Writes vs v) (us : List Token) :
    Reader.run? ⟨frames, .firstItem⟩ (vs ++ us) = Reader.run? ⟨.array [] :: frames, .value⟩ (vs ++ us) := by
  obtain ⟨first, rest, rfl, hfirst⟩ := h.head
  have hstep : Reader.step? ⟨frames, .firstItem⟩ first = Reader.onValue? (.array [] :: frames) first := by
    cases first with
    | closeArray => exact absurd rfl hfirst
    | _ => rfl
  rw [List.cons_append, Reader.run?, Reader.run?, hstep]
  rfl

/-- From any state in which a value is due, the tokens are taken to one in which the value is there. -/
def Read (vs : List Token) (v : Tree) : Prop :=
  ∀ frames us, Reader.run? ⟨frames, .value⟩ (vs ++ us) = Reader.run? ⟨frames, .after v⟩ us

/-- The items of an array, or those of them that are still to come. -/
theorem run?_items {items : List (List Token × Tree)} (hne : items ≠ [])
    (each : ∀ i ∈ items, Read i.1 i.2) (frames : List Frame) (done : List Tree) (us : List Token) :
    Reader.run? ⟨.array done :: frames, .value⟩ (join [.comma] (items.map Prod.fst) ++ .closeArray :: us) =
      Reader.run? ⟨frames, .after (.array (done.reverse ++ items.map Prod.snd))⟩ us := by
  -- on the items that are left; those done stand in the frame, the last one first
  induction items generalizing done with
  | nil => exact absurd rfl hne
  | cons i items ih =>
    have hi := each i List.mem_cons_self
    cases items with
    | nil =>
      show Reader.run? _ (i.1 ++ .closeArray :: us) = _
      -- behind the last item the bracket closes the array
      rw [hi]
      show Reader.run? ⟨frames, .after (.array (i.2 :: done).reverse)⟩ us = _
      rw [List.reverse_cons]
      rfl
    | cons j items =>
      have hrest := ih (by simp) (fun k hk => each k (List.mem_cons_of_mem i hk)) (i.2 :: done)
      show Reader.run? _ (i.1 ++ [.comma] ++ join [.comma] ((j :: items).map Prod.fst) ++ _) = _
      -- behind any other a comma leaves it open for the next
      rw [List.append_assoc, List.append_assoc, hi]
      show Reader.run? ⟨.array (i.2 :: done) :: frames, .value⟩ (join _ _ ++ _) = _
      rw [hrest, List.reverse_cons, List.append_assoc]
      rfl

/-- The members of an object, or those of them that are still to come. -/
theorem run?_members {members : List MemberTokens} (hne : members ≠ [])
    (each : ∀ m ∈ members, Read m.2.1 m.2.2) (frames : List Frame) (done : List (StringText × Tree))
    (us : List Token) :
    Reader.run? ⟨frames, .key done⟩
        (join [.comma] (members.map memberTokens) ++ .closeObject :: us) =
      Reader.run? ⟨frames, .after (.object (done.reverse ++ members.map memberTree))⟩ us := by
  -- as with items, but a key and a colon are taken before the value
  induction members generalizing done with
  | nil => exact absurd rfl hne
  | cons m members ih =>
    have hm := each m List.mem_cons_self
    cases members with
    | nil =>
      show Reader.run? ⟨.object done m.1 :: frames, .value⟩ (m.2.1 ++ .closeObject :: us) = _
      rw [hm]
      show Reader.run? ⟨frames, .after (.object (memberTree m :: done).reverse)⟩ us = _
      rw [List.reverse_cons]
      rfl
    | cons n members =>
      have hrest := ih (by simp) (fun k hk => each k (List.mem_cons_of_mem m hk)) (memberTree m :: done)
      show Reader.run? _ (memberTokens m ++ [.comma] ++ join [.comma] ((n :: members).map memberTokens) ++
        _) = _
      rw [List.append_assoc, List.append_assoc]
      show Reader.run? ⟨.object done m.1 :: frames, .value⟩ (m.2.1 ++ _) = _
      rw [hm]
      show Reader.run? ⟨frames, .key (memberTree m :: done)⟩ (join _ _ ++ _) = _
      rw [hrest, List.reverse_cons, List.append_assoc]
      rfl

/-- **What is written is read, whatever is open around it and follows it.** -/
theorem Writes.read (h : Writes vs v) : Read vs v := by
  induction h with
  | null => exact fun _ _ => rfl
  | bool b => exact fun _ _ => rfl
  | number n => exact fun _ _ => rfl
  | string s => exact fun _ _ => rfl
  | array items each ih =>
    intro frames us
    show Reader.run? ⟨frames, .firstItem⟩ (join _ _ ++ [.closeArray] ++ us) = _
    rw [List.append_assoc]
    cases items with
    | nil => rfl
    | cons i items =>
      -- the first item starts with no bracket that closes, so it is taken as any other
      have hfirst (ws : List Token) : Reader.run? ⟨frames, .firstItem⟩
          (join [.comma] ((i :: items).map Prod.fst) ++ ws) =
          Reader.run? ⟨.array [] :: frames, .value⟩ (join [.comma] ((i :: items).map Prod.fst) ++ ws) := by
        cases items with
        | nil => exact run?_firstItem (each i List.mem_cons_self) ws
        | cons j items =>
          rw [List.map_cons, List.map_cons, join_cons_cons, List.append_assoc, List.append_assoc]
          exact run?_firstItem (each i List.mem_cons_self) _
      rw [hfirst]
      exact run?_items (by simp) ih frames [] us
  | object members each ih =>
    intro frames us
    show Reader.run? ⟨frames, .firstKey⟩ (join _ _ ++ [.closeObject] ++ us) = _
    rw [List.append_assoc]
    cases members with
    | nil => rfl
    | cons m members =>
      -- a key is taken behind the brace as it is behind a comma
      have hfirst (ws : List Token) : Reader.run? ⟨frames, .firstKey⟩
          (join [.comma] ((m :: members).map memberTokens) ++ ws) =
          Reader.run? ⟨frames, .key []⟩ (join [.comma] ((m :: members).map memberTokens) ++ ws) := by
        cases members <;> rfl
      rw [hfirst]
      exact run?_members (by simp) ih frames [] us

/-- **The reader takes tokens to a tree just where they write it.** -/
theorem ofTokens?_eq_some_iff : Tree.ofTokens? ts = some t ↔ Writes ts t := by
  constructor
  · intro h
    obtain ⟨r, hrun, htree⟩ := Option.bind_eq_some_iff.mp h
    have taken := (Taken.value .nil).run hrun
    -- a tree comes only of a reader that stands behind a value with nothing open
    cases taken with
    | after outer value =>
      cases outer with
      | nil =>
        obtain rfl := Option.some.inj htree
        exact value
      | _ => exact absurd htree (by simp [Reader.tree?])
    | _ => exact absurd htree (by simp [Reader.tree?])
  · intro h
    have hrun := h.read [] []
    rw [List.append_nil] at hrun
    exact Option.bind_eq_some_iff.mpr ⟨⟨[], .after t⟩, hrun, rfl⟩

/-! ## The texts of objects -/

/-- The text of a member: a key, a colon, and a text of the value. -/
inductive MemberText : List Char → StringText × Tree → Prop where
  | mk {key value : List Char} {k : StringText} {t : Tree} (hkey : tokens? key = some [.string k])
      (hvalue : Tree.parse? value = some t) : MemberText (key ++ ':' :: value) (k, t)

/-- The text of an object: its members between braces, with commas between them, and white space in front
of it and behind. -/
inductive ObjectText : List Char → List (StringText × Tree) → Prop where
  | empty {front inside back : List Char} (hfront : ∀ c ∈ front, Scan.isSpace c = true)
      (hinside : ∀ c ∈ inside, Scan.isSpace c = true) (hback : ∀ c ∈ back, Scan.isSpace c = true) :
      ObjectText (front ++ '\x7b' :: (inside ++ '\x7d' :: back)) []
  | filled {front back : List Char} {texts : List (List Char)} {ms : List (StringText × Tree)}
      (hfront : ∀ c ∈ front, Scan.isSpace c = true) (hback : ∀ c ∈ back, Scan.isSpace c = true)
      (hne : ms ≠ []) (members : List.Forall₂ MemberText texts ms) :
      ObjectText (front ++ '\x7b' :: (join [','] texts ++ '\x7d' :: back)) ms

/-- A text is read as a tree just where its tokens write the tree. -/
theorem parse?_eq_some_iff {cs : List Char} :
    Tree.parse? cs = some t ↔ ∃ ts, tokens? cs = some ts ∧ Writes ts t := by
  show ((tokens? cs).bind Tree.ofTokens?) = some t ↔ _
  rw [Option.bind_eq_some_iff]
  exact exists_congr fun ts => and_congr_right fun _ => ofTokens?_eq_some_iff

/-- The text of a member is scanned to its key, a colon and the tokens of its value. -/
theorem memberText_iff {cs : List Char} {m : StringText × Tree} :
    MemberText cs m ↔ ∃ vs, Writes vs m.2 ∧ tokens? cs = some (memberTokens (m.1, vs, m.2)) := by
  constructor
  · rintro ⟨hkey, hvalue⟩
    obtain ⟨vs, hvs, hwrites⟩ := parse?_eq_some_iff.mp hvalue
    exact ⟨vs, hwrites, (tokens?_mark_iff (c := ':') rfl).mpr ⟨_, _, rfl, hkey, hvs⟩⟩
  · rintro ⟨vs, hwrites, htokens⟩
    have hsplit : tokens? cs = some ([.string m.1] ++ .colon :: vs) := htokens
    obtain ⟨key, value, rfl, hkey, hvalue⟩ := (tokens?_mark_iff (c := ':') rfl).mp hsplit
    exact .mk hkey (parse?_eq_some_iff.mpr ⟨vs, hvalue, hwrites⟩)

/-- Texts with commas between them have their tokens with commas between them, and nothing else has. -/
theorem tokens?_join_iff {tss : List (List Token)} (hne : tss ≠ []) {cs : List Char} :
    tokens? cs = some (join [.comma] tss) ↔
      ∃ texts, cs = join [','] texts ∧ List.Forall₂ (fun text ts => tokens? text = some ts) texts tss := by
  induction tss generalizing cs with
  | nil => exact absurd rfl hne
  | cons ts tss ih =>
    -- a single text has no comma; of more the first is cut off at the first comma
    cases tss with
    | nil =>
      constructor
      · exact fun h => ⟨[cs], rfl, .cons h .nil⟩
      · rintro ⟨texts, rfl, heach⟩
        cases heach with
        | cons hts hnil =>
          cases hnil
          exact hts
    | cons us tss =>
      rw [join_cons_cons, List.append_assoc, List.singleton_append, tokens?_mark_iff (c := ',') rfl]
      constructor
      · rintro ⟨front, back, rfl, hfront, hback⟩
        obtain ⟨texts, rfl, heach⟩ := (ih (by simp)).mp hback
        refine ⟨front :: texts, ?_, .cons hfront heach⟩
        cases heach with
        | cons _ _ => rw [join_cons_cons, List.append_assoc, List.singleton_append]
      · rintro ⟨texts, rfl, heach⟩
        cases heach with
        | @cons text _ texts _ htext hrest =>
          refine ⟨text, join [','] texts, ?_, htext, (ih (by simp)).mpr ⟨texts, rfl, hrest⟩⟩
          cases hrest with
          | cons _ _ => rw [join_cons_cons, List.append_assoc, List.singleton_append]

/-- Braces around tokens are braces around a text of them, but for white space. -/
theorem tokens?_braced_iff {cs : List Char} :
    tokens? cs = some (.openObject :: ts ++ [.closeObject]) ↔
      ∃ front body back, cs = front ++ '\x7b' :: (body ++ '\x7d' :: back) ∧
        (∀ c ∈ front, Scan.isSpace c = true) ∧ tokens? body = some ts ∧
        ∀ c ∈ back, Scan.isSpace c = true := by
  rw [← List.nil_append (Token.openObject :: ts ++ _), List.cons_append,
    tokens?_mark_iff (c := '\x7b') rfl]
  constructor
  · rintro ⟨front, inside, rfl, hfront, hinside⟩
    obtain ⟨body, back, rfl, hbody, hback⟩ := (tokens?_mark_iff (c := '\x7d') rfl).mp hinside
    exact ⟨front, body, back, rfl, tokens?_eq_nil_iff.mp hfront, hbody, tokens?_eq_nil_iff.mp hback⟩
  · rintro ⟨front, body, back, rfl, hfront, hbody, hback⟩
    refine ⟨front, _, rfl, tokens?_eq_nil_iff.mpr hfront, ?_⟩
    exact (tokens?_mark_iff (c := '\x7d') rfl).mpr ⟨body, back, rfl, hbody, tokens?_eq_nil_iff.mpr hback⟩

/-- The members of an object are scanned one by one. -/
theorem forall₂_memberText_iff {texts : List (List Char)} {ms : List (StringText × Tree)} :
    List.Forall₂ MemberText texts ms ↔
      ∃ members : List MemberTokens, members.map memberTree = ms ∧ (∀ m ∈ members, Writes m.2.1 m.2.2) ∧
        List.Forall₂ (fun text ts => tokens? text = some ts) texts (members.map memberTokens) := by
  constructor
  · intro h
    induction h with
    | nil => exact ⟨[], rfl, by simp, .nil⟩
    | @cons text m texts ms hm _ ih =>
      obtain ⟨vs, hwrites, htokens⟩ := memberText_iff.mp hm
      obtain ⟨members, rfl, each, heach⟩ := ih
      exact ⟨(m.1, vs, m.2) :: members, rfl, List.forall_mem_cons.mpr ⟨hwrites, each⟩,
        .cons htokens heach⟩
  · rintro ⟨members, rfl, each, heach⟩
    induction members generalizing texts with
    | nil =>
      cases heach
      exact .nil
    | cons m members ih =>
      obtain ⟨hwrites, hrest⟩ := List.forall_mem_cons.mp each
      cases heach with
      | cons htokens htexts => exact .cons (memberText_iff.mpr ⟨_, hwrites, htokens⟩) (ih hrest htexts)

/-- **The texts of objects are those that are read as objects.** -/
theorem objectText_iff {cs : List Char} {ms : List (StringText × Tree)} :
    ObjectText cs ms ↔ Tree.parse? cs = some (.object ms) := by
  rw [parse?_eq_some_iff]
  constructor
  · rintro (⟨hfront, hinside, hback⟩ | ⟨hfront, hback, hne, htexts⟩)
    · refine ⟨_, tokens?_braced_iff.mpr ⟨_, _, _, rfl, hfront, tokens?_eq_nil_iff.mpr hinside, hback⟩, ?_⟩
      exact .object [] (by simp)
    · obtain ⟨members, rfl, each, heach⟩ := forall₂_memberText_iff.mp htexts
      have hbody := (tokens?_join_iff (by simpa using hne)).mpr ⟨_, rfl, heach⟩
      exact ⟨_, tokens?_braced_iff.mpr ⟨_, _, _, rfl, hfront, hbody, hback⟩, .object members each⟩
  · rintro ⟨ts, htokens, hwrites⟩
    cases hwrites with
    | object members each =>
      obtain ⟨front, body, back, rfl, hfront, hbody, hback⟩ := tokens?_braced_iff.mp htokens
      -- with no members there is white space between the braces, else the texts of the members
      by_cases hne : members = []
      · subst hne
        exact .empty hfront (tokens?_eq_nil_iff.mp hbody) hback
      · obtain ⟨texts, rfl, heach⟩ := (tokens?_join_iff (by simpa using hne)).mp hbody
        exact .filled hfront hback (by simpa using hne)
          (forall₂_memberText_iff.mpr ⟨members, rfl, each, heach⟩)

end IdeaBoard.Json
