import IdeaBoard.Proofs.Search.Run

/-!
# IdeaBoard — what the server has no influence on

Timers run out and answers come in whenever they do, and the server answers as it likes. What a page
asks for is up to its reader all the same: two pages whose readers have done the same agree on the
filter and on the generation, and have asked for the same, however their timers and answers fell. And
where only the contents of the answers differ, the pages ask for the same at every single message.

* **`Alike`** — two pages agree on what their readers have made of them. A message of the reader keeps
  two pages alike and makes both ask for the same (`Alike.update_reader`); any other message leaves a
  page alike to itself and can only make it ask the server (`update_other`).
* **`Alike.heard_readers`** — so a run answers its reader as it would with no other message in it.
* **`InStep`** — two pages that moreover stand at the same point of the search. Messages that differ in
  the contents of an answer at most keep them so (`InStep.update`, `InStep.reactions`).
* **`asks_regardless_of_server`** — what the two say of pages from their mounting on.
-/

namespace IdeaBoard.Search

/-! ## Messages of the reader -/

/-- Does the message come from the reader? All others come from a timer or from the server. -/
def Message.isReaders : Message → Bool
  | .edit _ => true
  | .showMore => true
  | .unmounted => true
  | .debounceElapsed _ => false
  | .searchCompleted _ _ => false

def Message.isShowMore : Message → Bool
  | .showMore => true
  | _ => false

/-- The message with the contents of an answer struck out. -/
def Message.blank : Message → Message
  | .searchCompleted g _ => .searchCompleted g (.ok [])
  | m => m

def Effect.isRequest : Effect → Bool
  | .searchPosts _ _ => true
  | _ => false

/-- Messages that are the same but for the contents of an answer are equal, or they are answers under
one generation. -/
theorem Message.eq_or_answers {m n : Message} (h : m.blank = n.blank) :
    m = n ∨ ∃ g o o', m = .searchCompleted g o ∧ n = .searchCompleted g o' := by
  -- only answers are blanked, so all other messages are equal already
  cases m with
  | searchCompleted g o =>
    cases n with
    | searchCompleted g' o' =>
      obtain ⟨rfl, _⟩ := Message.searchCompleted.inj h
      exact .inr ⟨g, o, o', rfl, rfl⟩
    | edit e => exact absurd h (by simp [Message.blank])
    | showMore => exact absurd h (by simp [Message.blank])
    | debounceElapsed g' => exact absurd h (by simp [Message.blank])
    | unmounted => exact absurd h (by simp [Message.blank])
  | edit e => cases n <;> first | exact .inl h | exact absurd h (by simp [Message.blank])
  | showMore => cases n <;> first | exact .inl h | exact absurd h (by simp [Message.blank])
  | debounceElapsed g => cases n <;> first | exact .inl h | exact absurd h (by simp [Message.blank])
  | unmounted => cases n <;> first | exact .inl h | exact absurd h (by simp [Message.blank])

namespace State

/-! ## Runs, message by message -/

structure Reaction where
  message : Message
  effects : List Effect
  state : State

/-- What a page makes of each message of a run, in order. -/
def reactions (s : State) : List Message → List Reaction
  | [] => []
  | m :: ms => ⟨m, (s.update m).2, (s.update m).1⟩ :: (s.update m).1.reactions ms

/-- The reader's messages in a run, each with what it makes the page ask for. -/
def heard (s : State) (ms : List Message) : List (Message × List Effect) :=
  ((s.reactions ms).filter fun r => r.message.isReaders).map fun r => (r.message, r.effects)

/-- A message of the reader is heard with what it makes the page ask for. -/
theorem heard_reader (s : State) {m : Message} (hm : m.isReaders = true) (ms : List Message) :
    s.heard (m :: ms) = (m, (s.update m).2) :: (s.update m).1.heard ms := by
  simp only [heard, reactions, List.filter_cons, hm, if_true, List.map_cons]

/-- Any other message is not heard, but moves the page. -/
theorem heard_other (s : State) {m : Message} (hm : m.isReaders = false) (ms : List Message) :
    s.heard (m :: ms) = (s.update m).1.heard ms := by
  simp only [heard, reactions, List.filter_cons, hm, Bool.false_eq_true, if_false]

/-- The requests that a page makes because its reader asks for more, in order. -/
def moreRequests (s : State) (ms : List Message) : List Effect :=
  ((s.heard ms).filter fun p => p.1.isShowMore).flatMap fun p => p.2.filter Effect.isRequest

/-! ## Pages alike to their readers -/

/-- The pages agree on what their readers have made of them: on the filter, on how many cycles there
have been, and on whether the page is there at all. -/
structure Alike (s t : State) : Prop where
  path : s.path = t.path
  settings : s.settings = t.settings
  filter : s.filter = t.filter
  generation : s.generation = t.generation
  unmounted : s.unmounted = t.unmounted

/-- Pages are mounted alike whatever posts they are delivered with. -/
theorem alike_mount (path queryString : String) (posts posts' : List Post) (settings : Settings) :
    Alike (mount path queryString posts settings) (mount path queryString posts' settings) :=
  ⟨rfl, rfl, rfl, rfl, rfl⟩

variable {s t u : State}

theorem Alike.symm (h : Alike s t) : Alike t s :=
  ⟨h.path.symm, h.settings.symm, h.filter.symm, h.generation.symm, h.unmounted.symm⟩

theorem Alike.trans (h : Alike s t) (h' : Alike t u) : Alike s u where
  path := h.path.trans h'.path
  settings := h.settings.trans h'.settings
  filter := h.filter.trans h'.filter
  generation := h.generation.trans h'.generation
  unmounted := h.unmounted.trans h'.unmounted

/-- A changed filter starts over alike pages alike, and makes them ask for the same. -/
theorem Alike.restartWith (h : Alike s t) (f : Filter) :
    Alike (s.restartWith f).1 (t.restartWith f).1 ∧ (s.restartWith f).2 = (t.restartWith f).2 := by
  cases s
  cases t
  obtain ⟨rfl, rfl, rfl, rfl, rfl⟩ := h
  exact ⟨⟨rfl, rfl, rfl, rfl, rfl⟩, rfl⟩

/-- Asking for more keeps alike pages alike, and makes them ask the server for the same. -/
theorem Alike.showMore (h : Alike s t) :
    Alike s.showMore.1 t.showMore.1 ∧ s.showMore.2 = t.showMore.2 := by
  cases s
  cases t
  obtain ⟨rfl, rfl, rfl, rfl, rfl⟩ := h
  exact ⟨⟨rfl, rfl, rfl, rfl, rfl⟩, rfl⟩

theorem Alike.unmount (h : Alike s t) : Alike s.unmount t.unmount where
  path := h.path
  settings := h.settings
  filter := h.filter
  generation := congrArg (· + 1) h.generation
  unmounted := rfl

/-- **A message of the reader keeps pages alike and makes them ask for the same**, whatever they wait
for and whatever they show. -/
theorem Alike.update_reader (h : Alike s t) {m : Message} (hm : m.isReaders = true) :
    Alike (s.update m).1 (t.update m).1 ∧ (s.update m).2 = (t.update m).2 := by
  unfold update
  rw [h.unmounted]
  split
  · exact ⟨h, rfl⟩
  · cases m with
    | edit e =>
      simp only [h.filter]
      split
      · exact ⟨h, rfl⟩
      · next f _ => exact h.restartWith f
    | showMore => exact h.showMore
    | unmounted => exact ⟨h.unmount, rfl⟩
    | debounceElapsed g => exact absurd hm (by simp [Message.isReaders])
    | searchCompleted g outcome => exact absurd hm (by simp [Message.isReaders])

/-- **Any other message leaves a page alike to itself and makes it ask the server at most.** -/
theorem update_other (s : State) {m : Message} (hm : m.isReaders = false) :
    Alike (s.update m).1 s ∧ (s.update m).2.filter (fun e => !e.isRequest) = [] := by
  have move := update_step s m
  generalize s.update m = r at move
  obtain ⟨u, fs⟩ := r
  -- what is left are timers and answers: they move the phase and the list alone
  cases move with
  | ignored => exact ⟨⟨rfl, rfl, rfl, rfl, rfl⟩, rfl⟩
  | asked => exact ⟨⟨rfl, rfl, rfl, rfl, rfl⟩, rfl⟩
  | settled _ _ outcome => cases outcome <;> exact ⟨⟨rfl, rfl, rfl, rfl, rfl⟩, rfl⟩
  | edited => exact absurd hm (by simp [Message.isReaders])
  | grown => exact absurd hm (by simp [Message.isReaders])
  | closed => exact absurd hm (by simp [Message.isReaders])

/-- **A run answers its reader as it would with no other message in it.** -/
theorem Alike.heard_readers (h : Alike s t) (ms : List Message) :
    Alike (s.run ms).1 (t.run (ms.filter Message.isReaders)).1 ∧
      s.heard ms = t.heard (ms.filter Message.isReaders) := by
  -- the second page hears the reader only, and stays alike to the first over all that it misses
  induction ms generalizing s t with
  | nil => exact ⟨h, rfl⟩
  | cons m ms ih =>
    cases hm : m.isReaders with
    | true =>
      obtain ⟨halike, heffects⟩ := h.update_reader hm
      obtain ⟨hrun, hheard⟩ := ih halike
      have hfilter : (m :: ms).filter Message.isReaders = m :: ms.filter Message.isReaders :=
        List.filter_cons_of_pos hm
      rw [hfilter, heard_reader s hm, heard_reader t hm, hheard, heffects]
      exact ⟨hrun, rfl⟩
    | false =>
      obtain ⟨hsame, _⟩ := s.update_other hm
      have hfilter : (m :: ms).filter Message.isReaders = ms.filter Message.isReaders :=
        List.filter_cons_of_neg (by simp [hm])
      rw [hfilter, heard_other s hm]
      exact ih (hsame.trans h)

/-- All that a run asks for but requests, it asks for on messages of the reader. -/
theorem run_effects_heard (s : State) (ms : List Message) :
    (s.run ms).2.filter (fun e => !e.isRequest) =
      (s.heard ms).flatMap fun p => p.2.filter fun e => !e.isRequest := by
  induction ms generalizing s with
  | nil => rfl
  | cons m ms ih =>
    rw [run, List.filter_append, ih]
    -- a message that is not heard asks for requests alone, and those are left out
    cases hm : m.isReaders with
    | true => rw [heard_reader s hm, List.flatMap_cons]
    | false => rw [heard_other s hm, (s.update_other hm).2, List.nil_append]

/-- **Pages that are alike, and whose readers do the same, end up alike and have asked for the same**,
whatever timers and answers come in between. -/
theorem Alike.run (h : Alike s t) {ms ns : List Message}
    (same : ms.filter Message.isReaders = ns.filter Message.isReaders) :
    Alike (s.run ms).1 (t.run ns).1 ∧ s.heard ms = t.heard ns := by
  obtain ⟨hleft, hheard⟩ := h.heard_readers ms
  obtain ⟨hright, hheard'⟩ := (h.symm.trans h).heard_readers ns
  rw [same] at hleft hheard
  exact ⟨hleft.trans hright.symm, hheard.trans hheard'.symm⟩

/-! ## Pages in step -/

/-- The pages are alike and stand at the same point of the search. -/
structure InStep (s t : State) : Prop extends Alike s t where
  phase : s.phase = t.phase
  loading : s.loading = t.loading

theorem inStep_mount (path queryString : String) (posts posts' : List Post) (settings : Settings) :
    InStep (mount path queryString posts settings) (mount path queryString posts' settings) :=
  ⟨alike_mount path queryString posts posts' settings, rfl, rfl⟩

/-- The end of a request leaves pages in step, be it an answer to one and a failure to the other. -/
theorem InStep.settle (h : InStep s t) (o o' : Outcome) : InStep (s.settle o) (t.settle o') := by
  cases s
  cases t
  obtain ⟨⟨rfl, rfl, rfl, rfl, rfl⟩, rfl, rfl⟩ := h
  cases o <;> cases o' <;> exact ⟨⟨rfl, rfl, rfl, rfl, rfl⟩, rfl, rfl⟩

theorem InStep.accepts_iff (h : InStep s t) (g : Generation) : s.Accepts g ↔ t.Accepts g := by
  unfold Accepts
  rw [h.unmounted, h.generation, h.phase]

/-- What an answer holds makes no difference, nor does whether it is an answer at all. -/
theorem InStep.update_answer (h : InStep s t) (g : Generation) (o o' : Outcome) :
    InStep (s.update (.searchCompleted g o)).1 (t.update (.searchCompleted g o')).1 ∧
      (s.update (.searchCompleted g o)).2 = (t.update (.searchCompleted g o')).2 := by
  by_cases haccepts : s.Accepts g
  · rw [update_of_accepts haccepts, update_of_accepts ((h.accepts_iff g).mp haccepts)]
    exact ⟨h.settle o o', rfl⟩
  · have hnot : ¬t.Accepts g := fun accepts => haccepts ((h.accepts_iff g).mpr accepts)
    rw [update_of_not_accepts haccepts, update_of_not_accepts hnot]
    exact ⟨h, rfl⟩

/-- The end of a quiet time comes to both pages or to none. -/
theorem InStep.debounceElapsed (h : InStep s t) (g : Generation) :
    InStep (s.debounceElapsed g).1 (t.debounceElapsed g).1 ∧
      (s.debounceElapsed g).2 = (t.debounceElapsed g).2 := by
  cases s
  cases t
  obtain ⟨⟨rfl, rfl, rfl, rfl, rfl⟩, rfl, rfl⟩ := h
  unfold State.debounceElapsed
  simp only
  split
  · exact ⟨⟨⟨rfl, rfl, rfl, rfl, rfl⟩, rfl, rfl⟩, rfl⟩
  · exact ⟨⟨⟨rfl, rfl, rfl, rfl, rfl⟩, rfl, rfl⟩, rfl⟩

/-- One message keeps pages in step and makes them ask for the same. -/
theorem InStep.update_same (h : InStep s t) (m : Message) :
    InStep (s.update m).1 (t.update m).1 ∧ (s.update m).2 = (t.update m).2 := by
  cases m with
  | searchCompleted g o => exact h.update_answer g o o
  | debounceElapsed g =>
    unfold update
    rw [h.unmounted]
    split
    · exact ⟨h, rfl⟩
    · exact h.debounceElapsed g
  | edit e =>
    -- the pages stay alike; where the edit changes the filter, both wait for their quiet time
    unfold update
    rw [h.unmounted]
    simp only [h.filter]
    split
    · exact ⟨h, rfl⟩
    · split
      · exact ⟨h, rfl⟩
      · next f _ =>
        obtain ⟨halike, heffects⟩ := h.toAlike.restartWith f
        exact ⟨⟨halike, rfl, rfl⟩, heffects⟩
  | showMore =>
    unfold update
    rw [h.unmounted]
    split
    · exact ⟨h, rfl⟩
    · obtain ⟨halike, heffects⟩ := h.toAlike.showMore
      exact ⟨⟨halike, rfl, rfl⟩, heffects⟩
  | unmounted =>
    unfold update
    rw [h.unmounted]
    split
    · exact ⟨h, rfl⟩
    · exact ⟨⟨h.toAlike.unmount, rfl, rfl⟩, rfl⟩

/-- **Messages that differ in the contents of an answer at most keep pages in step and make them ask
for the same.** -/
theorem InStep.update (h : InStep s t) {m n : Message} (same : m.blank = n.blank) :
    InStep (s.update m).1 (t.update n).1 ∧ (s.update m).2 = (t.update n).2 := by
  rcases Message.eq_or_answers same with rfl | ⟨g, o, o', rfl, rfl⟩
  · exact h.update_same m
  · exact h.update_answer g o o'

/-- What can be told of a reaction without looking at the list on show. -/
def Reaction.outline (r : Reaction) :
    List Effect × Filter × Phase × Generation × Bool × Bool :=
  (r.effects, r.state.filter, r.state.phase, r.state.generation, r.state.loading, r.state.unmounted)

/-- Pages in step have the same outline. -/
theorem InStep.outline_eq (h : InStep s t) (m n : Message) {es fs : List Effect} (effects : es = fs) :
    (Reaction.mk m es s).outline = (Reaction.mk n fs t).outline := by
  simp only [Reaction.outline, effects, h.filter, h.phase, h.generation, h.loading, h.unmounted]

/-- **So they do over a run, message by message.** -/
theorem InStep.reactions (h : InStep s t) {ms ns : List Message}
    (same : ms.map Message.blank = ns.map Message.blank) :
    (s.reactions ms).map Reaction.outline = (t.reactions ns).map Reaction.outline := by
  -- message by message, over both runs at once
  induction ms generalizing s t ns with
  | nil =>
    obtain rfl := List.map_eq_nil_iff.mp same.symm
    rfl
  | cons m ms ih =>
    cases ns with
    | nil => exact absurd same (by simp)
    | cons n ns =>
      obtain ⟨hhead, htail⟩ := List.cons.inj same
      obtain ⟨hstep, heffects⟩ := h.update hhead
      rw [State.reactions, State.reactions, List.map_cons, List.map_cons, ih hstep htail,
        hstep.outline_eq m n heffects]

/-! ## Pages from their mounting on -/

/-- **Two pages mounted alike, whatever posts they are delivered with, agree on the filter, on the
generation and on whether they are gone once their readers have done the same, and have asked for the
same, the requests aside that follow a quiet time; so it is whatever timers and answers come in
between. Where all messages are the same but for what the server answers, or whether it answers at
all, every one of them makes both pages ask for the same and leaves them at the same point of the
search.** -/
theorem asks_regardless_of_server (path queryString : String) (settings : Settings)
    (posts posts' : List Post) :
    let start := mount path queryString posts settings
    let start' := mount path queryString posts' settings
    (∀ ms ns : List Message, ms.filter Message.isReaders = ns.filter Message.isReaders →
      (start.run ms).1.filter = (start'.run ns).1.filter ∧
      (start.run ms).1.generation = (start'.run ns).1.generation ∧
      (start.run ms).1.unmounted = (start'.run ns).1.unmounted ∧
      (start.run ms).2.filter (fun e => !e.isRequest) =
        (start'.run ns).2.filter (fun e => !e.isRequest) ∧
      start.moreRequests ms = start'.moreRequests ns) ∧
    (∀ ms ns : List Message, ms.map Message.blank = ns.map Message.blank →
      (start.reactions ms).map Reaction.outline = (start'.reactions ns).map Reaction.outline) := by
  intro start start'
  have inStep : InStep start start' := inStep_mount path queryString posts posts' settings
  refine ⟨?regardless, fun ms ns same => inStep.reactions same⟩
  case regardless =>
    intro ms ns same
    obtain ⟨halike, hheard⟩ := inStep.toAlike.run same
    refine ⟨halike.filter, halike.generation, halike.unmounted, ?_, ?_⟩
    · rw [run_effects_heard, run_effects_heard, hheard]
    · rw [moreRequests, moreRequests, hheard]

/-- One page is answered before its reader asks for more, the other is not and has its request fail; and
one page is answered where the other has a failure. -/
theorem asks_regardless_of_failure :
    let start := mount "/" "query=a" [] {}
    let start' := mount "/" "query=a" [⟨.string "first"⟩] {}
    let answered : List Message :=
      [.edit (.setView "recent"), .debounceElapsed 1, .searchCompleted 1 (.ok []), .showMore]
    let failed : List Message :=
      [.edit (.setView "recent"), .showMore, .searchCompleted 2 (.error "lost")]
    let ok : List Message := [.showMore, .searchCompleted 1 (.ok []), .edit .clearQuery]
    let lost : List Message := [.showMore, .searchCompleted 1 (.error "lost"), .edit .clearQuery]
    answered.filter Message.isReaders = failed.filter Message.isReaders ∧
      (start.run answered).1.phase = .awaitingResponse ∧ (start'.run failed).1.phase = .idle ∧
      start.moreRequests answered = start'.moreRequests failed ∧
      (start'.moreRequests failed).length = 1 ∧
      ok.map Message.blank = lost.map Message.blank ∧
      (start.reactions ok).map Reaction.outline = (start'.reactions lost).map Reaction.outline := by
  intro start start' answered failed ok lost
  have sameReader : answered.filter Message.isReaders = failed.filter Message.isReaders := rfl
  have sameBlank : ok.map Message.blank = lost.map Message.blank := rfl
  obtain ⟨regardless, inStep⟩ :=
    asks_regardless_of_server "/" "query=a" {} [] [⟨.string "first"⟩]
  obtain ⟨_, _, _, _, hmore⟩ := regardless answered failed sameReader
  exact ⟨sameReader, by decide +kernel, by decide +kernel, hmore, by decide +kernel, sameBlank,
    inStep ok lost sameBlank⟩

end State

end IdeaBoard.Search
