import IdeaBoard.Proofs.Search.Influence
import IdeaBoard.Proofs.Search.Reload

/-!
# IdeaBoard — asking for more and more

Each request for more makes the list longer by one step, until the number of ideas asked for is the
largest there is. Timers and answers may come in between, of whatever generation and with whatever
outcome: they change what is shown and what is waited for, and never the number.

* **`Grown`** — the invariant: the page as it was, but for the number of ideas and the generation, after
  so many requests for more; the first of them puts the number into the filter. `Grown.step` keeps it
  over one message.
* **`grown_run`** — so it holds after every run without an edit.
* **`show_more_accumulates`** — the number after a run, and what each request for more does on its way.
-/

namespace IdeaBoard.Search

def Message.Continues : Message → Prop
  | .edit _ => False
  | .unmounted => False
  | _ => True

namespace State

variable {s t u : State} {n : Nat}

/-! ## One message -/

/-- The page `t` is the page `s` after `n` requests for more, as far as edits could tell. -/
structure Grown (s : State) (n : Nat) (t : State) : Prop where
  mounted : t.unmounted = false
  settings : t.settings = s.settings
  selection : t.filter.query = s.filter.query ∧ t.filter.view = s.filter.view ∧
    t.filter.tags = s.filter.tags
  generation : t.generation = s.generation + n
  limit : t.effectiveLimit.toNat =
    min (s.effectiveLimit.toNat + n * s.settings.pageStep.toNat) (UInt32.size - 1)
  chosen : t.filter.limit = if n = 0 then s.filter.limit else some t.effectiveLimit

/-- A page has grown by nothing from itself. -/
theorem grown_zero (mounted : s.unmounted = false) : Grown s 0 s where
  mounted := mounted
  settings := rfl
  selection := ⟨rfl, rfl, rfl⟩
  generation := rfl
  limit := by
    have hbound : s.effectiveLimit.toNat < UInt32.size := s.effectiveLimit.toNat_lt
    omega
  chosen := (if_pos rfl).symm

/-- One more step, which the largest number cuts off as well at the end as on the way. -/
theorem Grown.grow (h : Grown s n t) : Grown s (n + 1) t.grow where
  mounted := h.mounted
  settings := h.settings
  selection := h.selection
  generation := by
    show t.generation + 1 = s.generation + (n + 1)
    rw [h.generation, Nat.add_assoc]
  limit := by
    have hsum : t.grow.effectiveLimit = saturatingAdd t.effectiveLimit t.settings.pageStep := rfl
    have hstep : (n + 1) * s.settings.pageStep.toNat =
        n * s.settings.pageStep.toNat + s.settings.pageStep.toNat := Nat.succ_mul _ _
    rw [hsum, toNat_saturatingAdd, h.settings, h.limit, hstep]
    -- once the largest number is reached, it is the least of every minimum
    omega
  chosen := (if_neg (Nat.succ_ne_zero n)).symm

/-- The number of ideas follows from the filter and the settings. -/
theorem effectiveLimit_congr (filter : u.filter = t.filter) (settings : u.settings = t.settings) :
    u.effectiveLimit = t.effectiveLimit := by
  unfold effectiveLimit
  rw [filter, settings]

/-- A change of what is shown and waited for alone. -/
theorem Grown.still (h : Grown s n t) (mounted : u.unmounted = t.unmounted)
    (settings : u.settings = t.settings) (filter : u.filter = t.filter)
    (generation : u.generation = t.generation) : Grown s n u where
  mounted := mounted.trans h.mounted
  settings := settings.trans h.settings
  selection := by
    rw [filter]
    exact h.selection
  generation := generation.trans h.generation
  limit := by
    rw [effectiveLimit_congr filter settings, h.limit]
  chosen := by
    rw [effectiveLimit_congr filter settings, filter, h.chosen]

/-- **A message that continues the page makes the number grow if it asks for more, and else leaves it.** -/
theorem Grown.step (h : Grown s n t) {m : Message} {fs : List Effect} (continues : m.Continues)
    (move : Step t m u fs) : Grown s (n + if m.isShowMore then 1 else 0) u := by
  cases move with
  | ignored hignores =>
    have hother : m.isShowMore = false := by
      cases m with
      | showMore =>
        -- a page that is mounted never ignores it
        rcases hignores with hgone | hnever
        · exact absurd (hgone.symm.trans h.mounted) (by decide)
        · exact absurd hnever id
      | _ => rfl
    rw [hother]
    exact h
  | edited => exact absurd continues id
  | grown => exact h.grow
  -- what the page waits for and shows is no part of the number
  | asked => exact h.still rfl rfl rfl rfl
  | settled _ _ outcome => cases outcome <;> exact h.still rfl rfl rfl rfl
  | closed => exact absurd continues id

/-! ## Many messages -/

/-- **After a run without an edit, the page has grown by as many steps as it asked for more.** -/
theorem grown_run (mounted : s.unmounted = false) {ms : List Message}
    (continues : ∀ m ∈ ms, m.Continues) :
    Grown s (ms.countP Message.isShowMore) (s.run ms).1 := by
  refine run_induction
    (P := fun ms t _ => (∀ m ∈ ms, m.Continues) → Grown s (ms.countP Message.isShowMore) t)
    (fun _ => grown_zero mounted) ?_ ms continues
  -- one message more, and it continues the page as those before it do
  intro ms m t u es fs _ h move hall
  have hbefore : ∀ k ∈ ms, k.Continues := fun k hk => hall k (List.mem_append_left _ hk)
  have hlast : m.Continues := hall m (List.mem_append_right _ List.mem_cons_self)
  rw [List.countP_append, List.countP_singleton]
  exact (h hbefore).step hlast move

/-- A mounted page grows, and asks the server at once. -/
theorem update_showMore (mounted : s.unmounted = false) :
    s.update .showMore = (s.grow, [.cancelPending, .replaceLocation s.grow.location,
      .searchPosts s.grow.generation s.grow.request]) := by
  unfold update
  rw [mounted]
  rfl

/-- **From every state of a mounted page, requests for more add up: after `n` of them, with any timers
and answers in between and before and after, the number of ideas asked for is what it was and `n` steps,
or the largest number if that is less, and the filter names it as its limit from the first request on;
query, view and tags are what they were. Each request takes one generation, and nothing else does; it
asks to stop what is under way, to put the new location into the history and to ask the server at once,
and it leaves the lists on show and put aside as they are.** -/
theorem show_more_accumulates (mounted : s.unmounted = false) {ms : List Message}
    (continues : ∀ m ∈ ms, m.Continues) :
    let n := ms.countP Message.isShowMore
    let t := (s.run ms).1
    t.effectiveLimit.toNat =
      min (s.effectiveLimit.toNat + n * s.settings.pageStep.toNat) (UInt32.size - 1) ∧
    (t.filter.limit = if n = 0 then s.filter.limit else some t.effectiveLimit) ∧
    (t.filter.query = s.filter.query ∧ t.filter.view = s.filter.view ∧
      t.filter.tags = s.filter.tags) ∧
    t.generation = s.generation + n ∧ t.unmounted = false ∧
    (∀ before after, ms = before ++ .showMore :: after →
      let u := (s.run before).1
      let v := (u.update .showMore).1
      v.generation = u.generation + 1 ∧
      (u.update .showMore).2 = [.cancelPending, .replaceLocation v.location,
        .searchPosts v.generation v.request] ∧
      v.posts = u.posts ∧ v.stashed = u.stashed) := by
  intro n t
  have hgrown : Grown s n t := grown_run mounted continues
  refine ⟨hgrown.limit, hgrown.chosen, hgrown.selection, hgrown.generation, hgrown.mounted, ?_⟩
  rintro before after rfl u v
  -- the part of the run before a request for more is such a run itself
  have hbefore : ∀ m ∈ before, m.Continues := fun m hm => continues m (List.mem_append_left _ hm)
  have hmounted : u.unmounted = false := (grown_run mounted hbefore).mounted
  have hclick := update_showMore hmounted
  have hv : v = u.grow := congrArg Prod.fst hclick
  rw [hclick, hv]
  exact ⟨rfl, rfl, rfl, rfl⟩

/-- The list is hidden and a timer runs when the reader asks for more; a late timer, a failure and a stale
answer come in between. The number starts from the page size, for an edit took the limit away, and the
third request finds the largest one reached. -/
theorem show_more_accumulates_to_the_top :
    let settings : Settings := { pageSize := 4294967270, pageStep := 10 }
    let s := ((mount "/" "tags=a&limit=5" [⟨.string "kept"⟩] settings).update
      (.edit (.setQuery "b"))).1
    let ms : List Message := [.showMore, .debounceElapsed 1, .searchCompleted 2 (.error "lost"),
      .showMore, .searchCompleted 2 (.ok []), .showMore]
    let t := (s.run ms).1
    s.phase = .debouncing ∧ s.posts = none ∧ s.unmounted = false ∧ (∀ m ∈ ms, m.Continues) ∧
      s.filter.limit = none ∧ s.effectiveLimit = settings.pageSize ∧
      t.filter.limit = some t.effectiveLimit ∧ t.effectiveLimit.toNat = 4294967295 ∧
      t.filter.query = "b" ∧ t.generation = 4 := by
  intro settings s ms t
  have mounted : s.unmounted = false := by decide +kernel
  have continues : ∀ m ∈ ms, m.Continues := by simp [ms, Message.Continues]
  have start : s.effectiveLimit = settings.pageSize := by decide +kernel
  have size : s.effectiveLimit.toNat = 4294967270 := by decide +kernel
  have step : s.settings.pageStep.toNat = 10 := by decide +kernel
  have count : ms.countP Message.isShowMore = 3 := rfl
  have query : s.filter.query = "b" := by decide +kernel
  have generation : s.generation = 1 := by decide +kernel
  obtain ⟨hlimit, hchosen, ⟨hquery, _⟩, hgeneration, _⟩ :=
    show_more_accumulates mounted continues
  rw [size, step, count] at hlimit
  rw [generation, count] at hgeneration
  exact ⟨by decide +kernel, by decide +kernel, mounted, continues, by decide +kernel, start,
    hchosen, hlimit, hquery.trans query, hgeneration⟩

end State

end IdeaBoard.Search
