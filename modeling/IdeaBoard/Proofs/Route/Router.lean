import IdeaBoard.Proofs.Route.Pattern
import IdeaBoard.Route.Router

/-!
# IdeaBoard — where a path leads

A router is built once from a route table and then asked for many paths. What it answers is said by the
table alone: the first row whose pattern has the path in its language.

* **`ofTable_eq_ok`** — the rows of a router are those of its table, in the same order.
* **`normalizePath_spec`** — the path that is looked for has lost one slash at its end, if it had one.
* **`resolve_eq`** — a path leads where the row of the table leads that comes first for it (`leading?`).
* **`resolve_exact`** — where every path leads, for every table that makes a router.
-/

namespace IdeaBoard

open IdeaBoard.Pattern (Language)

/-- A path less one slash at its end: either the slash is all that is gone, or there was none. -/
theorem normalizePath_spec (path : List Char) :
    path = normalizePath path ++ ['/'] ∨
      (normalizePath path = path ∧ ¬['/'] <:+ path) := by
  unfold normalizePath
  split
  · next hlast =>
    obtain ⟨init, rfl⟩ := List.getLast?_eq_some_iff.mp hlast
    rw [List.dropLast_concat]
    exact .inl rfl
  · next hlast =>
    refine .inr ⟨rfl, ?_⟩
    rintro ⟨init, rfl⟩
    exact hlast List.getLast?_concat

namespace Router

def rowOf (r : Route) : Row := ⟨.ofText r.pattern, r.destination⟩

/-- Rows that pass the checks are those of the table, one for one. -/
theorem rowsOf_eq_ok {seen : List String} {table : List Route} {rows : List Row}
    (h : rowsOf seen table = .ok rows) : rows = table.map rowOf := by
  induction table generalizing seen rows with
  | nil => exact (Except.ok.inj h).symm
  | cons r table ih =>
    -- a row is refused for an id that was seen, and for a pattern that is too large
    unfold rowsOf at h
    split at h
    · exact absurd h (by simp)
    split at h
    · exact absurd h (by simp)
    split at h
    · next rest hrest =>
      rw [← Except.ok.inj h, ih hrest]
      rfl
    · exact absurd h (by simp)

/-- **A router has the rows of its table, in the same order.** -/
theorem ofTable_eq_ok {table : List Route} {router : Router} (h : ofTable table = .ok router) :
    router.rows = table.map rowOf := by
  unfold ofTable at h
  cases hrows : rowsOf [] table with
  | error e =>
    rw [hrows] at h
    exact absurd h (by simp [Except.map])
  | ok rows =>
    rw [hrows] at h
    rw [← Except.ok.inj h]
    exact rowsOf_eq_ok hrows

/-- The row of the table that a path is led by. -/
def leading? (table : List Route) (path : List Char) : Option Route :=
  table.find? fun r => (Pattern.ofText r.pattern).accepts path

/-- A path leads where its row leads, or is named as not found. -/
theorem resolve_eq {table : List Route} {router : Router} (accepted : ofTable table = .ok router)
    (path : String) :
    router.resolve path =
      match leading? table (normalizePath path.toList) with
      | some r => .ok r.destination
      | none => .error ⟨path⟩ := by
  unfold resolve leading?
  rw [ofTable_eq_ok accepted, List.find?_map]
  -- looking among the rows for the pattern is looking in the table for its text
  have hsame : ((fun row : Row => row.pattern.accepts (normalizePath path.toList)) ∘ rowOf) =
      fun r => (Pattern.ofText r.pattern).accepts (normalizePath path.toList) := rfl
  rw [hsame]
  cases table.find? fun r => (Pattern.ofText r.pattern).accepts (normalizePath path.toList) with
  | none => rfl
  | some r => rfl

/-- The leading row is the first whose pattern has the path in its language. -/
theorem leading?_eq_some_iff {table : List Route} {path : List Char} {r : Route} :
    leading? table path = some r ↔
      ∃ before after, table = before ++ r :: after ∧ Language r.pattern.toList path ∧
        ∀ q ∈ before, ¬Language q.pattern.toList path := by
  unfold leading?
  simp only [List.find?_eq_some_iff_append, Pattern.accepts_ofText_iff, Bool.not_eq_true',
    ← Bool.not_eq_true]
  constructor
  · rintro ⟨hlanguage, before, after, rfl, hbefore⟩
    exact ⟨before, after, rfl, hlanguage, hbefore⟩
  · rintro ⟨before, after, rfl, hlanguage, hbefore⟩
    exact ⟨hlanguage, before, after, rfl, hbefore⟩

/-- No row leads a path that is in none of their languages. -/
theorem leading?_eq_none_iff {table : List Route} {path : List Char} :
    leading? table path = none ↔ ∀ r ∈ table, ¬Language r.pattern.toList path := by
  unfold leading?
  simp only [List.find?_eq_none, Pattern.accepts_ofText_iff]

theorem resolve_eq_ok_iff {table : List Route} {router : Router} (accepted : ofTable table = .ok router)
    {path : String} {d : Destination} :
    router.resolve path = .ok d ↔
      ∃ r, leading? table (normalizePath path.toList) = some r ∧ r.destination = d := by
  rw [resolve_eq accepted]
  cases leading? table (normalizePath path.toList) with
  | none => simp
  | some r => simp

theorem resolve_eq_error_iff {table : List Route} {router : Router}
    (accepted : ofTable table = .ok router) {path : String} {e : RouteNotFound} :
    router.resolve path = .error e ↔
      e = ⟨path⟩ ∧ ∀ r ∈ table, ¬Language r.pattern.toList (normalizePath path.toList) := by
  rw [resolve_eq accepted, ← leading?_eq_none_iff]
  cases leading? table (normalizePath path.toList) with
  | none => simp [eq_comm]
  | some r => simp

/-- **For every table that makes a router, a path leads where the first row leads whose pattern has the
path, less one slash at its end, in its language; and it leads nowhere, with the path named as it was
given, just when no row has.** -/
theorem resolve_exact (table : List Route) (router : Router) (accepted : ofTable table = .ok router)
    (path : String) :
    let sought := normalizePath path.toList
    (path.toList = sought ++ ['/'] ∨ (sought = path.toList ∧ ¬['/'] <:+ path.toList)) ∧
    (∀ d, router.resolve path = .ok d ↔
      ∃ before r after, table = before ++ r :: after ∧ r.destination = d ∧
        Language r.pattern.toList sought ∧ ∀ q ∈ before, ¬Language q.pattern.toList sought) ∧
    (∀ e, router.resolve path = .error e ↔
      e = ⟨path⟩ ∧ ∀ r ∈ table, ¬Language r.pattern.toList sought) := by
  intro sought
  refine ⟨normalizePath_spec path.toList, ?found, fun _ => resolve_eq_error_iff accepted⟩
  case found =>
    intro d
    rw [resolve_eq_ok_iff accepted]
    constructor
    · rintro ⟨r, hleading, rfl⟩
      obtain ⟨before, after, htable, hlanguage, hbefore⟩ := leading?_eq_some_iff.mp hleading
      exact ⟨before, r, after, htable, rfl, hlanguage, hbefore⟩
    · rintro ⟨before, r, after, htable, rfl, hlanguage, hbefore⟩
      exact ⟨r, leading?_eq_some_iff.mpr ⟨before, after, htable, hlanguage, hbefore⟩, rfl⟩

/-- A colon that stands for itself before a placeholder, a full stop that stands for itself alone, and a
path with a line break. -/
theorem resolve_exact_crowded :
    let table : List Route := [⟨"twice", "/a:number:number", .home, true⟩,
      ⟨"any", "/b*:number", .signIn, false⟩, ⟨"colon", "/a.::number", .showIdea, true⟩]
    let router : Router := ⟨table.map rowOf⟩
    ofTable table = .ok router ∧ router.resolve "/a.:7/" = .ok ⟨"colon", .showIdea, true⟩ ∧
      router.resolve "/b\n7/" = .error ⟨"/b\n7/"⟩ := by
  intro table router
  have accepted : ofTable table = .ok router := rfl
  refine ⟨accepted, ?found, ?nowhere⟩
  case found =>
    refine ((resolve_exact table router accepted "/a.:7/").2.1 _).mpr ?_
    refine ⟨[⟨"twice", "/a:number:number", .home, true⟩, ⟨"any", "/b*:number", .signIn, false⟩],
      ⟨"colon", "/a.::number", .showIdea, true⟩, [], rfl, rfl, ?_, ?_⟩
    · -- read from left to right, the second colon starts the placeholder and the first does not
      have hseven : Text.isDecimalDigit '7' := by decide
      have hnumber : Language (Pattern.numberText ++ []) (['7'] ++ []) := by
        refine .number (by simp) (fun d hd => ?_) .nil
        rw [List.mem_singleton.mp hd]
        exact hseven
      have hcolon := Language.itself (c := ':') (by decide) (by decide) hnumber
      have hstop := Language.itself (c := '.') (by decide) (by decide) hcolon
      have ha := Language.itself (c := 'a') (by decide) (by decide) hstop
      exact .itself (c := '/') (by decide) (by decide) ha
    · intro q hq
      rw [← Pattern.accepts_ofText_iff]
      revert q
      decide
  case nowhere =>
    refine ((resolve_exact table router accepted "/b\n7/").2.2 _).mpr ⟨rfl, ?_⟩
    intro q hq
    rw [← Pattern.accepts_ofText_iff]
    revert q
    decide

end Router

end IdeaBoard
