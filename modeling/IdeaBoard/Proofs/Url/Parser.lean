import IdeaBoard.Proofs.Url.Path

/-!
# IdeaBoard — what a URL has that was read

Reading goes through checks that may fail, and what comes out of the last one is the URL. What is so of
every result is shown from the last check backwards (`Yields`): a check that fails has no result.

* **`yields_parseAuthority`** — after the slashes of an authority comes a URL with a host, whose path has
  been read from what follows it.
* **`parse_eq_ok_special`** — so a URL with the common form has a host and a settled path.
-/

namespace IdeaBoard.Url

variable {α β : Type} {P : β → Prop}

/-! ## Results -/

/-- `P` is so of the result, if there is one. -/
def Yields (P : β → Prop) (x : Except Fault β) : Prop := ∀ b, x = .ok b → P b

theorem yields_error (fault : Fault) : Yields P (.error fault) := nofun

theorem yields_ok {b : β} (h : P b) : Yields P (.ok b) := by
  rintro _ ⟨⟩
  exact h

/-- A result comes out of the last step, if all steps before it succeed. -/
theorem yields_bind {x : Except Fault α} {next : α → Except Fault β} (h : ∀ a, Yields P (next a)) :
    Yields P (x >>= next) := by
  cases x with
  | error fault => exact yields_error fault
  | ok a => exact h a

theorem yields_ite {c : Prop} [Decidable c] {x y : Except Fault β} (hx : Yields P x) (hy : Yields P y) :
    Yields P (if c then x else y) := by
  split
  · exact hx
  · exact hy

/-! ## The parts of a URL -/

/-- After the slashes come a host and the path behind it, or there is no result. -/
theorem yields_parseAuthority (scheme cs : List Char) :
    Yields (fun u => u.scheme = scheme ∧ (∃ host, u.host = some host) ∧
      ∃ text, u.path = .segments (segmentsAfterHost (isSpecialScheme scheme) false text))
      (parseAuthority scheme cs) := by
  unfold parseAuthority
  refine yields_bind fun ⟨⟨username, password⟩, _⟩ => ?_
  refine yields_ite (yields_error _) ?_
  -- a special host and any other are followed by the same
  refine yields_ite (yields_bind fun host => ?_) (yields_bind fun host => ?_)
  all_goals
    refine yields_ite (yields_error _) ?_
    dsimp only
    -- so are a port and none
    split
    all_goals
      refine yields_bind fun ⟨port, _⟩ => ?_
      exact yields_ite (yields_error _) (yields_ok ⟨rfl, ⟨host, rfl⟩, _, rfl⟩)

theorem yields_parseFile (scheme cs : List Char) :
    Yields (fun u => u.scheme = scheme) (parseFile scheme cs) := by
  unfold parseFile
  split
  · exact yields_error _
  · exact yields_ok rfl

theorem yields_parseOther (scheme cs : List Char) :
    Yields (fun u => u.scheme = scheme) (parseOther scheme cs) := by
  unfold parseOther
  split
  · exact fun u h => (yields_parseAuthority _ _ u h).1
  · exact yields_ok rfl
  · exact yields_ok rfl

/-- **A URL with the common form, and of no file, has a host and a settled path.** -/
theorem parse_eq_ok_special {s : String} {u : Url} (h : parse s = .ok u)
    (special : isSpecialScheme u.scheme = true) (file : isFileScheme u.scheme = false) :
    (∃ host, u.host = some host) ∧ ∃ steps, u.path = .segments steps ∧ SettledPath steps := by
  unfold parse at h
  split at h
  · exact absurd h nofun
  · next scheme rest _ =>
    split at h
    · next hfile =>
      rw [yields_parseFile _ _ u h, hfile] at file
      exact absurd file nofun
    · split at h
      · next hspecial =>
        obtain ⟨_, host, text, hpath⟩ := yields_parseAuthority _ _ u h
        rw [hspecial] at hpath
        exact ⟨host, _, hpath, settled_segmentsAfterHost text⟩
      · -- any other scheme is kept in the result, and that was special
        next hother =>
        rw [yields_parseOther _ _ u h] at special
        exact absurd special hother

end IdeaBoard.Url
