import Mathlib.Data.List.Basic
import IdeaBoard.Client.Endpoint
import IdeaBoard.Proofs.Url.Parser

/-!
# IdeaBoard — where the service is

The service is below the root of the site: the path of the root goes on with the path of the service, and
the rest of the root stays as it is, less what comes after its path.

* **`slashEnded_eq`** — a slash at the end of a path is an empty segment there. The path is read once more
  for it, which leaves all other segments alone.
* **`join_servicePath`** — the service takes the place of the empty segment.
* **`endpoint_of_special`** — both together, for every scheme with the common form but that of files.
* **`endpoint_below_base`** — what that means for the roots that a site has.
-/

namespace IdeaBoard

open IdeaBoard.Text

namespace Url

/-- The segments of a path without an empty one at the end. -/
def withoutEmptyEnd (ss : List (List Char)) : List (List Char) :=
  if ss.getLast? = some [] then ss.dropLast else ss

/-- An empty segment at the end, taken away and put back. -/
theorem withoutEmptyEnd_append_empty {ss : List (List Char)} (h : ss.getLast? = some []) :
    withoutEmptyEnd ss ++ [[]] = ss := by
  rw [withoutEmptyEnd, if_pos h]
  obtain ⟨front, rfl⟩ := List.getLast?_eq_some_iff.mp h
  rw [List.dropLast_concat]

/-- A path with a slash at its end, whether or not it has one. -/
theorem text_withoutEmptyEnd {ss : List (List Char)} (h : SettledPath ss) :
    (Path.segments (withoutEmptyEnd ss ++ [[]])).text =
      (Path.segments ss).text ++ if (Path.segments ss).text.getLast? = some '/' then [] else ['/'] := by
  -- the slash at the end of the text is the empty segment at the end of the path
  by_cases hlast : ss.getLast? = some []
  · rw [withoutEmptyEnd_append_empty hlast, if_pos ((text_ends_slash_iff h).mpr hlast), List.append_nil]
  · have hslash : ¬(Path.segments ss).text.getLast? = some '/' :=
      fun hend => hlast ((text_ends_slash_iff h).mp hend)
    rw [withoutEmptyEnd, if_neg hlast, if_neg hslash, text_append]
    rfl

end Url

namespace Client

variable {root : String} {base service : Url} {steps : List (List Char)}

/-- The service comes from a root that was read, by way of its path with a slash at the end. -/
theorem endpoint_eq_ok (h : endpoint root = .ok service) :
    ∃ base, Url.parse root = .ok base ∧ (slashEnded base).join servicePath = .ok service := by
  unfold endpoint at h
  split at h
  · exact absurd h nofun
  · next base hparse =>
    split at h
    · split at h
      · next hjoin =>
        obtain rfl := Except.ok.inj h
        exact ⟨base, hparse, hjoin⟩
      · exact absurd h nofun
    · exact absurd h nofun

/-- Nothing comes after the path of a URL that the path of the service has led to. -/
theorem ends_of_join (h : base.join servicePath = .ok service) :
    service.query = none ∧ service.fragment = none := by
  unfold Url.join at h
  split at h
  · exact absurd h nofun
  · obtain rfl := Except.ok.inj h
    exact ⟨rfl, rfl⟩

/-! ## A slash at the end -/

/-- Behind a slash at its end the path has an empty segment, where it had none. -/
theorem slashEnded_eq (special : Url.isSpecialScheme base.scheme = true)
    (file : Url.isFileScheme base.scheme = false) (path : base.path = .segments steps)
    (settled : Url.SettledPath steps) :
    slashEnded base = { base with path := .segments (Url.withoutEmptyEnd steps ++ [[]]) } := by
  unfold slashEnded
  rw [path]
  by_cases hlast : steps.getLast? = some []
  · -- there is a slash already: the path stays, empty segment and all
    rw [if_pos ((Url.text_ends_slash_iff settled).mpr hlast), Url.withoutEmptyEnd_append_empty hlast,
      ← path]
  · have hslash : ¬(Url.Path.segments steps).text.getLast? = some '/' :=
      fun hend => hlast ((Url.text_ends_slash_iff settled).mp hend)
    rw [if_neg hslash, Url.withoutEmptyEnd, if_neg hlast]
    -- the text with the slash is that of a settled path again, and is read as one
    have hended : Url.SettledPath (steps ++ [[]]) := by
      refine ⟨fun s hs => ?_, by simp⟩
      rcases List.mem_append.mp hs with hs | hs
      · exact settled.settled s hs
      · exact List.mem_singleton.mp hs ▸ Url.settled_nil
    have htext : (Url.Path.segments steps).text ++ ['/'] = (Url.Path.segments (steps ++ [[]])).text := by
      rw [Url.text_append]
      rfl
    unfold Url.withPath
    rw [path, htext, Url.withoutBreaks_text hended.settled, special, file]
    dsimp only
    rw [Url.segmentsAfterHost_text hended, Url.pathOf, file]
    rfl

/-! ## The way to the service -/

def serviceSteps : List (List Char) := ["api".toList, "v1".toList, "posts".toList]

theorem settled_serviceSteps : ∀ s ∈ serviceSteps, Url.Settled s := by
  have settled : ∀ s : List Char, s.all Url.isSegmentChar = true → Url.isSingleDot s = false →
      Url.isDoubleDot s = false → Url.Settled s :=
    fun s chars single double => ⟨List.all_eq_true.mp chars, single, double⟩
  intro s hs
  simp only [serviceSteps, List.mem_cons, List.not_mem_nil, or_false] at hs
  rcases hs with rfl | rfl | rfl
  · exact settled _ (by decide) (by decide) (by decide)
  · exact settled _ (by decide) (by decide) (by decide)
  · exact settled _ (by decide) (by decide) (by decide)

/-- The way to the service goes on where the empty segment is. -/
theorem join_servicePath (special : Url.isSpecialScheme base.scheme = true)
    (file : Url.isFileScheme base.scheme = false) (path : base.path = .segments (steps ++ [[]])) :
    base.join servicePath = .ok { base with
      path := .segments (steps ++ serviceSteps), query := none, fragment := none } := by
  have hsteps : Url.segmentsOf true (servicePath.text.takeWhile fun c => !Url.endsPath c) = serviceSteps := by
    decide
  -- the empty segment at the end gives way to the first step
  have hfront : Url.shortened false (steps ++ [[]]) = steps := by
    rw [Url.shortened_eq, List.dropLast_concat]
  unfold Url.join
  rw [path]
  dsimp only
  rw [special, file, hfront, hsteps, Url.followAll_of_settled settled_serviceSteps, Url.pathOf, file]
  rfl

/-! ## The service -/

/-- **The service below a root**: the path of the root goes on, and nothing else of it changes. -/
theorem endpoint_of_special (parsed : Url.parse root = .ok base)
    (special : Url.isSpecialScheme base.scheme = true) (file : Url.isFileScheme base.scheme = false)
    (path : base.path = .segments steps) (settled : Url.SettledPath steps) :
    endpoint root = .ok { base with
      path := .segments (Url.withoutEmptyEnd steps ++ serviceSteps), query := none, fragment := none } := by
  have hbase : base.isBase = true := by
    unfold Url.isBase
    rw [path]
  have hended := slashEnded_eq special file path settled
  have hjoin : (slashEnded base).join servicePath = .ok { base with
      path := .segments (Url.withoutEmptyEnd steps ++ serviceSteps), query := none, fragment := none } := by
    rw [hended]
    exact join_servicePath special file rfl
  unfold endpoint
  rw [parsed]
  dsimp only
  rw [if_pos hbase, hjoin]

/-- **A text that cannot be read as a URL is refused with the reason. For every root with the scheme
`http` or `https` there is a service: it has scheme, credentials, host and port of the root, neither query
nor fragment, and for a path that of the root, with a slash after it unless there is one, and
`api/v1/posts`. Its segments are those of the root, none of which is changed, and those of the service,
which come in the place of an empty one at the end.** -/
theorem endpoint_below_base (root : String) :
    (∀ fault, Url.parse root = .error fault → endpoint root = .error ⟨.invalidUrl, fault.message⟩) ∧
    ∀ base, Url.parse root = .ok base →
      base.scheme = "http".toList ∨ base.scheme = "https".toList →
      ∃ service, endpoint root = .ok service ∧
        (service.scheme = base.scheme ∧ service.username = base.username ∧
          service.password = base.password ∧ service.host = base.host ∧ service.port = base.port) ∧
        (service.query = none ∧ service.fragment = none) ∧
        service.path.text = base.path.text ++
          (if base.path.text.getLast? = some '/' then [] else ['/']) ++ "api/v1/posts".toList ∧
        (∃ steps, base.path = .segments steps ∧ service.path = .segments
          ((if steps.getLast? = some [] then steps.dropLast else steps) ++
            ["api".toList, "v1".toList, "posts".toList])) ∧
        service.text = base.scheme ++ ':' :: base.authorityText ++ service.path.text := by
  refine ⟨fun fault hfault => ?refused, fun base parsed hscheme => ?served⟩
  case refused =>
    unfold endpoint
    rw [hfault]
  case served =>
    have special : Url.isSpecialScheme base.scheme = true := by
      rcases hscheme with h | h <;> rw [h] <;> decide
    have file : Url.isFileScheme base.scheme = false := by
      rcases hscheme with h | h <;> rw [h] <;> decide
    -- what was read has a host, and a path with at least one segment
    obtain ⟨⟨host, hhost⟩, steps, path, settled⟩ := Url.parse_eq_ok_special parsed special file
    refine ⟨_, endpoint_of_special parsed special file path settled, ⟨rfl, rfl, rfl, rfl, rfl⟩,
      ⟨rfl, rfl⟩, ?_, ⟨steps, path, rfl⟩, ?_⟩
    · -- the text of the root with its slash, and then that of the service without one in front
      have hend := Url.text_withoutEmptyEnd settled
      rw [Url.text_append] at hend
      rw [path, ← hend]
      show (Url.Path.segments (Url.withoutEmptyEnd steps ++ serviceSteps)).text = _
      rw [Url.text_append, List.append_assoc]
      rfl
    · -- a URL with a host keeps what is in front of its path whatever the path is
      simp [Url.text, Url.target, Url.authorityText, Url.credentialsText, Url.portText, Url.markedText, hhost]

/-- A root with credentials and a port, with a query and a fragment. In its path there are an empty
segment, a step back that is written in hexadecimal, a backslash and a letter beyond ASCII. -/
theorem endpoint_below_base_crowded :
    let root := "https://u:p@[::1]:8443/a//b/%2e%2E/c\\ü x?q/#f/"
    ∃ service, endpoint root = .ok service ∧
      service.path.text = "/a//c/%C3%BC%20x/api/v1/posts".toList ∧
      service.text = "https://u:p@[::1]:8443/a//c/%C3%BC%20x/api/v1/posts".toList := by
  intro root
  let base : Url := {
    scheme := "https".toList
    username := "u".toList
    password := "p".toList
    host := some (.ipv6 [0, 0, 0, 0, 0, 0, 0, 1])
    port := some 8443
    path := .segments ["a".toList, [], "c".toList, "%C3%BC%20x".toList]
    query := some "q/".toList
    fragment := some "f/".toList }
  have parsed : Url.parse root = .ok base := by decide +kernel
  obtain ⟨service, hservice, _, _, hpath, _, htext⟩ := (endpoint_below_base root).2 base parsed (.inr rfl)
  have hfull : service.path.text = "/a//c/%C3%BC%20x/api/v1/posts".toList := by
    rw [hpath]
    decide +kernel
  refine ⟨service, hservice, hfull, ?_⟩
  rw [htext, hfull]
  decide +kernel

end Client

end IdeaBoard
