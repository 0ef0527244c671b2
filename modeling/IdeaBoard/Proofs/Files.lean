import Mathlib.Tactic.SplitIfs
import IdeaBoard.Files
import IdeaBoard.Proofs.Utf8

/-!
# IdeaBoard — a file that was written is read

A path leads through directories, and a file is never written in place of one. So the path of a file
that has just been written leads to it still, and what is read there is what was written.

* **`follow_put`** — what is put where no directory is, is in no path's way.
* **`CanWrite`** — there can be a file at a path; `write?_eq_some_iff` says what comes of it then.
* **`read_of_write?`** / **`readText_of_write?`** — the file read back, as octets and as a text.
-/

namespace IdeaBoard.Files

open IdeaBoard.Text

variable {f g : Files} {place : Place} {entry : Entry}

/-- What is put at a place is there, unless a directory was. -/
theorem put_there (h : f.entry? place ≠ some .directory) :
    entry? (f.put place entry) place = some entry := by
  -- every place on the way to the working directory is a directory, and this one is not
  have hbelow : place.isPrefixOf f.workingDirectory = false := by
    cases hprefix : place.isPrefixOf f.workingDirectory with
    | false => rfl
    | true => exact absurd (if_pos hprefix) h
  have hworking : (f.put place entry).workingDirectory = f.workingDirectory := rfl
  unfold entry?
  rw [hworking, hbelow]
  simp [put]

/-- All other places are as they were. -/
theorem put_elsewhere {other : Place} (h : other ≠ place) :
    entry? (f.put place entry) other = f.entry? other := by
  -- the entries taken out are at `place`, so none of them was looked for
  have hfind : ((f.entries.filter fun e => e.1 ≠ place).find? fun e => e.1 = other) =
      f.entries.find? fun e => e.1 = other := by
    rw [List.find?_filter]
    congr 1
    funext e
    by_cases he : e.1 = other
    · simp [he, h]
    · simp [he]
  have hentries : (f.put place entry).entries =
      (place, entry) :: f.entries.filter fun e => e.1 ≠ place := rfl
  have hworking : (f.put place entry).workingDirectory = f.workingDirectory := rfl
  unfold entry?
  rw [hworking, hentries, List.find?_cons, hfind]
  simp [Ne.symm h]

/-- **What is put where there is no directory is in no path's way**: every step but the last of a path is
taken from a directory. -/
theorem follow_put (h : f.entry? place ≠ some .directory) {start last : Place}
    {names : List (List Char)} (hfollow : f.follow start names = .ok last) :
    (f.put place entry).follow start names = .ok last := by
  -- on the names that are left; only the place before the last can be the one that is put
  induction names generalizing start with
  | nil => exact hfollow
  | cons name names ih =>
    cases hstart : f.entry? start with
    | none => exact absurd hfollow (by simp [follow, hstart])
    | some there =>
      cases there with
      | file content => exact absurd hfollow (by simp [follow, hstart])
      | directory =>
        have hne : start ≠ place := by
          rintro rfl
          exact h hstart
        have hsame : entry? (f.put place entry) start = some .directory := by
          rw [put_elsewhere hne, hstart]
        rw [follow, hstart] at hfollow
        rw [follow, hsame]
        simp only at hfollow ⊢
        -- the name says where to go on from, if anywhere
        split_ifs at hfollow ⊢ with hstay hup hlong
        · exact ih hfollow
        · exact ih hfollow
        · exact ih hfollow

/-- A path leads where it led, once something is put where no directory was. -/
theorem locate_put (h : f.entry? place ≠ some .directory) {path : String} {last : Place}
    (hlocate : f.locate path = .ok last) : (f.put place entry).locate path = .ok last := by
  unfold locate at hlocate ⊢
  simp only at hlocate ⊢
  split_ifs at hlocate ⊢ with hempty hnul habsolute
  · exact follow_put h hlocate
  · exact follow_put h hlocate

/-! ## Writing and reading -/

/-- There can be a file at the path: it leads somewhere, and not to a directory. -/
def CanWrite (f : Files) (path : String) : Prop :=
  ∃ place, f.locate path = .ok place ∧ f.entry? place ≠ some .directory

/-- A file is put where the path leads, if no directory is there. -/
theorem write?_eq_some_iff {path : String} {content : List UInt8} :
    f.write? path content = some g ↔
      ∃ place, f.locate path = .ok place ∧ f.entry? place ≠ some .directory ∧
        g = f.put place (.file content) := by
  unfold write?
  cases f.locate path with
  | error e => simp
  | ok place =>
    -- a directory is the one thing that is never written over
    by_cases hdirectory : f.entry? place = some .directory
    · simp [hdirectory]
    · simp only [hdirectory, if_false, Option.some.injEq, Except.ok.injEq, exists_eq_left',
        not_false_eq_true, true_and, ne_eq]
      exact eq_comm

/-- A file is written just where there can be one, whatever its content. -/
theorem exists_write?_iff {path : String} (content : List UInt8) :
    (∃ g, f.write? path content = some g) ↔ f.CanWrite path := by
  constructor
  · rintro ⟨g, hwrite⟩
    obtain ⟨place, hlocate, hfile, _⟩ := write?_eq_some_iff.mp hwrite
    exact ⟨place, hlocate, hfile⟩
  · rintro ⟨place, hlocate, hfile⟩
    exact ⟨_, write?_eq_some_iff.mpr ⟨place, hlocate, hfile, rfl⟩⟩

/-- **What was written is read.** -/
theorem read_of_write? {path : String} {content : List UInt8}
    (h : f.write? path content = some g) : g.read path = .ok content := by
  obtain ⟨place, hlocate, hfile, rfl⟩ := write?_eq_some_iff.mp h
  rw [read, locate_put hfile hlocate]
  simp only [put_there hfile]

/-- **A text that was written is read as that text.** -/
theorem readText_of_write? {path : String} {s : String}
    (h : f.write? path (Utf8.encode s.toList) = some g) : g.readText path = .ok s := by
  rw [readText, read_of_write? h]
  simp only [Utf8.decode?_encode, String.ofList_toList]

end IdeaBoard.Files
