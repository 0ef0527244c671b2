import IdeaBoard.Program
import IdeaBoard.Proofs.Config.Read
import IdeaBoard.Proofs.Files

/-!
# IdeaBoard — a configuration that was saved is loaded again

Every configuration that can be loaded lets list pages grow, and every one that does can be saved and
loaded again, whatever text it has for the site and however large its numbers are. So nothing is lost by
a run of the program that only writes its configuration.

* **`ofText_eq_ok_iff`** — the texts that are accepted, and as what.
* **`load_of_save`** — a configuration that was saved is loaded.
* **`run_writeConfig`** — a run that writes its configuration ends well just where that can be loaded,
  and written where it is asked for.
* **`saved_config_reloads`** — all this together.
-/

namespace IdeaBoard.Config

/-! ## What is accepted -/

/-- A configuration is let through as it is, if list pages can grow with it. -/
theorem validated_eq_ok_iff {c d : Config} :
    c.validated = .ok d ↔ c = d ∧ 0 < c.pageSize ∧ 0 < c.pageStep := by
  have hpos : ∀ n : UInt32, 0 < n ↔ n ≠ 0 := fun n => UInt32.pos_iff_ne_zero
  rw [hpos, hpos]
  unfold validated
  by_cases hsize : c.pageSize = 0
  · simp [hsize]
  · by_cases hstep : c.pageStep = 0
    · simp [hsize, hstep]
    · simp [hsize, hstep]

/-- **A text is accepted just where it is read as a configuration with which list pages can grow.** -/
theorem ofText_eq_ok_iff {path text : String} {c : Config} :
    ofText path text = .ok c ↔ parse? text.toList = some c ∧ 0 < c.pageSize ∧ 0 < c.pageStep := by
  unfold ofText
  cases parse? text.toList with
  | none => simp
  | some d =>
    simp only [validated_eq_ok_iff, Option.some.injEq]
    constructor
    · rintro ⟨rfl, hpositive⟩
      exact ⟨rfl, hpositive⟩
    · rintro ⟨rfl, hpositive⟩
      exact ⟨rfl, hpositive⟩

/-- **With every configuration that is loaded, list pages can grow.** -/
theorem positive_of_load {files : Files} {path : Option String} {c : Config}
    (h : load files path = .ok c) : 0 < c.pageSize ∧ 0 < c.pageStep := by
  have hdefault : 0 < ({} : Config).pageSize ∧ 0 < ({} : Config).pageStep := by decide
  cases path with
  | none =>
    obtain rfl := Except.ok.inj h
    exact hdefault
  | some path =>
    unfold load at h
    simp only at h
    cases hread : files.readText path with
    | ok text =>
      rw [hread] at h
      exact (ofText_eq_ok_iff.mp h).2
    | error fault =>
      rw [hread] at h
      -- a missing file stands for the defaults, any other fault for itself
      cases fault with
      | missing =>
        obtain rfl := Except.ok.inj h
        exact hdefault
      | unusable => exact absurd h (by simp)

/-! ## Saving and loading -/

variable {c : Config} {files saved : Files} {path : String}

/-- **The text of a configuration is accepted as that configuration.** -/
theorem ofText_text (size : 0 < c.pageSize) (step : 0 < c.pageStep) (path : String) :
    ofText path c.text = .ok c := ofText_eq_ok_iff.mpr ⟨parse?_text c, size, step⟩

theorem save_eq_ok_iff :
    c.save files path = .ok saved ↔
      files.write? path (Text.Utf8.encode c.text.toList) = some saved := by
  unfold save
  cases files.write? path (Text.Utf8.encode c.text.toList) <;> simp

/-- A configuration can be saved just where a file can be written. -/
theorem exists_save_iff : (∃ saved, c.save files path = .ok saved) ↔ files.CanWrite path := by
  rw [← Files.exists_write?_iff (Text.Utf8.encode c.text.toList)]
  exact exists_congr fun saved => save_eq_ok_iff

/-- **A configuration that was saved is loaded again**, whatever was there before. -/
theorem load_of_save (size : 0 < c.pageSize) (step : 0 < c.pageStep)
    (h : c.save files path = .ok saved) : load saved (some path) = .ok c := by
  have hread : saved.readText path = .ok c.text := Files.readText_of_write? (save_eq_ok_iff.mp h)
  rw [load, hread]
  exact ofText_text size step path

/-! ## A run that writes its configuration -/

open Program (Options run)

/-- **A run that is to write its configuration ends well just where that is loaded and can be written;
then it has left a file that loads to the same, and else it has left all files as they were.** -/
theorem run_writeConfig {o : Options} (files : Files) (lines : List String)
    (h : o.writeConfigPath = some path) :
    ((∃ c, load files o.configPath = .ok c) ∧ files.CanWrite path ∧
        (run o files lines).fault = none ∧
        ∃ c, load files o.configPath = .ok c ∧ load (run o files lines).files (some path) = .ok c) ∨
      (¬((∃ c, load files o.configPath = .ok c) ∧ files.CanWrite path) ∧
        (run o files lines).fault ≠ none ∧ (run o files lines).files = files) := by
  unfold run
  cases hload : load files o.configPath with
  | error fault => exact .inr ⟨by simp, by simp, rfl⟩
  | ok c =>
    simp only [h]
    -- what the reader will ask of the text, loading has asked of the configuration
    obtain ⟨size, step⟩ := positive_of_load hload
    cases hsave : c.save files path with
    | error fault =>
      have hnot : ¬files.CanWrite path := by
        rw [← exists_save_iff (c := c), hsave]
        simp
      exact .inr ⟨fun hboth => hnot hboth.2, by simp, rfl⟩
    | ok saved =>
      have hcan : files.CanWrite path := exists_save_iff.mp ⟨saved, hsave⟩
      exact .inl ⟨⟨c, rfl⟩, hcan, rfl, c, rfl, load_of_save size step hsave⟩

/-- **Every configuration that is loaded, from any text that is accepted or by default, has a positive
page size and a positive step. For every configuration that has, with any text for the site and any
numbers, what is written for it is accepted as just that configuration; and wherever a file can be
written it can be saved, and is then loaded again. So a run that is to write its configuration ends well
just where the configuration is loaded and can be written, and what it has written then loads to the
configuration that it had; otherwise it has written nothing.** -/
theorem saved_config_reloads :
    (∀ (files : Files) (path : Option String) (c : Config), load files path = .ok c →
      0 < c.pageSize ∧ 0 < c.pageStep) ∧
    (∀ c : Config, 0 < c.pageSize → 0 < c.pageStep → ∀ path : String,
      ofText path c.text = .ok c ∧
      ∀ files : Files, files.CanWrite path →
        ∃ saved, c.save files path = .ok saved ∧ saved.readText path = .ok c.text ∧
          load saved (some path) = .ok c) ∧
    (∀ (o : Options) (files : Files) (lines : List String) (path : String),
      o.writeConfigPath = some path →
      let r := run o files lines
      (r.fault = none ↔ (∃ c, load files o.configPath = .ok c) ∧ files.CanWrite path) ∧
      (r.fault = none →
        ∃ c, load files o.configPath = .ok c ∧ load r.files (some path) = .ok c) ∧
      (r.fault ≠ none → r.files = files)) := by
  refine ⟨fun files path c hload => positive_of_load hload, ?saved, ?written⟩
  case saved =>
    intro c size step path
    refine ⟨ofText_text size step path, fun files hcan => ?_⟩
    obtain ⟨saved, hsave⟩ := exists_save_iff.mpr hcan
    exact ⟨saved, hsave, Files.readText_of_write? (save_eq_ok_iff.mp hsave),
      load_of_save size step hsave⟩
  case written =>
    intro o files lines path hpath r
    rcases run_writeConfig files lines hpath with
      ⟨hload, hcan, hfault, hreload⟩ | ⟨hnot, hfault, hfiles⟩
    · exact ⟨iff_of_true hfault ⟨hload, hcan⟩, fun _ => hreload, fun hne => absurd hfault hne⟩
    · exact ⟨iff_of_false hfault hnot, fun hnone => absurd hnone hfault, fun _ => hfiles⟩

/-- A site whose address is made of quotes, backslashes, control characters, a combining mark and the
characters at the far ends, with the largest numbers there are. -/
theorem saved_config_reloads_extreme :
    let c : Config := {
      baseUrl := String.ofList ['"', '\'', '\\', '\n', '\t', Char.ofNat 0, Char.ofNat 0x7F, 'e',
        Char.ofNat 0x301, Char.ofNat 0xD7FF, Char.ofNat 0x1F980, Char.ofNat 0x10FFFF, '\\']
      debounceMs := 18446744073709551615, pageSize := 4294967295, pageStep := 1
      connectTimeoutMs := 0, maxResponseBytes := 18446744073709551615, logDestination := .both }
    let files : Files := { entries := [(["shell.ron".toList], .file [40, 41])] }
    0 < c.pageSize ∧ 0 < c.pageStep ∧ files.CanWrite "shell.ron" ∧
      ofText "shell.ron" c.text = .ok c ∧
      ∃ saved, c.save files "shell.ron" = .ok saved ∧ load saved (some "shell.ron") = .ok c := by
  intro c files
  have size : 0 < c.pageSize := by decide
  have step : 0 < c.pageStep := by decide
  have hcan : files.CanWrite "shell.ron" := ⟨["shell.ron".toList], by decide +kernel, by decide +kernel⟩
  obtain ⟨haccepted, hsaved⟩ := saved_config_reloads.2.1 c size step "shell.ron"
  obtain ⟨saved, hsave, _, hload⟩ := hsaved files hcan
  exact ⟨size, step, hcan, haccepted, saved, hsave, hload⟩

end IdeaBoard.Config
