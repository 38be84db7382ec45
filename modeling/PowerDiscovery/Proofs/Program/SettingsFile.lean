import PowerDiscovery.Proofs.Program.Refusal
import PowerDiscovery.Proofs.Settings.Document

/-! # Settings files on the command line

A command line may name a settings file.  The program reads it before anything else of its run, and breaks
down there exactly if the file cannot be used. -/

namespace PowerDiscovery.Program

open CommandLine

variable {m : Machine} {a : Arguments} {cause : Settings.FileError}

private theorem baseSettings_eq_error : (baseSettings m a).value = .error (.settingsFile cause) ↔
    ∃ path, settingsFile? a = some path ∧
      (Settings.ofFile m.environment m.files path).value = .error cause := by
  unfold baseSettings
  cases settingsFile? a with
  | none => exact iff_of_false nofun nofun
  | some path =>
    simp only [Traced.map_value, mapError_eq_error, Breakdown.settingsFile.injEq, exists_eq_right,
      Option.some.injEq, exists_eq_left']

private theorem ending_ne_settingsFile (available : Backend → Bool) (done : Except Run.Error String) :
    ending available done ≠ .error (.settingsFile cause) := by
  intro h
  cases done with
  | ok text => cases h
  | error e => cases e <;> cases h

private theorem runArguments_eq_settingsFile : (runArguments m a).value = .error (.settingsFile cause) ↔
    (baseSettings m a).value = .error (.settingsFile cause) := by
  have hread := readAt_baseSettings m a Thresholds.initial.effective
  cases hbase : (baseSettings m a).value with
  | error e =>
    simp only [runArguments, Traced.bind_value, hread, hbase, Traced.pure_value, Except.error.injEq]
  | ok base =>
    refine iff_of_false ?_ (fun h => by cases h)
    cases hthresholds : Thresholds.set a.debugLevel base.logLevel with
    | error f =>
      simp only [runArguments, Traced.bind_value, hread, hbase, hthresholds, Traced.pure_value]
      intro h
      cases h
    | ok thresholds =>
      rw [runArguments_value hbase hthresholds]
      exact ending_ne_settingsFile _ _

/-- A settings file that can be used gives the initial settings with what its document says of them, and any
other one is refused.  The program breaks down over its settings file exactly if it is asked for a scan, and
for settings from a file that cannot be used.

The documents are those whose values `Value` can hold, and those that are refused by a `Document.Error`; dates,
octets, sets and scalars that do not fit their tags are in neither. -/
theorem settings_file_read (m : Machine) (words : List String) :
    (∀ path, Settings.IsUsableFile m.files path → (Settings.ofFile m.environment m.files path).value =
      .ok (Settings.described m.environment ((Settings.document? m.files path).getD .null))) ∧
    (∀ path, ¬ Settings.IsUsableFile m.files path →
      ∃ cause, (Settings.ofFile m.environment m.files path).value = .error cause) ∧
    ((∃ cause, (run m words).value = .error (.settingsFile cause)) ↔
      ∃ given path, readOptions words = .ok given ∧ (∀ g ∈ given, g.flag ∉ informative) ∧
        settingsFile? (.ofGiven given) = some path ∧ ¬ Settings.IsUsableFile m.files path) := by
  have hread := Settings.ofFile_yields m.environment m.files
  refine ⟨fun path => (hread path).ok, fun path => (hread path).error, ?_, ?_⟩
  · rintro ⟨cause, hbroken⟩
    cases hwords : readOptions words with
    | error e =>
      simp only [run_eq, hwords] at hbroken
      cases hbroken
    | ok given =>
      cases hscans : information? m.engines.available (.ofGiven given) with
      | some text =>
        simp only [run_eq, hwords, hscans] at hbroken
        cases hbroken
      | none =>
        rw [run_of_options hwords hscans, runArguments_eq_settingsFile] at hbroken
        obtain ⟨path, hnamed, hrefused⟩ := baseSettings_eq_error.mp hbroken
        refine ⟨given, path, rfl, information?_ofGiven.mp hscans, hnamed, ?_⟩
        intro husable
        rw [(hread path).ok husable] at hrefused
        cases hrefused
  · rintro ⟨given, path, hwords, hflags, hnamed, hunusable⟩
    obtain ⟨cause, hrefused⟩ := (hread path).error hunusable
    refine ⟨cause, ?_⟩
    rw [run_of_options hwords (information?_ofGiven.mpr hflags), runArguments_eq_settingsFile]
    exact baseSettings_eq_error.mpr ⟨path, hnamed, hrefused⟩

/-- A machine with a settings file whose section for scans is a number. -/
private def withScalarSection : Machine :=
  { files := fun _ => some (.document (.ok (.mapping [("scan", .int 30)])))
    engines := fun _ => { isAvailable := true, scan := fun _ _ _ _ _ => return none } }

theorem settings_file_read_scalarSection :
    ∃ cause, (run withScalarSection ["--config", "/settings", "-I"]).value = .error (.settingsFile cause) := by
  apply (settings_file_read withScalarSection _).2.2.mpr
  refine ⟨[⟨.config, .text "/settings"⟩, ⟨.ipmiScan, .null⟩], "/settings", rfl, by decide, rfl, ?_⟩
  intro husable
  have hmapping := husable.sections "scan" (by decide) (.int 30) rfl
  exact absurd hmapping Bool.false_ne_true

end PowerDiscovery.Program
