import TokenClient.Command.Run
import TokenClient.Proofs.SettingsStorage

/-! Writing the settings in effect to their file. A file that is there is kept unless it was asked
to be overwritten, no failure costs a file, and what was written are the settings of the next
run. -/
namespace TokenClient.Invocation

variable {i : Invocation} {home : String} {force : Bool} {files : Storage} {s : Settings}

theorem settings_ok_iff : i.settings home files = .ok s ↔
    ∃ stored, Settings.load files (i.settingsPath home) = .ok stored ∧
      s = { stored with
        rpcUrl := i.rpcUrl.getD stored.rpcUrl
        gasLimit := i.gasLimit.getD stored.gasLimit } := by
  unfold settings
  cases Settings.load files (i.settingsPath home) with
  | error failure => simp [bind, Except.bind]
  | ok stored => simp [bind, Except.bind, pure, Except.pure, eq_comm]

section Outcomes

variable {node : Node} {desk : Desk} {failure : Failure} {files' : Storage}

theorem initSettings_kept (there : desk.files.isThere (i.settingsPath home) = true)
    (unforced : force = false) : i.initSettings home force node desk =
      (.error (.settingsExist (i.settingsPath home)), desk) := by
  simp only [initSettings, bind, Shell.bind, Shell.files, there, unforced]
  rfl

variable (allowed : desk.files.isThere (i.settingsPath home) = true → force = true)
include allowed

theorem initSettings_allowed : i.initSettings home force node desk =
    (do
      let s ← i.settings home desk.files
      Shell.store fun files => s.save files (i.settingsPath home)
      Shell.print ["Wrote " ++ i.settingsPath home] : Shell Unit) node desk := by
  have open_ : ¬ (desk.files.isThere (i.settingsPath home) = true ∧ ¬ force = true) := by
    simpa using allowed
  simp only [initSettings, bind, Shell.bind, Shell.files, open_]
  rfl

theorem initSettings_unsettled (unsettled : i.settings home desk.files = .error failure) :
    i.initSettings home force node desk = (.error failure, desk) := by
  rw [initSettings_allowed allowed, unsettled]
  rfl

variable (settled : i.settings home desk.files = .ok s)
include settled

theorem initSettings_unsaved
    (unsaved : s.save desk.files (i.settingsPath home) = (.error failure, files')) :
    i.initSettings home force node desk = (.error failure, { desk with files := files' }) := by
  rw [initSettings_allowed allowed, settled]
  simp [bind, Shell.bind, liftM, monadLift, MonadLift.monadLift, Shell.store, unsaved]

theorem initSettings_saved
    (saved : s.save desk.files (i.settingsPath home) = (.ok (), files')) :
    i.initSettings home force node desk = (.ok (), { desk with
      files := files'
      printed := desk.printed ++ ["Wrote " ++ i.settingsPath home] }) := by
  rw [initSettings_allowed allowed, settled]
  simp [bind, Shell.bind, liftM, monadLift, MonadLift.monadLift, Shell.store, saved, Shell.print]

end Outcomes

theorem run_of_initSettings (asked : i.command = .initSettings force) :
    i.run home = i.initSettings home force := by
  unfold run
  rw [asked]

/-- What a run has left behind that wrote the settings in effect. -/
structure Persisted (i : Invocation) (home : String) (before after : Storage) (s : Settings) :
    Prop where
  /-- They are those of the file that was there, under the options. -/
  inEffect : ∃ stored, Settings.load before (i.settingsPath home) = .ok stored ∧
    s = { stored with
      rpcUrl := i.rpcUrl.getD stored.rpcUrl
      gasLimit := i.gasLimit.getD stored.gasLimit }
  /-- No other file is changed, removed or added. -/
  onlyTarget : ∃ place, after.locate (i.settingsPath home) = .ok (.file place) ∧
    ∀ other ≠ place, after.files.lookup other = before.files.lookup other
  /-- A run that names the file and gives no options finds them. -/
  found : ∀ (later : Invocation) (home' : String), later.config = some (i.settingsPath home) →
    later.rpcUrl = none → later.gasLimit = none → later.settings home' after = .ok s
  /-- The same command, told to overwrite the file, changes nothing. -/
  repeated : ∀ node desk, desk.files = after → ∃ desk',
    { i with command := .initSettings true }.run home node desk = (.ok (), desk') ∧
      desk'.files = after

theorem settings_of_load {later : Invocation} {path : String}
    (named : later.settingsPath home = path) (noUrl : later.rpcUrl = none)
    (noLimit : later.gasLimit = none) (loaded : Settings.load files path = .ok s) :
    later.settings home files = .ok s := by
  rw [settings_ok_iff, named, noUrl, noLimit]
  exact ⟨s, loaded, rfl⟩

/-- Options on top of settings that have them already change nothing. -/
theorem settings_again {after : Storage} (settled : i.settings home files = .ok s)
    (loaded : Settings.load after (i.settingsPath home) = .ok s) :
    i.settings home after = .ok s := by
  obtain ⟨stored, -, rfl⟩ := settings_ok_iff.mp settled
  refine settings_ok_iff.mpr ⟨_, loaded, ?_⟩
  cases i.rpcUrl <;> cases i.gasLimit <;> rfl

theorem persisted {after made : Storage} {text : String} (settled : i.settings home files = .ok s)
    (saved : Settings.Saved s files (i.settingsPath home) after made text) :
    Persisted i home files after s where
  inEffect := settings_ok_iff.mp settled
  onlyTarget := saved.place
  found later home' named noUrl noLimit :=
    settings_of_load (by rw [settingsPath, named]; rfl) noUrl noLimit saved.load_eq
  repeated node desk same := by
    subst same
    have again := settings_again settled saved.load_eq
    rw [run_of_initSettings rfl]
    exact ⟨_, initSettings_saved (fun _ => rfl) again saved.again, rfl⟩

/-- A failed run leaves the files as they were; any other one has written the settings. -/
theorem initSettings_cases (i : Invocation) (home : String) (force : Bool) (node : Node)
    (desk : Desk) :
    (∃ failure desk', i.initSettings home force node desk = (.error failure, desk') ∧
      desk'.files.files = desk.files.files) ∨
    ∃ desk' s, i.initSettings home force node desk = (.ok (), desk') ∧
      Persisted i home desk.files desk'.files s := by
  by_cases allowed : desk.files.isThere (i.settingsPath home) = true → force = true
  · rcases settled : i.settings home desk.files with failure | s
    · exact .inl ⟨failure, desk, initSettings_unsettled allowed settled, rfl⟩
    · rcases saved : s.save desk.files (i.settingsPath home) with ⟨failure | _, files'⟩
      · exact .inl ⟨failure, _, initSettings_unsaved allowed settled saved,
          Settings.save_failed saved⟩
      · obtain ⟨made, text, done⟩ := Settings.save_ok_iff.mp saved
        exact .inr ⟨_, s, initSettings_saved allowed settled saved, persisted settled done⟩
  · rw [Classical.not_imp, Bool.not_eq_true] at allowed
    exact .inl ⟨_, desk, initSettings_kept allowed.1 allowed.2, rfl⟩

theorem initSettings_ok_iff {node : Node} {desk : Desk} :
    (∃ desk', i.initSettings home force node desk = (.ok (), desk')) ↔
      (desk.files.isThere (i.settingsPath home) = true → force = true) ∧
      ∃ s, i.settings home desk.files = .ok s ∧ s.Bounded ∧
        desk.files.Writable (i.settingsPath home) := by
  constructor
  · rintro ⟨desk', ran⟩
    have allowed : desk.files.isThere (i.settingsPath home) = true → force = true := by
      intro there
      by_contra unforced
      rw [initSettings_kept there (Bool.eq_false_iff.mpr unforced)] at ran
      cases ran
    refine ⟨allowed, ?_⟩
    rcases settled : i.settings home desk.files with failure | s
    · rw [initSettings_unsettled allowed settled] at ran
      cases ran
    · rcases saved : s.save desk.files (i.settingsPath home) with ⟨failure | _, files'⟩
      · rw [initSettings_unsaved allowed settled saved] at ran
        cases ran
      · exact ⟨s, rfl, Settings.saves_iff.mp ⟨files', saved⟩⟩
  · rintro ⟨allowed, s, settled, writes⟩
    obtain ⟨files', saved⟩ := Settings.saves_iff.mpr writes
    exact ⟨_, initSettings_saved allowed settled saved⟩

/-- A settings file that is there is kept unless `force` was given, a run that fails costs no file,
and one that succeeds writes the settings in effect to their file and does nothing else. A path
through a directory that is still missing leads to no file, so nothing is there yet. The last part
says which runs succeed. -/
theorem initSettings_safe (i : Invocation) (home : String) (force : Bool) (node : Node)
    (desk : Desk) (asked : i.command = .initSettings force) :
    (desk.files.isThere (i.settingsPath home) = true → force = false →
      ∃ failure, i.run home node desk = (.error failure, desk)) ∧
    (∀ failure desk', i.run home node desk = (.error failure, desk') →
      desk'.files.files = desk.files.files) ∧
    (∀ desk', i.run home node desk = (.ok (), desk') →
      ∃ s, Persisted i home desk.files desk'.files s) ∧
    ((∃ desk', i.run home node desk = (.ok (), desk')) ↔
      (desk.files.isThere (i.settingsPath home) = true → force = true) ∧
      ∃ s, i.settings home desk.files = .ok s ∧ (∀ number ∈ s.numbers, number ≤ 2 ^ 63 - 1) ∧
        desk.files.Writable (i.settingsPath home)) := by
  rw [run_of_initSettings asked]
  simp only [← Settings.bounded_iff_numbers]
  refine ⟨fun there unforced => ⟨_, initSettings_kept there unforced⟩, ?_, ?_, initSettings_ok_iff⟩
  · intro failure desk' ran
    rcases initSettings_cases i home force node desk with ⟨_, _, failed, kept⟩ | ⟨_, _, done, _⟩
    · cases failed.symm.trans ran
      exact kept
    · cases done.symm.trans ran
  · intro desk' ran
    rcases initSettings_cases i home force node desk with
      ⟨_, _, failed, _⟩ | ⟨_, s, done, persisted⟩
    · cases failed.symm.trans ran
    · cases done.symm.trans ran
      exact ⟨s, persisted⟩

def initiation (force : Bool) : Invocation :=
  { rpcUrl := some "http://10.0.0.1:8545/\"''"
    gasLimit := some 300000
    config := some "keep/new/settings.toml"
    command := .initSettings force }

/-- There is no file of settings yet. -/
def emptyDesk : Desk := ⟨.idle, Settings.hardFiles, []⟩

/-- The file of settings is no text. -/
def brokenDesk : Desk :=
  ⟨.idle, ⟨[(["keep", "new", "settings.toml"], [0xff])], [["keep"], ["keep", "new"]]⟩, []⟩

theorem initiation_broken : ∃ failure, (initiation true).run "home" (Node.scripted []) brokenDesk =
    (.error failure, brokenDesk) := by
  have there : brokenDesk.files.isThere "keep/new/settings.toml" = true := by decide
  have broken : brokenDesk.files.read "keep/new/settings.toml" = .error .notText := by
    decide +kernel
  have unloaded : Settings.load brokenDesk.files "keep/new/settings.toml" =
      .error (.storage .notText) := by
    simp [Settings.load, there, broken]
  have unsettled : (initiation true).settings "home" brokenDesk.files =
      .error (.storage .notText) := by
    rw [settings]
    exact congrArg (· >>= _) unloaded
  exact ⟨_, initSettings_unsettled (fun _ => rfl) unsettled⟩

theorem initiation_settled : (initiation false).settings "home" emptyDesk.files =
    .ok { rpcUrl := "http://10.0.0.1:8545/\"''", gasLimit := 300000 } := by
  have absent : emptyDesk.files.isThere "keep/new/settings.toml" = false := by decide
  have defaults : Settings.load emptyDesk.files "keep/new/settings.toml" = .ok {} :=
    if_neg (by simp [absent])
  exact settings_ok_iff.mpr ⟨{}, defaults, rfl⟩

theorem initSettings_safe_initiation :
    (∃ failure, (initiation false).run "home" (Node.scripted []) brokenDesk =
      (.error failure, brokenDesk)) ∧
    (∃ failure desk', (initiation true).run "home" (Node.scripted []) brokenDesk =
      (.error failure, desk') ∧ desk'.files.files = brokenDesk.files.files) ∧
    ∃ desk' s, (initiation false).run "home" (Node.scripted []) emptyDesk = (.ok (), desk') ∧
      Persisted (initiation false) "home" emptyDesk.files desk'.files s := by
  have kept := initSettings_safe (initiation false) "home" false (Node.scripted []) brokenDesk rfl
  have forced := initSettings_safe (initiation true) "home" true (Node.scripted []) brokenDesk rfl
  have written := initSettings_safe (initiation false) "home" false (Node.scripted []) emptyDesk rfl
  obtain ⟨failure, failed⟩ := initiation_broken
  obtain ⟨desk', succeeded⟩ := written.2.2.2.mpr ⟨fun there => absurd there (by decide), _,
    initiation_settled, by decide, Settings.hardFiles_writable⟩
  obtain ⟨s, persisted⟩ := written.2.2.1 desk' succeeded
  exact ⟨kept.1 (by decide) rfl, ⟨failure, _, failed, forced.2.1 failure _ failed⟩,
    desk', s, succeeded, persisted⟩

end TokenClient.Invocation
