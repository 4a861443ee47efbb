import SlideDeck.Proofs.Program.Faults

/-!
# Exit statuses

A run whose command line is accepted, on a terminal that refuses nothing but drawing and moving,
ends with status 0, 130, or 1 after a line of error. It escapes that only with a fault of setting up
its log (`LogState.SetUpFault`) or one of those named by `RunFault`, however long a presentation
without a user goes on (`status_or_fault`).
-/

namespace SlideDeck

namespace LogState

/-- What setting the log up can end in: its file cannot be opened, or its level is none. -/
inductive SetUpFault (settings : Settings) (files : Files) : Fault → Prop where
  | unopened {path : Text} {e : FileError} (hpath : settings.logFile = some path)
      (he : files.touch (PlainPath.ofText files.home path).toText = .error (.system e)) :
      SetUpFault settings files (.noLog e)
  | nul {path : Text} (hpath : settings.logFile = some path)
      (hnul : '\x00' ∈ (PlainPath.ofText files.home path).toText) :
      SetUpFault settings files .nulInPath
  | level {p : LevelProblem} (hp : levelOf settings.logLevel = .error p) :
      SetUpFault settings files (.badLogLevel p)

theorem setUp_fault {settings : Settings} {fullScreen : Bool} {files : Files} {e : Fault}
    (h : (setUp settings fullScreen files).2.2 = some e) : SetUpFault settings files e := by
  unfold setUp at h
  rcases hfile : settings.logFile with - | path
  · rcases hlevel : levelOf settings.logLevel with problem | level
    · simp only [hfile, hlevel] at h
      cases h
      exact .level hlevel
    · simp only [hfile, hlevel] at h
      cases h
  · rcases htouch : files.touch (PlainPath.ofText files.home path).toText with (e | -) | touched
    · simp only [hfile, htouch] at h
      cases h
      exact .unopened hfile htouch
    · simp only [hfile, htouch] at h
      cases h
      exact .nul hfile (Files.nul_mem_of_report htouch)
    · rcases hlevel : levelOf settings.logLevel with problem | level
      · simp only [hfile, htouch, hlevel] at h
        cases h
        exact .level hlevel
      · simp only [hfile, htouch, hlevel] at h
        cases h

end LogState

namespace Settings

theorem typing?_ne_none (env : Environment) (n : Nat) :
    (ofEnvironment env).1.typeDelay.typing? n ≠ none := by
  have hdelay (name : Text) (x : Float) : ((env.delay name (.real x)).1).typing? n ≠ none := by
    unfold Environment.delay
    split
    · nofun
    · split
      · nofun
      · nofun
  exact hdelay _ _

end Settings

namespace Options

theorem exists_output_of_finish {r : Reading} {home : Place} {options : Options}
    (h : r.finish home = .ok options) (hmode : Run.isFullScreen options.mode = false)
    (hsome : options.mode ≠ none) : ∃ path, options.output = .value path := by
  have hvalue : options.outputName? ≠ none → ∃ path, options.output = .value path := by
    intro hname
    unfold outputName? at hname
    split at hname
    · rename_i c name houtput
      exact ⟨c :: name, houtput⟩
    · exact absurd rfl hname
  unfold Reading.finish at h
  split at h
  · cases h
  dsimp only at h
  split at h
  · cases h
  split at h
  · split at h
    · cases h
    · rename_i hneeds
      cases h
      -- No output is named, so the mode is one that shows its pages on the screen.
      have hother (mode : Mode) (h : Run.isFullScreen (some mode) = false) :
          Reading.needsOutput (some mode) = true := by
        cases mode with
        | interactive | autoplay => cases h
        | handout | latex => rfl
      obtain ⟨mode, hchosen⟩ := Option.ne_none_iff_exists'.1 hsome
      dsimp only at hchosen hmode
      rw [hchosen] at hmode hneeds
      exact absurd (hother mode hmode) hneeds
  · rename_i hname
    split at h
    · cases h
    · cases h
      exact hvalue (by rw [hname]; nofun)

/-- What is accepted names an output where the mode writes to one. -/
theorem exists_output {home : Place} {args : List Text} {options : Options}
    (h : ofArguments home args = .ok options) (hmode : Run.isFullScreen options.mode = false)
    (hsome : options.mode ≠ none) : ∃ path, options.output = .value path := by
  unfold ofArguments at h
  rcases hwords : Word.ofArguments args with refusal | words
  · rw [hwords] at h
    cases h
  rw [hwords] at h
  replace h : (Reading.takeWords {} words.length words >>= (·.finish home)) = .ok options := h
  rcases hread : Reading.takeWords {} words.length words with refusal | r
  · rw [hread] at h
    cases h
  · rw [hread] at h
    exact exists_output_of_finish h hmode hsome

end Options

namespace Run

open Report

/-- The report of a run whose presentation goes on in some way. -/
def reportWith (how : Setup → Stage Screen → Ending Screen) (arguments : List Text)
    (env : Environment) (host : Host) : Report :=
  match prepare arguments env host with
  | .error r => r
  | .ok setup => Id.run (setup.perform fun s => pure (how setup s))

/-- The way a presentation goes on, where one without a user does so for a number of passes. -/
def Setup.presentationFor (setup : Setup) (passes : Stage Screen → Nat) (keys : List Int)
    (s : Stage Screen) : Ending Screen :=
  match setup.options.mode with
  | some .autoplay =>
    Autoplay.run setup.options.file Command.capture (autoplayDelay setup.options setup.settings)
      (passes s) s
  | _ => interactive setup.options setup.settings keys s

/-- The report of a run in which a presentation without a user goes on for a number of passes. -/
def reportAfter (passes : Nat) (arguments : List Text) (env : Environment) (keys : List Int)
    (host : Host) : Report :=
  reportWith (fun setup => setup.presentationFor (fun _ => passes) keys) arguments env host

/-- What a run with accepted options can end in without a status. -/
def FaultOf (options : Options) (settings : Settings) (h : Host) (e : Fault) : Prop :=
  LogState.SetUpFault settings h.files e ∨
    RunFault options settings
      { h with files := (LogState.setUp settings (isFullScreen options.mode) h.files).1 } e

variable {arguments : List Text} {env : Environment} {host : Host} {options : Options}

/-- A run that is ready to begin, whichever way its presentation goes on. -/
theorem perform_settles (setup : Setup) (how : Stage Screen → Ending Screen)
    (hr : setup.report.errors = []) (hjournal : setup.report.journal.pen = {})
    (hpatient : Patient setup.report.host.refuses)
    (hnamed : isFullScreen setup.options.mode = false → setup.options.mode ≠ none →
      ∃ path, setup.options.output = .value path)
    (hwidth : setup.settings.textWidth ≤ Act.memoryLimit)
    (hhow : isFullScreen setup.options.mode = true → ∀ s,
      setup.report.host.files.isFile setup.options.file = true →
      Screen.Ordered setup.report.host setup.settings.typeDelay setup.settings.slideDelay [] s →
      ∀ f, (how s).fault = some f →
        Accounted (RunFault setup.options setup.settings setup.report.host) (unfit f)) :
    Settles (RunFault setup.options setup.settings setup.report.host)
      (Id.run (setup.perform fun s => pure (how s))) := by
  unfold Setup.perform
  rcases hmode : setup.options.mode with - | - | - | - | -
  · exact writeLatex_settles hr (.inr hmode) (hnamed (by rw [hmode]; rfl))
  · exact present_settles hr hjournal hpatient (hhow (by rw [hmode]; rfl))
  · exact present_settles hr hjournal hpatient (hhow (by rw [hmode]; rfl))
  · exact writeHandout_settles hr hmode (hnamed (by rw [hmode]; rfl)) hwidth
  · exact writeLatex_settles hr (.inl hmode) (hnamed (by rw [hmode]; rfl))

/-- A way in which presentations go on that has only the faults of runs. -/
def Sound (how : Setup → Stage Screen → Ending Screen) : Prop :=
  ∀ setup s, isFullScreen setup.options.mode = true →
    (∀ n, setup.settings.typeDelay.typing? n ≠ none) →
    setup.report.host.TakesAnyText →
    setup.report.host.files.isFile setup.options.file = true →
    Screen.Ordered setup.report.host setup.settings.typeDelay setup.settings.slideDelay [] s →
    ∀ f, (how setup s).fault = some f →
      Accounted (RunFault setup.options setup.settings setup.report.host) (unfit f)

theorem sound_presentationFor (passes : Stage Screen → Nat) (keys : List Int) :
    Sound fun setup => setup.presentationFor passes keys := by
  intro setup s hmode hreal htakes hfile hs f hf
  replace hf : (setup.presentationFor passes keys s).fault = some f := hf
  unfold Setup.presentationFor at hf
  rcases isFullScreen_iff.1 hmode with hchosen | hchosen
  · rw [hchosen] at hf
    exact interactive_accounted hchosen hreal htakes hfile hs hf
  · rw [hchosen] at hf
    exact autoplay_accounted hchosen hreal htakes hfile hs hf

theorem report_eq_reportWith (arguments : List Text) (env : Environment) (keys : List Int)
    (host : Host) :
    report arguments env keys host =
      reportWith (fun setup => setup.presentationFor (·.host.interruptAt.getD 0) keys)
        arguments env host := by
  have hpresentation (setup : Setup) :
      setup.presentation keys = setup.presentationFor (·.host.interruptAt.getD 0) keys := by
    funext s
    rcases hmode : setup.options.mode with - | - | - | - | - <;>
      simp only [Setup.presentation, Setup.presentationFor, autoplay, hmode]
  unfold report reportWith
  cases prepare arguments env host with
  | error r => rfl
  | ok setup => simp only [hpresentation]

/-- A run whose options are accepted ends with a status or with one of the faults that have none. -/
theorem reportWith_settles (hargs : Options.ofArguments host.files.home arguments = .ok options)
    (hpatient : Patient host.refuses) {how : Setup → Stage Screen → Ending Screen}
    (hhow : Sound how) :
    Settles (FaultOf options (Settings.ofEnvironment env).1 host)
      (reportWith how arguments env host) := by
  rcases hlog : LogState.setUp (Settings.ofEnvironment env).1 (isFullScreen options.mode) host.files
    with ⟨files, log, - | e⟩
  · let setup : Setup := ⟨options, (Settings.ofEnvironment env).1, {
      host := { host with files := files }
      journal := { warnings := (Settings.ofEnvironment env).2.toArray }
      log := log
      result := .ok 0 }⟩
    have hreport : reportWith how arguments env host =
        Id.run (setup.perform fun s => pure (how setup s)) := by
      simp only [reportWith, prepare, hargs, hlog, setup]
    have hwidth : setup.settings.textWidth ≤ Act.memoryLimit := by
      show (80 : Int) ≤ Act.memoryLimit
      decide
    have hsettles := perform_settles setup (how setup) rfl rfl hpatient
      (Options.exists_output hargs) hwidth fun hmode s =>
        hhow setup s hmode (Settings.typing?_ne_none env) (Patient.takesAnyText hpatient)
    have hfault (e : Fault) (he : RunFault options (Settings.ofEnvironment env).1
        setup.report.host e) : FaultOf options (Settings.ofEnvironment env).1 host e := by
      unfold FaultOf
      rw [hlog]
      exact .inr he
    rw [hreport]
    exact hsettles.imp id fun ⟨e, hresult, he⟩ => ⟨e, hresult, hfault e he⟩
  · have hfault : LogState.SetUpFault (Settings.ofEnvironment env).1 host.files e :=
      LogState.setUp_fault (by rw [hlog])
    have hresult : (reportWith how arguments env host).result = .error e := by
      simp only [reportWith, prepare, hargs, hlog]
    exact .inr ⟨e, hresult, .inl hfault⟩

end Run

end SlideDeck
