import SlideDeck.Presenter.Autoplay
import SlideDeck.Presenter.Conversion
import SlideDeck.Presenter.Interactive
import SlideDeck.Program.Log
import SlideDeck.Program.Options
import SlideDeck.Surface.Beamer
import SlideDeck.Surface.Screen

/-!
A run of the program from its command line to its exit status. A run ends with status 0, with 1 when
something could not be set up, with 2 when the command line is wrong, and with 130 when the user
broke it off; every other fault is reported as it is.
-/

namespace SlideDeck

structure Report where
  host : Host
  journal : Journal
  log : LogState := {}
  output : Text := []
  errors : Text := []
  result : Except Fault Nat

namespace Report

def stage {σ : Type} (r : Report) (surface : σ) : Stage σ :=
  { host := r.host, journal := r.journal, surface := surface }

def ofStage {σ : Type} (r : Report) (s : Stage σ) (fault : Option Fault) : Report :=
  let r := { r with host := s.host, journal := s.journal }
  match fault with
  | none => { r with result := .ok 0 }
  | some .interrupted => { r with result := .ok 130 }
  | some fault =>
    if fault.isSetup then
      { r with
        errors := r.errors ++ Text.concat ["Error: ", fault.message, "\n"]
        result := .ok 1 }
    else { r with result := .error fault }

end Report

namespace Run

/-- A terminal that refuses a call is not fit for a presentation. -/
def unfit : Fault → Fault
  | .refused (.terminal f) => .unfitTerminal f
  | fault => fault

def leave (ending : Ending Screen) : Stage Screen × Option Fault :=
  match Screen.closeTerminal ending.stage with
  | .ok _ s => (s, ending.fault.map unfit)
  | .error fault s => (s, some (unfit fault))

def onScreen {m : Type → Type} [Monad m] (present : Stage Screen → m (Ending Screen))
    (s : Stage Screen) : m (Stage Screen × Option Fault) :=
  if s.host.refuses .setUp then return (s, some (.unfitTerminal .setUp))
  else match Screen.openTerminal s with
    | .error fault s => return (s, some (unfit fault))
    | .ok _ s => return leave (← present s)

/-- The delay between two passes of a presentation without a user; none when the option for it is
hollow. -/
def autoplayDelay (options : Options) (settings : Settings) : Option Delay :=
  match options.seconds with
  | .absent => some settings.seconds
  | .hollow => none
  | .value x => some (.real x)

def script (options : Options) (settings : Settings) : Interactive.Script Screen :=
  ⟨options.file, settings.editor, Command.capture⟩

def interactive (options : Options) (settings : Settings) (keys : List Int) :
    Stage Screen → Ending Screen :=
  Interactive.run (script options settings) (keys.map fun code => { action := Action.ofKey code })

/-- A presentation without a user, which goes on until the user breaks a pause off. -/
def autoplay (options : Options) (settings : Settings) (s : Stage Screen) : Ending Screen :=
  Autoplay.run options.file Command.capture (autoplayDelay options settings)
    (s.host.interruptAt.getD 0) s

/-- Converts a deck: reads it, opens the output, writes every page, and closes the output however
the writing ended. -/
def convert {σ : Type} [Surface σ] (path : Text) (opening closing : Act σ Unit) : Act σ Unit := do
  let deck ← Deck.load Command.capture path
  opening
  try Conversion.run deck
  finally closing

def opened {σ : Type} (path : Except Fault Text) (opening : Act σ Unit) : Act σ Unit :=
  match path with
  | .ok _ => opening
  | .error fault => throw fault

def attempt {σ : Type} (act : Act σ Unit) (s : Stage σ) : Stage σ × Option Fault :=
  match act s with
  | .ok _ s => (s, none)
  | .error fault s => (s, some fault)

def isFullScreen (mode : Option Mode) : Bool := mode = some .interactive || mode = some .autoplay

def outputPath : Given Text → Except Fault Text
  | .value path => .ok path
  | .absent => .error (.noOutputName false)
  | .hollow => .error (.noOutputName true)

structure Setup where
  options : Options
  settings : Settings
  report : Report

namespace Setup

def present {m : Type → Type} [Monad m] (setup : Setup)
    (how : Stage Screen → m (Ending Screen)) : m Report := do
  let r := setup.report
  let s := r.stage (Screen.start r.host setup.settings.typeDelay setup.settings.slideDelay
    setup.settings.hugeFont)
  if r.host.files.isFile setup.options.file then
    let (s, fault) ← onScreen how s
    return r.ofStage s fault
  else return r.ofStage s (some (.noDeck setup.options.file))

def writeHandout (setup : Setup) : Report :=
  let path := outputPath setup.options.output
  let handout : Handout :=
    { out := { path := path.toOption.getD [] }
      width := setup.settings.textWidth
      font := setup.settings.hugeFont }
  let (s, fault) := attempt
    (convert setup.options.file (opened path Export.openOutput) Export.closeOutput)
    (setup.report.stage handout)
  setup.report.ofStage s fault

def writeLatex (setup : Setup) : Report :=
  let path := outputPath setup.options.output
  let beamer : Beamer :=
    { out := { path := path.toOption.getD [] }
      width := setup.settings.latexWidth }
  let (s, fault) := attempt
    (convert setup.options.file (opened path Beamer.openDocument) Beamer.closeDocument)
    (setup.report.stage beamer)
  setup.report.ofStage s fault

/-- Does what the options ask for; a presentation goes on by `how`. Without a mode the deck is
written as LaTeX slides. -/
def perform {m : Type → Type} [Monad m] (setup : Setup)
    (how : Stage Screen → m (Ending Screen)) : m Report :=
  match setup.options.mode with
  | some .interactive | some .autoplay => setup.present how
  | some .handout => return setup.writeHandout
  | some .latex | none => return setup.writeLatex

def presentation (setup : Setup) (keys : List Int) : Stage Screen → Ending Screen :=
  match setup.options.mode with
  | some .autoplay => autoplay setup.options setup.settings
  | _ => interactive setup.options setup.settings keys

end Setup

/-- Reads the command line and the environment and sets the log up: a run that is ready to begin, or
the report of one that cannot. -/
def prepare (arguments : List Text) (env : Environment) (host : Host) : Except Report Setup :=
  match Options.ofArguments host.files.home arguments with
  | .error refusal =>
    .error { host := host, journal := {}, output := refusal.output, errors := refusal.errors,
             result := .ok refusal.status }
  | .ok options =>
    let (settings, warnings) := Settings.ofEnvironment env
    let (files, log, fault) := LogState.setUp settings (isFullScreen options.mode) host.files
    let r : Report :=
      { host := { host with files := files }, journal := { warnings := warnings.toArray },
        log := log, result := .ok 0 }
    match fault with
    | some fault => .error { r with result := .error fault }
    | none => .ok ⟨options, settings, r⟩

def report (arguments : List Text) (env : Environment) (keys : List Int) (host : Host) : Report :=
  match prepare arguments env host with
  | .error r => r
  | .ok setup => Id.run (setup.perform fun s => pure (setup.presentation keys s))

end Run

end SlideDeck
