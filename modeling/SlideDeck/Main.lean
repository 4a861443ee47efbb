import SlideDeck.Host.Painting
import SlideDeck.Presenter.Keyboard
import SlideDeck.Program.Run
import Std.Time.Zoned

/-!
The command line. This module looks at the disk, the clock and the keyboard, hands what it finds to
a run, and shows what the run did. Keys come line by line, and no command is started. The clock and
the timer stand still during a step.
-/

namespace SlideDeck.CommandLine

def settingNames : List String :=
  ["TERMPP_SECONDS", "TERMPP_HUGE_FONT", "TERMPP_EDITOR", "TERMPP_TYPE_DELAY",
    "TERMPP_SLIDE_DELAY", "TERMPP_LOG_LEVEL", "TERMPP_LOG_FILE", "EDITOR"]

def environment : IO Environment :=
  settingNames.filterMapM fun name => do
    return (← IO.getEnv name).map fun value => (name.toList, value.toList)

def number (name : String) (default : Int) : IO Int := do
  return ((← IO.getEnv name).bind String.toInt?).getD default

def now : IO Calendar.Moment := do
  let t ← Std.Time.PlainDateTime.now
  return {
    year := t.year.toNat
    month := t.month.val.toNat
    day := t.day.val.toNat
    hour := t.hour.val.toNat
    minute := t.minute.val.toNat
    second := t.second.val.toNat
    microsecond := t.nanosecond.val.toNat / 1000 }

def plainLettering : Lettering where
  hasFont font := font = HugeText.standardFont
  render _ _ t := t

def diskPath (place : Place) : String := String.ofList (PlainPath.toText ⟨false, place⟩)

def nodeAt (place : Place) : IO (Option FileNode) := do
  try
    return some (.file (← IO.FS.readBinFile (diskPath place)).toList)
  catch
    | .inappropriateType none _ _ => return some .directory
    | _ => return none

def look (files : Files) (paths : List Text) : IO Files := do
  let mut files := files
  for path in paths do
    let (start, names) := Files.split files.home path
    for place in Files.route start names do
      if let some node ← nodeAt place then files := files.put place node
  return files

def filesFor (home : Place) (deck : Text) (others : List Text) : IO Files := do
  let files ← look { home := home } (deck :: others)
  match files.read deck with
  | .ok bytes => look files (Directive.includedPaths (Text.Utf8.decode bytes))
  | .error _ => return files

/-- A host at this moment. -/
def atPresent (h : Host) : IO Host := do
  let time ← now
  let counted ← IO.monoNanosNow
  return { h with clock := time, clockAt := fun _ => time, timer := some fun _ => counted }

def hostWith (files : Files) : IO Host := do
  let seed ← IO.rand 0 0xFFFFFFFF
  atPresent {
    files := files
    shell := fun _ => .notStarted "[Errno 38] Function not implemented: '/bin/sh'"
    nulCommands := false
    clock := ← now
    lettering := plainLettering
    draw := fun k n => (randNat (mkStdGen (seed + k)) 0 (n - 1)).1
    rows := ← number "LINES" 24
    columns := ← number "COLUMNS" 80
    refuses := (· = .drawNul) }

def send (stream : IO.FS.Stream) (t : Text) : IO Unit := do
  stream.putStr (String.ofList t)
  stream.flush

def store (files : List (Place × List UInt8)) : IO Unit :=
  files.forM fun (place, content) => IO.FS.writeBinFile (diskPath place) ⟨content.toArray⟩

structure Shown where
  events : Nat := 0
  warnings : Nat := 0
  display : Display := {}

structure Live where
  setup : Run.Setup
  shown : IO.Ref Shown

namespace Live

def log (l : Live) (j : Journal) : IO Unit := do
  let shown ← l.shown.get
  l.shown.set { shown with warnings := j.warnings.size }
  let state := l.setup.report.log
  if state.takesWarnings then
    let time ← now
    let records := (j.warnings.toList.drop shown.warnings).flatMap (LogState.record time)
    match state.target, l.setup.settings.logFile with
    | some .errors, _ => send (← IO.getStderr) records
    | some .file, some path =>
      let place := (PlainPath.ofText l.setup.report.host.files.home path).place
      IO.FS.withFile (diskPath place) .append fun h => h.putStr (String.ofList records)
    | _, _ => pure ()

def paint (l : Live) (h : Host) : IO Unit := do
  send (← IO.getStdout) ((← l.shown.get).display.paint h.rows.toNat h.columns.toNat)

def showEvent (l : Live) (h : Host) (e : Event) : IO Unit := do
  let shown ← l.shown.get
  l.shown.set { shown with events := shown.events + 1 }
  match e with
  | .terminal .refresh => l.paint h
  | .terminal c => l.shown.modify fun s => { s with display := s.display.apply c }
  | .pause delay => IO.sleep (min delay.milliseconds 0xFFFFFFFF).toUInt32
  | _ => pure ()

def showUpTo (l : Live) (s : Stage Screen) (count : Nat) : IO Unit := do
  let shown ← l.shown.get
  (s.journal.events.toList.take count).drop shown.events |>.forM (l.showEvent s.host)

def catchUp (l : Live) (s : Stage Screen) : IO Unit := do
  l.showUpTo s s.journal.events.size
  l.log s.journal

def settled (l : Live) (p : Presentation Screen) : IO (Presentation Screen) := do
  l.catchUp p.stage
  l.shown.modify fun s => { s with events := 0, warnings := 0 }
  let journal := { p.stage.journal with events := #[], warnings := #[] }
  return { p with stage := { p.stage with journal := journal } }

def refreshed (l : Live) (p : Presentation Screen) : IO (Presentation Screen) := do
  let h ← atPresent p.stage.host
  let files ← filesFor h.files.home l.setup.options.file []
  return { p with stage := { p.stage with host := { h with files := files } } }

def asksForLine : Event → Bool
  | .terminal (.readText ..) => true
  | _ => false

/-- The presentation with the line that a step needs from its user. The step is tried without the
line first, and shown as far as it asks for it. -/
def answered {α : Type} (l : Live) (step : Present Screen α) (p : Presentation Screen) :
    IO (Presentation Screen) := do
  let stage := match step p with
    | .ok _ p => p.stage
    | .error _ p => p.stage
  let before := p.stage.journal.events.size
  match (stage.journal.events.toList.drop before).findIdx? asksForLine with
  | none => return p
  | some i =>
    l.showUpTo stage (before + i)
    l.paint stage.host
    let line := (← (← IO.getStdin).getLine).toList.filter (· ≠ '\n')
    let host := { p.stage.host with typed := [Text.Utf8.encode line] }
    return { p with stage := { p.stage with host := host } }

def take {α : Type} (l : Live) (step : Present Screen α) (p : Presentation Screen) :
    IO (Except Fault α × Presentation Screen) := do
  let p ← l.answered step (← l.refreshed p)
  match step p with
  | .ok a p => return (.ok a, ← l.settled p)
  | .error fault p => return (.error fault, ← l.settled p)

def ending (p : Presentation Screen) (fault : Option Fault) : Ending Screen :=
  ⟨p.stage, some p.nav, fault⟩

/-- Goes through the keys of the user. At the end of the input the user quits. -/
partial def followKeys (l : Live) (script : Interactive.Script Screen) (phase : Interactive.Phase)
    (keys : List Int) (p : Presentation Screen) : IO (Ending Screen) := do
  match keys with
  | [] =>
    let line ← (← IO.getStdin).getLine
    let keys := if line.isEmpty then Keyboard.keys "q" else Keyboard.lineKeys line.toList
    followKeys l script phase keys p
  | key :: keys =>
    match ← l.take (Interactive.press script phase (Action.ofKey key)) p with
    | (.ok (some phase), p) => followKeys l script phase keys p
    | (.ok none, p) => return ending p none
    | (.error fault, p) => return ending p (some fault)

partial def followPages (l : Live) (delay : Option Delay) (p : Presentation Screen) :
    IO (Ending Screen) := do
  match ← l.take (Autoplay.step delay) p with
  | (.ok _, p) => followPages l delay p
  | (.error fault, p) => return ending p (some fault)

def follow (l : Live) (s : Stage Screen) : IO (Ending Screen) := do
  let options := l.setup.options
  let script := Run.script options l.setup.settings
  let opening := match options.mode with
    | some .autoplay => Autoplay.opening
    | _ => Interactive.opening
  let first := Ending.ofRun (Deck.load script.capture script.path) (Navigator.start · 0) opening s
  l.catchUp first.stage
  match first.nav, first.fault with
  | some nav, none =>
    match options.mode with
    | some .autoplay =>
      l.followPages (Run.autoplayDelay options l.setup.settings) ⟨first.stage, nav⟩
    | _ => l.followKeys script .choosing [] ⟨first.stage, nav⟩
  | _, _ => return first

def present (l : Live) (s : Stage Screen) : IO (Ending Screen) := do
  send (← IO.getStdout) Display.enter
  try l.follow s
  finally send (← IO.getStdout) Display.leave

end Live

def finish (r : Report) : IO UInt32 := do
  send (← IO.getStdout) r.output
  send (← IO.getStderr) r.errors
  match r.result with
  | .ok status => return status.toUInt32
  | .error fault =>
    send (← IO.getStderr) (fault.message ++ ['\n'])
    return 1

def perform (setup : Run.Setup) (before : Files) : IO Report := do
  let l : Live := ⟨setup, ← IO.mkRef { warnings := setup.report.journal.warnings.size }⟩
  store (Files.changed before setup.report.host.files)
  if Run.isFullScreen setup.options.mode then setup.perform l.present
  else
    let r := Id.run (setup.perform fun s => pure (setup.presentation [] s))
    l.log r.journal
    store (Files.changed setup.report.host.files r.host.files)
    return r

def run (arguments : List Text) : IO UInt32 := do
  let env ← environment
  let home := (PlainPath.ofText [] ((← IO.getEnv "PWD").getD "/").toList).place
  let settings := (Settings.ofEnvironment env).1
  let files ← match Options.ofArguments home arguments with
    | .ok options =>
      filesFor home options.file (options.outputName?.toList ++ settings.logFile.toList)
    | .error _ => pure { home := home }
  match Run.prepare arguments env (← hostWith files) with
  | .error r => finish r
  | .ok setup =>
    setup.report.journal.warnings.forM fun w => do
      send (← IO.getStderr) (w.message ++ ['\n'])
    finish (← perform setup files)

end SlideDeck.CommandLine

def main (arguments : List String) : IO UInt32 :=
  SlideDeck.CommandLine.run (arguments.map String.toList)
