import SlideDeck.Calendar.Format
import SlideDeck.Surface.Basic
import SlideDeck.Text.Lines

/-!
Directives: what a line of a deck asks for. The markers are tried in the order of a table, and the
first that the line begins with decides; a line without a marker is printed. `classifyBy` and
`dispatchBy` take the table as an argument, so that tables can be compared.
-/

namespace SlideDeck

inductive Directive where
  | comment
  | ask (op : Text → Op)
  | pause
  | sleep
  | date
  | includeFile

namespace Directive

def table : List (Text × Directive) := [
  ⟨"--##", comment⟩,
  ⟨"--heading ", ask fun rest => .heading (some rest)⟩,
  ⟨"--withborder", ask fun _ => .withBorder⟩,
  ⟨"--horline", ask fun _ => .horizontalLine⟩,
  ⟨"--color ", ask fun rest => .color (some (Text.strip rest))⟩,
  ⟨"--center ", ask fun rest => .center (some rest)⟩,
  ⟨"--right ", ask fun rest => .right (some rest)⟩,
  ⟨"--exec ", ask .exec⟩,
  ⟨"---", pause⟩,
  ⟨"--beginoutput", ask fun _ => .beginOutput⟩,
  ⟨"--beginshelloutput", ask fun _ => .beginShellOutput⟩,
  ⟨"--endoutput", ask fun _ => .endOutput⟩,
  ⟨"--endshelloutput", ask fun _ => .endShellOutput⟩,
  ⟨"--sleep ", sleep⟩,
  ⟨"--boldon", ask fun _ => .boldOn⟩,
  ⟨"--boldoff", ask fun _ => .boldOff⟩,
  ⟨"--revon", ask fun _ => .reverseOn⟩,
  ⟨"--revoff", ask fun _ => .reverseOff⟩,
  ⟨"--ulon", ask fun _ => .underlineOn⟩,
  ⟨"--uloff", ask fun _ => .underlineOff⟩,
  ⟨"--beginslideleft", ask fun _ => .beginSlide .left⟩,
  ⟨"--endslideleft", ask fun _ => .endSlide⟩,
  ⟨"--endslideright", ask fun _ => .endSlide⟩,
  ⟨"--endslidetop", ask fun _ => .endSlide⟩,
  ⟨"--endslidebottom", ask fun _ => .endSlide⟩,
  ⟨"--beginslideright", ask fun _ => .beginSlide .right⟩,
  ⟨"--beginslidetop", ask fun _ => .beginSlide .top⟩,
  ⟨"--beginslidebottom", ask fun _ => .beginSlide .bottom⟩,
  ⟨"--sethugefont ", ask fun rest => .setHugeFont (Text.strip rest)⟩,
  ⟨"--huge ", ask .huge⟩,
  ⟨"--footer ", ask .footer⟩,
  ⟨"--header ", ask .header⟩,
  ⟨"--title ", ask fun rest => .title (some rest)⟩,
  ⟨"--author ", ask fun rest => .author (some rest)⟩,
  ⟨"--date ", date⟩,
  ⟨"--bgcolor ", ask fun rest => .background (some (Text.strip rest))⟩,
  ⟨"--fgcolor ", ask fun rest => .foreground (some (Text.strip rest))⟩,
  -- Not reached: the marker is in the table before.
  ⟨"--color ", ask fun rest => .color (some (Text.strip rest))⟩,
  ⟨"--include-file ", includeFile⟩]

def find? (entries : List (Text × Directive)) (line : Text) : Option (Text × Directive × Text) :=
  entries.findSome? fun (marker, d) => (Text.after? marker line).map (marker, d, ·)

def classifyBy (entries : List (Text × Directive)) (line : Text) : Option Text :=
  (find? entries line).map (·.1)

def classify (line : Text) : Option Text := classifyBy table line

def includedPaths (source : Text) : List Text :=
  (Text.sourceLines source).filterMap fun line => match find? table line with
    | some (_, includeFile, rest) => some (Text.strip rest)
    | _ => none

variable {σ : Type} [Surface σ]

def includedLines (path : Text) : Act σ (List Text) := do
  match ← Act.readFile path with
  | .ok t => return Text.sourceLines t
  | .error .nul => throw .nulInPath
  | .error (.system e) =>
    Act.warn (.notIncluded path e.message)
    return [Text.concat ["couldn't open file: ", e.message]]

def printLines : List Text → Act σ Unit
  | [] => pure ()
  | l :: ls => do
    Surface.perform (.printLine (some l))
    printLines ls

def obey (rest : Text) : Directive → Act σ Bool
  | comment => return false
  | ask op => do
    Surface.perform (op rest)
    return false
  | pause => do
    Surface.perform .wait
    return true
  | sleep => do
    match Text.leadingSeconds rest with
    | .ok n => Surface.perform (.sleep (.whole n))
    | .error fault => throw (.numeral fault)
    return false
  | date => do
    Surface.perform (.date (some (Calendar.dateText (← Act.readClock) rest)))
    return false
  | includeFile => do
    let path := Text.strip rest
    modify fun s => { s with included := some path }
    Surface.perform .beginOutput
    Surface.perform (.printLine (some path))
    printLines (← includedLines path)
    Surface.perform .endOutput
    return false

def dispatchBy (entries : List (Text × Directive)) : Option Text → Act σ Bool
  | none => return false
  | some line =>
    match find? entries line with
    | some (_, d, rest) => d.obey rest
    | none => do
      Surface.perform (.printLine (some line))
      return false

def dispatch (line : Option Text) : Act σ Bool := dispatchBy table line

end Directive

end SlideDeck
