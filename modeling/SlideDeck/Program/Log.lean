import SlideDeck.Calendar.Format
import SlideDeck.Fault
import SlideDeck.Host.Files
import SlideDeck.Host.Warning
import SlideDeck.Program.Settings

/-!
The log of a run: how grave a record must be, and where records go. On a full-screen terminal they
go to a file or nowhere, so that the screen stays clean.
-/

namespace SlideDeck

inductive LogTarget where
  | errors
  | file
  | nowhere
deriving DecidableEq, Repr

structure LogState where
  level : Nat := 30
  target : Option LogTarget := none
deriving DecidableEq, Repr

namespace LogState

def levels : List (Text × Nat) := [
  ⟨"CRITICAL", 50⟩, ⟨"FATAL", 50⟩, ⟨"ERROR", 40⟩, ⟨"WARNING", 30⟩, ⟨"WARN", 30⟩, ⟨"INFO", 20⟩,
  ⟨"DEBUG", 10⟩, ⟨"NOTSET", 0⟩]

def warningLevel : Nat := 30

def takesWarnings (log : LogState) : Bool := log.level ≤ warningLevel

def record (m : Calendar.Moment) (w : Warning) : Text :=
  Text.concat [Calendar.format m "%Y-%m-%d %H:%M:%S", " - termpp - WARNING - ", w.message, "\n"]

def basicFormat : Text := "%(levelname)s:%(name)s:%(message)s"

/-- Names that the log knows for something else than a level. -/
def otherNames : List (Text × LevelProblem) := [
  ⟨"BASIC_FORMAT", .format basicFormat⟩,
  ⟨"_STYLES", .table (Text.concat [
    "\x7b'%': (<class 'logging.PercentStyle'>, '", basicFormat,
    "'), '\x7b': (<class 'logging.StrFormatStyle'>, ",
    "'\x7blevelname\x7d:\x7bname\x7d:\x7bmessage\x7d'), ",
    "'$': (<class 'logging.StringTemplateStyle'>, ",
    "'$\x7blevelname\x7d:$\x7bname\x7d:$\x7bmessage\x7d')\x7d"])⟩]

/-- The level of a name. A name that the log does not know is the level of warnings. -/
def levelOf (name : Text) : Except LevelProblem Nat :=
  match otherNames.find? (·.1 = name) with
  | some (_, problem) => .error problem
  | none =>
    match levels.find? (·.1 = name) with
    | some (_, level) => .ok level
    | none => .ok warningLevel

/-- Sets the log up: opens its file if it has one, by the plain form of its path, then takes on its
level. The log is as far set up as it came. -/
def setUp (settings : Settings) (fullScreen : Bool) (files : Files) :
    Files × LogState × Option Fault :=
  let opened : Except Fault (Files × LogTarget) :=
    match settings.logFile with
    | some path =>
      match files.touch (PlainPath.ofText files.home path).toText with
      | .ok files => .ok (files, .file)
      | .error (.system e) => .error (.noLog e)
      | .error .nul => .error .nulInPath
    | none => .ok (files, if fullScreen then .nowhere else .errors)
  match opened with
  | .error fault => (files, {}, some fault)
  | .ok (files, target) =>
    match levelOf settings.logLevel with
    | .ok level => (files, ⟨level, some target⟩, none)
    | .error problem => (files, { target := some target }, some (.badLogLevel problem))

end LogState

end SlideDeck
