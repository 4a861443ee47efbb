import SlideDeck.Delay
import SlideDeck.Host.Files
import SlideDeck.Host.Terminal
import SlideDeck.Text.Numeral

/-!
Everything that can end an operation before its time, as causes, with the wording of each in
`Fault.message`.
-/

namespace SlideDeck

inductive ExportKind where
  | plain
  | handout
  | beamer
deriving DecidableEq, Repr

def ExportKind.writer : ExportKind → Text
  | plain => "FileBackend"
  | handout => "TextBackend"
  | beamer => "LatexBackend"

/-- Why a log level is refused: it names a setting of the log that is no level, either a text or a
table of texts. -/
inductive LevelProblem where
  | format (t : Text)
  | table (t : Text)
deriving DecidableEq, Repr

/-- What is refused outside of a run: a call by the terminal, a pause by the timer, a command or a
text to draw that holds a NUL, letters for which there is no room. -/
inductive Rejection where
  | terminal (f : TerminalFunction)
  | timer (p : TimerProblem)
  | command
  | text
  | letters
deriving DecidableEq, Repr

namespace Rejection

def ofTerminal (f : TerminalFunction) : Text := Text.concat [f.name, "() returned ERR"]

def message : Rejection → Text
  | terminal f => ofTerminal f
  | timer p => p.message
  | command => "embedded null byte"
  | text => "embedded null character"
  | letters => "Width is not enough to print this character"

end Rejection

inductive Fault where
  | unopened (e : FileError)
  | noDeck (path : Text)
  | unfitTerminal (f : TerminalFunction)
  | noLog (e : FileError)
  | nulInPath
  | numeral (n : Text.NumeralFault)
  | negativePause
  | noDelay
  | delayTooLong
  | unknownFlag (name : Text)
  | noPages
  | noSuchPage
  | indexTooLarge
  | tooManyCopies
  | outOfMemory
  /-- The output has no name; the option for it may be there all the same. -/
  | noOutputName (given : Bool)
  | notOpen (kind : ExportKind)
  | interrupted
  | refused (r : Rejection)
  | noColorPair (name : Text)
  | badLogLevel (p : LevelProblem)
deriving DecidableEq, Repr

namespace Fault

def tooLarge : Text := "cannot fit 'int' into an index-sized integer"

def message : Fault → Text
  | unopened e => Text.concat ["couldn't open file: ", e.message]
  | noDeck path => Text.concat ["couldn't open file: ", path]
  | unfitTerminal f => Text.concat ["terminal does not support curses: ", Rejection.ofTerminal f]
  | noLog e => e.message
  | nulInPath => "embedded null byte"
  | numeral n => n.message
  | negativePause => "sleep length must be non-negative"
  | noDelay => "'<' not supported between instances of 'list' and 'int'"
  | delayTooLong => "integer division result too large for a float"
  | unknownFlag name => Text.concat ["unknown style kind: ", Text.quoted name]
  | noPages => "document has no pages"
  | noSuchPage => "list index out of range"
  | indexTooLarge => tooLarge
  | tooManyCopies => tooLarge
  | outOfMemory => []
  | noOutputName given =>
    Text.concat ["expected str, bytes or os.PathLike object, not ",
      if given then "list" else "NoneType"]
  | notOpen kind => Text.concat [kind.writer, " used before open()"]
  | interrupted => []
  | refused r => r.message
  | noColorPair name => Text.quoted name
  | badLogLevel (.format t) => Text.concat ["Unknown level: ", Text.quoted t]
  | badLogLevel (.table t) => Text.concat ["Level not an integer or a valid string: ", t]

def isSetup : Fault → Bool
  | unopened _ | noDeck _ | unfitTerminal _ => true
  | _ => false

def ofOpening : PathFault → Fault
  | .system e => unopened e
  | .nul => nulInPath

end Fault

end SlideDeck
