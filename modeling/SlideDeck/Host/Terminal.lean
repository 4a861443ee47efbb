import SlideDeck.Markup.Style

/-!
What a full-screen terminal is asked to do. Calls are data, so that a run can be compared call by
call, and replayed on a picture of the screen.
-/

namespace SlideDeck

inductive Attribute where
  | flag (f : Flag)
  /-- Every colour bit at once; only ever switched off. -/
  | anyColor
  | pair (n : Nat)
  | normal
deriving DecidableEq, Repr

/-- A window of the terminal: 0 is the screen, the others are saved copies of it. -/
abbrev Window := Nat

inductive TerminalCall where
  | drawText (y x : Int) (t : Text)
  | moveTo (y x : Int)
  | attributeOn (a : Attribute)
  | attributeOff (a : Attribute)
  | setAttributes (a : Attribute)
  | background (c : Char) (a : Attribute)
  | functionKeys (on : Bool)
  | refresh
  | clear
  | clearToEndOfLine
  | readText (y x : Int) (bytes : Nat)
  | copyWindow (source target : Window)
  | showCursor (level : Nat)
  | startColor
  | useDefaultColors
  | definePair (n : Nat) (foreground background : Int)
  | saveMode
  | leaveScreen
  | restoreMode
  | echo
  | noEcho
  | newWindow (rows columns y x : Int)
deriving DecidableEq, Repr

/-- The functions of a terminal that can refuse a call. `drawNul` stands for drawing a text that
holds a NUL, and `setUp` for taking over the terminal as a whole. -/
inductive TerminalFunction where
  | drawText
  | drawNul
  | moveTo
  | attributeOn
  | attributeOff
  | setAttributes
  | readText
  | showCursor
  | startColor
  | useDefaultColors
  | definePair
  | saveMode
  | leaveScreen
  | restoreMode
  | echo
  | noEcho
  | newWindow
  | setUp
deriving DecidableEq, Repr

namespace TerminalFunction

def name : TerminalFunction → Text
  | drawText => "addstr"
  | drawNul => "addstr of NUL"
  | moveTo => "move"
  | attributeOn => "attron"
  | attributeOff => "attroff"
  | setAttributes => "attrset"
  | readText => "getstr"
  | showCursor => "curs_set"
  | startColor => "start_color"
  | useDefaultColors => "use_default_colors"
  | definePair => "init_pair"
  | saveMode => "def_prog_mode"
  | leaveScreen => "endwin"
  | restoreMode => "reset_prog_mode"
  | echo => "echo"
  | noEcho => "noecho"
  | newWindow => "newwin"
  | setUp => "wrapper"

def all : List TerminalFunction :=
  [drawText, drawNul, moveTo, attributeOn, attributeOff, setAttributes, readText, showCursor,
    startColor, useDefaultColors, definePair, saveMode, leaveScreen, restoreMode, echo, noEcho,
    newWindow, setUp]

def named? (name : Text) : Option TerminalFunction := all.find? (·.name = name)

end TerminalFunction

def TerminalCall.holdsNul : TerminalCall → Bool
  | .drawText _ _ t => t.contains '\x00'
  | _ => false

def TerminalCall.function? : TerminalCall → Option TerminalFunction
  | drawText .. => some .drawText
  | moveTo .. => some .moveTo
  | attributeOn _ => some .attributeOn
  | attributeOff _ => some .attributeOff
  | setAttributes _ => some .setAttributes
  | readText .. => some .readText
  | showCursor _ => some .showCursor
  | startColor => some .startColor
  | useDefaultColors => some .useDefaultColors
  | definePair .. => some .definePair
  | saveMode => some .saveMode
  | leaveScreen => some .leaveScreen
  | restoreMode => some .restoreMode
  | echo => some .echo
  | noEcho => some .noEcho
  | newWindow .. => some .newWindow
  | background .. => none
  | functionKeys _ => none
  | refresh => none
  | clear => none
  | clearToEndOfLine => none
  | copyWindow .. => none

end SlideDeck
