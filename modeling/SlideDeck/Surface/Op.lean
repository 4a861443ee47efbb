import SlideDeck.Delay
import SlideDeck.Text.Basic

/-!
What can be asked of a surface that shows a deck. `Op` has what a line of a deck can ask, and
`ConsoleOp` what only a presenter at a screen asks. Both are data, so that what was asked can be
recorded and compared.
-/

namespace SlideDeck

/-- The side from which text slides in. A name that is no side is kept; from there nothing comes. -/
inductive Side where
  | left
  | right
  | top
  | bottom
  | other (name : Text)
deriving DecidableEq, Repr

namespace Side

def name : Side → Text
  | left => "left"
  | right => "right"
  | top => "top"
  | bottom => "bottom"
  | other name => name

def ofName (name : Text) : Side :=
  match [left, right, top, bottom].find? (·.name = name) with
  | some side => side
  | none => other name

end Side

/-- What a line of a deck can ask of a surface, and what a run asks between lines. Text that may be
absent is optional. -/
inductive Op where
  | newPage
  | refresh
  | printLine (t : Option Text)
  | heading (t : Option Text)
  | withBorder
  | horizontalLine
  | color (name : Option Text)
  | center (t : Option Text)
  | right (t : Option Text)
  | exec (command : Text)
  | wait
  | beginOutput
  | endOutput
  | beginShellOutput
  | endShellOutput
  | sleep (d : Delay)
  | boldOn
  | boldOff
  | reverseOn
  | reverseOff
  | underlineOn
  | underlineOff
  | beginSlide (side : Side)
  | endSlide
  | setHugeFont (name : Text)
  | huge (t : Text)
  | footer (t : Text)
  | header (t : Text)
  | title (t : Option Text)
  | author (t : Option Text)
  | date (t : Option Text)
  | background (name : Option Text)
  | foreground (name : Option Text)

inductive ConsoleOp where
  | clear
  | drawStatus (number count : Int) (ended : Bool) (title : Option Text)
  | showHelp
  | askPageNumber (titles : List Text) (current : Int)
  | storeScreen
  | restoreScreen
  | updateSize

end SlideDeck
