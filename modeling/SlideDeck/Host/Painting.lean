import SlideDeck.Host.Display

/-!
Displays as escape sequences: a terminal that follows ECMA-48 shows the display after them.
-/

namespace SlideDeck.Display

def sequence (parameters : List Nat) (final : Char) : Text :=
  '\x1b' :: '[' :: Text.join ";" (parameters.map Text.ofNat) ++ [final]

/-- The parameter that selects a colour, counted from that of black; the one after the next selects
the terminal's own. -/
def colorParameter (black : Nat) (color : Int) : Nat :=
  if color < 0 then black + 9 else black + color.toNat

def penSequence (d : Display) (p : Pen) : Text :=
  let (foreground, background) := d.pairs (if p.pair = 0 then d.ground else p.pair)
  let flags := [(p.bold, 1), (p.underline, 4), (p.reverse, 7)].filterMap fun (on, n) =>
    if on then some n else none
  sequence (0 :: flags ++ [colorParameter 30 foreground, colorParameter 40 background]) 'm'

def shown (c : Char) : Char := if c.toNat < 0x20 ∨ c.toNat = 0x7F then ' ' else c

def paintCells (d : Display) (before : Option Pen) : List Cell → Text
  | [] => []
  | cell :: rest =>
    let change := if before = some cell.pen then [] else d.penSequence cell.pen
    change ++ shown cell.symbol :: paintCells d (some cell.pen) rest

def paintRow (d : Display) (columns row : Nat) : Text :=
  sequence [row + 1, 1] 'H' ++
    paintCells d none ((List.range columns).map fun (column : Nat) => d.screen row column)

def paint (d : Display) (rows columns : Nat) : Text :=
  (List.range rows).flatMap (d.paintRow columns)

def enter : Text := "\x1b[?1049h\x1b[?25l"

def leave : Text := "\x1b[0m\x1b[?25h\x1b[?1049l"

end SlideDeck.Display
