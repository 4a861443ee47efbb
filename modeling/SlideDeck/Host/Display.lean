import SlideDeck.Host.Terminal

/-!
The display of a terminal: what calls leave on the screen. A `Pen` holds the attributes that are
switched on, a `Grid` the characters of a window, and `Display.apply` says what each call does to
them.
-/

namespace SlideDeck

/-- The attributes that are switched on; pair 0 is the terminal's own colour. -/
structure Pen where
  bold : Bool := false
  underline : Bool := false
  reverse : Bool := false
  pair : Nat := 0
deriving DecidableEq, Repr

namespace Pen

def flag (p : Pen) : Flag → Bool
  | .bold => p.bold
  | .underline => p.underline
  | .reverse => p.reverse

def withFlag (p : Pen) (f : Flag) (on : Bool) : Pen :=
  match f with
  | .bold => { p with bold := on }
  | .underline => { p with underline := on }
  | .reverse => { p with reverse := on }

def switchOn (p : Pen) : Attribute → Pen
  | .flag f => p.withFlag f true
  | .pair n => { p with pair := n }
  | .anyColor | .normal => p

def switchOff (p : Pen) : Attribute → Pen
  | .flag f => p.withFlag f false
  | .pair _ | .anyColor => { p with pair := 0 }
  | .normal => p

def apply (p : Pen) : TerminalCall → Pen
  | .attributeOn a => p.switchOn a
  | .attributeOff a => p.switchOff a
  | .setAttributes a => ({} : Pen).switchOn a
  | _ => p

theorem flag_withFlag (p : Pen) (f g : Flag) (on : Bool) :
    (p.withFlag f on).flag g = if g = f then on else p.flag g := by
  cases f <;> cases g <;> rfl

theorem pair_withFlag (p : Pen) (f : Flag) (on : Bool) : (p.withFlag f on).pair = p.pair := by
  cases f <;> rfl

end Pen

structure Cell where
  symbol : Char := ' '
  pen : Pen := {}
deriving DecidableEq, Repr

abbrev Grid := Int → Int → Cell

namespace Grid

def blank : Grid := fun _ _ => {}

/-- Draws a text. Each of its characters takes one cell: wide characters, tabs and newlines are read
as one column like all others. -/
def draw (g : Grid) (y x : Int) (pen : Pen) (t : Text) : Grid := fun row column =>
  if row = y ∧ x ≤ column then
    match t[(column - x).toNat]? with
    | some c => ⟨c, pen⟩
    | none => g row column
  else g row column

def clearFrom (g : Grid) (y x : Int) : Grid := fun row column =>
  if row = y ∧ x ≤ column then {} else g row column

theorem draw_other_row (g : Grid) {y row : Int} (x column : Int) (pen : Pen) (t : Text)
    (h : row ≠ y) : g.draw y x pen t row column = g row column := by
  simp [draw, h]

theorem draw_nil (g : Grid) (y x : Int) (pen : Pen) : g.draw y x pen [] = g := by
  funext row column
  simp [draw]

end Grid

structure Display where
  pen : Pen := {}
  screen : Grid := Grid.blank
  saved : Window → Grid := fun _ => Grid.blank
  cursor : Int × Int := (0, 0)
  /-- The foreground and the background of a pair. -/
  pairs : Nat → Int × Int := fun _ => (-1, -1)
  /-- The pair of everything that has none of its own. -/
  ground : Nat := 0

namespace Display

def window (d : Display) (w : Window) : Grid := if w = 0 then d.screen else d.saved w

def setWindow (d : Display) (w : Window) (g : Grid) : Display :=
  if w = 0 then { d with screen := g }
  else { d with saved := fun v => if v = w then g else d.saved v }

def apply (d : Display) (c : TerminalCall) : Display :=
  let d := { d with pen := d.pen.apply c }
  match c with
  | .drawText y x t =>
    { d with screen := d.screen.draw y x d.pen t, cursor := (y, x + t.length) }
  | .moveTo y x | .readText y x _ => { d with cursor := (y, x) }
  | .clear => { d with screen := Grid.blank, cursor := (0, 0) }
  | .clearToEndOfLine => { d with screen := d.screen.clearFrom d.cursor.1 d.cursor.2 }
  | .copyWindow source target => d.setWindow target (d.window source)
  | .definePair n foreground background =>
    { d with pairs := fun m => if m = n then (foreground, background) else d.pairs m }
  | .background _ (.pair n) => { d with ground := n }
  | _ => d

theorem window_setWindow (d : Display) (v w : Window) (g : Grid) :
    (d.setWindow w g).window v = if v = w then g else d.window v := by
  by_cases hw : w = 0
  · subst hw
    by_cases hv : v = 0 <;> simp [window, setWindow, hv]
  · by_cases hv : v = 0
    · subst hv
      simp [window, setWindow, hw, Ne.symm hw]
    · simp [window, setWindow, hw, hv]

theorem pen_setWindow (d : Display) (w : Window) (g : Grid) : (d.setWindow w g).pen = d.pen := by
  unfold setWindow
  split <;> rfl

theorem pen_apply (d : Display) (c : TerminalCall) : (d.apply c).pen = d.pen.apply c := by
  cases c with
  | copyWindow source target => exact pen_setWindow _ _ _
  | background c a => cases a <;> rfl
  | _ => rfl

end Display

end SlideDeck
