import SlideDeck.Host.HugeText
import SlideDeck.Surface.Basic

/-!
The state of a screen, and the strokes that everything on it is drawn with. The screen remembers
which attributes it believes to be switched on (`active`) and sends only differences. Text is
clipped to the window, and what the terminal refuses at the edges of the screen is of no account.
-/

namespace SlideDeck

def Screen.topRow : Int := 5

structure Screen where
  typeDelay : Delay := .real 0.02
  slideDelay : Delay := .real 0.05
  font : Text := HugeText.standardFont
  row : Int := Screen.topRow
  output : Bool := false
  shellOutput : Bool := false
  sliding : Bool := false
  side : Side := .left
  foreground : Text := "white"
  style : Style := { color := some "white" }
  active : Style := {}
  footer : Text := []
  header : Text := []
  statusLength : Nat := 0
  closed : Bool := false
  rows : Int := 0
  columns : Int := 0

namespace Screen

open Act

def indent : Int := 3

def framed (s : Screen) : Bool := s.output || s.shellOutput

def drawAt (y x : Int) (t : Text) : Act Screen Unit := do
  let s ← surface
  if t = [] ∨ y < 0 ∨ s.rows ≤ y then return
  let shown := if x < 0 then t.drop (-x).toNat else t
  let column := max 0 x
  if s.columns - column ≤ 0 then return
  tolerant (call (.drawText y column (shown.take (s.columns - column).toNat)))

def moveTo (y x : Int) : Act Screen Unit := do
  let s ← surface
  tolerant (call (.moveTo (min (max y 0) (s.rows - 1)) (min (max x 0) (s.columns - 1))))

def applyFlag (style : Style) (f : Flag) : Act Screen Unit := do
  let on := style.flag f
  if on ≠ (← surface).active.flag f then
    tolerant (call (if on then .attributeOn (.flag f) else .attributeOff (.flag f)))
    modifySurface fun s => { s with active := s.active.withFlag f on }

/-- Brings the colour of the terminal in line with a style; a style without colour keeps it. -/
def applyColor (style : Style) : Act Screen Unit := do
  match style.color with
  | none => pure ()
  | some name =>
    if name ≠ [] ∧ some name ≠ (← surface).active.color then
      call (.attributeOff .anyColor)
      match Color.named? name with
      | none => throw (.noColorPair name)
      | some color => call (.attributeOn (.pair color.pair))
      modifySurface fun s => { s with active := s.active.withColor (some name) }

def applyStyle (style : Style) : Act Screen Unit := do
  applyFlag style .bold
  applyFlag style .underline
  applyFlag style .reverse
  applyColor style

def setStyle (style : Style) : Act Screen Unit := do
  modifySurface fun s => { s with style := style }
  applyStyle style

def restyle (f : Style → Style) : Act Screen Unit := do
  setStyle (f (← surface).style)

def withStyle (f : Style → Style) (act : Act Screen Unit) : Act Screen Unit := do
  let before := (← surface).style
  setStyle (f before)
  try act
  finally setStyle before

def nextRow : Act Screen Unit := modifySurface fun s => { s with row := s.row + 1 }

def store : Act Screen Window := do
  let s ← surface
  saveScreen s.rows s.columns

def restore (saved : Window) : Act Screen Unit := do
  call (.copyWindow saved 0)
  call .refresh

def learnSize : Act Screen Unit :=
  modify fun s =>
    { s with surface := { s.surface with rows := s.host.rows, columns := s.host.columns } }

end Screen

end SlideDeck
