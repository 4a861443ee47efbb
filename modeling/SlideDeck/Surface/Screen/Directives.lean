import SlideDeck.Host.Command
import SlideDeck.Surface.Screen.Writing

/-!
What a screen does for each operation that a line of a deck asks for.
-/

namespace SlideDeck.Screen

open Act

def drawHuge (t : Text) : Act Screen Unit := do
  let s ← surface
  let rows ← HugeText.render t s.font (s.columns - indent - (if s.framed then 2 else 0))
  rows.forM fun row => drawText .left (some row)

def drawBorder : Act Screen Unit := do
  let s ← surface
  let bottom := s.rows - 2
  let edge ← copies (s.columns - 2) '-'
  drawAt 0 0 (("." : Text) ++ edge ++ ("." : Text))
  drawAt bottom 0 (("`" : Text) ++ edge ++ ("'" : Text))
  (rowsDown 1 (bottom - 1)).forM fun y => do
    drawAt y 0 "|"
    drawAt y (s.columns - 1) "|"

def drawCentered (y : Int) (t : Text) : Act Screen Unit := do
  drawAt y (((← surface).columns - t.length) / 2) t

def setFooter (t : Text) : Act Screen Unit := do
  modifySurface fun s => { s with footer := t }
  drawCentered ((← surface).rows - 3) t

def setHeader (t : Text) : Act Screen Unit := do
  modifySurface fun s => { s with header := t }
  drawCentered 1 t

def drawTitleLine (t : Option Text) : Act Screen Unit := do
  drawText .center t
  drawText .center (some [])

def exec (command : Text) : Act Screen Unit := do
  call .saveMode
  call .leaveScreen
  let status ←
    try Command.runAttached command
    finally
      call .restoreMode
      call .refresh
  if status ≠ 0 then warn (.execStatus command status)

/-- Draws every colour on another background; one that is not known is black. -/
def setBackground (name : Option Text) : Act Screen Unit := do
  let number := ((name.bind Color.named?).map (·.number)).getD 0
  (Color.all.filter (·.pair ≠ 0)).forM fun color =>
    call (.definePair color.pair color.number number)
  let pair := ((Color.named? (← surface).foreground).map (·.pair)).getD 1
  call (.background ' ' (.pair pair))
  modifySurface fun s => { s with active := s.active.withColor none }
  applyStyle (← surface).style

def setColor (name : Option Text) : Act Screen Unit :=
  match name with
  | some color =>
    if Color.isKnown color then restyle (·.withColor (some color)) else warn (.unknownColor name)
  | none => warn (.unknownColor name)

/-- Draws in another colour from here on, and shows the background of the page in its pair. -/
def setForeground (name : Option Text) : Act Screen Unit :=
  match name with
  | some color =>
    if Color.isKnown color then do
      modifySurface fun s => { s with foreground := color }
      restyle (·.withColor (some color))
    else warn (.unknownForeground name)
  | none => warn (.unknownForeground name)

def perform : Op → Act Screen Unit
  | .newPage => do
    modifySurface fun s => { s with row := topRow, output := false, shellOutput := false }
    learnSize
    call .clear
  | .refresh => call .refresh
  | .printLine t => drawText .left t
  | .heading t => withStyle (·.withFlag .bold true) (drawText .center t)
  | .withBorder => drawBorder
  | .horizontalLine =>
    withStyle (·.withFlag .bold true) do
      let s ← surface
      drawAt s.row 0 (← copies s.columns '-')
  | .color name => setColor name
  | .center t => drawText .center t
  | .right t => drawText .right t
  | .exec command => exec command
  | .wait => pure ()
  | .beginOutput => do
    drawRule "." "."
    modifySurface fun s => { s with output := true }
  | .beginShellOutput => do
    drawRule "." "."
    modifySurface fun s => { s with shellOutput := true }
  | .endOutput => do
    if (← surface).output then
      drawRule "`" "'"
      modifySurface fun s => { s with output := false }
  | .endShellOutput => do
    if (← surface).shellOutput then
      drawRule "`" "'"
      modifySurface fun s => { s with shellOutput := false }
  | .sleep d => do
    call .refresh
    pause d.orZero
  | .boldOn => restyle (·.withFlag .bold true)
  | .boldOff => restyle (·.withFlag .bold false)
  | .reverseOn => restyle (·.withFlag .reverse true)
  | .reverseOff => restyle (·.withFlag .reverse false)
  | .underlineOn => restyle (·.withFlag .underline true)
  | .underlineOff => restyle (·.withFlag .underline false)
  | .beginSlide side => modifySurface fun s => { s with sliding := true, side := side }
  | .endSlide => modifySurface fun s => { s with sliding := false }
  | .setHugeFont name => modifySurface fun s => { s with font := name }
  | .huge t => drawHuge t
  | .footer t => setFooter t
  | .header t => setHeader t
  | .title t => do
    restyle (·.withFlag .bold true)
    drawText .center t
    restyle (·.withFlag .bold false)
    drawText .center (some [])
  | .author t => drawTitleLine t
  | .date t => drawTitleLine t
  | .background name => setBackground name
  | .foreground name => setForeground name

end SlideDeck.Screen
