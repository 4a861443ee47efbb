import SlideDeck.Layout.Segment
import SlideDeck.Layout.Wrap
import SlideDeck.Surface.Screen.Basic

/-!
Text on a screen: cut into lines, placed between the edges, and drawn at once, typed, or slid in
from a side.
-/

namespace SlideDeck

inductive Alignment where
  | left
  | center
  | right
deriving DecidableEq, Repr

namespace Screen

open Act

def column (s : Screen) (length : Nat) : Alignment → Int
  | .left => indent
  | .center => (s.columns - length) / 2
  | .right => max indent (s.columns - indent - (if s.framed then 2 else 0) - length)

def typeText (x : Int) : Text → Act Screen Unit
  | [] => pure ()
  | c :: rest => do
    let s ← surface
    drawAt s.row x [c]
    call .refresh
    match s.typeDelay.typing? (← drawBelow 20) with
    | some delay => pause delay
    | none => throw .delayTooLong
    typeText (x + 1) rest

def frame (draw : Act Screen Unit) (delay : Delay) : Act Screen Unit := do
  draw
  call .refresh
  pause delay

def slideFromLeft (line : Text) (delay : Delay) : Act Screen Unit := do
  let row := (← surface).row
  (List.range line.length).reverse.forM fun start =>
    frame (drawAt row indent (line.drop start)) delay

def slideFromRight (line : Text) (delay : Delay) : Act Screen Unit := do
  let s ← surface
  (s.columns - indent).toNat.forM fun n _ =>
    frame (do
      let x := s.columns - n - 1
      moveTo s.row x
      call .clearToEndOfLine
      drawAt s.row x (line.take (n + 1))) delay

/-- The pictures of a line that slides over so many rows, on a fresh copy of the screen each time;
`row` gives the row of each picture. -/
def slideOverRows (line : Text) (count : Int) (row : Nat → Int) (delay : Delay) :
    Act Screen Unit := do
  let saved ← store
  count.toNat.forM fun n _ =>
    frame (do
      restore saved
      drawAt (row n) indent line) delay.twice

def rowsDown (first last : Int) : List Int :=
  (List.range (last + 1 - first).toNat).map fun (n : Nat) => first + n

def slideText (line : Text) : Act Screen Unit := do
  let s ← surface
  if line = [] ∨ s.rows ≤ s.row then return
  match s.side with
  | .left => slideFromLeft line s.slideDelay
  | .right => slideFromRight line s.slideDelay
  | .top => slideOverRows line s.row (fun n => 1 + n) s.slideDelay
  | .bottom => slideOverRows line (s.rows - s.row) (fun n => s.rows - 1 - n) s.slideDelay
  | .other _ => pure ()

/-- Whether a line of shell output is typed like a command: it starts with a prompt. -/
def isTyped : Text → Bool
  | c :: _ => c == '$' || c == '%' || c == '#'
  | [] => false

def drawPlainLine (align : Alignment) (typing slides : Bool) (line : Text) : Act Screen Unit := do
  let s ← surface
  let boxed := s.framed && !s.sliding
  let x := if boxed then indent + 2 else indent
  if boxed then drawAt s.row indent "| "
  if align ≠ .left then drawAt s.row (s.column line.length align) line
  else if typing && s.shellOutput && isTyped line then typeText x line
  else if slides then slideText line
  else drawAt s.row x line
  if boxed then drawAt s.row (s.columns - indent - 2) " |"
  nextRow

def drawSegments (x : Int) : List (Layout.Segment Char) → Act Screen Unit
  | [] => pure ()
  | seg :: rest => do
    applyStyle seg.style
    drawAt (← surface).row x seg.symbols
    drawSegments (x + seg.symbols.length) rest

def drawStyledLine (align : Alignment) (line : List (Glyph Char)) : Act Screen Unit := do
  let s ← surface
  if line ≠ [] then
    drawSegments (s.column line.length align) (Layout.segments line)
    applyStyle s.style
  nextRow

def textWidth (s : Screen) : Int := max 1 (s.columns - 2 * indent - (if s.framed then 2 else 0))

/-- Draws a text. In a frame it is drawn as it stands; a text that slides in has its markers left
out; all other text has them interpreted. -/
def drawText (align : Alignment) : Option Text → Act Screen Unit
  | none => pure ()
  | some t => do
    let s ← surface
    if s.framed then
      (Layout.wrapText s.textWidth t).forM (drawPlainLine align (align = .left) false)
    else if align = .left && s.sliding then
      (Layout.wrapText s.textWidth (stripMarkup t)).forM (drawPlainLine align false true)
    else
      (Layout.wrapGlyphs (· == ' ') s.textWidth (Glyph.ofText s.style (some t))).forM
        (drawStyledLine align)

def drawRule (left right : Text) : Act Screen Unit := do
  let s ← surface
  let line ← copies (s.columns - indent * 2 - 2) '-'
  drawAt s.row indent (left ++ line ++ right)
  nextRow

end Screen

end SlideDeck
