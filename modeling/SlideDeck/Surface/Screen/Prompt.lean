import SlideDeck.Surface.Screen.Directives

/-!
What a presenter sees besides the page: the status line, the help, and the prompt for a page.
-/

namespace SlideDeck.Screen

open Act

def statusText (number count : Int) (title : Option Text) (width : Int) : Text :=
  let place := Text.concat ["[slide ", Text.ofInt number, "/", Text.ofInt count, "]"]
  let room := width - place.length - 1
  let full := match title with
    | some t => if t ≠ [] ∧ 0 < room then place ++ ' ' :: t.take room.toNat else place
    | none => place
  Text.upTo width full

/-- Draws the status line over the last one, with the footer, the header, and a star when the page
is finished. -/
def drawStatus (number count : Int) (ended : Bool) (title : Option Text) : Act Screen Unit := do
  withStyle (·.withFlag .bold false) do
    let s ← surface
    let status := statusText number count title (s.columns - indent)
    let padded := status ++ Text.rule ((s.statusLength : Int) - status.length) ' '
    modifySurface fun s => { s with statusLength := padded.length }
    drawAt (s.rows - 2) indent padded
  let s ← surface
  if s.footer ≠ [] then setFooter s.footer
  if s.header ≠ [] then setHeader s.header
  if ended then
    withStyle (·.withFlag .bold true) do
      drawAt ((← surface).rows - 2) (indent - 1) "*"

def helpText : List Text := [
  "termpp help",
  "",
  "space bar, j, l, cursor-down/right ...... next entry, or next page at the end",
  "b, a, h, k, cursor-up/left .............. previous page",
  "q, Q, Esc ............................... quit",
  "g, G .................................... jump directly to page",
  "r, R .................................... reload current file",
  "s, S .................................... jump to the first page",
  "e, E .................................... edit the last included file",
  "z, Z .................................... adapt to a new terminal size",
  "? ....................................... this help screen"]

def drawBelow (y : Int) : List Text → Act Screen Unit
  | [] => pure ()
  | line :: rest => do
    drawAt y indent line
    drawBelow (y + 1) rest

def showHelp : Act Screen Unit := do
  call .clear
  drawBelow topRow helpText
  drawAt ((← surface).rows - 2) indent "Press any key to return to slide"
  call .refresh

def drawEntries (current : Int) (number : Nat) (column row : Int) : List Text → Act Screen Unit
  | [] => pure ()
  | title :: rest => do
    let mark : Text := if (number : Int) = current then " <=" else []
    drawAt row (column * 15 + 2)
      ((Text.ofNat (number + 1)).leftpad 2 ' ' ++ ' ' :: title.take 80 ++ mark)
    if (← surface).rows - 3 ≤ row + 1 then drawEntries current (number + 1) (column + 1) 2 rest
    else drawEntries current (number + 1) column (row + 1) rest

def prompt : Text := "jump to slide: "

def promptColumn : Int := indent + 12

/-- The line typed at the prompt, empty when none can be read. The terminal shows what is typed only
while the line is read. -/
def readAnswer : Act Screen Text := do
  let y := (← surface).rows - 2
  call .echo
  let bytes ←
    try
      tryCatch (readTyped y (promptColumn + prompt.length) 6) fun
        | .refused (.terminal _) => return []
        | fault => throw fault
    finally call .noEcho
  return Text.strip (Text.Utf8.decode bytes)

def askPageNumber (titles : List Text) (current : Int) : Act Screen (Option Int) := do
  call .clear
  drawEntries current 0 0 2 titles
  let y := (← surface).rows - 2
  drawAt y promptColumn prompt
  let answer ← readAnswer
  drawAt y promptColumn (Text.rule (prompt.length + answer.length) ' ')
  if answer = [] ∨ !answer.all Text.isDigit then return none
  match Text.readNumeral answer with
  | .ok n => return some (n - 1)
  | .error fault => throw (.numeral fault)

end SlideDeck.Screen
