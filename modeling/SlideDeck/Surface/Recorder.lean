import SlideDeck.Surface.Basic

/-!
A surface that shows nothing and keeps what it is asked for in the journal. It can stand for a
console, whose answers to page prompts are given beforehand, or for a surface without a screen.
-/

namespace SlideDeck

structure Recorder where
  /-- Whether it stands for a surface with a screen. -/
  hasScreen : Bool := true
  answers : List (Option Int) := []

namespace Recorder

def askConsole (op : ConsoleOp) : Act Recorder Unit := do
  if (← Act.surface).hasScreen then Act.note (.askedConsole op)

instance : Console Recorder where
  perform op := Act.note (.asked op)
  drawStatus number count ended title := askConsole (.drawStatus number count ended title)
  clear := askConsole .clear
  showHelp := askConsole .showHelp
  askPageNumber titles current := do
    askConsole (.askPageNumber titles current)
    match (← Act.surface).answers with
    | [] => return none
    | answer :: rest =>
      Act.modifySurface fun r => { r with answers := rest }
      return answer
  storeScreen := do
    askConsole .storeScreen
    return 0
  restoreScreen _ := askConsole .restoreScreen
  updateSize := askConsole .updateSize

end Recorder

end SlideDeck
