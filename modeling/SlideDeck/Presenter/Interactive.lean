import SlideDeck.Deck.Load
import SlideDeck.Host.Command
import SlideDeck.Presenter.Navigator

/-!
Presentations at a console. Each key is one step (`press`); between two keys the presentation waits
either for an action or for any key that dismisses the help. A run is the fold of its keys, and when
the keys are used up the user quits.
-/

namespace SlideDeck

inductive FileEdit where
  | write (place : Place) (node : FileNode)
  | delete (place : Place)
deriving Repr

def FileEdit.apply (fs : Files) : FileEdit → Files
  | .write place node => fs.put place node
  | .delete place => fs.remove place

structure Keystroke where
  action : Action
  edits : List FileEdit := []

namespace Interactive

structure Script (σ : Type) where
  path : Text
  editor : Text
  capture : Text → Act σ (List Text)

inductive Phase where
  | choosing
  /-- Any key dismisses the help and brings the saved screen back. -/
  | reading (saved : Window)
deriving DecidableEq, Repr

variable {σ : Type} [Console σ]

def opening : Present σ Unit := do
  Surface.clear (σ := σ)
  Surface.perform (σ := σ) .newPage
  Present.pass

def reload (script : Script σ) : Present σ Unit := do
  let deck ← Deck.load script.capture script.path
  match Navigator.start deck (← Present.nav).index with
  | .ok n => Present.modifyNav fun _ => n
  | .error fault => throw fault
  opening

/-- The file that the editor opens: the one that was included last, if it has a name, or else the
deck. -/
def editTarget (path : Text) : (included : Option Text) → Text
  | some (c :: name) => c :: name
  | _ => path

def edit (script : Script σ) : Act σ Unit := do
  let target := editTarget script.path (← get).included
  let saved ← Console.storeScreen
  Surface.perform (.exec (Command.editorLine script.editor target))
  Console.restoreScreen saved

/-- Asks for a page and goes there; the screen comes back when there is no such page. -/
def jump : Present σ Unit := do
  let saved ← Console.storeScreen (σ := σ)
  let n ← Present.nav
  let answer ← Console.askPageNumber (σ := σ) (n.pages.map (·.title)) n.index
  if ← Present.jump answer then Present.pass
  else Console.restoreScreen (σ := σ) saved

def press (script : Script σ) (phase : Phase) (action : Action) : Present σ (Option Phase) := do
  match phase with
  | .reading saved =>
    Surface.clear (σ := σ)
    Console.restoreScreen (σ := σ) saved
    return some .choosing
  | .choosing =>
    if ← Present.handle action then
      Present.pass
      return some .choosing
    match action with
    | .quit => return none
    | .reload =>
      reload script
      return some .choosing
    | .jump =>
      jump
      return some .choosing
    | .edit =>
      edit script
      return some .choosing
    | .help =>
      let saved ← Console.storeScreen (σ := σ)
      Console.showHelp (σ := σ)
      return some (.reading saved)
    | .resize =>
      Console.updateSize (σ := σ)
      return some .choosing
    | _ => return some .choosing

def edited (edits : List FileEdit) : Act σ Unit :=
  modify fun s =>
    { s with host := { s.host with files := edits.foldl FileEdit.apply s.host.files } }

def play (script : Script σ) (phase : Phase) : List Keystroke → Present σ Unit
  | [] => do
    if let some phase ← press script phase .quit then
      let _ ← press script phase .quit
  | key :: keys => do
    edited (σ := σ) key.edits
    if let some phase ← press script phase key.action then play script phase keys

def run (script : Script σ) (keys : List Keystroke) : Stage σ → Ending σ :=
  Ending.ofRun (Deck.load script.capture script.path) (Navigator.start · 0) do
    opening
    play script .choosing keys

end Interactive

end SlideDeck
