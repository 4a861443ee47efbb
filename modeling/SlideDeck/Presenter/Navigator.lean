import SlideDeck.Deck.Directive
import SlideDeck.Deck.Parse
import SlideDeck.Presenter.Action

/-!
Navigation through a deck: which page is shown, how far its lines are dispatched, and whether it was
shown to its end. A pass over the page (`drive`) stops at a pause; the end of the page counts only
once a pass comes to it without stopping, so that a pause in the last line still holds.
-/

namespace SlideDeck

structure Navigator where
  pages : Deck
  index : Nat
  reader : Reader
  /-- Whether a pass came to the end of the page without stopping at a pause. -/
  finished : Bool := false
  reloadRequested : Bool := false
  quit : Bool := false
deriving Repr

namespace Navigator

def start (pages : Deck) (index : Int) : Except Fault Navigator :=
  let i := (min (max index 0) (pages.length - 1)).toNat
  match pages[i]? with
  | some page => .ok { pages := pages, index := i, reader := .start page }
  | none => .error .noPages

/-- The navigator at the start of another page. Where there is none, it has gone too far. -/
def turnTo (n : Navigator) (index : Nat) : Navigator :=
  match n.pages[index]? with
  | some page => { n with index := index, reader := .start page, finished := false }
  | none => { n with index := index }

end Navigator

structure Presentation (σ : Type) where
  stage : Stage σ
  nav : Navigator

abbrev Present (σ : Type) := EStateM Fault (Presentation σ)

namespace Present

variable {σ : Type}

def onStage {α : Type} (act : Act σ α) : Present σ α := fun p =>
  match act p.stage with
  | .ok a s => .ok a { p with stage := s }
  | .error fault s => .error fault { p with stage := s }

instance : MonadLift (Act σ) (Present σ) := ⟨onStage⟩

def nav : Present σ Navigator := return (← get).nav

def modifyNav (f : Navigator → Navigator) : Present σ Unit :=
  modify fun p => { p with nav := f p.nav }

variable [Surface σ]

/-- Dispatches lines until one of them is a pause, and says whether one was. Each line counts as
taken before it is dispatched. -/
def driveLines : List Text → Present σ Bool
  | [] => return false
  | line :: rest => do
    modifyNav fun n => { n with reader := n.reader.advance }
    if ← Directive.dispatch (σ := σ) (some line) then return true
    driveLines rest

/-- A pass over the page: dispatches the lines that are left until a pause or the end of the page,
and says whether the pass stopped at a pause. -/
def drive : Present σ Bool := do
  let r := (← nav).reader
  let paused ←
    if r.ended then pure false
    else if r.rest = [] then do
      modifyNav fun n => { n with reader := { n.reader with ended := true } }
      pure false
    else driveLines r.rest
  modifyNav fun n => { n with finished := n.reader.ended && !paused }
  return paused

def showPage (index : Nat) : Present σ Unit := do
  modifyNav (·.turnTo index)
  if (← nav).pages.length ≤ index then throw .noSuchPage
  Surface.perform (σ := σ) .newPage

def advance : Present σ Bool := do
  let n ← nav
  if n.finished && n.index + 1 < n.pages.length then
    showPage (n.index + 1)
    return true
  return false

def retreat : Present σ Bool := do
  let n ← nav
  if 0 < n.index then
    showPage (n.index - 1)
    return true
  return false

def jump (index : Option Int) : Present σ Bool := do
  match index with
  | none => return false
  | some i =>
    if 0 ≤ i ∧ i < (← nav).pages.length then
      showPage i.toNat
      return true
    return false

def firstPage : Present σ Unit := showPage 0

def wrapForward : Present σ Unit := do
  let n ← nav
  showPage ((n.index + 1) % n.pages.length)

def drawStatus : Present σ Unit := do
  let n ← nav
  Surface.drawStatus (σ := σ) (n.index + 1) n.pages.length n.finished (some n.reader.page.title)
  Surface.perform (σ := σ) .refresh

def handle : Action → Present σ Bool
  | .quit => do
    modifyNav fun n => { n with quit := true }
    return false
  | .reload => do
    modifyNav fun n => { n with reloadRequested := true }
    return false
  | .advance => do
    let _ ← advance
    return true
  | .retreat => do
    let _ ← retreat
    return true
  | .firstPage => do
    firstPage
    return true
  | _ => return false

def pass : Present σ Unit := do
  drawStatus
  let _ ← drive
  drawStatus

end Present

/-- How a run of a presentation ended: the stage it left, where it stood if it came to a deck at
all, and the fault that ended it, if one did. -/
structure Ending (σ : Type) where
  stage : Stage σ
  nav : Option Navigator
  fault : Option Fault

namespace Ending

def ofRun {σ α β : Type} (prepare : Act σ α) (nav : α → Except Fault Navigator) (go : Present σ β)
    (stage : Stage σ) : Ending σ :=
  match prepare stage with
  | .error fault s => ⟨s, none, some fault⟩
  | .ok a s =>
    match nav a with
    | .error fault => ⟨s, none, some fault⟩
    | .ok n =>
      match go ⟨s, n⟩ with
      | .ok _ p => ⟨p.stage, some p.nav, none⟩
      | .error fault p => ⟨p.stage, some p.nav, some fault⟩

end Ending

end SlideDeck
