import SlideDeck.Deck.Load
import SlideDeck.Presenter.Navigator

/-!
Presentations without a user: after each pass there is a delay, and after the last page the first
one comes again.
-/

namespace SlideDeck.Autoplay

variable {σ : Type} [Surface σ]

def step (delay : Option Delay) : Present σ Unit := do
  Present.pass
  if (← Present.nav).finished then Present.wrapForward
  match delay with
  | some delay => Act.pause (σ := σ) delay
  | none => Act.pauseWithoutLength (σ := σ)

def steps (delay : Option Delay) : (count : Nat) → Present σ Unit
  | 0 => pure ()
  | count + 1 => do
    step delay
    steps delay count

def opening : Present σ Unit := do
  Surface.clear (σ := σ)
  Surface.perform (σ := σ) .newPage

def run (path : Text) (capture : Text → Act σ (List Text)) (delay : Option Delay) (count : Nat) :
    Stage σ → Ending σ :=
  Ending.ofRun (Deck.load capture path) (Navigator.start · 0) do
    opening
    steps delay count

end SlideDeck.Autoplay
