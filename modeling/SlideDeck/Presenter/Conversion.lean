import SlideDeck.Deck.Directive
import SlideDeck.Deck.Parse

/-!
Conversions: every line of every page is dispatched once, in order, and a new page is begun between
two pages. Pauses do not matter.
-/

namespace SlideDeck.Conversion

variable {σ : Type} [Surface σ]

def dispatchLines : List Text → Act σ Unit
  | [] => pure ()
  | line :: rest => do
    let _ ← Directive.dispatch (some line)
    dispatchLines rest

def laterPages : List Page → Act σ Unit
  | [] => pure ()
  | page :: rest => do
    Surface.perform .newPage
    dispatchLines page.lines
    laterPages rest

def run : Deck → Act σ Unit
  | [] => pure ()
  | page :: rest => do
    dispatchLines page.lines
    laterPages rest

end SlideDeck.Conversion
