import SlideDeck.Deck.Parse
import SlideDeck.Host.Basic

/-!
Decks from files.
-/

namespace SlideDeck.Deck

def load {σ : Type} (capture : Text → Act σ (List Text)) (path : Text) : Act σ Deck := do
  match ← Act.readFile path with
  | .ok source => parse capture source
  | .error fault => throw (Fault.ofOpening fault)

end SlideDeck.Deck
