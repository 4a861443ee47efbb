import SlideDeck.Text.Basic

/-!
The colours that a deck can name, with their numbers on a terminal.
-/

namespace SlideDeck

structure Color where
  name : Text
  /-- The terminal's number; -1 is its own default. -/
  number : Int
  /-- The pair that draws this colour; pair 0 is the terminal's default. -/
  pair : Nat

namespace Color

/-- Every colour, in the order of its pair; the terminal's own comes last. -/
def all : List Color := [
  ⟨"white", 7, 1⟩, ⟨"yellow", 3, 2⟩, ⟨"red", 1, 3⟩, ⟨"green", 2, 4⟩, ⟨"blue", 4, 5⟩,
  ⟨"cyan", 6, 6⟩, ⟨"magenta", 5, 7⟩, ⟨"black", 0, 8⟩, ⟨"default", -1, 0⟩]

def names : List Text := all.map (·.name)

def named? (name : Text) : Option Color := all.find? (·.name = name)

def isKnown (name : Text) : Bool := (named? name).isSome

theorem isKnown_iff {name : Text} : isKnown name = true ↔ name ∈ names := by
  simp only [isKnown, named?, names, List.find?_isSome, List.mem_map, decide_eq_true_eq]

end Color

end SlideDeck
