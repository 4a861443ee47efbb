import SlideDeck.Presenter.Action

/-!
Keys as a terminal sends them. An arrow key is a sequence of three characters; every other character
is a key of its own, the escape character among them.
-/

namespace SlideDeck.Keyboard

def arrow? : Char → Option Int
  | 'A' => some Action.upKey
  | 'B' => some Action.downKey
  | 'C' => some Action.rightKey
  | 'D' => some Action.leftKey
  | _ => none

def keys : Text → List Int
  | '\x1b' :: '[' :: c :: t =>
    match arrow? c with
    | some key => key :: keys t
    | none => Action.escapeKey :: ('[' : Char).toNat :: c.toNat :: keys t
  | c :: t => c.toNat :: keys t
  | [] => []

/-- The keys of a line of input. The newline counts only when nothing else stands on the line. -/
def lineKeys (line : Text) : List Int :=
  match line.filter (· ≠ '\n') with
  | [] => keys line
  | t => keys t

end SlideDeck.Keyboard
