import SlideDeck.Markup.Token

/-!
The style of a character and how tokens change it. A token either keeps the style or makes a new
one, and a new one may well have the fields of the old: `apply` tells the two cases apart, because
characters are drawn together only while no new style was made between them.
-/

namespace SlideDeck

structure Style where
  bold : Bool := false
  underline : Bool := false
  reverse : Bool := false
  color : Option Text := none
deriving DecidableEq, Repr

namespace Style

def flag (s : Style) : Flag → Bool
  | .bold => s.bold
  | .underline => s.underline
  | .reverse => s.reverse

def withFlag (s : Style) (f : Flag) (on : Bool) : Style :=
  match f with
  | .bold => { s with bold := on }
  | .underline => { s with underline := on }
  | .reverse => { s with reverse := on }

def withColor (s : Style) (color : Option Text) : Style := { s with color := color }

theorem flag_withFlag (s : Style) (f g : Flag) (on : Bool) :
    (s.withFlag f on).flag g = if g = f then on else s.flag g := by
  cases f <;> cases g <;> rfl

theorem color_withFlag (s : Style) (f : Flag) (on : Bool) : (s.withFlag f on).color = s.color := by
  cases f <;> rfl

end Style

abbrev ColorStack := List (Option Text)

/-- The latest colour to return to, or `fallback` when there is none, and the others. -/
def ColorStack.pop (fallback : Option Text) : ColorStack → Option Text × ColorStack
  | [] => (fallback, [])
  | c :: cs => (c, cs)

/-- What a token makes of a style: none when the style is kept, else the new style; and the colours
to return to from then on. A colour that is not known changes nothing, nor does a return when there
is no colour to return to. -/
def Token.apply (s : Style) (stack : ColorStack) : Token → Option Style × ColorStack
  | .literal _ => (none, stack)
  | .toggle f on => (some (s.withFlag f on), stack)
  | .push color =>
    if Color.isKnown color then (some (s.withColor (some color)), s.color :: stack)
    else (none, stack)
  | .pop =>
    match stack with
    | [] => (none, [])
    | c :: cs => (some (s.withColor c), cs)

end SlideDeck
