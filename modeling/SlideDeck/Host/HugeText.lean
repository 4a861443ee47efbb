import SlideDeck.Host.Basic
import SlideDeck.Text.Lines

/-!
Huge text: a text drawn in large letters, one line of text for each row of the picture. A font is
looked up once for each width; one that is not there is replaced by the standard font, with a
warning at the first use only.
-/

namespace SlideDeck.HugeText

variable {σ : Type}

/-- The font used when none is chosen, and in the place of a font that is not there. It comes with
every lettering. -/
def standardFont : Text := "standard"

def usedFont (l : Lettering) (font : Text) : Text := if l.hasFont font then font else standardFont

def chooseFont (font : Text) (width : Nat) : Act σ Text := do
  let s ← get
  match s.journal.fonts.find? (·.1 = (font, width)) with
  | some (_, used) => return used
  | none =>
    if !s.host.lettering.hasFont font then Act.warn (.unknownFont font standardFont)
    let used := usedFont s.host.lettering font
    modify fun s =>
      { s with journal := { s.journal with fonts := ((font, width), used) :: s.journal.fonts } }
    return used

def rowsOf (picture : Text) : List Text :=
  Text.boundaryLines (picture.reverse.dropWhile (· == '\n')).reverse

def render (t font : Text) (width : Int) : Act σ (List Text) := do
  let width := (max 1 width).toNat
  let used ← chooseFont font width
  let l := (← get).host.lettering
  if !l.hasRoom used width t then throw (.refused .letters)
  return rowsOf (l.render used width t)

end SlideDeck.HugeText
