import SlideDeck.Deck.Page
import SlideDeck.Fault
import SlideDeck.Text.Blank
import SlideDeck.Text.Lines

/-!
Decks from their source. A line that begins with `--newpage` starts a page, a line that begins with
`--##` is left out, and every other line belongs to the page before it, together with the output of
the command that it embeds. Commands run while the deck is read, in source order and once each, by
whatever `capture` is given.
-/

namespace SlideDeck

abbrev Deck := List Page

namespace Deck

def firstTitle : Text := "Title"

def titleOf (number : Nat) (rest : Text) : Text :=
  match Text.strip rest with
  | [] => Text.concat ["slide ", Text.ofNat number]
  | t => t

variable {m : Type → Type} [Monad m]

def prependLines (lines : List Text) : Deck → Deck
  | [] => []
  | page :: pages => { page with lines := lines ++ page.lines } :: pages

def collect (capture : Text → m (List Text)) (number : Nat) (title : Text) : List Text → m Deck
  | [] => return [⟨title, []⟩]
  | line :: rest =>
    if line.startsWith "--##" then collect capture number title rest
    else match Text.after? "--newpage" line with
      | some name => do
        let pages ← collect capture (number + 1) (titleOf (number + 1) name) rest
        return ⟨title, []⟩ :: pages
      | none => do
        let spliced ← Page.splice capture line
        let pages ← collect capture number title rest
        return prependLines spliced pages

def parse (capture : Text → m (List Text)) (source : Text) : m Deck :=
  collect capture 1 firstTitle (Text.sourceLines source)

/-- The page at an index; a negative index counts back from the end. -/
def page? (d : Deck) (index : Int) : Option Page :=
  if 0 ≤ index then d[index.toNat]?
  else if -(d.length : Int) ≤ index then d[(d.length + index).toNat]?
  else none

/-- Whether a number can be an index at all: it lies in the range of 64 bits with a sign. -/
def isIndex (n : Int) : Bool := -9223372036854775808 ≤ n && n ≤ 9223372036854775807

def pageAt (d : Deck) (index : Int) : Except Fault Page :=
  if isIndex index then
    match d.page? index with
    | some page => .ok page
    | none => .error .noSuchPage
  else .error .indexTooLarge

end Deck

end SlideDeck
