import SlideDeck.Text.Quoted

/-!
Pages of a deck, and a reader that takes the lines of a page one at a time. The reader notices the
end of the page with its last line, and on an empty page at the first try.
-/

namespace SlideDeck

structure Page where
  title : Text
  lines : List Text := []
deriving DecidableEq, Repr

namespace Page

def embedded? (line : Text) : Option (Text × Text) :=
  match Text.after? "$$" line with
  | some command => some ([], command)
  | none => (Text.after? "$%" line).map (("%" : Text), ·)

def splice {m : Type → Type} [Monad m] (capture : Text → m (List Text)) (line : Text) :
    m (List Text) :=
  match embedded? line with
  | none => return [line]
  | some (lead, command) => do
    let output ← capture command
    return line :: output.map (lead ++ ·)

def addLine {m : Type → Type} [Monad m] (capture : Text → m (List Text)) (p : Page) :
    Option Text → m Page
  | none => return p
  | some line => do
    let spliced ← splice capture line
    return { p with lines := p.lines ++ spliced }

end Page

/-- A page that is being read: the number of lines taken, and whether the end was noticed. -/
structure Reader where
  page : Page
  cursor : Nat := 0
  ended : Bool := false
deriving DecidableEq, Repr

namespace Reader

def start (p : Page) : Reader := { page := p }

def reset (r : Reader) : Reader := start r.page

def rest (r : Reader) : List Text := r.page.lines.drop r.cursor

def advance (r : Reader) : Reader :=
  { r with cursor := r.cursor + 1, ended := r.ended || r.page.lines.length ≤ r.cursor + 1 }

def next (r : Reader) : Option Text × Reader :=
  match r.rest with
  | [] => (none, { r with ended := true })
  | line :: _ => (some line, r.advance)

def describe (r : Reader) : Text :=
  Text.concat ["Page(", Text.quoted r.page.title, ", ", Text.ofNat r.page.lines.length,
    " lines, cursor=", Text.ofNat r.cursor, ")"]

end Reader

end SlideDeck
