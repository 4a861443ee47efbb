import SlideDeck.Markup.Color
import SlideDeck.Text.Blank

/-!
Inline markup: markers for bold, underline, reverse video and colour inside a line of text. `scan`
takes a text apart into tokens and `write` writes tokens as text. A marker that is malformed is
never an error; it stays in the text as it is.
-/

namespace SlideDeck

inductive Flag where
  | bold
  | underline
  | reverse
deriving DecidableEq, Repr

def Flag.name : Flag → Text
  | .bold => "bold"
  | .underline => "underline"
  | .reverse => "reverse"

def Flag.named? (name : Text) : Option Flag :=
  [Flag.bold, .underline, .reverse].find? (·.name = name)

/-- A piece of marked-up text: literal characters, a flag switched on or off, a colour to use from
here on, or the return to the colour used before. -/
inductive Token where
  | literal (t : Text)
  | toggle (flag : Flag) (on : Bool)
  | push (color : Text)
  | pop
deriving DecidableEq, Repr

namespace Token

def fixedMarkers : List (Text × Token) := [
  ("--/b", toggle .bold false), ("--b", toggle .bold true),
  ("--/u", toggle .underline false), ("--u", toggle .underline true),
  ("--/rev", toggle .reverse false), ("--rev", toggle .reverse true),
  ("--/c", pop)]

def isLetter (c : Char) : Bool := c.isAlpha

def colorArgument? (t : Text) : Option (Token × Text) :=
  if (t.takeWhile Text.isAsciiBlank).isEmpty then none
  else
    let body := t.dropWhile Text.isAsciiBlank
    let name := body.takeWhile isLetter
    if Color.isKnown name then some (push name, body.dropWhile isLetter) else none

def marker? (t : Text) : Option (Token × Text) :=
  match fixedMarkers.findSome? fun (m, token) => (Text.after? m t).map (token, ·) with
  | some found => some found
  | none => (Text.after? "--c" t).bind colorArgument?

theorem length_dropWhile_le {α : Type} (p : α → Bool) (xs : List α) :
    (xs.dropWhile p).length ≤ xs.length := by
  induction xs with
  | nil => simp
  | cons x xs ih =>
    simp only [List.dropWhile]
    split
    · simp only [List.length_cons]
      omega
    · exact Nat.le_refl _

theorem colorArgument?_length {t rest : Text} {token : Token}
    (h : colorArgument? t = some (token, rest)) : rest.length ≤ t.length := by
  simp only [colorArgument?] at h
  split at h
  · simp at h
  · split at h
    · simp only [Option.some.injEq, Prod.mk.injEq] at h
      rw [← h.2]
      exact Nat.le_trans (length_dropWhile_le _ _) (length_dropWhile_le _ _)
    · simp at h

theorem marker?_length {t rest : Text} {token : Token} (h : marker? t = some (token, rest)) :
    rest.length < t.length := by
  simp only [marker?] at h
  split at h
  · rename_i found hfound
    obtain ⟨⟨m, k⟩, hm, hk⟩ := List.exists_of_findSome?_eq_some hfound
    simp only [Option.map_eq_some_iff] at hk
    obtain ⟨r, hr, hfk⟩ := hk
    have ht := Text.after?_eq_some_iff.1 hr
    have hpos : 0 < m.length := by
      simp only [fixedMarkers, List.mem_cons, Prod.mk.injEq, List.not_mem_nil, or_false] at hm
      rcases hm with h | h | h | h | h | h | h <;> (rw [h.1]; decide)
    simp only [Option.some.injEq] at h
    subst h
    simp only [Prod.mk.injEq] at hfk
    rw [ht, ← hfk.2, List.length_append]
    omega
  · obtain ⟨r, hr, hc⟩ := Option.bind_eq_some_iff.1 h
    have ht := Text.after?_eq_some_iff.1 hr
    have := colorArgument?_length hc
    rw [ht, List.length_append]
    have h3 : ("--c" : Text).length = 3 := by decide
    omega

def consLiteral (s : Text) : List Token → List Token
  | literal t :: ts => literal (s ++ t) :: ts
  | ts => literal s :: ts

/-- The tokens of a text. A backslash before two hyphens makes them literal; two hyphens that begin
no marker are literal too. -/
def scan : Text → List Token
  | [] => []
  | '\\' :: '-' :: '-' :: t => consLiteral "--" (scan t)
  | c :: t =>
    match _found : marker? (c :: t) with
    | some (token, rest) => token :: scan rest
    | none => consLiteral [c] (scan t)
termination_by t => t.length
decreasing_by
  · simp; omega
  · exact marker?_length (by assumption)
  · simp

def literalText : Token → Text
  | literal t => t
  | _ => []

def plainText (ts : List Token) : Text := ts.flatMap literalText

/-- Writes literal characters so that they are read as such: a backslash goes before every two
hyphens. -/
def writeLiteral : Text → Text
  | [] => []
  | '-' :: '-' :: t => '\\' :: '-' :: '-' :: writeLiteral t
  | c :: t => c :: writeLiteral t

def writeToken : Token → Text
  | literal t => writeLiteral t
  | toggle .bold true => "--b"
  | toggle .bold false => "--/b"
  | toggle .underline true => "--u"
  | toggle .underline false => "--/u"
  | toggle .reverse true => "--rev"
  | toggle .reverse false => "--/rev"
  | push color => ("--c " : Text) ++ color
  | pop => "--/c"

def write (ts : List Token) : Text := ts.flatMap writeToken

end Token

def stripMarkup (t : Text) : Text := Token.plainText (Token.scan t)

end SlideDeck
