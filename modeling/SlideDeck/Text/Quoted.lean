import SlideDeck.Text.Printable

/-!
Text in quotes, as messages show file names and commands: characters that do not print, the
backslash and the closing quote are written as escapes.
-/

namespace SlideDeck.Text

def hex (width n : Nat) : Text := (Nat.toDigits 16 n).leftpad width '0'

/-- The quote for a text: single, unless the text holds a single quote and no double one. -/
def quoteFor (t : Text) : Char := if t.contains '\'' && !t.contains '"' then '"' else '\''

def quoteChar (quote c : Char) : Text :=
  if c = quote ∨ c = '\\' then ['\\', c]
  else if c = '\n' then "\\n"
  else if c = '\r' then "\\r"
  else if c = '\t' then "\\t"
  else if isPrintable c then [c]
  else if c.toNat ≤ 0xFF then ("\\x" : Text) ++ hex 2 c.toNat
  else if c.toNat ≤ 0xFFFF then ("\\u" : Text) ++ hex 4 c.toNat
  else ("\\U" : Text) ++ hex 8 c.toNat

def quoted (t : Text) : Text :=
  let quote := quoteFor t
  quote :: t.flatMap (quoteChar quote) ++ [quote]

end SlideDeck.Text
