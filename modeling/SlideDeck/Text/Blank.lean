import SlideDeck.Text.Basic

/-!
White space. Two classes are in use: the wide one, which trims texts and separates words, and the
narrow ASCII one, which may stand inside an inline colour marker.
-/

namespace SlideDeck.Text

/-- White space in the wide sense: the Unicode property, with the four information separators. -/
def isBlank (c : Char) : Bool :=
  let n := c.toNat
  (0x09 ≤ n && n ≤ 0x0D) || (0x1C ≤ n && n ≤ 0x20) || n == 0x85 || n == 0xA0 || n == 0x1680 ||
    (0x2000 ≤ n && n ≤ 0x200A) || n == 0x2028 || n == 0x2029 || n == 0x202F || n == 0x205F ||
    n == 0x3000

/-- White space in the narrow sense: blank, tab, newline, return, form feed and vertical tab. -/
def isAsciiBlank (c : Char) : Bool :=
  c == ' ' || (0x09 ≤ c.toNat && c.toNat ≤ 0x0D)

def trim (p : Char → Bool) (t : Text) : Text := ((t.dropWhile p).reverse.dropWhile p).reverse

def strip (t : Text) : Text := trim isBlank t

end SlideDeck.Text
