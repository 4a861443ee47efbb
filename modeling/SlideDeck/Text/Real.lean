import SlideDeck.Text.Numeral

/-!
Real numbers read from text: an optional sign, then a decimal with an optional exponent, or one of
the words for infinity and for no number. The result is the nearest double.
-/

namespace SlideDeck.Text

/-- A character of a real in ASCII: digits of every script become ASCII digits, white space outside
ASCII becomes a blank, and what else lies outside ASCII becomes a character that no real holds. -/
def realChar (c : Char) : Char :=
  if c.toNat < 0x7F then c
  else if isBlank c then ' '
  else match digitValue? c with
    | some d => Nat.digitChar d
    | none => '?'

/-- The text without its underscores, each of which must stand between two digits. -/
def dropUnderscores : (previous : Char) → Text → Option Text
  | _, [] => some []
  | p, '_' :: d :: t =>
    if p.isDigit && d.isDigit then (dropUnderscores d t).map (d :: ·) else none
  | _, c :: t => if c = '_' then none else (dropUnderscores c t).map (c :: ·)

/-- The double nearest to `digits · 10 ^ exponent`. Exponents far outside the range of doubles are
settled first, so that no huge power is computed. -/
def nearestDouble (digits : Nat) (exponent : Int) : Float :=
  let magnitude := exponent + (Nat.toDigits 10 digits).length
  if digits = 0 then 0.0
  else if 310 < magnitude then 1.0 / 0.0
  else if magnitude < -330 then 0.0
  else Float.ofScientific digits (exponent < 0) exponent.natAbs

def readExponent? : Text → Option Int
  | [] => some 0
  | e :: t =>
    let (negative, ds) := takeSign t
    if (e = 'e' ∨ e = 'E') ∧ ds ≠ [] ∧ ds.all Char.isDigit then
      some (if negative then -(digitsValue ds : Int) else digitsValue ds)
    else none

/-- A decimal without sign: digits with at most one point among or around them, then an optional
exponent. -/
def readDecimal? (t : Text) : Option Float :=
  let whole := t.takeWhile Char.isDigit
  let (part, rest) := match t.dropWhile Char.isDigit with
    | '.' :: r => (r.takeWhile Char.isDigit, r.dropWhile Char.isDigit)
    | r => ([], r)
  if whole = [] ∧ part = [] then none
  else (readExponent? rest).map fun e =>
    nearestDouble (digitsValue (whole ++ part)) (e - part.length)

def readReal? (t : Text) : Option Float := do
  let body ← dropUnderscores ' ' (trim isAsciiBlank (t.map realChar))
  let (negative, size) := takeSign body
  let x ←
    if ["inf".toList, "infinity".toList].contains (size.map Char.toLower) then some (1.0 / 0.0)
    else if size.map Char.toLower = "nan" then some (0.0 / 0.0)
    else readDecimal? size
  some (if negative then -x else x)

end SlideDeck.Text
