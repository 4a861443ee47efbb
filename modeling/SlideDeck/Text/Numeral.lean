import SlideDeck.Text.Blank
import SlideDeck.Text.Digit
import SlideDeck.Text.Quoted

/-!
Integers read from text. Digits of every script count; a numeral with more digits than
`digitLimit` is refused, and so is a text of digits one of which has no decimal value.
-/

namespace SlideDeck.Text

def digitLimit : Nat := 4300

inductive NumeralFault where
  | tooLong (digits : Nat)
  | notDecimal (t : Text)
deriving DecidableEq, Repr

def NumeralFault.message : NumeralFault → Text
  | .tooLong digits =>
    concat ["Exceeds the limit (", ofNat digitLimit,
      " digits) for integer string conversion: value has ", ofNat digits,
      " digits; use sys.set_int_max_str_digits() to increase the limit"]
  | .notDecimal t => concat ["invalid literal for int() with base 10: ", quoted t]

def digitsValue (ds : Text) : Nat := ds.foldl (fun n c => 10 * n + (digitValue? c).getD 0) 0

def readDigits (ds : Text) : Except NumeralFault Nat :=
  if digitLimit < ds.length then .error (.tooLong ds.length) else .ok (digitsValue ds)

def readNumeral (t : Text) : Except NumeralFault Nat :=
  if t.all isDecimalDigit then readDigits t else .error (.notDecimal t)

def takeSign : Text → Bool × Text
  | '-' :: t => (true, t)
  | '+' :: t => (false, t)
  | t => (false, t)

/-- The integer at the start of a text, after white space and with an optional sign; none when no
digit stands there. -/
def leadingInteger (t : Text) : Except NumeralFault (Option Int) :=
  let (negative, body) := takeSign (t.dropWhile isBlank)
  match body.takeWhile isDecimalDigit with
  | [] => .ok none
  | ds => (readDigits ds).map fun n => some (if negative then -(n : Int) else n)

def leadingSeconds (t : Text) : Except NumeralFault Int :=
  (leadingInteger t).map (·.getD 0)

end SlideDeck.Text
