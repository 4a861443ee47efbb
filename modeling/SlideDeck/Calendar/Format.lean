import SlideDeck.Calendar.Moment
import SlideDeck.Text.Upper

/-!
Moments written by a format: text with fields that begin with a percent sign. A field may carry
flags (`_`, `-`, `0` for padding, `^` and `#` for case), a least width and a modifier before its
letter. A field that is not known is text. The zone fields write nothing.
-/

namespace SlideDeck.Calendar

def dayNames : List Text :=
  ["Sunday", "Monday", "Tuesday", "Wednesday", "Thursday", "Friday", "Saturday"]

def monthNames : List Text :=
  ["January", "February", "March", "April", "May", "June", "July", "August", "September",
    "October", "November", "December"]

namespace Moment

def dayName (m : Moment) : Text := dayNames[m.weekDay]?.getD []

def monthName (m : Moment) : Text := monthNames[m.month - 1]?.getD []

def dayHalf (m : Moment) : Text := if m.hour < 12 then "AM" else "PM"

end Moment

def twoDigits (n : Nat) : Text := (Text.ofNat n).leftpad 2 '0'

structure FieldSpec where
  pad : Option Char := none
  upper : Bool := false
  changeCase : Bool := false
  width : Nat := 0
  modifier : Option Char := none
deriving DecidableEq, Repr

/-- What a field shows. A number has a least count of digits and may prefer blanks to zeros; a name
says what a change of case makes of it; other text keeps its case; nothing is not even padded. -/
inductive FieldValue where
  | number (digits : Nat) (blanks : Bool) (value : Int)
  | name (t : Text) (changed : Text)
  | lower (t : Text)
  | whole (t : Text)
  | plain (t : Text)
  | nothing

def raised (t : Text) : Text := t.map Text.upperLetter

def lowered (t : Text) : Text := t.map Char.toLower

def clockText (m : Moment) : Text :=
  twoDigits m.hour ++ ':' :: twoDigits m.minute ++ ':' :: twoDigits m.second

def shortDate (m : Moment) : Text :=
  twoDigits m.month ++ '/' :: twoDigits m.day ++ '/' :: twoDigits (m.year % 100)

def fieldValue? (m : Moment) : (letter : Char) → Option (FieldValue × List Char)
  | '%' => some (.plain "%", ['E', 'O'])
  | 'Z' => some (.plain [], ['E', 'O'])
  | 'z' => some (.nothing, ['E', 'O'])
  | 'n' => some (.plain "\n", ['E', 'O'])
  | 't' => some (.plain "\t", ['E', 'O'])
  | 'a' => some (.name (m.dayName.take 3) (raised (m.dayName.take 3)), [])
  | 'A' => some (.name m.dayName (raised m.dayName), [])
  | 'b' => some (.name (m.monthName.take 3) (raised (m.monthName.take 3)), ['O'])
  | 'h' => some (.name (m.monthName.take 3) (raised (m.monthName.take 3)), ['O'])
  | 'B' => some (.name m.monthName (raised m.monthName), ['O'])
  | 'p' => some (.name m.dayHalf (lowered m.dayHalf), ['E', 'O'])
  | 'P' => some (.lower m.dayHalf, ['E', 'O'])
  | 'c' => some (.whole (m.dayName.take 3 ++ ' ' :: m.monthName.take 3 ++
      ' ' :: (Text.ofNat m.day).leftpad 2 ' ' ++ ' ' :: clockText m ++
      ' ' :: Text.ofNat m.year), ['E'])
  | 'x' => some (.whole (shortDate m), ['E'])
  | 'D' => some (.whole (shortDate m), [])
  | 'X' => some (.whole (clockText m), ['E'])
  | 'T' => some (.whole (clockText m), ['E', 'O'])
  | 'R' => some (.whole (twoDigits m.hour ++ ':' :: twoDigits m.minute), ['E', 'O'])
  | 'r' => some (.whole (twoDigits m.clockHour ++ ':' :: twoDigits m.minute ++
      ':' :: twoDigits m.second ++ ' ' :: m.dayHalf), ['E', 'O'])
  | 'F' => some (.whole (Text.ofNat m.year ++ '-' :: twoDigits m.month ++
      '-' :: twoDigits m.day), [])
  | 'C' => some (.number 1 false (m.year / 100), ['E', 'O'])
  | 'Y' => some (.number 1 false m.year, ['E'])
  | 'y' => some (.number 2 false (m.year % 100 : Nat), ['E', 'O'])
  | 'm' => some (.number 2 false m.month, ['O'])
  | 'd' => some (.number 2 false m.day, ['O'])
  | 'e' => some (.number 2 true m.day, ['O'])
  | 'H' => some (.number 2 false m.hour, ['O'])
  | 'I' => some (.number 2 false m.clockHour, ['O'])
  | 'k' => some (.number 2 true m.hour, ['O'])
  | 'l' => some (.number 2 true m.clockHour, ['O'])
  | 'M' => some (.number 2 false m.minute, ['O'])
  | 'S' => some (.number 2 false m.second, ['O'])
  | 'j' => some (.number 3 false (m.yearDay + 1), ['O'])
  | 's' => some (.plain (Text.ofInt m.epochSeconds), ['E', 'O'])
  | 'u' => some (.number 1 false ((m.weekDay + 6) % 7 + 1 : Nat), ['E', 'O'])
  | 'w' => some (.number 1 false m.weekDay, ['O'])
  | 'U' => some (.number 2 false (m.weekFrom 0), ['O'])
  | 'W' => some (.number 2 false (m.weekFrom 1), ['O'])
  | 'V' => some (.number 2 false m.weekDate.2, ['O'])
  | 'G' => some (.number 1 false m.weekDate.1, ['O'])
  | 'g' => some (.number 2 false (m.weekDate.1 % 100 : Nat), ['O'])
  | _ => none

def FieldSpec.fit (s : FieldSpec) (t : Text) : Text :=
  t.leftpad s.width (if s.pad = some '0' then '0' else ' ')

def FieldSpec.number (s : FieldSpec) (digits : Nat) (blanks : Bool) (value : Int) : Text :=
  let pad := if blanks ∧ s.pad ≠ some '0' ∧ s.pad ≠ some '-' then some '_' else s.pad
  let size := max digits s.width
  let shown := Text.ofInt value
  if pad = some '-' then s.fit shown
  else if pad = some '_' then shown.leftpad size ' '
  else if value < 0 then '-' :: (Text.ofNat value.natAbs).leftpad (size - 1) '0'
  else shown.leftpad size '0'

def FieldSpec.show (s : FieldSpec) : FieldValue → Text
  | .number digits blanks value => s.number digits blanks value
  | .name t changed => s.fit (if s.changeCase then changed else if s.upper then raised t else t)
  | .lower t => s.fit (lowered t)
  | .whole t =>
    let fitted := s.fit t
    if s.upper then raised fitted else fitted
  | .plain t => s.fit t
  | .nothing => []

def FieldValue.isSilent : FieldValue → Bool
  | .nothing => true
  | _ => false

def takeFlags (s : FieldSpec) : Text → FieldSpec × Text
  | '_' :: t => takeFlags { s with pad := some '_' } t
  | '-' :: t => takeFlags { s with pad := some '-' } t
  | '0' :: t => takeFlags { s with pad := some '0' } t
  | '^' :: t => takeFlags { s with upper := true } t
  | '#' :: t => takeFlags { s with changeCase := true } t
  | t => (s, t)

def takeModifier (s : FieldSpec) : Text → FieldSpec × Text
  | 'E' :: t => ({ s with modifier := some 'E' }, t)
  | 'O' :: t => ({ s with modifier := some 'O' }, t)
  | t => (s, t)

def takeField (t : Text) : FieldSpec × Text × Nat :=
  let (s, afterFlags) := takeFlags {} t
  let digits := afterFlags.takeWhile Char.isDigit
  let width := digits.foldl (fun n c => 10 * n + (c.toNat - '0'.toNat)) 0
  let (s, rest) := takeModifier { s with width := width } (afterFlags.drop digits.length)
  (s, rest, t.length - rest.length)

def FieldSpec.takes (s : FieldSpec) (modifiers : List Char) : Bool :=
  s.modifier.all modifiers.contains

/-- The two letters of the short month, the one field whose change of case holds even where the
field is refused for its modifier. -/
def isShortMonth (letter : Text) : Bool := letter = "b" || letter = "h"

/-- The field of a letter, written for the moment; a field that is not known, or does not take its
modifier, is the text `raw`. None when a field that writes anything is as wide as the whole text may
be. -/
def FieldSpec.write? (s : FieldSpec) (m : Moment) (limit : Nat) (letter : Char) (raw : Text) :
    Option Text :=
  let shown := match fieldValue? m letter with
    | some (value, modifiers) => if s.takes modifiers then value else .plain raw
    | none => .plain raw
  if limit ≤ s.width && !shown.isSilent then none else some (s.show shown)

/-- The pieces of a format, each written for the moment; none as soon as a field is too wide. `fuel`
counts the characters of the format. -/
def pieces (m : Moment) (limit : Nat) : (fuel : Nat) → Text → Option (List Text)
  | 0, _ => some []
  | _, [] => some []
  | fuel + 1, '%' :: t =>
    let (s, rest, skipped) := takeField t
    let unknown (last : Text) : Text :=
      let raw := '%' :: t.take skipped ++ last
      if s.upper || (s.changeCase && isShortMonth last) then raised raw else raw
    match rest with
    | [] => if limit ≤ s.width then none else some [s.fit (unknown [])]
    | c :: rest => do
      let shown ← s.write? m limit c (unknown [c])
      let shownRest ← pieces m limit fuel rest
      return shown :: shownRest
  | fuel + 1, c :: t => (pieces m limit fuel t).map ([c] :: ·)

/-- Writes the fields that carry no flags and that no format of the clock has: microseconds, and the
two zone fields, which are empty. What follows a NUL is not read. -/
def expandOwnFields (m : Moment) : Text → Text
  | [] => []
  | '\x00' :: _ => []
  | ['%'] => ['%']
  | '%' :: '\x00' :: _ => ['%']
  | '%' :: c :: t =>
    if c = 'f' then (Text.ofNat m.microsecond).leftpad 6 '0' ++ expandOwnFields m t
    else if c = 'z' ∨ c = 'Z' then expandOwnFields m t
    else '%' :: c :: expandOwnFields m t
  | c :: t => c :: expandOwnFields m t

/-- The size from which on a written text is given up: the first doubling of 1024 that is 256 times
the length of the format. -/
def sizeLimit (length : Nat) : Nat := 1024 <<< Nat.log2 (2 * ((256 * length + 1023) / 1024) - 1)

def format (m : Moment) (fmt : Text) : Text :=
  let fmt := expandOwnFields m fmt
  let limit := sizeLimit fmt.length
  match pieces m limit fmt.length fmt with
  | none => []
  | some ps => if ps.flatten.length < limit then ps.flatten else []

def defaultFormat : Text := "%b %d %Y"

/-- The text of a date: `today` is the date of the moment, `today` with a blank and a format is the
moment written by it, and any other text stays. -/
def dateText (m : Moment) (t : Text) : Text :=
  if t = "today" then format m defaultFormat
  else match Text.after? "today " t with
    | some fmt => format m fmt
    | none => t

end SlideDeck.Calendar
