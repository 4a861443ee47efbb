import SlideDeck.Text.Real

/-!
Lengths of time. A deck gives whole seconds of any size, settings give reals; the two are kept
apart because a whole delay stays exact.
-/

namespace SlideDeck

inductive Delay where
  | whole (n : Int)
  | real (x : Float)

/-- Why a timer does not wait for a delay. -/
inductive TimerProblem where
  | notNumber
  | realTooLong
  | wholeTooLong
  /-- The delay ends when the timer can count no further. -/
  | endsTooLate
deriving DecidableEq, Repr

def TimerProblem.message : TimerProblem → Text
  | notNumber => "Invalid value NaN (not a number)"
  | realTooLong => "timestamp out of range for platform time_t"
  | wholeTooLong => "timestamp too large to convert to C _PyTime_t"
  | endsTooLate => "[Errno 22] Invalid argument"

namespace Delay

def isNegative : Delay → Bool
  | .whole n => n < 0
  | .real x => x < 0.0

def orZero : Delay → Delay
  | .whole n => .whole (max 0 n)
  | .real x => if x > 0.0 then .real x else .whole 0

def twice : Delay → Delay
  | .whole n => .whole (n * 2)
  | .real x => .real (x * 2.0)

def ofTenths (n : Int) : Float :=
  let x := Float.ofScientific n.natAbs true 1
  if n < 0 then -x else x

/-- The delay after one typed character: the base delay, made up to five times as long by `draw`,
which lies between 0 and 19. None when a whole delay grows past every double. -/
def typing? (base : Delay) (draw : Nat) : Option Delay :=
  match base with
  | .whole n =>
    let x := ofTenths (n * (5 + draw) * 2)
    if x.isInf then none else some (.real x)
  | .real x => some (.real (x * (5 + draw).toFloat / 5.0))

/-- A timer counts nanoseconds, as a number of 64 bits with a sign. -/
def timerLimit : Int := 9223372036854775808

/-- What keeps a timer that has counted so far from waiting for a delay. That a delay is negative is
no problem of the timer. -/
def timerProblem? (counted : Nat) : Delay → Option TimerProblem
  | .whole n =>
    let length := n * 1000000000
    if length < -timerLimit ∨ timerLimit ≤ length then some .wholeTooLong
    else if timerLimit ≤ counted + length then some .endsTooLate
    else none
  | .real x =>
    let length := x * 1000000000.0
    if x.isNaN then some .notNumber
    else if length < -9223372036854775808.0 ∨ 9223372036854775808.0 ≤ length then some .realTooLong
    else if timerLimit ≤ counted + length.ceil.toUInt64.toNat then some .endsTooLate
    else none

def milliseconds : Delay → Nat
  | .whole n => n.toNat * 1000
  | .real x => (x * 1000.0).toUInt64.toNat

end Delay

end SlideDeck
