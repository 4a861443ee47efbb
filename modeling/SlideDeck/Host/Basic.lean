import SlideDeck.Calendar.Moment
import SlideDeck.Fault
import SlideDeck.Host.Warning
import SlideDeck.Surface.Op

/-!
The host of a run and the actions on it. `Host` is what the run finds: files, a shell, a clock, a
terminal. By default it is scripted: its clock stands still, it takes every command and every text,
and it waits for every delay that is not negative. `Journal` is what the run leaves behind: every
call in order, and every warning. An action changes both together with the surface that shows the
deck, and may end in a fault; the state reached until then is kept.
-/

namespace SlideDeck

inductive CommandOutcome where
  | notStarted (reason : Text)
  | finished (output errors : Text) (status : Int)
deriving DecidableEq, Repr

structure Lettering where
  hasFont : Text → Bool
  render : (font : Text) → (width : Nat) → Text → Text
  /-- Whether the width has room for every letter of a text. -/
  hasRoom : (font : Text) → (width : Nat) → Text → Bool := fun _ _ _ => true

structure Host where
  files : Files := {}
  shell : Text → CommandOutcome
  /-- Whether a command may hold a NUL. -/
  nulCommands : Bool := true
  clock : Calendar.Moment
  /-- What the clock shows when it is read for the `k`-th time. -/
  clockAt : (k : Nat) → Calendar.Moment := fun _ => clock
  /-- What the timer for pauses has counted after `k` of them; none when it waits without counting,
  however long it is to wait. -/
  timer : Option ((k : Nat) → Nat) := none
  lettering : Lettering
  /-- The `k`-th random draw below `n`. -/
  draw : (k n : Nat) → Nat
  /-- The pause that the user breaks off, counted from 1. -/
  interruptAt : Option Nat := none
  rows : Int := 24
  columns : Int := 80
  refuses : TerminalFunction → Bool := fun _ => false
  /-- Whether the screen has edges. Then its last cell cannot be filled, and no cursor goes above or
  left of it. -/
  edged : Bool := true
  typed : List (List UInt8) := []

namespace Host

/-- What the `k`-th pause ends in before it has begun. -/
def pauseFault? (h : Host) (k : Nat) (d : Delay) : Option Fault :=
  match h.timer.bind fun counted => d.timerProblem? (counted k) with
  | some p => some (.refused (.timer p))
  | none => if d.isNegative then some .negativePause else none

def refusesCommand (h : Host) (command : Text) : Bool := !h.nulCommands && command.contains '\x00'

/-- Whether the screen refuses a call because of where it draws. -/
def offScreen (h : Host) : TerminalCall → Bool
  | .drawText y x t => h.edged ∧ y = h.rows - 1 ∧ h.columns ≤ x + t.length
  | .moveTo y x => h.edged ∧ (y < 0 ∨ x < 0)
  | _ => false

/-- Why a terminal call is refused. What it draws is looked at first. -/
def rejection? (h : Host) (c : TerminalCall) : Option Rejection :=
  if h.refuses .drawNul && c.holdsNul then some .text
  else match c.function? with
    | some f => if h.refuses f || h.offScreen c then some (.terminal f) else none
    | none => none

end Host

inductive Event where
  | terminal (c : TerminalCall)
  | pause (d : Delay)
  | emptyPause
  | capture (command : Text)
  | attached (command : Text)
  | asked (op : Op)
  | askedConsole (op : ConsoleOp)

structure Journal where
  events : Array Event := #[]
  warnings : Array Warning := #[]
  pauses : Nat := 0
  draws : Nat := 0
  readings : Nat := 0
  windows : Nat := 0
  fonts : List ((Text × Nat) × Text) := []

structure Stage (σ : Type) where
  host : Host
  journal : Journal := {}
  surface : σ
  included : Option Text := none

abbrev Act (σ : Type) := EStateM Fault (Stage σ)

namespace Act

variable {σ : Type}

def surface : Act σ σ := return (← get).surface

def modifySurface (f : σ → σ) : Act σ Unit := modify fun s => { s with surface := f s.surface }

def note (e : Event) : Act σ Unit :=
  modify fun s => { s with journal := { s.journal with events := s.journal.events.push e } }

def warn (w : Warning) : Act σ Unit :=
  modify fun s => { s with journal := { s.journal with warnings := s.journal.warnings.push w } }

/-- Waits, unless the host refuses to. The user may break a pause off. -/
def pause (d : Delay) : Act σ Unit := do
  note (.pause d)
  let s ← get
  if let some fault := s.host.pauseFault? s.journal.pauses d then throw fault
  modify fun s => { s with journal := { s.journal with pauses := s.journal.pauses + 1 } }
  let s ← get
  if s.host.interruptAt = some s.journal.pauses then throw .interrupted

def pauseWithoutLength {α : Type} : Act σ α := do
  note .emptyPause
  throw .noDelay

/-- The greatest number that can count the characters of a text, and the most of them that memory
holds. -/
def countLimit : Int := 9223372036854775807

@[inherit_doc countLimit]
def memoryLimit : Int := 1099511627776

def copies (n : Int) (c : Char) : Act σ Text := do
  if countLimit < n then throw .tooManyCopies
  if memoryLimit < n then throw .outOfMemory
  return Text.rule n c

def drawBelow (n : Nat) : Act σ Nat :=
  modifyGet fun s =>
    (s.host.draw s.journal.draws n,
      { s with journal := { s.journal with draws := s.journal.draws + 1 } })

def readClock : Act σ Calendar.Moment :=
  modifyGet fun s =>
    (s.host.clockAt s.journal.readings,
      { s with journal := { s.journal with readings := s.journal.readings + 1 } })

def readFile (path : Text) : Act σ (Except PathFault Text) := do
  return ((← get).host.files.read path).map Text.Utf8.decode

/-- Makes a terminal call. A call that is refused is in the journal all the same. -/
def call (c : TerminalCall) : Act σ Unit := do
  note (.terminal c)
  match (← get).host.rejection? c with
  | some r => throw (.refused r)
  | none => pure ()

/-- Does without what the terminal refuses. A text that it cannot take at all is no such case. -/
def tolerant (act : Act σ Unit) : Act σ Unit :=
  tryCatch act fun
    | .refused (.terminal _) => pure ()
    | fault => throw fault

def saveScreen (rows columns : Int) : Act σ Window := do
  call (.newWindow rows columns 0 0)
  let window := (← get).journal.windows + 1
  modify fun s => { s with journal := { s.journal with windows := window } }
  call (.copyWindow 0 window)
  return window

def readTyped (y x : Int) (bytes : Nat) : Act σ (List UInt8) := do
  call (.readText y x bytes)
  modifyGet fun s => match s.host.typed with
    | [] => ([], s)
    | line :: rest => (line.take bytes, { s with host := { s.host with typed := rest } })

end Act

end SlideDeck
