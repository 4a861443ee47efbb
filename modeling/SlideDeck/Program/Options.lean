import SlideDeck.Delay
import SlideDeck.Host.Files

/-!
The command line. Options may stand before and after the file, long ones may be cut short, values
may be attached, and `--` ends the options. Reading goes in two steps: `Word.ofText` settles for
each argument whether it is an option, and `Reading.takeWords` then takes options and files from
left to right.
-/

namespace SlideDeck

inductive Mode where
  | interactive
  | autoplay
  | handout
  | latex
deriving DecidableEq, Repr

namespace Mode

def name : Mode → Text
  | interactive => "ncurses"
  | autoplay => "autoplay"
  | handout => "txt"
  | latex => "latex"

def all : List Mode := [interactive, autoplay, handout, latex]

def named? (name : Text) : Option Mode := all.find? (·.name = name)

end Mode

/-- What an option was given: it does not occur, it occurs with the end mark for a value and so
holds none, or it has a value. -/
inductive Given (α : Type) where
  | absent
  | hollow
  | value (a : α)
deriving DecidableEq, Repr

structure Options where
  file : Text
  /-- No mode at all when the option for it is hollow. -/
  mode : Option Mode := some .interactive
  output : Given Text := .absent
  seconds : Given Float := .absent

namespace Options

def outputName? (options : Options) : Option Text :=
  match options.output with
  | .value (c :: name) => some (c :: name)
  | _ => none

end Options

inductive Switch where
  | help
  | mode
  | output
  | seconds
  | version
deriving DecidableEq, Repr

namespace Switch

def all : List Switch := [help, mode, output, seconds, version]

def spellings : Switch → Text × Text
  | help => ("-h", "--help")
  | mode => ("-t", "--type")
  | output => ("-o", "--output")
  | seconds => ("-s", "--seconds")
  | version => ("-v", "--version")

def takesValue : Switch → Bool
  | help | version => false
  | mode | output | seconds => true

def table : List (Text × Switch) := all.flatMap fun s => [(s.spellings.1, s), (s.spellings.2, s)]

def spelled? (t : Text) : Option Switch := (table.find? (·.1 = t)).map (·.2)

def display (s : Switch) : Text := Text.concat [s.spellings.1, "/", s.spellings.2]

end Switch

inductive Refusal where
  | help
  | version
  | wrong (message : Text)
deriving DecidableEq, Repr

namespace Refusal

def ofSwitch (s : Switch) (message : Text) : Refusal :=
  wrong (Text.concat ["argument ", s.display, ": ", message])

def usage : Text := Text.concat [
  "usage: termpp [-h] [-t \x7bncurses,autoplay,txt,latex\x7d] [-o OUTPUT] [-s SECONDS]\n",
  "              [-v]\n",
  "              file\n"]

def details : Text := Text.concat [
  "\n",
  "Present a text slide deck in the terminal, or convert it to another format.\n",
  "\n",
  "positional arguments:\n",
  "  file                  presentation source file\n",
  "\n",
  "options:\n",
  "  -h, --help            show this help message and exit\n",
  "  -t \x7bncurses,autoplay,txt,latex\x7d, --type \x7bncurses,autoplay,txt,latex\x7d\n",
  "                        output type (default: ncurses)\n",
  "  -o OUTPUT, --output OUTPUT\n",
  "                        write output to this file (txt and latex)\n",
  "  -s SECONDS, --seconds SECONDS\n",
  "                        seconds to wait between slides with -t autoplay\n",
  "  -v, --version         show program's version number and exit\n"]

def status : Refusal → Nat
  | help | version => 0
  | wrong _ => 2

def output : Refusal → Text
  | help => usage ++ details
  | version => "termpp - text presentation program 1.3.1\n"
  | wrong _ => []

def errors : Refusal → Text
  | help | version => []
  | wrong message => Text.concat [usage, "termpp: error: ", message, "\n"]

end Refusal

/-- The value in the argument of an option: none, one after the equals sign of a long spelling, or
one after the letter of a short one, with an equals sign between them or not. -/
inductive Attached where
  | nothing
  | assigned (value : Text)
  | joined (value : Text)
deriving DecidableEq, Repr

inductive Word where
  | plain (t : Text)
  | endMark
  | switch (s : Switch) (attached : Attached)
  | unknown (t : Text)
deriving DecidableEq, Repr

namespace Word

def splitEquals? (t : Text) : Option (Text × Text) :=
  match t.dropWhile (· ≠ '=') with
  | [] => none
  | _ :: rest => some (t.takeWhile (· ≠ '='), rest)

/-- Whether a text after a hyphen is a number: digits, or a point between digits and at least one
digit. A newline at its end does not matter. -/
def isNumber (t : Text) : Bool :=
  let t := if t.getLast? = some '\n' then t.dropLast else t
  let rest := t.dropWhile Text.isDecimalDigit
  match rest with
  | [] => t ≠ []
  | '.' :: part => part ≠ [] && part.all Text.isDecimalDigit
  | _ => false

/-- The options that a text which is no exact spelling may stand for, each with its spelling: long
ones that it begins, up to an equals sign, or the short one of its first letter with the rest as
value. -/
def candidates (t : Text) : List (Text × Word) :=
  match t with
  | '-' :: '-' :: _ =>
    let (lead, attached) := match splitEquals? t with
      | some (lead, value) => (lead, Attached.assigned value)
      | none => (t, Attached.nothing)
    (Switch.table.filter fun (spelling, _) => Text.startsWith spelling lead).map
      fun (spelling, s) => (spelling, switch s attached)
  | _ =>
    (Switch.table.filter fun (spelling, _) => spelling = t.take 2).map
      fun (spelling, s) => (spelling, switch s (.joined (t.drop 2)))

def assigned? (t : Text) : Option Word := do
  let (spelling, value) ← splitEquals? t
  let s ← Switch.spelled? spelling
  return switch s (if spelling = s.spellings.1 then .joined value else .assigned value)

def ofText (t : Text) : Except Refusal Word :=
  match t with
  | [] => .ok (plain t)
  | c :: rest =>
    if c ≠ '-' then .ok (plain t)
    else match Switch.spelled? t with
      | some s => .ok (switch s .nothing)
      | none =>
        if rest = [] then .ok (plain t)
        else match assigned? t with
          | some word => .ok word
          | none =>
            match candidates t with
            | [(_, word)] => .ok word
            | [] => .ok (if isNumber rest || t.contains ' ' then plain t else unknown t)
            | several =>
              .error (.wrong (Text.concat ["ambiguous option: ", t, " could match ",
                Text.join ", " (several.map (·.1))]))

def ofArguments : List Text → Except Refusal (List Word)
  | [] => .ok []
  | t :: rest =>
    if t = "--" then .ok (endMark :: rest.map plain)
    else do
      let word ← ofText t
      let words ← ofArguments rest
      return word :: words

end Word

structure Reading where
  file : Option Text := none
  mode : Option Mode := some .interactive
  output : Given Text := .absent
  seconds : Given Float := .absent
  extras : List Text := []

namespace Reading

def endText : Text := "--"

def hollow (r : Reading) : Switch → Reading
  | .mode => { r with mode := none }
  | .output => { r with output := .hollow }
  | .seconds => { r with seconds := .hollow }
  | .help | .version => r

def take (r : Reading) (s : Switch) (value : Text) : Except Refusal Reading :=
  match s with
  | .help => .error .help
  | .version => .error .version
  | .mode =>
    if value = endText then .ok (r.hollow s)
    else match Mode.named? value with
      | some m => .ok { r with mode := some m }
      | none =>
        .error (.ofSwitch s (Text.concat ["invalid choice: ", Text.quoted value,
          " (choose from ", Text.join ", " (Mode.all.map fun m => Text.quoted m.name), ")"]))
  | .output => .ok (if value = endText then r.hollow s else { r with output := .value value })
  | .seconds =>
    if value = endText then .ok (r.hollow s)
    else match Text.readReal? value with
      | some x => .ok { r with seconds := .value x }
      | none => .error (.ofSwitch s (Text.concat ["invalid float value: ", Text.quoted value]))

def ignored (s : Switch) (value : Text) : Refusal :=
  .ofSwitch s (Text.concat ["ignored explicit argument ", Text.quoted value])

def missing (s : Switch) : Refusal := .ofSwitch s "expected one argument"

/-- Checks what is joined to the letter of an option that takes no value. It is read as the letters
of further options; the first of these that takes a value takes the rest of the text, or else the
next word. -/
def checkLetters (valueFollows : Bool) (s : Switch) : Text → Except Refusal Unit
  | [] => .error (ignored s [])
  | c :: rest =>
    match Switch.spelled? ['-', c], rest with
    | none, _ => .error (ignored s (c :: rest))
    | some next, [] => if next.takesValue && !valueFollows then .error (missing next) else .ok ()
    | some next, _ => if next.takesValue then .ok () else checkLetters valueFollows next rest

def startsPlain : List Word → Bool
  | .plain _ :: _ => true
  | _ => false

/-- Takes an option, with the words that follow it: what is left of these. An option that takes no
value ends the reading. -/
def takeSwitch (r : Reading) (s : Switch) (attached : Attached) (rest : List Word) :
    Except Refusal (Reading × List Word) := do
  if s.takesValue then
    match attached, rest with
    | .assigned value, _ | .joined value, _ => return (← r.take s value, rest)
    | .nothing, .plain value :: left => return (← r.take s value, left)
    | .nothing, _ => throw (missing s)
  else
    match attached with
    | .nothing => pure ()
    | .assigned value => throw (ignored s value)
    | .joined letters => checkLetters (startsPlain rest) s letters
    return (← r.take s [], rest)

def leave (r : Reading) (ts : List Text) : Reading := { r with extras := r.extras ++ ts }

/-- Takes the words from left to right. The first plain word is the file; an end mark next to it
goes with it. `fuel` counts the words. -/
def takeWords (r : Reading) : (fuel : Nat) → List Word → Except Refusal Reading
  | 0, _ => .ok r
  | _, [] => .ok r
  | fuel + 1, .switch s attached :: rest => do
    let (r, rest) ← r.takeSwitch s attached rest
    takeWords r fuel rest
  | fuel + 1, .unknown t :: rest => takeWords (r.leave [t]) fuel rest
  | fuel + 1, .endMark :: .plain t :: rest =>
    if r.file.isNone then takeWords { r with file := some t } fuel rest
    else takeWords (r.leave [endText, t]) fuel rest
  | fuel + 1, .endMark :: rest => takeWords (r.leave [endText]) fuel rest
  | fuel + 1, .plain t :: rest =>
    if r.file.isNone then
      let rest := match rest with
        | .endMark :: more => more
        | _ => rest
      takeWords { r with file := some t } fuel rest
    else takeWords (r.leave [t]) fuel rest

def needsOutput (mode : Option Mode) : Bool := mode = some .handout || mode = some .latex

/-- The options that were taken, unless something is missing, left over, or at odds. An output
without a name counts as none. -/
def finish (home : Place) (r : Reading) : Except Refusal Options :=
  match r.file with
  | none => .error (.wrong "the following arguments are required: file")
  | some file =>
    let options : Options := ⟨file, r.mode, r.output, r.seconds⟩
    if r.extras ≠ [] then
      .error (.wrong (Text.concat ["unrecognized arguments: ", Text.join " " r.extras]))
    else match options.outputName? with
      | none =>
        if needsOutput r.mode then
          .error (.wrong (Text.concat ["-t ", (r.mode.map Mode.name).getD [],
            " requires -o <file>"]))
        else .ok options
      | some output =>
        if PlainPath.ofText home output = PlainPath.ofText home file then
          .error (.wrong "don't use the input file name as the output file name")
        else .ok options

end Reading

def Options.ofArguments (home : Place) (args : List Text) : Except Refusal Options := do
  let words ← Word.ofArguments args
  let r ← Reading.takeWords {} words.length words
  r.finish home

end SlideDeck
