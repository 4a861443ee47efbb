import SlideDeck.Host.Basic
import SlideDeck.Text.Blank
import SlideDeck.Text.Lines
import SlideDeck.Text.ShellWord

/-!
Shell commands: run for their lines of output while a deck is read, or on the terminal while it is
shown. A command that fails does not end the run; one that cannot be handed to the shell does.
-/

namespace SlideDeck.Command

variable {σ : Type}

/-- What stands in a deck for the output of a command: its lines, or, when it failed without any,
its error text, or, when there is none, a line that says so. -/
def shownLines : CommandOutcome → List Text
  | .notStarted reason => [reason]
  | .finished output errors status =>
    match Text.boundaryLines output with
    | [] =>
      if status = 0 then []
      else match (Text.boundaryLines errors).filter fun l => Text.strip l ≠ [] with
        | [] => [Text.concat ["command failed with status ", Text.ofInt status]]
        | ls => ls
    | ls => ls

/-- What the shell makes of a command. -/
def outcome (command : Text) : Act σ CommandOutcome := do
  let h := (← get).host
  if h.refusesCommand command then throw (.refused .command)
  return h.shell command

def capture (command : Text) : Act σ (List Text) := do
  Act.note (.capture command)
  let outcome ← outcome command
  match outcome with
  | .notStarted reason => Act.warn (.embeddedNotStarted command reason)
  | .finished _ _ status => if status ≠ 0 then Act.warn (.embeddedStatus command status)
  return shownLines outcome

/-- Runs a command on the terminal and gives its status, -1 when it cannot be started. -/
def runAttached (command : Text) : Act σ Int := do
  Act.note (.attached command)
  match ← outcome command with
  | .notStarted reason =>
    Act.warn (.attachedNotStarted command reason)
    return -1
  | .finished _ _ status => return status

def editorLine (editor path : Text) : Text := editor ++ ' ' :: Text.shellWord path

end SlideDeck.Command
