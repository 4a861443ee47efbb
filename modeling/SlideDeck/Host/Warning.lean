import SlideDeck.Text.Quoted

/-!
What a run warns of while it goes on, as causes, with the wording of each.
-/

namespace SlideDeck

inductive Warning where
  | embeddedNotStarted (command reason : Text)
  | embeddedStatus (command : Text) (status : Int)
  | attachedNotStarted (command reason : Text)
  | execStatus (command : Text) (status : Int)
  | unknownFont (font used : Text)
  | notANumber (name value : Text)
  | notIncluded (path reason : Text)
  | unknownForeground (color : Option Text)
  | unknownColor (color : Option Text)
deriving DecidableEq, Repr

namespace Warning

def colorName : Option Text → Text
  | some name => Text.quoted name
  | none => "None"

def message : Warning → Text
  | embeddedNotStarted command reason =>
    Text.concat ["Embedded command ", Text.quoted command, " failed: ", reason]
  | embeddedStatus command status =>
    Text.concat ["Embedded command ", Text.quoted command, " exited with status ",
      Text.ofInt status]
  | attachedNotStarted command reason =>
    Text.concat ["Command ", Text.quoted command, " failed: ", reason]
  | execStatus command status =>
    Text.concat ["--exec ", Text.quoted command, " exited with status ", Text.ofInt status]
  | unknownFont font used =>
    Text.concat ["Unknown figlet font ", Text.quoted font, ", using ", Text.quoted used]
  | notANumber name value =>
    Text.concat ["Ignoring ", name, "=", Text.quoted value, ": not a number"]
  | notIncluded path reason => Text.concat ["Cannot include ", Text.quoted path, ": ", reason]
  | unknownForeground color => Text.concat ["Ignoring unknown foreground color ", colorName color]
  | unknownColor color => Text.concat ["Ignoring unknown color ", colorName color]

end Warning

end SlideDeck
