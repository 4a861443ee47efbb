import SlideDeck.Delay
import SlideDeck.Host.HugeText
import SlideDeck.Text.Upper

/-!
Settings, as environment variables give them. A variable that is empty counts as absent; a number
that cannot be read is left at its default with a warning.
-/

namespace SlideDeck

structure Settings where
  seconds : Delay := .real 1.0
  hugeFont : Text := HugeText.standardFont
  editor : Text := "vim"
  typeDelay : Delay := .real 0.02
  slideDelay : Delay := .real 0.05
  logLevel : Text := "WARNING"
  logFile : Option Text := none
  textWidth : Int := 80
  latexWidth : Int := 50

abbrev Environment := List (Text × Text)

namespace Environment

/-- The value of a variable, unless it is empty. -/
def value? (env : Environment) (name : Text) : Option Text :=
  match env.find? (·.1 = name) with
  | some (_, []) => none
  | some (_, value) => some value
  | none => none

def delay (env : Environment) (name : Text) (default : Delay) : Delay × List Warning :=
  match env.value? name with
  | none => (default, [])
  | some value =>
    match Text.readReal? value with
    | some x => (.real x, [])
    | none => (default, [.notANumber name value])

end Environment

namespace Settings

def ofEnvironment (env : Environment) : Settings × List Warning :=
  let base : Settings := {}
  let (seconds, w₁) := env.delay "TERMPP_SECONDS" base.seconds
  let (typeDelay, w₂) := env.delay "TERMPP_TYPE_DELAY" base.typeDelay
  let (slideDelay, w₃) := env.delay "TERMPP_SLIDE_DELAY" base.slideDelay
  ({ base with
      seconds := seconds
      hugeFont := (env.value? "TERMPP_HUGE_FONT").getD base.hugeFont
      editor := ((env.value? "TERMPP_EDITOR").or (env.value? "EDITOR")).getD base.editor
      typeDelay := typeDelay
      slideDelay := slideDelay
      logLevel := Text.upper ((env.value? "TERMPP_LOG_LEVEL").getD base.logLevel)
      logFile := env.value? "TERMPP_LOG_FILE" },
    w₁ ++ w₂ ++ w₃)

end Settings

end SlideDeck
