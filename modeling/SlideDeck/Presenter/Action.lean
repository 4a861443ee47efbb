import SlideDeck.Text.Basic

/-!
What the user of a presentation can do, and the keys for it.
-/

namespace SlideDeck

inductive Action where
  | advance
  | retreat
  | quit
  | reload
  | firstPage
  | jump
  | help
  | edit
  | resize
deriving DecidableEq, Repr

namespace Action

def name : Action → Text
  | advance => "advance"
  | retreat => "retreat"
  | quit => "quit"
  | reload => "reload"
  | firstPage => "first_page"
  | jump => "jump"
  | help => "help"
  | edit => "edit"
  | resize => "resize"

def named? (name : Text) : Option Action :=
  [advance, retreat, quit, reload, firstPage, jump, help, edit, resize].find? (·.name = name)

def downKey : Int := 258

def upKey : Int := 259

def leftKey : Int := 260

def rightKey : Int := 261

def resizeKey : Int := 410

def escapeKey : Int := 27

def keys : List (Action × Text × List Int) := [
  ⟨advance, "dDjJlL", [downKey, rightKey]⟩,
  ⟨retreat, "aAbBhHkK", [upKey, leftKey]⟩,
  ⟨resize, "zZ", [resizeKey]⟩,
  ⟨reload, "rR", []⟩,
  ⟨quit, "qQ", [escapeKey]⟩,
  ⟨firstPage, "sS", []⟩,
  ⟨edit, "eE", []⟩,
  ⟨jump, "gG", []⟩,
  ⟨help, "?", []⟩]

def ofKey (code : Int) : Action :=
  match keys.find? fun (_, chars, codes) =>
      codes.contains code || chars.any fun c => (c.toNat : Int) == code with
  | some (action, _) => action
  | none => advance

end Action

end SlideDeck
