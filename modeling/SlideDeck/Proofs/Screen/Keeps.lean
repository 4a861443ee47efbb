import SlideDeck.Proofs.Screen.Steps

/-!
# What actions keep

An action keeps a predicate of the stage if that holds after it whenever it held before, also when
the action is broken off (`Keeps`). Most actions on a screen leave the surface as it is, and so keep
every predicate of it (`OfSurface`).
-/

namespace SlideDeck.Screen

open Act

/-- An action keeps a predicate of the stage, whether it ends in a value or in a fault. -/
def Keeps {α : Type} (P : Stage Screen → Prop) (x : Act Screen α) : Prop :=
  ∀ s, P s → P (Outcome.state (x s))

def OfSurface (P : Screen → Prop) (s : Stage Screen) : Prop := P s.surface

theorem Keeps.tolerant {P : Stage Screen → Prop} {x : Act Screen Unit} (hx : Keeps P x) :
    Keeps P (tolerant x) :=
  Outcome.keeps_iff_ends.2 (tolerant_ends (Outcome.keeps_iff_ends.1 hx))

/-! ### Strokes

A stroke leaves the surface alone, and notes in the journal what it does. -/

/-- A predicate of the stage that does not hang on the journal, but perhaps on the fonts that were
chosen and on how often the clock was read. -/
class Lasting (P : Stage Screen → Prop) : Prop where
  journal : ∀ s j, j.fonts = s.journal.fonts → j.readings = s.journal.readings → P s →
    P { s with journal := j }

instance (P : Screen → Prop) : Lasting (OfSurface P) := ⟨fun _ _ _ _ h => h⟩

/-- Strokes keep it, whatever they may end in. -/
theorem Lasting.drawing {P : Stage Screen → Prop} [Lasting P] : Drawing P Outcome.Any where
  journal s j _ hfonts hreadings hs := Lasting.journal s j hfonts hreadings hs
  fault _ _ _ _ _ _ := trivial

section Strokes

variable {P : Stage Screen → Prop} [Lasting P]

theorem call_keeps (c : TerminalCall) : Keeps P (call c) :=
  Outcome.keeps_iff_ends.2
    (call_ends (fun s h => Lasting.journal s _ rfl rfl h) fun _ _ _ _ => trivial)

theorem drawAt_keeps (y x : Int) (t : Text) : Keeps P (drawAt y x t) :=
  Outcome.keeps_iff_ends.2 (Lasting.drawing.drawAt y x t)

theorem pause_keeps (d : Delay) : Keeps P (pause d) :=
  Outcome.keeps_iff_ends.2 (Lasting.drawing.pause d fun _ _ _ _ => trivial)

theorem saveScreen_keeps (rows columns : Int) : Keeps P (saveScreen rows columns) :=
  Outcome.keeps_iff_ends.2 (Lasting.drawing.saveScreen rows columns)

end Strokes

/-! ### Styles and rows -/

theorem applyStyle_keeps {P : Stage Screen → Prop} (style : Style)
    (hcall : ∀ s a, P s → P (noted s (.terminal (.attributeOn a))) ∧
      P (noted s (.terminal (.attributeOff a))))
    (hactive : ∀ s a, P s → P { s with surface := { s.surface with active := a } }) :
    Keeps P (applyStyle style) :=
  Outcome.keeps_iff_ends.2
    (applyStyle_ends (fun _ => trivial) (fun _ => trivial) hcall hactive style)

/-- What a lasting predicate must allow for text to keep it: the next row, and attributes that are
believed to be on. -/
theorem Lasting.writing {P : Stage Screen → Prop} [Lasting P] (hrow : Keeps P nextRow)
    (hactive : ∀ s a, P s → P { s with surface := { s.surface with active := a } }) :
    Writing P Outcome.Any :=
  Lasting.drawing.writing (Outcome.keeps_iff_ends.1 hrow) fun style =>
    Outcome.keeps_iff_ends.1 (applyStyle_keeps style
      (fun s _ h => ⟨Lasting.journal s _ rfl rfl h, Lasting.journal s _ rfl rfl h⟩) hactive)

end SlideDeck.Screen
