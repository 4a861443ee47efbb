import SlideDeck.Host.Display
import SlideDeck.Proofs.Faults
import SlideDeck.Surface.Screen

/-!
# The ink of a screen

What the terminal draws with after the calls in the journal (`Journal.pen`), next to what the screen
believes of it (`Screen.ink`). Most actions touch none of this: they preserve every predicate of the
ink, whether they end in a value or in a fault.
-/

namespace SlideDeck

def Pen.after (p : Pen) : Event → Pen
  | .terminal c => p.apply c
  | _ => p

/-- The pen of a terminal that starts with all attributes off, after the calls in a journal. -/
def Journal.pen (j : Journal) : Pen := j.events.toList.foldl Pen.after {}

theorem Journal.pen_push (j : Journal) (e : Event) :
    ({ j with events := j.events.push e } : Journal).pen = j.pen.after e := by
  unfold Journal.pen
  rw [Array.toList_push, List.foldl_append]
  rfl

/-- The attributes of a terminal, those that the screen believes to be on, the style to draw in, and
which calls the terminal refuses. -/
structure Ink where
  pen : Pen
  active : Style
  style : Style
  refuses : TerminalFunction → Bool

namespace Screen

def ink (s : Stage Screen) : Ink :=
  ⟨s.journal.pen, s.surface.active, s.surface.style, s.host.refuses⟩

theorem ink_journal {s : Stage Screen} {j : Journal} (h : j.pen = s.journal.pen) :
    ink { s with journal := j } = ink s := by simp only [ink, h]

/-- An outcome leaves an ink that satisfies a predicate, and no colour was looked up in vain. -/
def Leaves {α : Type} (P : Ink → Prop) : EStateM.Result Fault (Stage Screen) α → Prop
  | .ok _ t => P (ink t)
  | .error fault t => P (ink t) ∧ ∀ name, fault ≠ .noColorPair name

def Preserves {α : Type} (P : Ink → Prop) (x : Act Screen α) : Prop :=
  ∀ s, P (ink s) → Leaves P (x s)

/-- Preserving is a way of ending, so that it has the rules of that. -/
theorem preserves_iff_ends {α : Type} {P : Ink → Prop} {x : Act Screen α} :
    Preserves P x ↔
      Outcome.Ends (fun s => P (ink s)) Outcome.Any (fun e => ∀ name, e ≠ .noColorPair name) x := by
  constructor
  · intro h s hs
    have hleaves := h s hs
    rcases hx : x s with ⟨a, t⟩ | ⟨e, t⟩
    · rw [hx] at hleaves
      exact ⟨trivial, hleaves⟩
    · rw [hx] at hleaves
      exact ⟨hleaves.2, hleaves.1⟩
  · intro h s hs
    have hended := h s hs
    rcases hx : x s with ⟨a, t⟩ | ⟨e, t⟩
    · rw [hx] at hended
      exact hended.2
    · rw [hx] at hended
      exact ⟨hended.2, hended.1⟩

theorem Preserves.ends {α : Type} {P : Ink → Prop} {x : Act Screen α} (hx : Preserves P x) :
    Outcome.Ends (fun s => P (ink s)) Outcome.Any (fun e => ∀ name, e ≠ .noColorPair name) x :=
  preserves_iff_ends.1 hx

theorem preserves_modifySurface {P : Ink → Prop} {f : Screen → Screen}
    (h : ∀ b, (f b).active = b.active ∧ (f b).style = b.style) :
    Preserves P (Act.modifySurface f) := by
  intro s hs
  obtain ⟨hactive, hstyle⟩ := h s.surface
  have hink : ink { s with surface := f s.surface } = ink s := by simp only [ink, hactive, hstyle]
  show P (ink { s with surface := f s.surface })
  rw [hink]
  exact hs

end Screen

end SlideDeck
