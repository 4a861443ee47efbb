import SlideDeck.Markup.Glyph

/-!
Segments: stretches of neighbouring symbols of one run, which are drawn at once. The main statement
is `glyphs_segments`: the segments of glyphs hold exactly these glyphs, in order.
-/

namespace SlideDeck.Layout

structure Segment (α : Type) where
  style : Style
  run : Nat
  symbols : List α
deriving DecidableEq, Repr

/-- Puts a glyph before segments; it joins the first one when that has its run and style. -/
def consGlyph {α : Type} (g : Glyph α) : List (Segment α) → List (Segment α)
  | [] => [⟨g.style, g.run, [g.symbol]⟩]
  | s :: ss =>
    if s.run = g.run ∧ s.style = g.style then { s with symbols := g.symbol :: s.symbols } :: ss
    else ⟨g.style, g.run, [g.symbol]⟩ :: s :: ss

def segments {α : Type} (gs : List (Glyph α)) : List (Segment α) := gs.foldr consGlyph []

def Segment.glyphs {α : Type} (s : Segment α) : List (Glyph α) :=
  s.symbols.map (⟨·, s.style, s.run⟩)

theorem glyphs_consGlyph {α : Type} (g : Glyph α) (ss : List (Segment α)) :
    (consGlyph g ss).flatMap Segment.glyphs = g :: ss.flatMap Segment.glyphs := by
  cases ss with
  | nil => rfl
  | cons s ss =>
    by_cases h : s.run = g.run ∧ s.style = g.style
    · obtain ⟨hrun, hstyle⟩ := h
      simp [consGlyph, Segment.glyphs, hrun, hstyle]
    · simp [consGlyph, Segment.glyphs, h]

theorem glyphs_segments {α : Type} (gs : List (Glyph α)) :
    (segments gs).flatMap Segment.glyphs = gs := by
  induction gs with
  | nil => rfl
  | cons g gs ih =>
    have hcons : segments (g :: gs) = consGlyph g (segments gs) := rfl
    rw [hcons, glyphs_consGlyph, ih]

theorem symbols_consGlyph_ne_nil {α : Type} (g : Glyph α) {ss : List (Segment α)}
    (h : ∀ s ∈ ss, s.symbols ≠ []) : ∀ s ∈ consGlyph g ss, s.symbols ≠ [] := by
  cases ss with
  | nil => simp [consGlyph]
  | cons t ts =>
    intro s hs
    simp only [consGlyph] at hs
    split at hs
    · rcases List.mem_cons.1 hs with rfl | hs
      · simp
      · exact h s (List.mem_cons_of_mem _ hs)
    · rcases List.mem_cons.1 hs with rfl | hs
      · simp
      · exact h s hs

theorem symbols_ne_nil {α : Type} (gs : List (Glyph α)) : ∀ s ∈ segments gs, s.symbols ≠ [] := by
  induction gs with
  | nil => simp [segments]
  | cons g gs ih => exact symbols_consGlyph_ne_nil g ih

end SlideDeck.Layout
