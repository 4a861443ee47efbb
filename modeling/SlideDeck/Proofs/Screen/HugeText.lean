import SlideDeck.Proofs.HugeText
import SlideDeck.Proofs.Screen.Framed
import SlideDeck.Proofs.Screen.InPlace

/-!
# Huge text on a screen

The rows of a huge text are printed like any other text, one after the other: each is cut at the
width of the page, and outside a frame its markers are interpreted (`huge_drawn`). They are asked
for at a width that leaves out one of the two margins, so that a row may be too long for the page.
-/

namespace SlideDeck

namespace Screen

open Act

variable {s u : Stage Screen}

/-- The lines that rows are printed in. -/
def hugeLines (b : Screen) (rows : List Text) : List Text :=
  HugeText.printed (!b.framed) b.textWidth rows

/-- The same lines outside a frame, with the style of each character. -/
def hugeGlyphs (b : Screen) (rows : List Text) : List (List (Glyph Char)) :=
  rows.flatMap fun row =>
    Layout.wrapGlyphs (· == ' ') b.textWidth (Glyph.ofText b.style (some row))

theorem symbols_hugeGlyphs {b : Screen} (hframed : b.framed = false) (rows : List Text) :
    (b.hugeGlyphs rows).map (·.map (·.symbol)) = b.hugeLines rows := by
  unfold hugeGlyphs hugeLines HugeText.printed
  rw [List.map_flatMap, hframed]
  refine List.flatMap_congr fun row _ => ?_
  rw [Layout.symbols_wrapGlyphs, Glyph.symbols_ofText]
  rfl

/-- What rows of huge text leave on the screen. -/
def hugeMarks (b : Screen) (p : Pen) (rows : List Text) : List Mark :=
  if b.framed then b.framedRows p b.row (b.hugeLines rows)
  else b.glyphRows .left b.row (b.hugeGlyphs rows)

theorem drawRows_framed (htakes : s.host.TakesAnyText) (rows : List Text)
    (hframed : s.surface.framed = true) (htyped : s.surface.shellOutput = true → TypesThrough s) :
    let lines := s.surface.hugeLines rows
    Draws (rows.forM fun row => drawText .left (some row)) s
      { s.surface with row := s.surface.row + lines.length }
      (s.surface.clip (s.surface.framedRows s.journal.pen s.surface.row lines)) := by
  induction rows generalizing s with
  | nil => exact ⟨s, rfl, rfl, rfl, by simp [hugeLines, HugeText.printed], (List.append_nil _).symm⟩
  | cons row rows ih =>
    intro lines
    let first := Layout.wrapText s.surface.textWidth row
    have hlines : lines = first ++ s.surface.hugeLines rows := by
      simp only [lines, hugeLines, hframed]
      exact List.flatMap_cons ..
    have hrow : s.surface.row + lines.length =
        s.surface.row + first.length + (s.surface.hugeLines rows).length := by
      rw [hlines, List.length_append]
      push_cast
      omega
    rw [hrow, hlines, framedRows_append, clip_append]
    refine (printLine_framed htakes row hframed htyped).bind fun t ht => ?_
    have htframed : t.surface.framed = true := by
      rw [ht.surface]
      exact hframed
    have httyped : t.surface.shellOutput = true → TypesThrough t := by
      rw [ht.surface]
      exact fun h => (htyped h).of_eq ht.host ((congrArg typeDelay ht.surface).trans rfl)
    have hrest := ih (ht.host ▸ htakes) htframed httyped
    rw [ht.surface, ht.pen] at hrest
    exact hrest

theorem drawRows_styled (rows : List Text) (hframed : s.surface.framed = false)
    (hsliding : s.surface.sliding = false) (h : (ink s).InStep) :
    let lines := s.surface.hugeGlyphs rows
    ∃ t, rows.forM (fun row => drawText .left (some row)) s = .ok () t ∧ (ink t).InStep ∧
      t.surface = { s.surface with row := s.surface.row + lines.length } ∧
      t.journal.marks = s.journal.marks ++
        s.surface.clip (s.surface.glyphRows .left s.surface.row lines) := by
  induction rows generalizing s with
  | nil => exact ⟨s, rfl, h, by simp [hugeGlyphs], (List.append_nil _).symm⟩
  | cons row rows ih =>
    intro lines
    let glyphs := Glyph.ofText s.surface.style (some row)
    let first := Layout.wrapGlyphs (· == ' ') s.surface.textWidth glyphs
    have hlines : lines = first ++ s.surface.hugeGlyphs rows := List.flatMap_cons ..
    have hrow : s.surface.row + lines.length =
        s.surface.row + first.length + (s.surface.hugeGlyphs rows).length := by
      rw [hlines, List.length_append]
      push_cast
      omega
    have hknown : ∀ line ∈ first, ∀ g ∈ line, g.style.Known := fun line hline g hg =>
      Glyph.known_ofText h.known (some row) g (Layout.subset_of_mem_wrap hline hg)
    obtain ⟨t, hdraw, ht, htsurface, htmarks⟩ := drawStyledLines_clip .left first hknown h
    have hfirst : drawText .left (some row) s = .ok () t := by
      refine (Outcome.bind_ok (t := s) rfl).trans ?_
      rw [hframed, hsliding]
      exact hdraw
    obtain ⟨u, hrest, hu, husurface, humarks⟩ := ih (s := t) (by rw [htsurface]; exact hframed)
      (by rw [htsurface]; exact hsliding) ht
    rw [htsurface] at husurface humarks
    refine ⟨u, (Outcome.bind_ok hfirst).trans hrest, hu, ?_, ?_⟩
    · rw [husurface, hrow]
      rfl
    · rw [humarks, htmarks, hlines, glyphRows_append, clip_append, List.append_assoc]
      rfl

/-- Huge text is printed row by row below what was there, at any size of the screen. -/
theorem huge_drawn (h : (ink s).InStep) (hsliding : s.surface.sliding = false)
    (htyped : s.surface.shellOutput = true → TypesThrough s) {t : Text}
    (hroom : s.host.lettering.Holds
      (s.surface.columns - 3 - if s.surface.framed then 2 else 0) t) :
    let b := s.surface
    ∃ rows, (∃ u, HugeText.render t b.font (b.columns - 3 - if b.framed then 2 else 0) s =
        .ok rows u) ∧
      ∃ u, Surface.perform (.huge t) s = .ok () u ∧
        u.surface = { b with row := b.row + (b.hugeLines rows).length } ∧
        u.journal.marks = s.journal.marks ++ b.clip (b.hugeMarks s.journal.pen rows) := by
  intro b
  obtain ⟨used, v, hrender, hv⟩ := HugeText.render_ok hroom b.font
  let rows := HugeText.rowsOf (s.host.lettering.render used
    (max 1 (b.columns - 3 - if b.framed then 2 else 0)).toNat t)
  have hpen : v.journal.pen = s.journal.pen := by
    unfold Journal.pen
    rw [hv.events]
  have hmarks : v.journal.marks = s.journal.marks := by
    unfold Journal.marks
    rw [hv.events]
  have hperform : Surface.perform (.huge t) s =
      rows.forM (fun row => drawText .left (some row)) v :=
    (Outcome.bind_ok (t := s) rfl).trans (Outcome.bind_ok hrender)
  refine ⟨rows, ⟨v, hrender⟩, ?_⟩
  rw [hperform]
  rcases hframed : b.framed with - | -
  · have hink : ink v = ink s := by
      unfold ink
      rw [hpen, hv.surface, hv.host]
    obtain ⟨u, hrun, -, husurface, humarks⟩ := drawRows_styled (s := v) rows
      (by rw [hv.surface]; exact hframed) (by rw [hv.surface]; exact hsliding) (by rwa [hink])
    rw [hv.surface] at husurface humarks
    refine ⟨u, hrun, ?_, ?_⟩
    · rw [husurface, ← symbols_hugeGlyphs hframed, List.length_map]
    · rw [humarks, hmarks, hugeMarks, hframed, if_neg Bool.false_ne_true]
  · obtain ⟨u, hrun, hu⟩ := drawRows_framed (s := v) (hv.host ▸ h.patient.takesAnyText) rows
      (by rw [hv.surface]; exact hframed)
      (by rw [hv.surface]; exact fun h => (htyped h).of_eq hv.host (congrArg typeDelay hv.surface))
    have husurface := hu.surface
    have humarks := hu.marks
    rw [hv.surface] at husurface
    rw [hv.surface, hpen, hmarks] at humarks
    refine ⟨u, hrun, husurface, ?_⟩
    rw [humarks, hugeMarks, hframed, if_pos rfl]

end Screen

end SlideDeck
