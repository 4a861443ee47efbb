import SlideDeck.Proofs.Markup.Unmarked
import SlideDeck.Proofs.Screen.Slides

/-!
# Animations and still pictures

Text that slides in or is typed leaves the picture that it leaves when it is drawn at once, line by
line and for a text as a whole (`animations_end_still`). So it is of no account for the page, nor
for the row that comes next, whether a text without markers slid in or was printed.
-/

namespace SlideDeck

namespace Layout

/-- Glyphs of one run and style are drawn at once. -/
theorem segments_of_run (style : Style) (run : Nat) {symbols : List Char} (h : symbols ≠ []) :
    segments (symbols.map (⟨·, style, run⟩)) = [⟨style, run, symbols⟩] := by
  induction symbols with
  | nil => exact absurd rfl h
  | cons c rest ih =>
    cases rest with
    | nil => rfl
    | cons d rest =>
      have hrest := ih (List.cons_ne_nil d rest)
      show consGlyph _ (segments ((d :: rest).map _)) = _
      rw [hrest]
      simp [consGlyph]

end Layout

namespace Screen

open Act

variable {b : Screen} {g h : Grid} {p : Pen} {s v : Stage Screen} {through : Prop} {row : Int}

/-- Lines put on a grid one under the other, each in some way. -/
def stacked (put : Grid → Int → Text → Grid) (g : Grid) (row : Int) : List Text → Grid
  | [] => g
  | line :: lines => stacked put (put g row line) (row + 1) lines

theorem SameText.stacked {lines : List Text} (hsame : b.SameText g h)
    (hblank : b.side = .right → ∀ k < lines.length, row + k < b.rows → b.BlankRow g (row + k)) :
    b.SameText (stacked (b.slid p) g row lines)
      (stacked (fun h r line => b.drawn h p r indent line) h row lines) := by
  induction lines generalizing row g h with
  | nil => exact hsame
  | cons line lines ih =>
    have hfirst (hside : b.side = .right) (hrow : row < b.rows) : b.BlankRow g row := by
      have hblank0 := hblank hside 0 (Nat.succ_pos _) (by rwa [Nat.cast_zero, Int.add_zero])
      rwa [Nat.cast_zero, Int.add_zero] at hblank0
    refine ih (hsame.slid hfirst line) fun hside k hk hrow column hleft hright => ?_
    -- The rows below are as they were.
    rw [slid_other_row (by omega)]
    have hplace : row + 1 + k = row + (k + 1 : Nat) := by omega
    rw [hplace] at hrow ⊢
    exact hblank hside (k + 1) (Nat.succ_lt_succ hk) hrow column hleft hright

/-- Where each line is put in some way, so are all of them. -/
theorem Painted.lines {f : Text → Act Screen Unit} {put : Grid → Int → Text → Grid}
    {lines : List Text} (hrow : 1 ≤ row) (hv : Painted s { b with row := row } g v)
    (hline : ∀ r ≥ 1, ∀ line ∈ lines, ∀ g u, Painted s { b with row := r } g u →
      Paints through (f line) u { b with row := r + 1 } (put g r line)) :
    Paints through (lines.forM f) v { b with row := row + lines.length }
      (stacked put g row lines) := by
  induction lines generalizing row g v with
  | nil =>
    rw [List.length_nil, Nat.cast_zero, Int.add_zero]
    exact hv.stays
  | cons line lines ih =>
    have hend : row + (line :: lines).length = row + 1 + lines.length := by
      rw [List.length_cons]
      push_cast
      omega
    rw [hend]
    refine (hline row hrow line List.mem_cons_self g v hv).bind fun u hu => ?_
    exact ih (by omega) (hv.trans hu) fun r hr l hl => hline r hr l (List.mem_cons_of_mem _ hl)

/-! ### Text that slides in -/

theorem length_le_of_mem_unframed {t line : Text} (hframed : b.framed = false)
    (hwidth : 7 ≤ b.columns) (hline : line ∈ Layout.wrapText b.textWidth t) :
    line.length ≤ b.columns - 6 := by
  have hle := Layout.length_le_of_mem_wrap _ hline
  simp only [Layout.clamp, textWidth, hframed, indent, Bool.false_eq_true, if_false] at hle
  omega

theorem drawText_slides (hframed : s.surface.framed = false) (hsliding : s.surface.sliding = true)
    (hside : ∀ name, s.surface.side ≠ .other name) (hrow : 1 ≤ s.surface.row)
    (hwidth : 7 ≤ s.surface.columns) (t : Text) :
    let b := s.surface
    let lines := Layout.wrapText b.textWidth (stripMarkup t)
    Paints (SlidesThrough s) (drawText .left (some t)) s { b with row := b.row + lines.length }
      (stacked (b.slid s.journal.pen) (picture s) b.row lines) := by
  intro b lines
  have hread : drawText .left (some t) s = lines.forM (drawPlainLine .left false true) s := by
    refine (Outcome.bind_ok (t := s) rfl).trans ?_
    rw [hframed, hsliding]
    rfl
  refine .after hread .refl (Painted.lines (b := b) hrow .refl ?_)
  intro r hr line hline g u hu
  have hfits : (line.length : Int) ≤ b.columns - 6 :=
    length_le_of_mem_unframed hframed hwidth hline
  have hroom : (line.length : Int) ≤ b.columns - indent := by
    unfold indent
    omega
  have hplain : drawPlainLine .left false true line u = (do slideText line; nextRow) u := by
    refine (Outcome.bind_ok (t := u) rfl).trans ?_
    have huframed : u.surface.framed = false := by
      rw [hu.surface]
      exact hframed
    rw [huframed]
    rfl
  have hgoes (h : SlidesThrough s) : SlidesThrough u := by
    have hdelay : u.surface.slideDelay = s.surface.slideDelay := by rw [hu.surface]
    constructor
    · exact hu.host ▸ h.uninterrupted
    · exact hu.host ▸ h.window
    · rw [hu.host, hdelay]
      exact h.pause
    · rw [hu.host, hdelay]
      exact h.pauseTwice
  refine .after hplain .refl ?_
  refine (hu.slideText hside hr hroom hgoes).bind fun a ha => ?_
  exact (hu.trans ha).modifySurface _

/-! ### Text that is printed -/

theorem applyStyle_synced {style : Style} (h : v.surface.active = style) :
    applyStyle style v = .ok () v := by
  have hflag (f : Flag) : applyFlag style f v = .ok () v := by
    refine (Outcome.bind_ok (t := v) rfl).trans ?_
    rw [h, if_neg (not_not_intro rfl)]
    rfl
  have hcolor : applyColor style v = .ok () v := by
    unfold applyColor
    rcases hname : style.color with - | name
    · rfl
    · refine (Outcome.bind_ok (t := v) rfl).trans ?_
      rw [h, hname, if_neg fun hboth => hboth.2 rfl]
      rfl
  exact (Outcome.bind_ok (hflag .bold)).trans
    ((Outcome.bind_ok (hflag .underline)).trans ((Outcome.bind_ok (hflag .reverse)).trans hcolor))

/-- A line in the style that is on is drawn with one stroke. -/
theorem Painted.stillLine (hv : Painted s b g v) (hsynced : b.active = b.style) (line : Text) :
    Paints through (drawStyledLine .left (line.map (⟨·, b.style, 0⟩))) v
      { b with row := b.row + 1 } (b.drawn g s.journal.pen b.row indent line) := by
  have hstyle {u : Stage Screen} {g' : Grid} (hu : Painted s b g' u) :
      applyStyle b.style u = .ok () u := applyStyle_synced (by rw [hu.surface, hsynced])
  by_cases hempty : line = []
  · subst hempty
    rw [drawn_nil]
    refine hv.read ?_
    rw [List.map_nil, if_neg (not_not_intro rfl)]
    exact hv.modifySurface _
  have hstroke (x : Int) (hx : x = indent) :
      Paints through (drawSegments x [⟨b.style, 0, line⟩]) v b
        (b.drawn g s.journal.pen b.row indent line) := by
    subst hx
    refine .after (Outcome.bind_ok (hstyle hv)) .refl (hv.read ?_)
    exact (hv.drawAt b.row indent line).bind fun u hu => (hv.trans hu).stays
  refine hv.read ?_
  rw [if_pos (by simpa using hempty), Layout.segments_of_run _ _ hempty]
  refine (hstroke _ rfl).bind fun u hu => ?_
  have hdrawn := hv.trans hu
  exact .after (Outcome.bind_ok (hstyle hdrawn)) .refl (hdrawn.modifySurface _)

theorem drawText_still {t : Text} (ht : Unmarked t) (hframed : s.surface.framed = false)
    (hsliding : s.surface.sliding = false) (hsynced : s.surface.active = s.surface.style)
    (hrow : 1 ≤ s.surface.row) :
    let b := s.surface
    let lines := Layout.wrapText b.textWidth t
    Paints True (drawText .left (some t)) s { b with row := b.row + lines.length }
      (stacked (fun g r line => b.drawn g s.journal.pen r indent line) (picture s) b.row
        lines) := by
  intro b lines
  have hglyphs : Layout.wrapGlyphs (· == ' ') b.textWidth (Glyph.ofText b.style (some t)) =
      lines.map (List.map (⟨·, b.style, 0⟩)) := by
    rw [ht.ofText_eq, Layout.wrapGlyphs, Layout.wrap_map]
    rfl
  have hread : drawText .left (some t) s =
      (lines.forM fun line => drawStyledLine .left (line.map (⟨·, b.style, 0⟩))) s := by
    have hmap : (lines.map (List.map (⟨·, b.style, 0⟩))).forM (drawStyledLine .left) =
        lines.forM fun line => drawStyledLine .left (line.map (⟨·, b.style, 0⟩)) := by
      rw [List.forM_eq_forM, List.forM_map]
      rfl
    refine (Outcome.bind_ok (t := s) rfl).trans ?_
    rw [hframed, hsliding, ← hmap, ← hglyphs]
    rfl
  refine .after hread .refl (Painted.lines (b := b) hrow .refl ?_)
  intro r _ line _ g u hu
  exact hu.stillLine hsynced line

/-- The stage with text that slides in, or with text that is printed. -/
def withSliding (on : Bool) (s : Stage Screen) : Stage Screen :=
  { s with surface := { s.surface with sliding := on } }

/-- A line that has slid in from a side, or was typed, shows what the line shows when it is drawn
once, and a text without markers that slid in shows what it shows when it is printed, on as many
rows. On a terminal that takes every text, an animation comes to its end unless the user breaks it
off, the timer does not wait for a pause, or there is no window to keep the screen in. What comes
from the right clears its row on the way and needs it blank. The style that is on is the style to
draw in after every operation (`Reached.inStep`). -/
theorem animations_end_still (htakes : s.host.TakesAnyText) (hwidth : 7 ≤ s.surface.columns)
    (hrow : 1 ≤ s.surface.row) (hside : ∀ name, s.surface.side ≠ .other name) :
    let b := s.surface
    (∀ line : Text, line.length ≤ b.columns - 6 →
      ((∃ u, slideText line s = .ok () u) ∨ ¬ SlidesThrough s) ∧
        ∀ u, slideText line s = .ok () u →
          ∃ v, drawAt b.row indent line s = .ok () v ∧ u.surface = v.surface ∧
            ((b.side = .right → b.BlankRow (picture s) b.row) →
              b.SameText (picture u) (picture v))) ∧
      (∀ (x : Int) (line : Text),
        ((∃ u, typeText x line s = .ok () u) ∨ ¬ TypesThrough s) ∧
          ∀ u, typeText x line s = .ok () u →
            ∃ v, drawAt b.row x line s = .ok () v ∧ u.surface = v.surface ∧
              picture u = picture v) ∧
      ∀ t : Text, Unmarked t → b.framed = false → b.active = b.style →
        ((∃ u, Surface.perform (.printLine (some t)) (withSliding true s) = .ok () u) ∨
            ¬ SlidesThrough s) ∧
          ∀ u, Surface.perform (.printLine (some t)) (withSliding true s) = .ok () u →
            ∃ v, Surface.perform (.printLine (some t)) (withSliding false s) = .ok () v ∧
              u.surface.row = v.surface.row ∧
              ((b.side = .right → ∀ k < (Layout.wrapText b.textWidth t).length,
                  b.row + k < b.rows → b.BlankRow (picture s) (b.row + k)) →
                b.SameText (picture u) (picture v)) := by
  intro b
  refine ⟨fun line hline => ?_, fun x line => ?_, fun t ht hframed hsynced => ?_⟩
  · have hroom : line.length ≤ b.columns - indent := by
      unfold indent
      omega
    have hslides : Paints (SlidesThrough s) (slideText line) s b
        (b.slid s.journal.pen (picture s) b.row line) := Painted.refl.slideText hside hrow hroom id
    obtain ⟨v, hv, hstill⟩ := Paints.exists_ok (drawAt_paints b.row indent line) htakes True.intro
    refine ⟨hslides.ends_or_not htakes, fun u hu => ⟨v, hv, ?_, fun hblank => ?_⟩⟩
    · rw [(hslides.painted hu).surface, hstill.surface]
    · rw [(hslides.painted hu).shown, hstill.shown]
      exact SameText.slid (fun _ _ _ _ _ _ => rfl) (fun hright _ => hblank hright) line
  · have htypes : Paints (TypesThrough s) (typeText x line) s b
        (b.drawn (picture s) s.journal.pen b.row x line) := Painted.refl.typeText x line id
    obtain ⟨v, hv, hstill⟩ := Paints.exists_ok (drawAt_paints b.row x line) htakes True.intro
    refine ⟨htypes.ends_or_not htakes, fun u hu => ⟨v, hv, ?_, ?_⟩⟩
    · rw [(htypes.painted hu).surface, hstill.surface]
    · rw [(htypes.painted hu).shown, hstill.shown]
  · have hslides := drawText_slides (s := withSliding true s) hframed rfl hside hrow hwidth t
    have hprints := drawText_still (s := withSliding false s) ht hframed rfl hsynced hrow
    rw [ht.stripMarkup_eq] at hslides
    obtain ⟨v, hv, hstill⟩ := hprints.exists_ok htakes trivial
    have hthrough (h : SlidesThrough s) : SlidesThrough (withSliding true s) :=
      ⟨h.uninterrupted, h.window, h.pause, h.pauseTwice⟩
    refine ⟨(hslides.ends_or_not htakes).imp_right (mt hthrough),
      fun u hu => ⟨v, hv, ?_, fun hblank => ?_⟩⟩
    · rw [(hslides.painted hu).surface, hstill.surface]
      rfl
    · rw [(hslides.painted hu).shown, hstill.shown]
      exact SameText.stacked (fun _ _ _ _ _ _ => rfl) hblank

/-- An empty page on which text slides in from the right. -/
def emptyPage : Stage Screen :=
  let begun : Stage Screen :=
    ⟨Host.quiet, {}, start Host.quiet (.whole 0) (.whole 0) "standard", none⟩
  Outcome.state
    ((Operation.perform (.beginSlide .right)).run (Outcome.state (openTerminal begun)))

theorem picture_emptyPage : picture emptyPage = Grid.blank := rfl

/-- A text of two words slides in from the right, and shows what it shows in print. -/
theorem animations_end_still_from_right :
    let s := emptyPage
    let t : Text := "to be"
    s.host.TakesAnyText ∧ 7 ≤ s.surface.columns ∧ 1 ≤ s.surface.row ∧ s.surface.side = .right ∧
      SlidesThrough s ∧ Unmarked t ∧
      ∃ u v, Surface.perform (.printLine (some t)) (withSliding true s) = .ok () u ∧
        Surface.perform (.printLine (some t)) (withSliding false s) = .ok () v ∧
        s.surface.SameText (picture u) (picture v) := by
  intro s t
  have hcolumns : s.surface.columns = 80 := rfl
  have hwidth : 7 ≤ s.surface.columns := by
    rw [hcolumns]
    decide
  have hrow : 1 ≤ s.surface.row := by decide
  have hside (name : Text) : s.surface.side ≠ .other name := nofun
  have htakes : s.host.TakesAnyText := rfl
  have hslides : SlidesThrough s := ⟨rfl, rfl, fun _ => rfl, fun _ => rfl⟩
  have ht : Unmarked t := by decide +kernel
  have hblank (row : Int) : s.surface.BlankRow (picture s) row := by
    rw [picture_emptyPage]
    exact fun _ _ _ => rfl
  obtain ⟨-, -, htexts⟩ := animations_end_still htakes hwidth hrow hside
  obtain ⟨hends, hstill⟩ := htexts t ht rfl rfl
  obtain ⟨u, hu⟩ := hends.resolve_right (not_not_intro hslides)
  obtain ⟨v, hv, -, hsame⟩ := hstill u hu
  exact ⟨htakes, hwidth, hrow, rfl, hslides, ht, u, v, hu, hv, hsame fun _ _ _ _ => hblank _⟩

end Screen

end SlideDeck
