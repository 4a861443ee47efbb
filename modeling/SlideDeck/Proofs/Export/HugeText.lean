import SlideDeck.Proofs.Export.FramedText
import SlideDeck.Proofs.Screen.HugeText

/-!
# Huge text on a screen and in a handout

Neither of the two keeps every row of a huge text as it is, even if no row is longer than it was
asked to be. The screen asks for rows that may be three characters longer than its lines, the
handout breaks a row that has exactly the width at a blank, and both take parts of a row for
markers. A row stays as it is just if none of this happens to it (`huge_rows_kept_iff`).
-/

namespace SlideDeck

open Surface Export Screen

namespace Handout

variable {clean : Prop} {place : Place} {s : Stage Handout}

theorem printRows_ok (rows : List Text) (h : WritesTo clean place s) :
    ∃ u, rows.forM (fun row => emitText flushLeft (some row)) s = .ok () u ∧
      u.surface = { s.surface with out := u.surface.out } ∧
      u.surface.out.written.toList = s.surface.out.written.toList ++
        (HugeText.printed true s.surface.width rows).map (barred s.surface.framed) := by
  induction rows generalizing s with
  | nil => exact ⟨s, rfl, rfl, (List.append_nil _).symm⟩
  | cons row rows ih =>
    obtain ⟨t, hprint, ht, htsurface, htwritten⟩ := printLine_ok row h
    obtain ⟨u, hrest, husurface, huwritten⟩ := ih ht
    rw [htsurface] at husurface huwritten
    refine ⟨u, (Outcome.bind_ok hprint).trans hrest, husurface, ?_⟩
    rw [huwritten, htwritten, List.append_assoc, ← List.map_append]
    rfl

/-- Huge text is written row by row, like any other text. -/
theorem huge_written (h : WritesTo clean place s) {t : Text}
    (hroom : s.host.lettering.Holds
      (if s.surface.framed then s.surface.width - 2 else s.surface.width) t) :
    let b := s.surface
    let width := if b.framed then b.width - 2 else b.width
    ∃ used rows, rows = HugeText.rowsOf (s.host.lettering.render used (max 1 width).toNat t) ∧
      (∃ u, HugeText.render t b.font width s = .ok rows u) ∧
      ∃ u, Surface.perform (.huge t) s = .ok () u ∧
        u.surface = { b with out := u.surface.out } ∧
        u.surface.out.written.toList = b.out.written.toList ++
          (HugeText.printed true b.width rows).map (barred b.framed) := by
  intro b width
  obtain ⟨used, v, hrender, hv⟩ := HugeText.render_ok hroom b.font
  have hwrites : WritesTo clean place v :=
    h.of_surface hv.host (congrArg (fun b : Handout => b.out) hv.surface)
  obtain ⟨u, hrun, husurface, hwritten⟩ := printRows_ok _ hwrites
  rw [hv.surface] at husurface hwritten
  refine ⟨used, _, rfl, ⟨v, hrender⟩, u, ?_, husurface, hwritten⟩
  exact (Outcome.bind_ok (t := s) rfl).trans ((Outcome.bind_ok hrender).trans hrun)

/-- A row that fits in the width it was asked for stays unbroken in a frame. -/
theorem unbroken_in_frame {b : Handout} {row : Text}
    (hrow : row.length ≤ (max 1 (b.width - 2)).toNat) :
    Layout.Unbroken (· == ' ') b.width row := by
  unfold Layout.Unbroken Layout.clamp
  rcases Int.lt_or_le 1 b.width with hwide | hnarrow
  · exact .inl (by omega)
  · -- There is room for one character, and a row of one character cannot be broken.
    rcases row with - | ⟨c, rest⟩
    · exact .inl (by simp only [List.length_nil]; omega)
    · have hone : rest = [] := by
        rw [← List.length_eq_zero_iff]
        simp only [List.length_cons] at hrow
        omega
      subst hone
      exact .inr ⟨by simp only [List.length_singleton]; omega, List.forall_mem_nil _⟩

/-- A screen and a handout print a huge text whose letters have room, and its rows are no longer than
they were asked to be. A screen keeps them as they are just if each is unbroken at the width of its
page and, outside a frame, has no marker. A handout keeps them just if none has a marker and,
outside a frame, each is unbroken. -/
theorem huge_rows_kept_iff {h : Host} {typeDelay slideDelay : Delay} {font : Text}
    {begun shown : Stage Screen} {s opened exported : Stage Handout} {ops : List Op}
    (hstart : begun.surface = Screen.start h typeDelay slideDelay font)
    (hpen : begun.journal.pen = {}) (hpatient : Patient begun.host.refuses)
    (hreached : Screen.Reached begun shown) (hsliding : shown.surface.sliding = false)
    (htyped : shown.surface.shellOutput = true → Screen.TypesThrough shown)
    (hopen : openOutput s = .ok () opened) (hexported : exported = performed opened ops)
    (hfits : exported.host.lettering.Fits) (t : Text) :
    let b := shown.surface
    let asked := b.columns - 3 - if b.framed then 2 else 0
    let c := exported.surface
    let width := if c.framed then c.width - 2 else c.width
    (shown.host.lettering.Holds asked t →
      ∃ rows u v, HugeText.render t b.font asked shown = .ok rows u ∧
      Surface.perform (.huge t) shown = .ok () v ∧
      v.surface = { b with row := b.row + (b.hugeLines rows).length } ∧
      v.journal.marks = shown.journal.marks ++ b.clip (b.hugeMarks shown.journal.pen rows) ∧
      (b.framed = false → (b.hugeGlyphs rows).map (·.map (·.symbol)) = b.hugeLines rows) ∧
      (b.hugeLines rows = rows ↔ ∀ row ∈ rows,
        Layout.Unbroken (· == ' ') b.textWidth row ∧ (b.framed = true ∨ Unmarked row))) ∧
    (exported.host.lettering.Holds width t →
      ∃ rows u v, HugeText.render t c.font width exported = .ok rows u ∧
      Surface.perform (.huge t) exported = .ok () v ∧
      v.surface = { c with out := v.surface.out } ∧
      v.surface.out.written.toList = c.out.written.toList ++
        (HugeText.printed true c.width rows).map (barred c.framed) ∧
      (HugeText.printed true c.width rows = rows ↔ ∀ row ∈ rows,
        Unmarked row ∧ (c.framed = true ∨ Layout.Unbroken (· == ' ') c.width row))) := by
  intro b asked c width
  have hstep : (Screen.ink shown).InStep :=
    hreached.inStep (Screen.tracked_start hstart hpen hpatient)
  obtain ⟨place, hopened, -⟩ := openOutput_eq_ok hopen
  have hwrites := performed_writesTo hopened ops
  rw [← hexported] at hwrites
  refine ⟨fun hroom => ?_, fun hroom => ?_⟩
  · obtain ⟨rows, ⟨u, hrender⟩, v, hrun, hsurface, hmarks⟩ :=
      Screen.huge_drawn hstep hsliding htyped hroom
    refine ⟨rows, u, v, hrender, hrun, hsurface, hmarks, (symbols_hugeGlyphs · rows), ?_⟩
    refine (HugeText.printed_eq_iff _ _ rows).trans (forall₂_congr fun row _ => ?_)
    cases b.framed <;> simp
  · obtain ⟨used, rows, hrows, ⟨u, hrender⟩, v, hrun, hsurface, hwritten⟩ :=
      huge_written hwrites hroom
    refine ⟨rows, u, v, hrender, hrun, hsurface, hwritten, ?_⟩
    refine (HugeText.printed_eq_iff _ _ rows).trans (forall₂_congr fun row hrow => ?_)
    have hlength : row.length ≤ (max 1 width).toNat :=
      hfits used _ t (by omega) row (hrows ▸ hrow)
    rcases hframed : c.framed with - | -
    · simp [and_comm]
    · have hwidth : width = c.width - 2 := if_pos hframed
      have hunbroken : Layout.Unbroken (· == ' ') c.width row :=
        unbroken_in_frame (hwidth ▸ hlength)
      simp [hunbroken]

/-- A terminal of twenty columns, before a screen is opened, and a handout of eleven, before its
output is. -/
def croppedHost : Host := { Host.quiet with lettering := .cropped, columns := 20 }

def croppedScreen : Stage Screen :=
  ⟨croppedHost, {}, Screen.start croppedHost (.whole 0) (.whole 0) "term", none⟩

def croppedHandout : Stage Handout :=
  ⟨croppedHost, {}, { out := { path := "talk.txt" }, width := 11, font := "term" }, none⟩

/-- A short row stays as it is on both. -/
theorem huge_rows_kept_iff_short :
    let shown := Outcome.state (openTerminal croppedScreen)
    let opened := Outcome.state (openOutput croppedHandout)
    croppedHost.lettering.Fits ∧ openOutput croppedHandout = .ok () opened ∧
      ∃ v w, Surface.perform (.huge "hello") shown = .ok () v ∧
        v.surface.row = shown.surface.row + 1 ∧
        Surface.perform (.huge "hello") opened = .ok () w ∧
        w.surface.out.written.toList = (["hello"] : List Text) := by
  intro shown opened
  have hfits : opened.host.lettering.Fits := Lettering.cropped_fits
  obtain ⟨hscreen, hhandout⟩ :=
    @huge_rows_kept_iff _ _ _ _ croppedScreen shown croppedHandout opened opened [] rfl rfl nofun
      .opened rfl nofun rfl rfl hfits "hello"
  obtain ⟨rows, u, v, hrender, hshow, hsurface, -, -, hkept⟩ :=
    hscreen (Lettering.cropped_holds _ _)
  obtain ⟨rows', u', w, hrender', hwrite, -, hwritten, hkept'⟩ :=
    hhandout (Lettering.cropped_holds _ _)
  obtain rfl : (["hello"] : List Text) = rows := (EStateM.Result.ok.inj hrender).1
  obtain rfl : (["hello"] : List Text) = rows' := (EStateM.Result.ok.inj hrender').1
  refine ⟨Lettering.cropped_fits, rfl, v, w, hshow, ?_, hwrite, ?_⟩
  · rw [hsurface, hkept.2 (by decide +kernel)]
    rfl
  · rw [hwritten, hkept'.2 (by decide +kernel)]
    rfl

/-- A row of sixteen characters is shown in two lines on twenty columns, and one of eleven is
written in two lines of a handout that wide. -/
theorem huge_rows_broken :
    let shown := Outcome.state (openTerminal croppedScreen)
    let opened := Outcome.state (openOutput croppedHandout)
    croppedHost.lettering.Fits ∧
      (∃ u v, HugeText.render "hello big worlds" "term" 17 shown =
          .ok (["hello big worlds"] : List Text) u ∧
        Surface.perform (.huge "hello big worlds") shown = .ok () v ∧
        v.surface.row = shown.surface.row + 2) ∧
      ∃ u v, HugeText.render "ab cd ef gh" "term" 11 opened =
          .ok (["ab cd ef gh"] : List Text) u ∧
        Surface.perform (.huge "ab cd ef gh") opened = .ok () v ∧
        v.surface.out.written.toList = (["ab cd ef", "gh"] : List Text) := by
  intro shown opened
  have hstep : (ink shown).InStep :=
    Reached.opened.inStep (tracked_start (s := croppedScreen) rfl rfl nofun)
  obtain ⟨rows, ⟨u, hrender⟩, v, hshow, hsurface, -⟩ :=
    huge_drawn (s := shown) (t := "hello big worlds") hstep rfl nofun
      (Lettering.cropped_holds _ _)
  obtain ⟨place, hopened, -⟩ := openOutput_eq_ok (s := croppedHandout) (t := opened) rfl
  obtain ⟨-, rows', -, ⟨u', hrender'⟩, v', hwrite, -, hwritten⟩ :=
    huge_written (t := "ab cd ef gh") hopened (Lettering.cropped_holds _ _)
  obtain rfl : (["hello big worlds"] : List Text) = rows := (EStateM.Result.ok.inj hrender).1
  obtain rfl : (["ab cd ef gh"] : List Text) = rows' := (EStateM.Result.ok.inj hrender').1
  have hlines : (shown.surface.hugeLines ["hello big worlds"]).length = 2 := by decide +kernel
  have hlines' : HugeText.printed true 11 ["ab cd ef gh"] =
      (["ab cd ef", "gh"] : List Text) := by decide +kernel
  refine ⟨Lettering.cropped_fits, ⟨u, v, hrender, hshow, ?_⟩, u', v', hrender', hwrite, ?_⟩
  · rw [hsurface, hlines]
    rfl
  · rw [hwritten]
    exact congrArg (List.map (barred false)) hlines'

end Handout

end SlideDeck
