import SlideDeck.Proofs.Export.Handout
import SlideDeck.Proofs.Markup.Unmarked
import SlideDeck.Proofs.Screen.Framed

/-!
# Framed text on a screen and in a handout

A screen and a handout that are asked for the same show the text in a frame differently: the screen
draws it as it stands, and the handout writes it without its markers. So the handout has the text
just when there is no marker in it.
-/

namespace SlideDeck

/-- The stage after operations one after the other; one that is broken off leaves what it did until
then. -/
def Surface.performed {σ : Type} [Surface σ] (s : Stage σ) (ops : List Op) : Stage σ :=
  ops.foldl (fun s op => Outcome.state (Surface.perform op s)) s

open Surface Export

theorem Screen.Reached.performed {begun s : Stage Screen} (h : Reached begun s) (ops : List Op) :
    Reached begun (performed s ops) := by
  induction ops generalizing s with
  | nil => exact h
  | cons op ops ih => exact ih (.operated h (.perform op))

namespace Handout

theorem performed_writesTo {clean : Prop} {place : Place} {s : Stage Handout}
    (h : WritesTo clean place s) (ops : List Op) : WritesTo clean place (performed s ops) := by
  induction ops generalizing s with
  | nil => exact h
  | cons op ops ih => exact ih (perform_keeps op s h)

/-- A screen and a handout are opened and asked for the same, and then print a text in a frame. On
the screen its lines, which hold every character of it, are drawn one under the other within the
frame, as far as the screen goes. In the handout the lines are those of the text without markers,
and they hold the text exactly if no marker and no escape begins in it. -/
theorem framed_text_kept_iff {h : Host} {typeDelay slideDelay : Delay} {font : Text}
    {begun shown : Stage Screen} {s opened exported : Stage Handout} {ops : List Op}
    (hstart : begun.surface = Screen.start h typeDelay slideDelay font)
    (hshown : shown = performed (Outcome.state (Screen.openTerminal begun)) ops)
    (hopen : openOutput s = .ok () opened) (hexported : exported = performed opened ops)
    (hframed : shown.surface.framed = true ∧ exported.surface.framed = true)
    (htakes : shown.host.TakesAnyText)
    (htyped : shown.surface.shellOutput = true → Screen.TypesThrough shown) (t : Text) :
    let b := shown.surface
    let lines := Layout.wrapText b.textWidth t
    let drawn := b.framedRows shown.journal.pen b.row lines
    let plain := Layout.wrapText exported.surface.width (stripMarkup t)
    (∃ u, Surface.perform (.printLine (some t)) shown = .ok () u ∧
      u.surface = { b with row := b.row + lines.length } ∧
      u.journal.marks = shown.journal.marks ++ b.clip drawn) ∧
    (9 ≤ b.columns → b.row + lines.length ≤ b.rows → b.clip drawn = drawn) ∧
    Layout.Cut (· == ' ') t lines ∧
    (∃ v, Surface.perform (.printLine (some t)) exported = .ok () v ∧
      v.surface = { exported.surface with out := v.surface.out } ∧
      v.surface.out.written.toList =
        exported.surface.out.written.toList ++ plain.map (("| " : Text) ++ ·)) ∧
    (Layout.Cut (· == ' ') t plain ↔ Unmarked t) := by
  intro b lines drawn plain
  have hreached : Screen.Reached begun shown := hshown ▸ Screen.Reached.opened.performed ops
  have hrow : Screen.topRow ≤ b.row := by
    refine hreached.onPage ?_
    rw [hstart]
    exact Int.le_refl Screen.topRow
  obtain ⟨place, hopened, -⟩ := openOutput_eq_ok hopen
  have hwrites := performed_writesTo hopened ops
  rw [← hexported] at hwrites
  obtain ⟨u, hdraw, hu⟩ := Screen.printLine_framed htakes t hframed.1 htyped
  obtain ⟨v, hwrite, -, hsurface, hwritten⟩ := printLine_framed t hwrites hframed.2
  refine ⟨⟨u, hdraw, hu.surface, hu.marks⟩, fun hwidth hrows => ?_, Layout.cut_wrap _ _ t,
    ⟨v, hwrite, hsurface, hwritten⟩, Layout.cut_stripMarkup_iff _ t⟩
  refine Screen.clip_framedRows _ (Int.le_trans (by decide) hrow) hrows fun line hline => ?_
  exact Screen.length_le_of_mem_framed hframed.1 hwidth hline

theorem openOutput_quiet :
    ∃ opened, openOutput
      (⟨Host.quiet, {}, { out := { path := "talk.txt" } }, none⟩ : Stage Handout) = .ok () opened ∧
      (performed opened [.beginOutput]).surface.framed = true ∧
      (performed opened [.beginOutput]).surface.width = 80 ∧
      (performed opened [.beginOutput]).surface.out.written.toList =
        ([".---------------------------"] : List Text) := by
  obtain ⟨opened, hopen⟩ : ∃ opened, openOutput
      (⟨Host.quiet, {}, { out := { path := "talk.txt" } }, none⟩ : Stage Handout) =
        .ok () opened := ⟨_, rfl⟩
  obtain ⟨place, hopened, hsurface⟩ := openOutput_eq_ok hopen
  obtain ⟨framed, hbegin, -, hframed⟩ := openFrame_ok hopened
  have hperformed : performed opened [.beginOutput] = framed := congrArg Outcome.state hbegin
  refine ⟨opened, hopen, ?_⟩
  rw [hperformed, hframed, hsurface]
  exact ⟨rfl, rfl, rfl⟩

/-- A command with a long option, in a frame. No marker begins in it, though hyphens do. -/
theorem framed_text_kept_iff_option :
    let begun : Stage Screen :=
      ⟨Host.quiet, {}, Screen.start Host.quiet (.whole 0) (.whole 0) "standard", none⟩
    let s : Stage Handout := ⟨Host.quiet, {}, { out := { path := "talk.txt" } }, none⟩
    let shown := performed (Outcome.state (Screen.openTerminal begun)) [.beginOutput]
    ∃ opened u v, openOutput s = .ok () opened ∧ shown.surface.framed = true ∧
      (performed opened [.beginOutput]).surface.framed = true ∧
      Surface.perform (.printLine (some "ls --all")) shown = .ok () u ∧
      Surface.perform (.printLine (some "ls --all")) (performed opened [.beginOutput]) =
        .ok () v ∧
      Layout.Cut (· == ' ') "ls --all" (Layout.wrapText 80 (stripMarkup "ls --all")) := by
  intro begun s shown
  obtain ⟨opened, hopen, hframed, hwidth, -⟩ := openOutput_quiet
  have hshown : shown.surface.framed = true := rfl
  obtain ⟨⟨u, hdraw, -⟩, -, -, ⟨v, hwrite, -⟩, hkept⟩ :=
    @framed_text_kept_iff _ _ _ _ begun shown s opened _ _ rfl rfl hopen rfl
      ⟨hshown, hframed⟩ rfl nofun "ls --all"
  rw [hwidth] at hkept
  exact ⟨opened, u, v, hopen, hshown, hframed, hdraw, hwrite, hkept.2 (by decide)⟩

/-- On the screen an option stays as it is; in the handout its beginning is taken for a marker. -/
theorem framed_text_not_kept :
    let begun : Stage Screen :=
      ⟨Host.quiet, {}, Screen.start Host.quiet (.whole 0) (.whole 0) "standard", none⟩
    let s : Stage Handout := ⟨Host.quiet, {}, { out := { path := "talk.txt" } }, none⟩
    let shown := performed (Outcome.state (Screen.openTerminal begun)) [.beginOutput]
    let pen := shown.journal.pen
    ∃ opened drawn written, openOutput s = .ok () opened ∧
      Surface.perform (.printLine (some "--bare")) shown = .ok () drawn ∧
      drawn.journal.marks = shown.journal.marks ++
        (pen.textMarks 6 3 "| " ++ (pen.textMarks 6 5 "--bare" ++ pen.textMarks 6 75 " |")) ∧
      Surface.perform (.printLine (some "--bare")) (performed opened [.beginOutput]) =
        .ok () written ∧
      written.surface.out.written.toList =
        ([".---------------------------", "| are"] : List Text) ∧
      ¬ Layout.Cut (· == ' ') ("--bare" : Text) ["are"] := by
  intro begun s shown pen
  obtain ⟨opened, hopen, hframed, hwidth, hframe⟩ := openOutput_quiet
  obtain ⟨place, hopened, -⟩ := openOutput_eq_ok hopen
  have hshown : shown.surface.framed = true := rfl
  have htakes : shown.host.TakesAnyText := rfl
  obtain ⟨drawn, hdraw, hmarks⟩ := Screen.printLine_framed htakes "--bare" hshown nofun
  obtain ⟨written, hwrite, -, -, hwritten⟩ := printLine_framed "--bare"
    (performed_writesTo hopened [.beginOutput]) hframed
  have hlines : Layout.wrapText 72 "--bare" = (["--bare"] : List Text) := by decide +kernel
  have hplain : Layout.wrapText 80 (stripMarkup "--bare") = (["are"] : List Text) := by
    decide +kernel
  refine ⟨opened, drawn, written, hopen, hdraw, ?_, hwrite, ?_, fun hcut => ?_⟩
  · have hscreen : shown.surface.textWidth = 72 ∧ shown.surface.row = 6 ∧
        shown.surface.columns = 80 ∧ shown.surface.sliding = false := ⟨rfl, rfl, rfl, rfl⟩
    obtain ⟨htext, hrow, hcolumns, hsliding⟩ := hscreen
    have hdrawn := hmarks.marks
    rw [htext, hlines, Screen.clip_framedRows _ (by decide) (by decide) (by decide),
      Screen.framedRows_cons, Screen.framedRow, hsliding, hrow, hcolumns] at hdrawn
    exact hdrawn.trans (congrArg (shown.journal.marks ++ ·) (List.append_nil _))
  · rw [hwritten, hframe, hwidth, hplain]
    rfl
  · rw [← hplain] at hcut
    exact absurd ((Layout.cut_stripMarkup_iff 80 _).1 hcut) (by decide)

end Handout

end SlideDeck
