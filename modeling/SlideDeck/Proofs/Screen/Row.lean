import SlideDeck.Proofs.Screen.Keeps
import SlideDeck.Proofs.Screen.Operations

/-!
# The row of a screen

Whatever is asked of a screen, and even if it is broken off, the row to draw on stays on the page:
only a new page goes back, and it starts at its first row.
-/

namespace SlideDeck.Screen

open Act Outcome

/-- The screen on a page where nothing stands yet, on a terminal as it is now. -/
def atTop (b : Screen) (h : Host) : Screen :=
  { b with row := topRow, output := false, shellOutput := false, rows := h.rows,
           columns := h.columns }

theorem perform_newPage (s : Stage Screen) : perform .newPage s =
    .ok () { noted s (.terminal .clear) with surface := s.surface.atTop s.host } :=
  (bind_ok rfl).trans ((bind_ok rfl).trans (certain_call_ok rfl))

def OnPage (s : Screen) : Prop := topRow ≤ s.row

theorem applyStyle_onPage (style : Style) :
    Ends (OfSurface OnPage) Any Any (applyStyle style) :=
  applyStyle_ends (fun _ => trivial) (fun _ => trivial) (fun _ _ h => ⟨h, h⟩) (fun _ _ h => h) style

/-- No step but a new page changes the row, unless it goes on to the next one. -/
theorem operating_onPage : Operating (OfSurface OnPage) Any := by
  have hdrawing : Drawing (OfSurface OnPage) Any := ⟨fun _ _ _ _ _ h => h, fun _ _ _ _ _ _ => trivial⟩
  have hrow : Ends (OfSurface OnPage) Any Any nextRow :=
    .modify fun s (h : topRow ≤ s.surface.row) => Int.le_add_one h
  have hchange {f : Screen → Screen} (hf : Mild f) :
      Ends (OfSurface OnPage) Any Any (modifySurface f) := by
    refine .modify fun s (h : topRow ≤ s.surface.row) => ?_
    show topRow ≤ (f s.surface).row
    rwa [hf.row]
  exact .ofStyles hdrawing (fun _ _ _ h => h) applyStyle_onPage hrow (fun _ _ _ h => h) hchange
    (.modify fun _ _ => Int.le_refl topRow) (.modify fun _ h => h)

theorem Operation.run_onPage (o : Operation) : Keeps (OfSurface OnPage) o.run := by
  have hread (y x : Int) : Ends (OfSurface OnPage) Any Any (readTyped y x 6) :=
    operating_onPage.readTyped (fun _ _ h => h) y x 6
  exact keeps_iff_ends.2 (operating_onPage.run (fun _ _ _ _ _ _ _ => trivial)
    (operating_onPage.askPageNumber trivial hread fun _ _ _ _ _ _ => trivial)
    (operating_onPage.openTerminal applyStyle_onPage) o)

/-- Nothing goes back beyond the first row of a page. -/
theorem Reached.onPage {begun s : Stage Screen} (hbegun : OnPage begun.surface)
    (h : Reached begun s) : OnPage s.surface := by
  induction h with
  | opened => exact Operation.reopen.run_onPage begun hbegun
  | operated _ o ih => exact o.run_onPage _ ih
  | elsewhere _ _ _ ih => exact ih

end SlideDeck.Screen
