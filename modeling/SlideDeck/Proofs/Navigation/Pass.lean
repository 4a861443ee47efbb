import SlideDeck.Presenter.Conversion
import SlideDeck.Proofs.Pause

/-!
# Passes over a page

A pass dispatches the lines that are left, up to the first pause. To the stage it does what
dispatching these lines does (`drive_ok`, `drive_error`), on every surface; where it leaves the
presentation depends on the lines alone (`Navigator.afterPass`).
-/

namespace SlideDeck

namespace Reader

/-- The lines that a pass has before it; there are none once the end was noticed. -/
def left (r : Reader) : List Text := if r.ended then [] else r.rest

def skip (r : Reader) : Nat → Reader
  | 0 => r
  | count + 1 => r.advance.skip count

def pass (r : Reader) : Reader :=
  { r with
    cursor := r.cursor + (upToPause r.left).length
    ended := r.ended || r.page.lines.length ≤ r.cursor + (upToPause r.left).length }

theorem skip_eq (r : Reader) (count : Nat) :
    r.skip count = { r with
      cursor := r.cursor + count
      ended := r.ended || (0 < count && r.page.lines.length ≤ r.cursor + count) } := by
  induction count generalizing r with
  | zero => simp [skip]
  | succ count ih =>
    rw [skip, ih]
    have hcursor : r.cursor + 1 + count = r.cursor + (count + 1) := by omega
    -- Once a line is past the end, so are all later ones.
    have hended : (r.ended || decide (r.page.lines.length ≤ r.cursor + 1) ||
          (decide (0 < count) && decide (r.page.lines.length ≤ r.cursor + 1 + count)))
        = (r.ended || (decide (0 < count + 1) &&
          decide (r.page.lines.length ≤ r.cursor + (count + 1)))) := by
      cases r.ended with
      | true => rfl
      | false =>
        rw [Bool.eq_iff_iff]
        simp only [Bool.false_or, Bool.or_eq_true, Bool.and_eq_true, decide_eq_true_eq]
        omega
    simp only [advance, hcursor] at hended ⊢
    rw [hended]

theorem left_of_ended {r : Reader} (h : r.ended = true) : r.left = [] := by
  rw [left, if_pos h]

theorem left_of_not_ended {r : Reader} (h : r.ended = false) : r.left = r.rest := by
  rw [left, h, if_neg Bool.false_ne_true]

theorem rest_eq_nil_iff {r : Reader} : r.rest = [] ↔ r.page.lines.length ≤ r.cursor := by
  simp [rest, List.drop_eq_nil_iff]

theorem pass_of_ended {r : Reader} (h : r.ended = true) : r.pass = r := by
  obtain ⟨page, cursor, ended⟩ := r
  obtain rfl : ended = true := h
  rfl

theorem pass_of_rest_eq_nil {r : Reader} (h : r.ended = false) (hrest : r.rest = []) :
    r.pass = { r with ended := true } := by
  rw [pass, left_of_not_ended h, hrest]
  have hcursor : r.page.lines.length ≤ r.cursor := rest_eq_nil_iff.1 hrest
  simp [upToPause, hcursor]

theorem skip_eq_pass {r : Reader} (hended : r.ended = false) (hrest : r.rest ≠ []) :
    r.skip (upToPause r.left).length = r.pass := by
  have hcount : 0 < (upToPause r.left).length := by
    rw [left_of_not_ended hended]
    exact List.length_pos_iff.2 (upToPause_ne_nil hrest)
  rw [skip_eq, pass, decide_eq_true hcount, Bool.true_and]

/-- A pass moves the cursor past the lines that it dispatches. -/
theorem take_pass (r : Reader) :
    r.page.lines.take r.pass.cursor = r.page.lines.take r.cursor ++ upToPause r.left := by
  rcases hended : r.ended with - | -
  · have hprefix : upToPause r.left = r.left.take (upToPause r.left).length :=
      List.prefix_iff_eq_take.1 (upToPause_isPrefix r.left)
    have hleft : r.left = r.page.lines.drop r.cursor := left_of_not_ended hended
    rw [pass, List.take_add, ← hleft, ← hprefix]
  · rw [pass_of_ended hended, left_of_ended hended, upToPause, List.append_nil]

theorem cursor_pass_le {r : Reader} (h : r.cursor ≤ r.page.lines.length) :
    r.pass.cursor ≤ r.page.lines.length := by
  rcases hended : r.ended with - | -
  · have hcount : (upToPause r.left).length ≤ r.left.length :=
      (upToPause_isPrefix r.left).length_le
    rw [left_of_not_ended hended, rest, List.length_drop] at hcount
    rw [pass, left_of_not_ended hended, rest]
    dsimp only
    omega
  · rw [pass_of_ended hended]
    exact h

theorem left_subset (r : Reader) : r.left ⊆ r.page.lines := by
  rcases hended : r.ended with - | -
  · rw [left_of_not_ended hended]
    exact List.drop_subset _ _
  · rw [left_of_ended hended]
    exact List.nil_subset _

theorem left_pass {r : Reader} (h : r.ended = false) :
    r.pass.left = r.left.drop (upToPause r.left).length := by
  have hrest : r.pass.rest = r.left.drop (upToPause r.left).length := by
    show r.page.lines.drop (r.cursor + (upToPause r.left).length) = _
    rw [left_of_not_ended h]
    exact List.drop_drop.symm
  rcases hend : r.pass.ended with - | -
  · rw [left_of_not_ended hend, hrest]
  · -- The end is noticed only when nothing is left.
    have hpast : r.page.lines.length ≤ r.pass.cursor := by
      have hor : (r.ended || decide (r.page.lines.length ≤ r.pass.cursor)) = true := hend
      rw [h, Bool.false_or] at hor
      exact of_decide_eq_true hor
    rw [left_of_ended hend, ← hrest]
    exact (rest_eq_nil_iff.2 hpast).symm

/-- A pass leaves the lines that it does not dispatch. -/
theorem left_eq_append (r : Reader) : r.left = upToPause r.left ++ r.pass.left := by
  rcases hended : r.ended with - | -
  · rw [left_pass hended, List.prefix_iff_eq_append.1 (upToPause_isPrefix r.left)]
  · rw [pass_of_ended hended, left_of_ended hended]
    rfl

theorem ended_pass {r : Reader} (h : r.left.any isPause = false) : r.pass.ended = true := by
  rcases hended : r.ended with - | -
  · have hcount : (upToPause r.left).length = r.page.lines.length - r.cursor := by
      rw [upToPause_of_no_pause h, left_of_not_ended hended, rest, List.length_drop]
    have hpast : r.page.lines.length ≤ r.cursor + (upToPause r.left).length := by omega
    show (r.ended || decide _) = true
    rw [decide_eq_true hpast, Bool.or_true]
  · rw [pass_of_ended hended]
    exact hended

theorem countP_left (r : Reader) :
    r.left.countP isPause =
      (if r.left.any isPause then 1 else 0) + r.pass.left.countP isPause := by
  refine (congrArg (List.countP isPause) r.left_eq_append).trans ?_
  rw [List.countP_append, countP_upToPause]

end Reader

namespace Navigator

def stopsAtPause (n : Navigator) : Bool := n.reader.left.any isPause

def endPass (n : Navigator) (paused : Bool) : Navigator :=
  { n with finished := n.reader.ended && !paused }

def afterPass (n : Navigator) : Navigator :=
  { n with reader := n.reader.pass }.endPass n.stopsAtPause

/-- A pass shows the page to its end unless it stops at a pause. -/
theorem finished_afterPass (n : Navigator) :
    n.afterPass.finished = !n.reader.left.any isPause := by
  show (n.reader.pass.ended && !n.reader.left.any isPause) = _
  rcases hany : n.reader.left.any isPause with - | -
  · rw [Reader.ended_pass hany, Bool.true_and]
  · rw [Bool.not_true, Bool.and_false]

theorem pages_turnTo (n : Navigator) (index : Nat) : (n.turnTo index).pages = n.pages := by
  unfold turnTo
  split
  · rfl
  · rfl

theorem turnTo_eq {n : Navigator} {index : Nat} (h : index < n.pages.length) :
    n.turnTo index =
      { n with index := index, reader := .start n.pages[index], finished := false } := by
  simp only [turnTo, List.getElem?_eq_getElem h]

end Navigator

def Presentation.taken {σ : Type} (p : Presentation σ) (s : Stage σ) (count : Nat) :
    Presentation σ :=
  ⟨s, { p.nav with reader := p.nav.reader.skip count }⟩

namespace Present

variable {σ : Type} [Surface σ]

theorem driveLines_cons (line : Text) (rest : List Text) (p : Presentation σ) :
    driveLines (line :: rest) p = match Directive.dispatch (some line) p.stage with
      | .ok true s => .ok true (p.taken s 1)
      | .ok false s => driveLines rest (p.taken s 1)
      | .error fault s => .error fault (p.taken s 1) := by
  simp only [driveLines, modifyNav, modify, modifyGet, MonadStateOf.modifyGet, EStateM.modifyGet,
    bind, EStateM.bind, monadLift, MonadLift.monadLift, onStage, liftM]
  rcases Directive.dispatch (some line) p.stage with ⟨_ | _, s⟩ | ⟨fault, s⟩
  · rfl
  · rfl
  · rfl

theorem driveLines_ok {lines : List Text} {p : Presentation σ} {s : Stage σ}
    (h : Conversion.dispatchLines (upToPause lines) p.stage = .ok () s) :
    driveLines lines p = .ok (lines.any isPause) (p.taken s (upToPause lines).length) := by
  induction lines generalizing p with
  | nil =>
    cases h
    rfl
  | cons line rest ih =>
    rw [driveLines_cons]
    rcases hpause : isPause line with - | -
    · rw [upToPause_of_not_pause rest hpause] at h ⊢
      obtain ⟨paused, t, hline, hrest⟩ := Outcome.bind_eq_ok h
      have hanswer : paused = false := (Directive.dispatch_answer hline).trans hpause
      rw [hline, hanswer]
      refine (ih (p := p.taken t 1) hrest).trans ?_
      rw [List.any_cons, hpause, Bool.false_or]
      rfl
    · rw [upToPause_of_pause rest hpause] at h ⊢
      obtain ⟨paused, t, hline, hrest⟩ := Outcome.bind_eq_ok h
      have hanswer : paused = true := (Directive.dispatch_answer hline).trans hpause
      cases hrest
      rw [hline, hanswer, List.any_cons, hpause, Bool.true_or]
      rfl

theorem driveLines_error {lines : List Text} {p : Presentation σ} {fault : Fault} {s : Stage σ}
    (h : Conversion.dispatchLines (upToPause lines) p.stage = .error fault s) :
    ∃ n, driveLines lines p = .error fault ⟨s, n⟩ := by
  induction lines generalizing p with
  | nil => cases h
  | cons line rest ih =>
    rw [driveLines_cons]
    rcases hline : Directive.dispatch (some line) p.stage with ⟨paused, t⟩ | ⟨fault', t⟩
    · have hanswer := Directive.dispatch_answer hline
      rcases hpause : isPause line with - | -
      · rw [upToPause_of_not_pause rest hpause, Conversion.dispatchLines,
          Outcome.bind_ok hline] at h
        rw [hanswer, hpause]
        exact ih (p := p.taken t 1) h
      · rw [upToPause_of_pause rest hpause, Conversion.dispatchLines, Outcome.bind_ok hline] at h
        cases h
    · -- The pass ends with its first line, whether or not it is a pause.
      have hlines : ∃ later, upToPause (line :: rest) = line :: later := by
        rw [upToPause]
        split
        · exact ⟨[], rfl⟩
        · exact ⟨upToPause rest, rfl⟩
      obtain ⟨later, hlater⟩ := hlines
      rw [hlater, Conversion.dispatchLines, Outcome.bind_error hline] at h
      cases h
      exact ⟨_, rfl⟩

theorem drive_of_ended {p : Presentation σ} (h : p.nav.reader.ended = true) :
    drive p = .ok false ⟨p.stage, p.nav.endPass false⟩ := by
  refine (Outcome.bind_ok (nav_apply p)).trans ?_
  rw [if_pos h]
  rfl

theorem drive_of_rest_eq_nil {p : Presentation σ} (h : p.nav.reader.ended = false)
    (hrest : p.nav.reader.rest = []) :
    drive p = .ok false ⟨p.stage,
      { p.nav with reader := { p.nav.reader with ended := true } }.endPass false⟩ := by
  refine (Outcome.bind_ok (nav_apply p)).trans ?_
  rw [if_neg (by simp [h]), if_pos hrest]
  rfl

theorem drive_of_rest {p q : Presentation σ} {paused : Bool} (h : p.nav.reader.ended = false)
    (hrest : p.nav.reader.rest ≠ []) (hlines : driveLines p.nav.reader.rest p = .ok paused q) :
    drive p = .ok paused ⟨q.stage, q.nav.endPass paused⟩ := by
  refine (Outcome.bind_ok (nav_apply p)).trans ?_
  rw [if_neg (by simp [h]), if_neg hrest]
  refine (Outcome.bind_ok hlines).trans ?_
  rfl

/-- A pass dispatches the lines that are left up to the first pause, and answers whether there was
one. -/
theorem drive_ok {p : Presentation σ} {s : Stage σ}
    (h : Conversion.dispatchLines (upToPause p.nav.reader.left) p.stage = .ok () s) :
    drive p = .ok p.nav.stopsAtPause ⟨s, p.nav.afterPass⟩ := by
  rw [Navigator.afterPass, Navigator.stopsAtPause]
  rcases hended : p.nav.reader.ended with - | -
  · have hleft : p.nav.reader.left = p.nav.reader.rest := Reader.left_of_not_ended hended
    by_cases hrest : p.nav.reader.rest = []
    · rw [hleft, hrest] at h
      cases h
      rw [drive_of_rest_eq_nil hended hrest, Reader.pass_of_rest_eq_nil hended hrest, hleft, hrest]
      rfl
    · rw [hleft] at h
      rw [drive_of_rest hended hrest (driveLines_ok h), ← Reader.skip_eq_pass hended hrest, hleft]
      rfl
  · have hleft : p.nav.reader.left = [] := Reader.left_of_ended hended
    rw [hleft] at h
    cases h
    rw [drive_of_ended hended, Reader.pass_of_ended hended, hleft]
    rfl

theorem drive_error {p : Presentation σ} {fault : Fault} {s : Stage σ}
    (h : Conversion.dispatchLines (upToPause p.nav.reader.left) p.stage = .error fault s) :
    ∃ n, drive p = .error fault ⟨s, n⟩ := by
  rcases hended : p.nav.reader.ended with - | -
  · have hleft : p.nav.reader.left = p.nav.reader.rest := Reader.left_of_not_ended hended
    rw [hleft] at h
    have hrest : p.nav.reader.rest ≠ [] := by
      intro hnil
      rw [hnil] at h
      cases h
    obtain ⟨n, hn⟩ := driveLines_error h
    refine ⟨n, (Outcome.bind_ok (nav_apply p)).trans ?_⟩
    rw [if_neg (by simp [hended]), if_neg hrest]
    exact Outcome.bind_error hn
  · rw [Reader.left_of_ended hended] at h
    cases h

end Present

end SlideDeck
