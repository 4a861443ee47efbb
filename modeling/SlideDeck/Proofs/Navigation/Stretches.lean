import SlideDeck.Proofs.Navigation.Invariant

/-!
# Stretches of a page

The pauses of a page cut its lines into stretches: each ends with its pause, and the last one has
the lines that are left. Every pass since the page was shown dispatches one stretch, so where the
reader stands depends on the number of these passes alone (`Reader.afterPasses`).
-/

namespace SlideDeck

namespace Page

def pauseCount (page : Page) : Nat := page.lines.countP isPause

/-- How many lines there are up to a pause, with the pause itself; the pauses are counted from 1.
Up to pause 0 there are none, and past the last pause these are all lines. -/
def reach (page : Page) : Nat → Nat
  | 0 => 0
  | k + 1 => ((page.lines.findIdxs isPause)[k]?.map (· + 1)).getD page.lines.length

/-- The lines after a pause, up to the next pause and with it. -/
def stretch (page : Page) (k : Nat) : List Text :=
  (page.lines.take (page.reach (k + 1))).drop (page.reach k)

/-! ### Stretches line by line -/

theorem reach_nil (title : Text) (k : Nat) : reach ⟨title, []⟩ k = 0 := by
  cases k with
  | zero => rfl
  | succ k => rfl

/-- A pause in front is the first one, and leaves one less to reach. -/
theorem reach_cons (title line : Text) (rest : List Text) (k : Nat) :
    reach ⟨title, line :: rest⟩ (k + 1) =
      reach ⟨title, rest⟩ (if isPause line then k else k + 1) + 1 := by
  have hshift : (rest.findIdxs isPause 1) = (rest.findIdxs isPause).map (· + 1) :=
    List.findIdxs_start
  cases h : isPause line with
  | false =>
    simp only [reach, List.findIdxs_cons, h, hshift, Bool.false_eq_true, if_false,
      List.getElem?_map, List.length_cons]
    cases (rest.findIdxs isPause)[k]? with
    | none => rfl
    | some i => rfl
  | true =>
    cases k with
    | zero => simp [reach, h]
    | succ k =>
      simp only [reach, List.findIdxs_cons, h, hshift, if_true, List.getElem?_cons_succ,
        List.getElem?_map, List.length_cons]
      cases (rest.findIdxs isPause)[k]? with
      | none => rfl
      | some i => rfl

theorem reach_le (page : Page) (k : Nat) : page.reach k ≤ page.lines.length := by
  obtain ⟨title, lines⟩ := page
  induction lines generalizing k with
  | nil => simp [reach_nil]
  | cons line rest ih =>
    cases k with
    | zero => exact Nat.zero_le _
    | succ k =>
      rw [reach_cons]
      exact Nat.succ_le_succ (ih _)

theorem reach_le_succ (page : Page) (k : Nat) : page.reach k ≤ page.reach (k + 1) := by
  obtain ⟨title, lines⟩ := page
  induction lines generalizing k with
  | nil => simp [reach_nil]
  | cons line rest ih =>
    cases k with
    | zero => exact Nat.zero_le _
    | succ k =>
      rw [reach_cons, reach_cons]
      cases isPause line with
      | true => exact Nat.succ_le_succ (ih k)
      | false => exact Nat.succ_le_succ (ih (k + 1))

theorem length_stretch (page : Page) (k : Nat) :
    (page.stretch k).length = page.reach (k + 1) - page.reach k := by
  have hle := page.reach_le (k + 1)
  simp only [stretch, List.length_drop, List.length_take]
  omega

theorem stretch_cons_zero (title line : Text) (rest : List Text) :
    stretch ⟨title, line :: rest⟩ 0 =
      if isPause line then [line] else line :: stretch ⟨title, rest⟩ 0 := by
  simp only [stretch, reach_cons]
  cases isPause line with
  | true => rfl
  | false => rfl

theorem stretch_cons_succ (title line : Text) (rest : List Text) (k : Nat) :
    stretch ⟨title, line :: rest⟩ (k + 1) =
      stretch ⟨title, rest⟩ (if isPause line then k else k + 1) := by
  simp only [stretch, reach_cons, List.take_succ_cons, List.drop_succ_cons]
  cases isPause line with
  | true => rfl
  | false => rfl

/-- From a pause on, the lines up to the next one are a stretch. -/
theorem upToPause_drop_reach (page : Page) (k : Nat) :
    upToPause (page.lines.drop (page.reach k)) = page.stretch k := by
  obtain ⟨title, lines⟩ := page
  induction lines generalizing k with
  | nil => simp [stretch, upToPause]
  | cons line rest ih =>
    cases k with
    | zero =>
      have hrest : upToPause rest = stretch ⟨title, rest⟩ 0 := ih 0
      rw [stretch_cons_zero, ← hrest]
      rfl
    | succ k =>
      rw [stretch_cons_succ, reach_cons, List.drop_succ_cons]
      exact ih _

/-- After a pause there is another one unless it was the last. -/
theorem any_drop_reach (page : Page) (k : Nat) :
    (page.lines.drop (page.reach k)).any isPause = decide (k < page.pauseCount) := by
  obtain ⟨title, lines⟩ := page
  simp only [pauseCount]
  induction lines generalizing k with
  | nil => simp
  | cons line rest ih =>
    cases k with
    | zero =>
      have hrest : rest.any isPause = decide (0 < rest.countP isPause) := ih 0
      simp only [reach, List.drop_zero, List.any_cons, List.countP_cons, hrest]
      cases isPause line <;> simp
    | succ k =>
      simp only [reach_cons, List.drop_succ_cons, ih, List.countP_cons]
      cases isPause line <;> simp

/-- Past the last pause a pass reaches the end of the page. -/
theorem reach_of_pauseCount_le {page : Page} {k : Nat} (h : page.pauseCount ≤ k) :
    page.reach (k + 1) = page.lines.length := by
  have hnone : (page.lines.findIdxs isPause)[k]? = none := by
    rw [List.getElem?_eq_none_iff, List.length_findIdxs]
    exact h
  simp only [reach, hnone, Option.map_none, Option.getD_none]

/-- Past the stretch after the last pause nothing is left. -/
theorem stretch_of_pauseCount_lt (page : Page) {k : Nat} (h : page.pauseCount < k) :
    page.stretch k = [] := by
  obtain ⟨j, rfl⟩ : ∃ j, k = j + 1 := ⟨k - 1, by omega⟩
  have hend : page.reach (j + 1) = page.lines.length := reach_of_pauseCount_le (by omega)
  have hlength := page.length_stretch (j + 1)
  have hle := page.reach_le (j + 1 + 1)
  exact List.length_eq_zero_iff.1 (by omega)

end Page

namespace Reader

/-- Where a reader stands after so many passes since its page was shown. -/
def afterPasses (page : Page) (k : Nat) : Reader where
  page := page
  cursor := page.reach k
  ended := 0 < k && page.lines.length ≤ page.reach k

theorem left_afterPasses (page : Page) (k : Nat) :
    (afterPasses page k).left = page.lines.drop (page.reach k) := by
  cases hended : (afterPasses page k).ended with
  | false => exact left_of_not_ended hended
  | true =>
    have hend : page.lines.length ≤ page.reach k :=
      of_decide_eq_true (Bool.and_eq_true_iff.1 hended).2
    rw [left_of_ended hended, List.drop_eq_nil_of_le hend]

/-- One more pass dispatches the next stretch. -/
theorem pass_afterPasses (page : Page) (k : Nat) :
    (afterPasses page k).pass = afterPasses page (k + 1) := by
  have hmono := page.reach_le_succ k
  have hcursor : page.reach k + (page.stretch k).length = page.reach (k + 1) := by
    rw [page.length_stretch]
    omega
  -- A page that has ended stays ended, as no pass reaches less far than the one before.
  have hended : (decide (0 < k) && decide (page.lines.length ≤ page.reach k) ||
      decide (page.lines.length ≤ page.reach (k + 1))) =
        (decide (0 < k + 1) && decide (page.lines.length ≤ page.reach (k + 1))) := by
    rw [Bool.eq_iff_iff]
    simp only [Bool.or_eq_true, Bool.and_eq_true, decide_eq_true_eq]
    omega
  simp only [pass, left_afterPasses, Page.upToPause_drop_reach]
  simp only [afterPasses, hcursor, hended]

end Reader

/-- The passes since the page was shown, after one more entry of a history. -/
def Entry.countPass (k : Nat) : Entry → Nat
  | shown => 0
  | passed _ => k + 1
  | dispatched _ | status .. => k

def passesSinceShown (history : List Entry) : Nat := history.foldl Entry.countPass 0

theorem Entry.foldl_countPass_dispatched (lines : List Text) (k : Nat) :
    (lines.map dispatched).foldl countPass k = k := by
  induction lines with
  | nil => rfl
  | cons line rest ih => exact ih

namespace Navigator

/-- A navigator that has made so many passes since its page was shown. -/
structure HasPassed (n : Navigator) (k : Nat) : Prop where
  reader : n.reader = .afterPasses n.reader.page k
  finished : n.finished = decide (n.reader.page.pauseCount < k)

theorem HasPassed.of_shown {n : Navigator} {page : Page} (hreader : n.reader = .start page)
    (hfinished : n.finished = false) : n.HasPassed 0 where
  reader := by
    rw [hreader]
    rfl
  finished := by simp [hfinished]

theorem HasPassed.of_start {deck : Deck} {index : Int} {n : Navigator}
    (h : start deck index = .ok n) : n.HasPassed 0 := by
  simp only [start] at h
  split at h
  · cases h
    exact .of_shown rfl rfl
  · cases h

theorem HasPassed.turnTo {n : Navigator} {index : Nat} (h : index < n.pages.length) :
    (n.turnTo index).HasPassed 0 := by
  rw [turnTo_eq h]
  exact .of_shown rfl rfl

theorem HasPassed.left {n : Navigator} {k : Nat} (h : n.HasPassed k) :
    n.reader.left = n.reader.page.lines.drop (n.reader.page.reach k) := by
  rw [h.reader]
  exact Reader.left_afterPasses _ k

/-- The next pass dispatches the next stretch. -/
theorem HasPassed.upToPause_left {n : Navigator} {k : Nat} (h : n.HasPassed k) :
    upToPause n.reader.left = n.reader.page.stretch k := by
  rw [h.left]
  exact n.reader.page.upToPause_drop_reach k

/-- It stops at a pause as long as there is one that no pass has come to. -/
theorem HasPassed.stopsAtPause {n : Navigator} {k : Nat} (h : n.HasPassed k) :
    n.stopsAtPause = decide (k < n.reader.page.pauseCount) := by
  rw [Navigator.stopsAtPause, h.left]
  exact n.reader.page.any_drop_reach k

theorem HasPassed.afterPass {n : Navigator} {k : Nat} (h : n.HasPassed k) :
    n.afterPass.HasPassed (k + 1) where
  reader := by
    have hpass : n.reader.pass = .afterPasses n.reader.page (k + 1) := by
      rw [h.reader]
      exact Reader.pass_afterPasses _ k
    exact hpass
  finished := by
    have hstops : n.reader.left.any isPause = decide (k < n.reader.page.pauseCount) :=
      h.stopsAtPause
    have hfinished := n.finished_afterPass
    rw [hstops] at hfinished
    rw [hfinished, Bool.eq_iff_iff]
    simp only [Bool.not_eq_true', decide_eq_false_iff_not, decide_eq_true_eq]
    exact Nat.not_lt.trans Nat.lt_succ_iff.symm

/-- Every operation keeps count: a pass is one more, turning to a page begins anew, and all else
leaves the count as it is. -/
theorem HasPassed.next {n : Navigator} {k : Nat} (h : n.HasPassed k)
    (hindex : n.index < n.pages.length) (m : Move) :
    (m.next n).HasPassed ((m.entries n).foldl Entry.countPass k) := by
  have hturned : (((m.turn? n).map n.turnTo).getD n).HasPassed
      ((if (m.turn? n).isSome then [Entry.shown] else []).foldl Entry.countPass k) := by
    cases hturn : m.turn? n with
    | none => exact h
    | some index => exact .turnTo (Move.lt_of_turn hindex hturn)
  cases m with
  | drive =>
    simp only [Move.entries, List.foldl_append, Entry.foldl_countPass_dispatched]
    exact h.afterPass
  | drawStatus => exact h
  | handle action =>
    cases action with
    | quit | reload => exact ⟨h.reader, h.finished⟩
    | advance | retreat | firstPage | jump | help | edit | resize => exact hturned
  | advance | retreat | jump | firstPage | wrapForward => exact hturned

end Navigator

variable {σ : Type} [Surface σ]

/-- What operations do to the navigator does not hang on the stage, unless a pass meets a fault. -/
theorem Move.nav_make {m : Move} {p : Presentation σ} (hindex : p.nav.index < p.nav.pages.length)
    (h : m = .drive → ∃ paused q, m.make p = .ok paused q) :
    (Outcome.state (m.make p)).nav = m.next p.nav := by
  by_cases hm : m = .drive
  · obtain ⟨paused, q, hq⟩ := h hm
    subst hm
    rw [hq]
    exact congrArg Presentation.nav (state_make_drive hq).1
  · rw [state_make hm hindex]

theorem Reached.hasPassed {deck : Deck} {begun p : Presentation σ} {history : List Entry}
    (hbegun : begun.nav.Consistent deck {}) (hpassed : begun.nav.HasPassed 0)
    (h : Reached begun p history) : p.nav.HasPassed (passesSinceShown history) := by
  induction h with
  | start => exact hpassed
  | @move p history m reached dispatches ih =>
    have hindex := (reached.consistent hbegun).2.index_lt_pages
    rw [m.nav_make hindex dispatches, passesSinceShown, List.foldl_append]
    exact ih.next hindex m

namespace Navigator

/-- However a presentation came to a page, its passes since then cut the page at its pauses. While
no dispatch is at fault, the pass after `k` others dispatches the lines after the `k`-th pause up to
the next one and with it; it answers whether there was a next one, and otherwise ends the page. So
the end is first reported after one pass more than there are pauses, and from then on nothing is
dispatched. -/
theorem passes_cut_at_pauses {deck : Deck} (hdeck : deck ≠ []) (index : Int) (stage : Stage σ) :
    ∃ n, start deck index = .ok n ∧
      ∀ p history, Reached ⟨stage, n⟩ p history →
        let page := p.nav.reader.page
        let k := passesSinceShown history
        deck[p.nav.index]? = some page ∧
          p.nav.reader.cursor = page.reach k ∧
          p.nav.finished = decide (page.pauseCount < k) ∧
          (page.pauseCount < k → page.stretch k = []) ∧
          ∀ s, Conversion.dispatchLines (page.stretch k) p.stage = .ok () s →
            ∃ m, Present.drive p = .ok (decide (k < page.pauseCount)) ⟨s, m⟩ ∧
              m.reader.page = page ∧ m.reader.cursor = page.reach (k + 1) ∧
              m.finished = decide (page.pauseCount ≤ k) := by
  obtain ⟨n, hn⟩ := exists_start hdeck index
  have hstart := consistent_start hn
  refine ⟨n, hn, fun p history hreached => ?_⟩
  have hconsistent := (hreached.consistent hstart).2
  have hpassed := hreached.hasPassed hstart (.of_start hn)
  intro page k
  have hcursor : p.nav.reader.cursor = page.reach k := congrArg Reader.cursor hpassed.reader
  refine ⟨hconsistent.page, hcursor, hpassed.finished, page.stretch_of_pauseCount_lt, ?_⟩
  intro s hs
  rw [← hpassed.upToPause_left] at hs
  have hdrive := Present.drive_ok hs
  rw [hpassed.stopsAtPause] at hdrive
  have hnext := hpassed.afterPass
  refine ⟨p.nav.afterPass, hdrive, rfl, congrArg Reader.cursor hnext.reader, ?_⟩
  rw [hnext.finished, Bool.eq_iff_iff, decide_eq_true_eq, decide_eq_true_eq]
  exact Nat.lt_succ_iff

/-- A page of four lines that ends with its second pause: the third pass dispatches nothing, and
reports the end. -/
theorem passes_cut_at_pauses_trailing :
    let page : Page := ⟨"one", ["a", "---", "b", "---"]⟩
    let deck : Deck := [page]
    let begun : Presentation Recorder :=
      ⟨⟨Host.quiet, {}, {}, none⟩, { pages := deck, index := 0, reader := .start page }⟩
    let first := Outcome.state (Move.drive.make begun)
    let second := Outcome.state (Move.drive.make first)
    deck ≠ [] ∧ page.stretch 0 = ["a", "---"] ∧ page.stretch 1 = ["b", "---"] ∧
      second.nav.finished = false ∧
      ∃ m, Present.drive second = .ok false ⟨second.stage, m⟩ ∧ m.finished = true := by
  intro page deck begun first second
  have hdeck : deck ≠ [] := List.cons_ne_nil _ _
  obtain ⟨n, hn, hrun⟩ := passes_cut_at_pauses hdeck 0 begun.stage
  cases hn
  have hreached : Reached begun second
      (Move.drive.entries begun.nav ++ Move.drive.entries first.nav) :=
    .move .drive (.move .drive .start fun _ => ⟨true, _, rfl⟩) fun _ => ⟨true, _, rfl⟩
  obtain ⟨-, -, hfinished, -, hthird⟩ := hrun second _ hreached
  obtain ⟨m, hdrive, -, -, hend⟩ := hthird second.stage rfl
  exact ⟨hdeck, rfl, rfl, hfinished, m, hdrive, hend⟩

end Navigator

end SlideDeck
