import SlideDeck.Proofs.Navigation.Move
import SlideDeck.Surface.Recorder

/-!
# The invariant of a presentation

The history of a run says which lines were dispatched since the page was shown, and how the last
pass since then ended (`Record`). Whatever operations led there, the navigator agrees with it
(`Navigator.Consistent`).
-/

namespace SlideDeck

structure Record where
  lines : List Text := []
  /-- Whether the last pass stopped at a pause; none when no pass was made. -/
  lastPass : Option Bool := none

namespace Record

def add (r : Record) : Entry → Record
  | .shown => {}
  | .dispatched line => { r with lines := r.lines ++ [line] }
  | .passed paused => { r with lastPass := some paused }
  | .status .. => r

def ofHistory (history : List Entry) : Record := history.foldl add {}

theorem foldl_dispatched (lines : List Text) (r : Record) :
    (lines.map .dispatched).foldl add r = { r with lines := r.lines ++ lines } := by
  induction lines generalizing r with
  | nil => simp
  | cons line rest ih =>
    rw [List.map_cons, List.foldl_cons, ih]
    simp [add]

end Record

/-- The presentations that operations reach, each with what the stage was asked for on the way. No
pass meets a fault; the other operations may. -/
inductive Reached {σ : Type} [Surface σ] (start : Presentation σ) :
    Presentation σ → List Entry → Prop where
  | start : Reached start start []
  | move {p : Presentation σ} {history : List Entry} (m : Move) (reached : Reached start p history)
      (dispatches : m = .drive → ∃ paused q, m.make p = .ok paused q) :
      Reached start (Outcome.state (m.make p)) (history ++ m.entries p.nav)

variable {σ : Type} [Surface σ]

namespace Navigator

structure Consistent (n : Navigator) (deck : Deck) (r : Record) : Prop where
  pages : n.pages = deck
  index_lt : n.index < deck.length
  page : deck[n.index]? = some n.reader.page
  cursor_le : n.reader.cursor ≤ n.reader.page.lines.length
  lines : r.lines = n.reader.page.lines.take n.reader.cursor
  ended : n.reader.ended = true → n.reader.cursor = n.reader.page.lines.length
  finished : n.finished = true → n.reader.ended = true ∧ r.lastPass = some false

theorem consistent_start {deck : Deck} {index : Int} {n : Navigator}
    (h : start deck index = .ok n) : n.Consistent deck {} := by
  simp only [start] at h
  split at h
  · rename_i page hpage
    cases h
    exact {
      pages := rfl
      index_lt := (List.getElem?_eq_some_iff.1 hpage).1
      page := hpage
      cursor_le := Nat.zero_le _
      lines := rfl
      ended := nofun
      finished := nofun }
  · cases h

theorem exists_start {deck : Deck} (h : deck ≠ []) (index : Int) :
    ∃ n, start deck index = .ok n := by
  have hlength : 0 < deck.length := List.length_pos_iff.2 h
  have hlt : (min (max index 0) (deck.length - 1)).toNat < deck.length := by omega
  simp only [start, List.getElem?_eq_getElem hlt]
  exact ⟨_, rfl⟩

theorem Consistent.turnTo {n : Navigator} {deck : Deck} {r : Record} {index : Nat}
    (h : n.Consistent deck r) (hindex : index < deck.length) :
    (n.turnTo index).Consistent deck {} := by
  obtain rfl := h.pages
  rw [turnTo_eq hindex]
  exact {
    pages := rfl
    index_lt := hindex
    page := List.getElem?_eq_getElem hindex
    cursor_le := Nat.zero_le _
    lines := rfl
    ended := Bool.noConfusion
    finished := Bool.noConfusion }

/-- A pass dispatches just the lines that it moves past. -/
theorem Consistent.afterPass {n : Navigator} {deck : Deck} {r : Record}
    (h : n.Consistent deck r) :
    n.afterPass.Consistent deck
      { lines := r.lines ++ upToPause n.reader.left, lastPass := some n.stopsAtPause } where
  pages := h.pages
  index_lt := h.index_lt
  page := h.page
  cursor_le := Reader.cursor_pass_le h.cursor_le
  lines := by
    rw [h.lines]
    exact (Reader.take_pass n.reader).symm
  ended := by
    intro hended
    have hle : n.reader.pass.cursor ≤ n.reader.page.lines.length :=
      Reader.cursor_pass_le h.cursor_le
    rcases Bool.or_eq_true_iff.1 hended with hbefore | hend
    · show n.reader.pass.cursor = n.reader.page.lines.length
      rw [Reader.pass_of_ended hbefore]
      exact h.ended hbefore
    · exact Nat.le_antisymm hle (of_decide_eq_true hend)
  finished := by
    intro hfinished
    obtain ⟨hended, hpaused⟩ := Bool.and_eq_true_iff.1 hfinished
    exact ⟨hended, congrArg some (Bool.not_eq_true' _ ▸ hpaused)⟩

theorem Consistent.index_lt_pages {n : Navigator} {deck : Deck} {r : Record}
    (h : n.Consistent deck r) : n.index < n.pages.length := by
  rw [h.pages]
  exact h.index_lt

theorem Consistent.lt_of_turn {n : Navigator} {deck : Deck} {r : Record} {m : Move} {index : Nat}
    (h : n.Consistent deck r) (hturn : m.turn? n = some index) : index < deck.length := by
  rw [← h.pages]
  exact Move.lt_of_turn h.index_lt_pages hturn

theorem Consistent.index_advance_ne_iff {p : Presentation σ} {deck : Deck} {r : Record}
    (h : p.nav.Consistent deck r) :
    (Outcome.state (Present.advance p)).nav.index ≠ p.nav.index ↔
      p.nav.finished = true ∧ p.nav.index + 1 < deck.length := by
  have hstep : (Outcome.state (Present.advance p)).nav = Move.advance.next p.nav :=
    congrArg Presentation.nav (Move.state_make (m := .advance) nofun h.index_lt_pages)
  have hpages : p.nav.pages.length = deck.length := congrArg List.length h.pages
  rw [hstep, ← hpages]
  by_cases hturn : p.nav.finished = true ∧ p.nav.index + 1 < p.nav.pages.length
  · have hnext : Move.advance.next p.nav = p.nav.turnTo (p.nav.index + 1) := by
      simp [Move.next, Move.turn?, hturn]
    have hindex : (p.nav.turnTo (p.nav.index + 1)).index = p.nav.index + 1 := by
      rw [Navigator.turnTo_eq hturn.2]
    rw [hnext, hindex]
    exact iff_of_true (Nat.succ_ne_self _) hturn
  · have hnext : Move.advance.next p.nav = p.nav := by
      simp only [Move.next, Move.turn?, Bool.and_eq_true, decide_eq_true_eq, if_neg hturn]
      rfl
    rw [hnext]
    exact iff_of_false (not_not_intro rfl) hturn

theorem Consistent.next {n : Navigator} {deck : Deck} {r : Record} (h : n.Consistent deck r)
    (m : Move) : (m.next n).Consistent deck ((m.entries n).foldl Record.add r) := by
  have hturned : (((m.turn? n).map n.turnTo).getD n).Consistent deck
      ((if (m.turn? n).isSome then [Entry.shown] else []).foldl Record.add r) := by
    rcases hturn : m.turn? n with - | index
    · exact h
    · exact h.turnTo (h.lt_of_turn hturn)
  -- A pass lengthens the record, turning the page empties it, and all else leaves it as it is.
  cases m with
  | drive =>
    simp only [Move.entries, List.foldl_append, Record.foldl_dispatched]
    exact h.afterPass
  | drawStatus => exact h
  | handle action =>
    cases action with
    | quit | reload =>
      exact ⟨h.pages, h.index_lt, h.page, h.cursor_le, h.lines, h.ended, h.finished⟩
    | advance | retreat | firstPage | jump | help | edit | resize => exact hturned
  | advance | retreat | jump | firstPage | wrapForward => exact hturned

end Navigator

theorem Reached.consistent {deck : Deck} {start p : Presentation σ} {history : List Entry}
    (hstart : start.nav.Consistent deck {}) (h : Reached start p history) :
    p.stage = history.foldl Entry.after start.stage ∧
      p.nav.Consistent deck (Record.ofHistory history) := by
  induction h with
  | start => exact ⟨rfl, hstart⟩
  | @move p history m reached dispatches ih =>
    obtain ⟨hstage, hnav⟩ := ih
    have hstep : Outcome.state (m.make p) =
        ⟨(m.entries p.nav).foldl Entry.after p.stage, m.next p.nav⟩ := by
      by_cases hm : m = .drive
      · obtain ⟨paused, q, hq⟩ := dispatches hm
        subst hm
        rw [hq]
        exact (Move.state_make_drive hq).1
      · exact Move.state_make hm hnav.index_lt_pages
    -- The history is folded from its start, so the step's own entries come last in both folds.
    rw [hstep, Record.ofHistory, List.foldl_append, List.foldl_append, ← hstage]
    exact ⟨rfl, hnav.next m⟩

namespace Navigator

/-- In every run without a fault in a pass, the navigator agrees with what the stage was asked for;
the page changes on `advance` just if it is finished and not the last one; and an operation that
answers no changes nothing at all. -/
theorem run_invariant {deck : Deck} (hdeck : deck ≠ []) (index : Int) (stage : Stage σ) :
    ∃ n, start deck index = .ok n ∧
      ∀ p history, Reached ⟨stage, n⟩ p history →
        p.stage = history.foldl Entry.after stage ∧
        p.nav.Consistent deck (Record.ofHistory history) ∧
        (∀ paused q, Present.drive p = .ok paused q →
          Move.drive.entries p.nav =
            (upToPause p.nav.reader.left).map .dispatched ++ [.passed paused]) ∧
        ((Outcome.state (Present.advance p)).nav.index ≠ p.nav.index ↔
          p.nav.finished = true ∧ p.nav.index + 1 < deck.length) ∧
        ∀ m : Move, m.mayStay → ∀ q, m.make p = .ok false q → q = p ∧ m.entries p.nav = [] := by
  obtain ⟨n, hn⟩ := exists_start hdeck index
  refine ⟨n, hn, fun p history hreached => ?_⟩
  obtain ⟨hstage, hnav⟩ := Reached.consistent (consistent_start hn) hreached
  have hdrive : ∀ paused q, Present.drive p = .ok paused q →
      Move.drive.entries p.nav =
        (upToPause p.nav.reader.left).map .dispatched ++ [.passed paused] := by
    intro paused q hq
    rw [(Move.state_make_drive hq).2]
    rfl
  refine ⟨hstage, hnav, hdrive, hnav.index_advance_ne_iff, ?_⟩
  intro m hm q hq
  exact m.eq_of_make_eq_false hm hq

/-- Two passes reach the end of a page with a pause, and then `advance` turns it. -/
theorem run_invariant_second_pass :
    let one : Page := ⟨"one", ["a", "---", "b"]⟩
    let deck : Deck := [one, ⟨"two", []⟩]
    let begun : Presentation Recorder :=
      ⟨⟨Host.quiet, {}, {}, none⟩, { pages := deck, index := 0, reader := .start one }⟩
    let paused := Outcome.state (Move.drive.make begun)
    let ended := Outcome.state (Move.drive.make paused)
    deck ≠ [] ∧
      (Record.ofHistory (Move.drive.entries begun.nav ++ Move.drive.entries paused.nav)).lines
        = ended.nav.reader.page.lines.take ended.nav.reader.cursor ∧
      (Outcome.state (Present.advance ended)).nav.index ≠ ended.nav.index := by
  intro one deck begun paused ended
  have hdeck : deck ≠ [] := List.cons_ne_nil _ _
  obtain ⟨n, hn, hrun⟩ := run_invariant hdeck (-2) begun.stage
  cases hn
  have hreached : Reached begun ended
      (Move.drive.entries begun.nav ++ Move.drive.entries paused.nav) :=
    .move .drive (.move .drive .start fun _ => ⟨true, _, rfl⟩) fun _ => ⟨false, _, rfl⟩
  obtain ⟨-, hconsistent, -, hadvance, -⟩ := hrun ended _ hreached
  exact ⟨hdeck, hconsistent.lines, hadvance.2 ⟨rfl, by decide⟩⟩

end Navigator

end SlideDeck
