import SlideDeck.Presenter.Interactive
import SlideDeck.Proofs.Deck.Commands
import SlideDeck.Proofs.Navigation.Move
import SlideDeck.Proofs.Recording.Calls

/-!
# A presentation shows the deck that a conversion shows

Between two keys, `Navigator.todo` has the calls that a conversion still makes, and
`Navigator.passesLeft` bounds the keys until they are made. A key that advances makes the first of
these calls, besides the upkeep of the screen, and lowers the bound by one. The clock stands still,
so that the date of a line is the same in both.
-/

namespace SlideDeck

namespace Recorder

open Outcome

/-- From a navigator, on every stage like a base, an action ends in a value at another navigator
and adds just these events. -/
def Leads {α : Type} (base : Stage Recorder) (x : Present Recorder α) (n : Navigator) (a : α)
    (m : Navigator) (added : List Event) : Prop :=
  ∀ s, Alike base s → ComesTo x a
    (fun p => p.nav = m ∧ Alike base p.stage ∧ events p.stage = events s ++ added) ⟨s, n⟩

namespace Leads

variable {α β : Type} {base : Stage Recorder} {n m k : Navigator} {a : α} {b : β}

theorem pure (a : α) (n : Navigator) : Leads base (pure a) n a n [] := by
  intro s hs
  exact .pure ⟨rfl, hs, (List.append_nil _).symm⟩

theorem bind {x : Present Recorder α} {f : α → Present Recorder β} {first second : List Event}
    (hx : Leads base x n a m first) (hf : Leads base (f a) m b k second) :
    Leads base (x >>= f) n b k (first ++ second) := by
  intro s hs
  refine (hx s hs).bind ?_
  rintro ⟨t, _⟩ ⟨rfl, ht, hfirst⟩
  refine (hf t ht).mono fun p ⟨hnav, hp, hsecond⟩ => ⟨hnav, hp, ?_⟩
  rw [hsecond, hfirst, List.append_assoc]

theorem lift {x : Act Recorder α} {added : List Event} (hx : Records base x a added)
    (n : Navigator) : Leads base (liftM x) n a n added := by
  intro s hs
  obtain ⟨t, hxs, ht⟩ := hx s hs
  exact ⟨_, Present.lift_ok hxs, rfl, ht⟩

theorem nav_bind {f : Navigator → Present Recorder β} {added : List Event}
    (hf : Leads base (f n) n b m added) : Leads base (Present.nav >>= f) n b m added := hf

theorem drive (hclock : base.host.ClockStands)
    (h : Conversion.Dispatches base [n.reader.page]) :
    Leads base Present.drive n n.stopsAtPause n.afterPass
      ((upToPause n.reader.left).flatMap (Directive.calls base.host)) := by
  have hlines : ∀ line ∈ upToPause n.reader.left,
      ∃ answer t, Directive.dispatch (some line) base = .ok answer t := by
    intro line hline
    have hleft : line ∈ n.reader.left := (upToPause_isPrefix _).subset hline
    exact h _ (List.mem_singleton_self _) line (Reader.left_subset _ hleft)
  intro s hs
  obtain ⟨t, hdispatched, ht⟩ := Conversion.dispatchLines_records hclock hlines s hs
  exact ⟨_, Present.drive_ok hdispatched, rfl, ht⟩

theorem showPage {index : Nat} (hindex : index < n.pages.length) :
    Leads base (Present.showPage index) n () (n.turnTo index) [.asked .newPage] := by
  intro s hs
  unfold ComesTo
  rw [Present.showPage_eq hindex]
  exact lift (.perform .newPage) (n.turnTo index) s hs

theorem turnOrStay {turn : Option Nat}
    (hturn : ∀ index, turn = some index → index < n.pages.length) :
    Leads base (Present.turnOrStay turn) n turn.isSome ((turn.map n.turnTo).getD n)
      (if turn.isSome then [.asked .newPage] else []) := by
  cases turn with
  | none => exact .pure false n
  | some index => exact .bind (.showPage (hturn index rfl)) (.pure true _)

theorem advance (hindex : n.index < n.pages.length) :
    Leads base Present.advance n (Move.advance.turn? n).isSome
      (((Move.advance.turn? n).map n.turnTo).getD n)
      (if (Move.advance.turn? n).isSome then [.asked .newPage] else []) := by
  intro s hs
  unfold ComesTo
  rw [Present.advance_eq]
  exact turnOrStay (fun _ => Move.lt_of_turn hindex) s hs

end Leads

def status (base : Stage Recorder) (n : Navigator) : List Event :=
  (if base.surface.hasScreen then
    [.askedConsole (.drawStatus (n.index + 1) n.pages.length n.finished (some n.reader.page.title))]
  else []) ++ [.asked .refresh]

def shown (added : List Event) : List Event := added.filter (!·.isUpkeep)

theorem shown_append (first second : List Event) :
    shown (first ++ second) = shown first ++ shown second := List.filter_append _ _

theorem shown_status (base : Stage Recorder) (n : Navigator) : shown (status base n) = [] := by
  unfold status
  split
  · rfl
  · rfl

theorem shown_calls (h : Host) (lines : List Text) :
    shown (lines.flatMap (Directive.calls h)) = lines.flatMap (Directive.calls h) := by
  refine List.filter_eq_self.2 fun e he => ?_
  obtain ⟨line, -, hcall⟩ := List.mem_flatMap.1 he
  rw [Directive.calls_no_upkeep hcall]
  rfl

variable {base : Stage Recorder} {n : Navigator}

theorem Leads.drawStatus (n : Navigator) : Leads base Present.drawStatus n () n (status base n) :=
  .nav_bind (.bind (.lift (.askConsole _) n) (.lift (.perform .refresh) n))

theorem Leads.pass (hclock : base.host.ClockStands)
    (h : Conversion.Dispatches base [n.reader.page]) :
    ∃ added, Leads base Present.pass n () n.afterPass added ∧
      shown added = (upToPause n.reader.left).flatMap (Directive.calls base.host) := by
  refine ⟨_, .bind (.drawStatus n) (.bind (.drive hclock h) (.drawStatus n.afterPass)), ?_⟩
  rw [shown_append, shown_append, shown_status, shown_status, shown_calls, List.nil_append,
    List.append_nil]

end Recorder

namespace Navigator

open Recorder

def later (n : Navigator) : List Page := n.pages.drop (n.index + 1)

/-- The events that a conversion still adds. -/
def todo (h : Host) (n : Navigator) : List Event :=
  n.reader.left.flatMap (Directive.calls h) ++
    n.later.flatMap fun page => .asked .newPage :: Conversion.pageCalls h page

def passes (page : Page) : Nat := page.lines.countP isPause + 1

/-- The passes until the last page is shown to its end. -/
def passesLeft (n : Navigator) : Nat :=
  (if n.finished then 0 else n.reader.left.countP isPause + 1) + (n.later.map passes).sum

/-- What holds between two keys, as long as every line can be dispatched. -/
structure Ready (n : Navigator) (base : Stage Recorder) : Prop where
  settled : n.finished = true → n.reader.left = []
  index_lt : n.index < n.pages.length
  page_mem : n.reader.page ∈ n.pages
  dispatches : Conversion.Dispatches base n.pages

variable {base : Stage Recorder} {n : Navigator}

theorem Ready.dispatches_page (h : n.Ready base) :
    Conversion.Dispatches base [n.reader.page] := by
  intro page hpage
  rw [List.mem_singleton.1 hpage]
  exact h.dispatches _ h.page_mem

theorem Ready.afterPass (h : n.Ready base) : n.afterPass.Ready base where
  settled := by
    intro hfinished
    exact Reader.left_of_ended (Bool.and_eq_true_iff.1 hfinished).1
  index_lt := h.index_lt
  page_mem := h.page_mem
  dispatches := h.dispatches

theorem Ready.turnTo (h : n.Ready base) {index : Nat} (hindex : index < n.pages.length) :
    (n.turnTo index).Ready base := by
  rw [turnTo_eq hindex]
  exact ⟨nofun, hindex, List.getElem_mem hindex, h.dispatches⟩

theorem todo_afterPass (h : Host) (n : Navigator) :
    n.todo h = (upToPause n.reader.left).flatMap (Directive.calls h) ++ n.afterPass.todo h := by
  have hlater : n.afterPass.later = n.later := rfl
  have hleft : n.afterPass.reader.left = n.reader.pass.left := rfl
  rw [todo, todo, hlater, hleft, ← List.append_assoc, ← List.flatMap_append,
    ← Reader.left_eq_append]

/-- A pass takes away one pause of the page, or else its end. -/
theorem passesLeft_afterPass (n : Navigator) :
    n.afterPass.passesLeft = n.reader.left.countP isPause + (n.later.map passes).sum := by
  have hlater : n.afterPass.later = n.later := rfl
  have hleft : n.afterPass.reader.left = n.reader.pass.left := rfl
  rw [passesLeft, hlater, hleft, finished_afterPass, n.reader.countP_left]
  rcases hany : n.reader.left.any isPause with - | -
  · rw [Reader.left_of_ended (Reader.ended_pass hany)]
    rfl
  · simp only [Bool.not_true, Bool.false_eq_true, if_false, if_true]
    omega

theorem start_cons_zero (page : Page) (rest : Deck) :
    start (page :: rest) 0 = .ok { pages := page :: rest, index := 0, reader := .start page } := by
  have hindex : (min (max 0 0) ((page :: rest).length - 1 : Int)).toNat = 0 := by omega
  simp only [start, hindex]
  rfl

theorem later_eq_cons (h : n.index + 1 < n.pages.length) :
    n.later = n.pages[n.index + 1] :: (n.turnTo (n.index + 1)).later := by
  have hturn : (n.turnTo (n.index + 1)).later = n.pages.drop (n.index + 1 + 1) := by
    rw [turnTo_eq h]
    rfl
  rw [hturn, later, List.drop_eq_getElem_cons h]

theorem left_turnTo {index : Nat} (h : index < n.pages.length) :
    (n.turnTo index).reader.left = n.pages[index].lines := by
  rw [turnTo_eq h]
  rfl

/-- A page is turned only when nothing is left of it, and only if there is a next one. -/
theorem Ready.exists_advance (h : n.Ready base) :
    ∃ answer m added, Leads base Present.advance n answer m added ∧ m.Ready base ∧
      n.todo base.host = shown added ++ m.todo base.host ∧
      n.passesLeft - 1 = m.reader.left.countP isPause + (m.later.map passes).sum := by
  refine ⟨_, _, _, .advance h.index_lt, ?_⟩
  -- A key on the finished last page changes nothing; the bound is zero there and stays so.
  by_cases hmore : n.finished = true ∧ n.index + 1 < n.pages.length
  · have hturn : Move.advance.turn? n = some (n.index + 1) := by
      simp [Move.turn?, hmore]
    rw [hturn]
    refine ⟨h.turnTo hmore.2, ?_, ?_⟩
    · show n.todo base.host = [.asked .newPage] ++ (n.turnTo (n.index + 1)).todo base.host
      rw [todo, todo, h.settled hmore.1, later_eq_cons hmore.2, left_turnTo hmore.2]
      rfl
    · show n.passesLeft - 1 = (n.turnTo (n.index + 1)).reader.left.countP isPause +
        ((n.turnTo (n.index + 1)).later.map passes).sum
      rw [passesLeft, hmore.1, if_pos rfl, later_eq_cons hmore.2, left_turnTo hmore.2,
        List.map_cons, List.sum_cons, passes]
      omega
  · have hturn : Move.advance.turn? n = none := by
      simp [Move.turn?, hmore]
    rw [hturn]
    refine ⟨h, rfl, ?_⟩
    show n.passesLeft - 1 = n.reader.left.countP isPause + (n.later.map passes).sum
    rcases hfinished : n.finished with - | -
    · rw [passesLeft, hfinished, if_neg Bool.false_ne_true]
      omega
    · have hlast : n.later = [] := by
        refine List.drop_eq_nil_of_le ?_
        have hle := not_and.1 hmore hfinished
        omega
      rw [passesLeft, hfinished, if_pos rfl, hlast, h.settled hfinished]
      rfl

/-- A key that advances adds the next events of a conversion, besides the upkeep of the screen. -/
theorem Ready.exists_press (h : n.Ready base) (hclock : base.host.ClockStands)
    (script : Interactive.Script Recorder) :
    ∃ m added, Leads base (Interactive.press script .choosing .advance) n (some .choosing) m added ∧
      m.Ready base ∧ n.todo base.host = shown added ++ m.todo base.host ∧
      m.passesLeft = n.passesLeft - 1 := by
  obtain ⟨answer, m, turned, hadvance, hready, htodo, hpasses⟩ := h.exists_advance
  obtain ⟨passed, hpass, hshown⟩ := Leads.pass hclock hready.dispatches_page
  have hhandle : Leads base (Present.handle .advance) n true m (turned ++ []) :=
    .bind hadvance (.pure true m)
  refine ⟨m.afterPass, _, .bind hhandle (.bind hpass (.pure _ _)), hready.afterPass, ?_, ?_⟩
  · rw [htodo, m.todo_afterPass, List.append_nil, List.append_nil, shown_append, hshown,
      List.append_assoc]
  · rw [hpasses, passesLeft_afterPass]

theorem Ready.todo_eq_nil (h : n.Ready base) (hleft : n.passesLeft = 0) :
    n.todo base.host = [] := by
  obtain ⟨hpage, hlater⟩ := Nat.add_eq_zero_iff.1 hleft
  have hfinished : n.finished = true := by
    rcases hnot : n.finished with - | -
    · rw [hnot, if_neg Bool.false_ne_true] at hpage
      omega
    · rfl
  have hnone : n.later = [] := by
    rcases hcons : n.later with - | ⟨page, rest⟩
    · rfl
    · rw [hcons, List.map_cons, List.sum_cons, passes] at hlater
      omega
  rw [todo, h.settled hfinished, hnone]
  rfl

theorem leads_play_quit (script : Interactive.Script Recorder) :
    Leads base (Interactive.play script .choosing [⟨.quit, []⟩]) n () { n with quit := true }
      [] := by
  intro s hs
  exact ⟨_, rfl, rfl, hs, (List.append_nil _).symm⟩

/-- As many keys as there are passes left make all the calls that a conversion still makes; any
more make none. -/
theorem Ready.exists_play (h : n.Ready base) (hclock : base.host.ClockStands)
    (script : Interactive.Script Recorder) {count : Nat} (hcount : n.passesLeft ≤ count) :
    ∃ m added, Leads base (Interactive.play script .choosing
        (List.replicate count ⟨.advance, []⟩ ++ [⟨.quit, []⟩])) n () m added ∧
      shown added = n.todo base.host := by
  -- Each key keeps `Ready` and lowers the bound, so the keys never run out before the calls do.
  induction count generalizing n with
  | zero =>
    refine ⟨_, [], leads_play_quit script, ?_⟩
    rw [h.todo_eq_nil (Nat.le_zero.1 hcount)]
    rfl
  | succ count ih =>
    obtain ⟨m, pressed, hpress, hready, htodo, hpasses⟩ := h.exists_press hclock script
    obtain ⟨k, played, hplay, hshown⟩ := ih hready (by omega)
    have hedited : Leads base (liftM (Interactive.edited (σ := Recorder) [])) n () n [] :=
      .lift (fun s hs => ⟨s, rfl, hs, (List.append_nil _).symm⟩) n
    refine ⟨k, _, .bind hedited (.bind hpress hplay), ?_⟩
    rw [htodo, List.nil_append, shown_append, hshown]

end Navigator

namespace Interactive

open Recorder

variable {base : Stage Recorder}

theorem leads_opening (hclock : base.host.ClockStands) {page : Page} {rest : List Page}
    (h : Conversion.Dispatches base (page :: rest)) :
    let n : Navigator := { pages := page :: rest, index := 0, reader := .start page }
    ∃ added, Leads base opening n () n.afterPass added ∧ n.Ready base ∧
      shown added = .asked .newPage ::
        (upToPause n.reader.left).flatMap (Directive.calls base.host) := by
  intro n
  have hready : n.Ready base := ⟨nofun, Nat.succ_pos _, List.mem_cons_self, h⟩
  obtain ⟨passed, hpass, hshown⟩ := Leads.pass hclock hready.dispatches_page
  refine ⟨_, .bind (.lift (.askConsole .clear) n) (.bind (.lift (.perform .newPage) n) hpass),
    hready, ?_⟩
  rw [shown_append, shown_append, hshown]
  split
  · rfl
  · rfl

/-- A presentation that is advanced often enough makes the calls of a conversion of the same deck:
all lines of all pages, each once and in order, with a new page between two pages. -/
theorem same_calls_as_conversion (script : Script Recorder) {begun loaded : Stage Recorder}
    {deck : Deck} (hload : Deck.load script.capture script.path begun = .ok deck loaded)
    (hlines : Conversion.Dispatches loaded deck) (hclock : loaded.host.ClockStands) {k : Nat}
    (hk : (deck.map fun page => page.lines.countP isPause + 1).sum - 1 ≤ k) :
    let ended := run script (List.replicate k ⟨.advance, []⟩ ++ [⟨.quit, []⟩]) begun
    ∃ added converted finish,
      ended.fault = none ∧
      events ended.stage = events loaded ++ added ∧
      Conversion.run deck loaded = .ok () finish ∧
      events finish = events loaded ++ converted ∧
      (added.filter (!·.isUpkeep)).eraseP Event.isNewPage = converted ∧
      converted = [Event.asked .newPage].intercalate
        (deck.map fun page => page.lines.flatMap (Directive.calls loaded.host)) ∧
      ∀ page ∈ deck, ∀ line ∈ page.lines,
        Records loaded (Directive.dispatch (some line)) (isPause line)
          (Directive.calls loaded.host line) := by
  intro ended
  obtain ⟨page, rest, rfl⟩ := List.exists_cons_of_ne_nil (Deck.ne_nil_of_load hload)
  obtain ⟨opened, hopening, hready, hshown⟩ := leads_opening hclock hlines
  let n : Navigator := { pages := page :: rest, index := 0, reader := .start page }
  -- The opening makes the first pass, so that one key fewer is enough than there are passes.
  have hpasses : n.afterPass.passesLeft ≤ k := by
    rw [Navigator.passesLeft_afterPass]
    simp only [List.map_cons, List.sum_cons] at hk
    show page.lines.countP isPause + (rest.map Navigator.passes).sum ≤ k
    unfold Navigator.passes
    omega
  obtain ⟨m, played, hplay, hplayed⟩ := hready.afterPass.exists_play hclock script hpasses
  have halike : Alike loaded loaded := ⟨rfl, rfl⟩
  have hwhole : Leads loaded (do
      opening
      play script .choosing (List.replicate k ⟨.advance, []⟩ ++ [⟨.quit, []⟩])) n () m
      (opened ++ played) := .bind hopening hplay
  obtain ⟨⟨final, last⟩, hrun, rfl, -, hadded⟩ := hwhole loaded halike
  obtain ⟨finish, hconverted, -, hevents⟩ := Conversion.run_records hclock hlines loaded halike
  have hended : ended = ⟨final, some last, none⟩ := by
    show Ending.ofRun _ _ _ begun = _
    simp only [Ending.ofRun, hload, Navigator.start_cons_zero]
    rw [hrun]
  have hdispatched : ∀ p ∈ page :: rest, ∀ line ∈ p.lines,
      Records loaded (Directive.dispatch (some line)) (isPause line)
        (Directive.calls loaded.host line) := by
    intro p hp line hline
    obtain ⟨answer, t, hok⟩ := hlines p hp line hline
    exact Directive.dispatch_records_calls hclock hok
  rw [hended]
  refine ⟨_, _, finish, rfl, hadded, hconverted, hevents, ?_, rfl, hdispatched⟩
  show (shown (opened ++ played)).eraseP Event.isNewPage = _
  rw [shown_append, hshown, hplayed, List.cons_append, List.eraseP_cons_of_pos rfl,
    ← Navigator.todo_afterPass, Conversion.intercalate_pages]
  rfl

/-- Two pages with one pause need two keys after the opening. -/
theorem same_calls_as_conversion_two_pages :
    let source : Text := "a\n---\n--newpage b\n--center c\n"
    let host : Host := { Host.quiet with
      files := { nodes := [(["deck"], .file (Text.Utf8.encode source))] } }
    let begun : Stage Recorder := ⟨host, {}, {}, none⟩
    let script : Script Recorder := ⟨"deck", "vi", fun _ => pure []⟩
    let deck : Deck := [⟨"Title", ["a", "---"]⟩, ⟨"b", ["--center c"]⟩]
    Deck.load script.capture script.path begun = .ok deck begun ∧
      Conversion.Dispatches begun deck ∧
      begun.host.ClockStands ∧
      ∃ added, events (run script
          (List.replicate 2 ⟨.advance, []⟩ ++ [⟨.quit, []⟩]) begun).stage = events begun ++ added ∧
        (added.filter (!·.isUpkeep)).eraseP Event.isNewPage =
          [.asked (.printLine (some "a")), .asked .wait, .asked .newPage,
            .asked (.center (some "c"))] := by
  intro source host begun script deck
  have hload : Deck.load script.capture script.path begun = .ok deck begun := rfl
  have hlines : Conversion.Dispatches begun deck := by
    intro page hpage line hline
    simp only [deck, List.mem_cons, List.not_mem_nil, or_false] at hpage
    rcases hpage with rfl | rfl
    · simp only [List.mem_cons, List.not_mem_nil, or_false] at hline
      rcases hline with rfl | rfl
      · exact ⟨_, _, rfl⟩
      · exact ⟨_, _, rfl⟩
    · obtain rfl := List.mem_singleton.1 hline
      exact ⟨_, _, rfl⟩
  obtain ⟨added, converted, finish, -, hadded, -, -, hshown, hconverted, -⟩ :=
    same_calls_as_conversion script hload hlines (fun _ => rfl) (Nat.le_refl 2)
  exact ⟨hload, hlines, fun _ => rfl, added, hadded, hshown.trans hconverted⟩

end Interactive

end SlideDeck
