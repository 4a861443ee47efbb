import SlideDeck.Presenter.Autoplay
import SlideDeck.Proofs.Faults
import SlideDeck.Proofs.Recording.SameDeck

/-!
# Rounds of a presentation without a user

A step makes one pass over the page and turns it if it was shown to its end, so a page takes as many
steps as it has passes, and a round takes all pages in order and comes back to the first. Where a
step leads (`Navigator.afterStep`) and what it shows (`Navigator.stepCalls`) depend on the navigator
alone, so that all rounds are alike as long as the clock stands still.
-/

namespace SlideDeck

namespace Event

def isWait : Event → Bool
  | .pause _ | .emptyPause => true
  | _ => false

/-- Whether an event is a call of a surface, other than for its status line. -/
def isDeckCall : Event → Bool
  | .asked .refresh => false
  | .askedConsole (.drawStatus ..) => false
  | .asked _ | .askedConsole _ => true
  | _ => false

end Event

namespace Navigator

variable {n : Navigator}

def nextIndex (n : Navigator) : Nat := (n.index + 1) % n.pages.length

def afterStep (n : Navigator) : Navigator :=
  if n.afterPass.finished then n.afterPass.turnTo n.nextIndex else n.afterPass

def stepCalls (h : Host) (n : Navigator) : List Event :=
  (upToPause n.reader.left).flatMap (Directive.calls h) ++
    if n.afterPass.finished then [.asked .newPage] else []

def stepsCalls (h : Host) : (count : Nat) → Navigator → List Event
  | 0, _ => []
  | count + 1, n => n.stepCalls h ++ stepsCalls h count n.afterStep

theorem stepsCalls_add (h : Host) (first second : Nat) (n : Navigator) :
    stepsCalls h (first + second) n =
      stepsCalls h first n ++ stepsCalls h second (afterStep^[first] n) := by
  induction first generalizing n with
  | zero => rw [Nat.zero_add, Function.iterate_zero_apply]; rfl
  | succ first ih =>
    rw [Nat.succ_add_eq_add_succ, Nat.add_succ, stepsCalls, ih, Function.iterate_succ_apply,
      stepsCalls, List.append_assoc]

/-! ### One page -/

/-- Turning the page leaves nothing of where the presentation was before. -/
theorem turnTo_turnTo {first second : Nat} (hfirst : first < n.pages.length)
    (hsecond : second < n.pages.length) :
    (n.turnTo first).turnTo second = n.turnTo second := by
  have hpages : second < (n.turnTo first).pages.length := by rwa [pages_turnTo]
  rw [turnTo_eq hpages, turnTo_eq hsecond]
  simp only [turnTo_eq hfirst]

theorem turnTo_afterPass {index : Nat} (h : index < n.pages.length) :
    n.afterPass.turnTo index = n.turnTo index := by
  have hpages : index < n.afterPass.pages.length := h
  rw [turnTo_eq hpages, turnTo_eq h]
  rfl

theorem nextIndex_lt (h : n.index < n.pages.length) : n.nextIndex < n.pages.length :=
  Nat.mod_lt _ (Nat.zero_lt_of_lt h)

/-- What is left of a page takes one step for each pause and one more, the last of which turns the
page. -/
theorem steps_page (h : Host) (hindex : n.index < n.pages.length) :
    afterStep^[n.reader.left.countP isPause + 1] n = n.turnTo n.nextIndex ∧
      n.stepsCalls h (n.reader.left.countP isPause + 1) =
        n.reader.left.flatMap (Directive.calls h) ++ [.asked .newPage] := by
  -- Along the pauses that are left: a pass that stops at one leaves one fewer.
  generalize hcount : n.reader.left.countP isPause = count
  induction count generalizing n with
  | zero =>
    have hnone : n.reader.left.any isPause = false := by
      rw [List.any_eq_false]
      exact fun line hline => List.countP_eq_zero.1 hcount line hline
    have hfinished : n.afterPass.finished = true := by rw [finished_afterPass, hnone]; rfl
    refine ⟨?_, ?_⟩
    · show n.afterStep = n.turnTo n.nextIndex
      rw [afterStep, if_pos hfinished, turnTo_afterPass (nextIndex_lt hindex)]
    · show n.stepCalls h ++ [] = _
      rw [stepCalls, if_pos hfinished, upToPause_of_no_pause hnone, List.append_nil]
  | succ count ih =>
    have hsome : n.reader.left.any isPause = true :=
      List.any_eq_true.2 (List.countP_pos_iff.1 (by omega))
    have hunfinished : n.afterPass.finished = false := by rw [finished_afterPass, hsome]; rfl
    have hstep : n.afterStep = n.afterPass := by
      rw [afterStep, if_neg (by simp [hunfinished])]
    have hleft : n.afterPass.reader.left.countP isPause = count := by
      have hsplit := n.reader.countP_left
      rw [hsome, if_pos rfl, hcount] at hsplit
      show n.reader.pass.left.countP isPause = count
      omega
    obtain ⟨hnav, hcalls⟩ := ih (n := n.afterPass) hindex hleft
    refine ⟨?_, ?_⟩
    · rw [Function.iterate_succ_apply, hstep, hnav]
      exact turnTo_afterPass (nextIndex_lt hindex)
    · rw [stepsCalls, stepCalls, hstep, hcalls, hunfinished, if_neg Bool.false_ne_true,
        List.append_nil, ← List.append_assoc, ← List.flatMap_append]
      exact congrArg (·.flatMap (Directive.calls h) ++ _) n.reader.left_eq_append.symm

/-! ### One round -/

/-- From the beginning of a page, the pages from there on lead back to the first one. -/
theorem steps_pages (h : Host) {index : Nat} {rest : List Page}
    (hrest : n.pages.drop index = rest) (hindex : index < n.pages.length) :
    afterStep^[(rest.map passes).sum] (n.turnTo index) = n.turnTo 0 ∧
      (n.turnTo index).stepsCalls h (rest.map passes).sum =
        rest.flatMap fun page => Conversion.pageCalls h page ++ [.asked .newPage] := by
  induction rest generalizing index with
  | nil =>
    have hlength := congrArg List.length hrest
    rw [List.length_drop, List.length_nil] at hlength
    omega
  | cons page rest ih =>
    rw [List.drop_eq_getElem_cons hindex, List.cons.injEq] at hrest
    obtain ⟨rfl, hrest⟩ := hrest
    have hturn := turnTo_eq hindex
    have hturned : (n.turnTo index).index < (n.turnTo index).pages.length := by
      rw [hturn]
      exact hindex
    have hleft : (n.turnTo index).reader.left = n.pages[index].lines := left_turnTo hindex
    obtain ⟨hpage, hcalls⟩ := steps_page h hturned
    have hnext : (n.turnTo index).nextIndex = (index + 1) % n.pages.length := by
      rw [nextIndex, hturn]
    have hnextlt : (index + 1) % n.pages.length < n.pages.length :=
      Nat.mod_lt _ (Nat.zero_lt_of_lt hindex)
    rw [hleft, hnext, turnTo_turnTo hindex hnextlt] at hpage
    rw [hleft] at hcalls
    have hsum : ((n.pages[index] :: rest).map passes).sum =
        (rest.map passes).sum + passes n.pages[index] := by
      rw [List.map_cons, List.sum_cons, Nat.add_comm]
    have hthen : afterStep^[(rest.map passes).sum] (n.turnTo ((index + 1) % n.pages.length)) =
          n.turnTo 0 ∧
        (n.turnTo ((index + 1) % n.pages.length)).stepsCalls h (rest.map passes).sum =
          rest.flatMap fun page => Conversion.pageCalls h page ++ [.asked .newPage] := by
      by_cases hlast : index + 1 < n.pages.length
      · rw [Nat.mod_eq_of_lt hlast]
        exact ih hrest hlast
      · -- The last page: nothing comes after it, and the first page is the next one.
        have hend : index + 1 = n.pages.length := by omega
        rw [hend, List.drop_length] at hrest
        subst hrest
        rw [hend, Nat.mod_self]
        exact ⟨rfl, rfl⟩
    refine ⟨?_, ?_⟩
    · rw [hsum, Function.iterate_add_apply, passes, hpage]
      exact hthen.1
    · rw [hsum, Nat.add_comm, stepsCalls_add, passes, hpage, hcalls, hthen.2]
      rfl

/-- A separator after every part is one between the parts and one at the end. -/
theorem flatMap_append_eq_intercalate {α : Type} (sep first : List α) (rest : List (List α)) :
    (first :: rest).flatMap (· ++ sep) = sep.intercalate (first :: rest) ++ sep := by
  induction rest generalizing first with
  | nil => simp
  | cons next rest ih =>
    rw [List.flatMap_cons, ih, List.intercalate_cons_cons, List.append_assoc, List.append_assoc,
      List.append_assoc]

/-- A round of a deck leads back to its start, and so do any number of rounds. -/
theorem steps_rounds (h : Host) (page : Page) (rest : List Page) (count : Nat) :
    let n : Navigator := { pages := page :: rest, index := 0, reader := .start page }
    let round := ((page :: rest).map passes).sum
    afterStep^[count * round] n = n ∧
      n.stepsCalls h (count * round) = (List.replicate count
        ([Event.asked .newPage].intercalate ((page :: rest).map (Conversion.pageCalls h)) ++
          [.asked .newPage])).flatten := by
  intro n round
  have hturn : n.turnTo 0 = n := rfl
  have hdrop : n.pages.drop 0 = page :: rest := rfl
  have hone := steps_pages h hdrop (Nat.succ_pos _)
  rw [hturn] at hone
  obtain ⟨hnav, hcalls⟩ := hone
  have hround : ((page :: rest).flatMap fun page =>
        Conversion.pageCalls h page ++ [Event.asked .newPage]) =
      [Event.asked .newPage].intercalate ((page :: rest).map (Conversion.pageCalls h)) ++
        [.asked .newPage] := by
    rw [List.map_cons, ← flatMap_append_eq_intercalate, ← List.map_cons, List.flatMap_map]
  have hfixed (count : Nat) : afterStep^[count * round] n = n := by
    rw [Nat.mul_comm, Function.iterate_mul]
    exact Function.iterate_fixed hnav count
  refine ⟨hfixed count, ?_⟩
  induction count with
  | zero => rw [Nat.zero_mul]; rfl
  | succ count ih =>
    rw [Nat.succ_mul, stepsCalls_add, ih, hfixed, hcalls, hround, List.replicate_succ',
      List.flatten_append, List.flatten_singleton]

end Navigator

namespace Recorder

variable {base : Stage Recorder} {n : Navigator}

theorem Records.pause {d : Delay} (h : ∀ s, Alike base s → ∃ t, Act.pause d s = .ok () t) :
    Records base (Act.pause d) () [.pause d] := by
  intro s hs
  obtain ⟨t, ht⟩ := h s hs
  obtain rfl : t = Act.paused d s := Act.eq_paused_of_ok ht
  exact ⟨_, ht, hs, Array.toList_push⟩

def deckCalls (added : List Event) : List Event := added.filter Event.isDeckCall

def waits (added : List Event) : List Event := added.filter Event.isWait

theorem deckCalls_append (first second : List Event) :
    deckCalls (first ++ second) = deckCalls first ++ deckCalls second := List.filter_append _ _

theorem waits_append (first second : List Event) :
    waits (first ++ second) = waits first ++ waits second := List.filter_append _ _

theorem deckCalls_status (base : Stage Recorder) (n : Navigator) :
    deckCalls (status base n) = [] ∧ waits (status base n) = [] := by
  unfold status
  split
  · exact ⟨rfl, rfl⟩
  · exact ⟨rfl, rfl⟩

theorem deckCalls_calls (h : Host) (lines : List Text) :
    deckCalls (lines.flatMap (Directive.calls h)) = lines.flatMap (Directive.calls h) ∧
      waits (lines.flatMap (Directive.calls h)) = [] := by
  have hcall : ∀ e ∈ lines.flatMap (Directive.calls h),
      e.isDeckCall = true ∧ e.isWait = false := by
    intro e he
    obtain ⟨line, -, hcall⟩ := List.mem_flatMap.1 he
    obtain ⟨op, -, rfl⟩ := List.mem_map.1 hcall
    have hupkeep := Directive.calls_no_upkeep hcall
    cases op with
    | refresh => cases hupkeep
    | _ => exact ⟨rfl, rfl⟩
  refine ⟨List.filter_eq_self.2 fun e he => (hcall e he).1, ?_⟩
  exact List.filter_eq_nil_iff.2 fun e he => by simp [(hcall e he).2]

theorem Leads.deckPass (hclock : base.host.ClockStands)
    (h : Conversion.Dispatches base [n.reader.page]) :
    ∃ added, Leads base Present.pass n () n.afterPass added ∧
      deckCalls added = (upToPause n.reader.left).flatMap (Directive.calls base.host) ∧
      waits added = [] := by
  obtain ⟨hcalls, hnowait⟩ := deckCalls_calls base.host (upToPause n.reader.left)
  obtain ⟨hbefore, hbefore'⟩ := deckCalls_status base n
  obtain ⟨hafter, hafter'⟩ := deckCalls_status base n.afterPass
  refine ⟨_, .bind (.drawStatus n) (.bind (.drive hclock h) (.drawStatus n.afterPass)), ?_, ?_⟩
  · rw [deckCalls_append, deckCalls_append, hcalls, hbefore, hafter, List.nil_append,
      List.append_nil]
  · rw [waits_append, waits_append, hnowait, hbefore', hafter']
    rfl

/-- A step waits once, and what it shows besides the status line is known from the navigator. -/
theorem Leads.step {d : Delay} (hready : n.Ready base) (hclock : base.host.ClockStands)
    (hwait : ∀ s, Alike base s → ∃ t, Act.pause d s = .ok () t) :
    ∃ added, Leads base (Autoplay.step (some d)) n () n.afterStep added ∧
      deckCalls added = n.stepCalls base.host ∧ waits added = [.pause d] := by
  obtain ⟨passed, hpass, hshown, hnowait⟩ := Leads.deckPass hclock hready.dispatches_page
  have hpause (n : Navigator) : Leads base (liftM (Act.pause (σ := Recorder) d)) n () n [.pause d] :=
    .lift (.pause hwait) n
  let turned : List Event := if n.afterPass.finished then [.asked .newPage] else []
  have hrest : Leads base (do
      if (← Present.nav).finished then Present.wrapForward
      liftM (Act.pause (σ := Recorder) d)) n.afterPass () n.afterStep (turned ++ [.pause d]) := by
    refine .nav_bind ?_
    by_cases hfinished : n.afterPass.finished = true
    · simp only [turned, Navigator.afterStep, if_pos hfinished]
      exact .bind (.nav_bind (.showPage (Navigator.nextIndex_lt hready.index_lt))) (hpause _)
    · simp only [turned, Navigator.afterStep, if_neg hfinished]
      exact hpause _
  have hturned : deckCalls turned = turned ∧ waits turned = [] := by
    by_cases hfinished : n.afterPass.finished = true
    · simp only [turned, if_pos hfinished]
      exact ⟨rfl, rfl⟩
    · simp only [turned, if_neg hfinished]
      exact ⟨rfl, rfl⟩
  refine ⟨_, .bind hpass hrest, ?_, ?_⟩
  · rw [deckCalls_append, deckCalls_append, hshown, hturned.1, Navigator.stepCalls]
    exact congrArg _ (List.append_nil turned)
  · rw [waits_append, waits_append, hnowait, hturned.2]
    rfl

end Recorder

namespace Navigator

open Recorder

variable {base : Stage Recorder} {n : Navigator} {d : Delay}

theorem Ready.afterStep (h : n.Ready base) : n.afterStep.Ready base := by
  rw [Navigator.afterStep]
  split
  · exact h.afterPass.turnTo (nextIndex_lt h.index_lt)
  · exact h.afterPass

theorem Ready.leads_steps (h : n.Ready base) (hclock : base.host.ClockStands)
    (hwait : ∀ s, Alike base s → ∃ t, Act.pause d s = .ok () t) (count : Nat) :
    ∃ added, Leads base (Autoplay.steps (some d) count) n () (Navigator.afterStep^[count] n) added ∧
      deckCalls added = n.stepsCalls base.host count ∧
      (Navigator.afterStep^[count] n).Ready base := by
  induction count generalizing n with
  | zero => exact ⟨[], .pure () n, rfl, h⟩
  | succ count ih =>
    obtain ⟨first, hstep, hfirst, -⟩ := Leads.step h hclock hwait
    obtain ⟨later, hsteps, hlater, hend⟩ := ih h.afterStep
    refine ⟨first ++ later, .bind hstep hsteps, ?_, hend⟩
    rw [deckCalls_append, hfirst, hlater, stepsCalls]

end Navigator

namespace Autoplay

open Recorder

variable {base : Stage Recorder}

theorem leads_opening_of_load (n : Navigator) :
    Leads base opening n () n
      ((if base.surface.hasScreen then [.askedConsole .clear] else []) ++ [.asked .newPage]) :=
  .bind (.lift (.askConsole .clear) n) (.lift (.perform .newPage) n)

/-- A presentation without a user comes back to its start after one step for each pause and each
page of the deck, and shows all of it in every round: besides the status line its calls are those
of a conversion and a new page, as many times as there are rounds. Every step waits once. -/
theorem rounds_repeat_conversion (path : Text) (capture : Text → Act Recorder (List Text))
    {begun loaded : Stage Recorder} {deck : Deck} {d : Delay}
    (hload : Deck.load capture path begun = .ok deck loaded)
    (hlines : Conversion.Dispatches loaded deck) (hclock : loaded.host.ClockStands)
    (hwait : ∀ s, Alike loaded s → ∃ t, Act.pause d s = .ok () t) :
    ∃ n opened converted finish,
      Navigator.start deck 0 = .ok n ∧
      n.index = 0 ∧ n.reader.cursor = 0 ∧ n.finished = false ∧
      opening ⟨loaded, n⟩ = .ok () ⟨opened, n⟩ ∧
      Conversion.run deck loaded = .ok () finish ∧
      events finish = events loaded ++ converted ∧
      converted = [Event.asked .newPage].intercalate
        (deck.map fun page => page.lines.flatMap (Directive.calls loaded.host)) ∧
      (∀ m, ∃ final added,
        steps (some d) (m * (deck.map fun page => page.lines.countP isPause + 1).sum) ⟨opened, n⟩ =
          .ok () ⟨final, n⟩ ∧
        run path capture (some d) (m * (deck.map fun page => page.lines.countP isPause + 1).sum)
          begun = ⟨final, some n, none⟩ ∧
        events final = events opened ++ added ∧
        added.filter Event.isDeckCall =
          (List.replicate m (converted ++ [.asked .newPage])).flatten) ∧
      ∀ count, ∃ before after added,
        steps (some d) count ⟨opened, n⟩ = .ok () before ∧
        step (some d) before = .ok () after ∧
        events after.stage = events before.stage ++ added ∧
        added.filter Event.isWait = [.pause d] := by
  obtain ⟨page, rest, rfl⟩ := List.exists_cons_of_ne_nil (Deck.ne_nil_of_load hload)
  let n : Navigator := { pages := page :: rest, index := 0, reader := .start page }
  have halike : Alike loaded loaded := ⟨rfl, rfl⟩
  have hready : n.Ready loaded := ⟨nofun, Nat.succ_pos _, List.mem_cons_self, hlines⟩
  obtain ⟨⟨opened, first⟩, hopening, hfirst, hopened, -⟩ := leads_opening_of_load n loaded halike
  obtain rfl : first = n := hfirst
  obtain ⟨finish, hconverted, -, hevents⟩ := Conversion.run_records hclock hlines loaded halike
  refine ⟨n, opened, _, finish, Navigator.start_cons_zero page rest, rfl, rfl, rfl, hopening,
    hconverted, hevents, rfl, fun m => ?_, fun count => ?_⟩
  · obtain ⟨hnav, hcalls⟩ := Navigator.steps_rounds loaded.host page rest m
    obtain ⟨added, hsteps, hshown, -⟩ := hready.leads_steps hclock hwait
      (m * ((page :: rest).map Navigator.passes).sum)
    rw [hnav] at hsteps
    obtain ⟨⟨final, last⟩, hrun, hlast, -, hadded⟩ := hsteps opened hopened
    obtain rfl : last = n := hlast
    have hended : Ending.ofRun (Deck.load capture path) (Navigator.start · 0) (do
        opening
        steps (some d) (m * ((page :: rest).map Navigator.passes).sum)) begun =
          ⟨final, some n, none⟩ := by
      simp only [Ending.ofRun, hload, Navigator.start_cons_zero]
      rw [Outcome.bind_ok hopening, hrun]
    exact ⟨final, added, hrun, hended, hadded, hshown.trans hcalls⟩
  · obtain ⟨added, hsteps, -, hend⟩ := hready.leads_steps hclock hwait count
    obtain ⟨⟨before, _⟩, hbefore, rfl, halike', -⟩ := hsteps opened hopened
    obtain ⟨waited, hstep, -, hwaits⟩ := Leads.step hend hclock hwait
    obtain ⟨after, hafter, -, -, hadded⟩ := hstep before halike'
    exact ⟨_, _, waited, hbefore, hafter, hadded, hwaits⟩

/-- Two pages with one pause take three steps, so six steps show them twice. -/
theorem rounds_repeat_conversion_twice :
    let source : Text := "a\n---\n--newpage b\n--center c\n"
    let host : Host := { Host.quiet with
      files := { nodes := [(["deck"], .file (Text.Utf8.encode source))] } }
    let begun : Stage Recorder := ⟨host, {}, {}, none⟩
    let deck : Deck := [⟨"Title", ["a", "---"]⟩, ⟨"b", ["--center c"]⟩]
    let round : List Event := [.asked (.printLine (some "a")), .asked .wait, .asked .newPage,
      .asked (.center (some "c")), .asked .newPage]
    Deck.load (fun _ => pure []) "deck" begun = .ok deck begun ∧
      Conversion.Dispatches begun deck ∧
      begun.host.ClockStands ∧
      (∀ s, Alike begun s → ∃ t, Act.pause (.whole 1) s = .ok () t) ∧
      ∃ n opened final added, Navigator.start deck 0 = .ok n ∧
        opening ⟨begun, n⟩ = .ok () ⟨opened, n⟩ ∧
        steps (some (.whole 1)) 6 ⟨opened, n⟩ = .ok () ⟨final, n⟩ ∧
        events final = events opened ++ added ∧
        added.filter Event.isDeckCall = round ++ round := by
  intro source host begun deck round
  have hload : Deck.load (fun _ => pure []) "deck" begun = .ok deck begun := rfl
  have hlines : Conversion.Dispatches begun deck := by
    intro page hpage line hline
    simp only [deck, List.mem_cons, List.not_mem_nil, or_false] at hpage
    rcases hpage with rfl | rfl
    · simp only [List.mem_cons, List.not_mem_nil, or_false] at hline
      rcases hline with rfl | rfl
      · exact ⟨_, _, rfl⟩
      · exact ⟨_, _, rfl⟩
    · obtain rfl := List.mem_singleton.1 hline
      exact ⟨_, _, rfl⟩
  have hwait : ∀ s, Alike begun s → ∃ t, Act.pause (.whole 1) s = .ok () t := by
    rintro ⟨host', journal, surface, included⟩ ⟨hhost, -⟩
    obtain rfl : host' = host := hhost
    exact ⟨_, rfl⟩
  obtain ⟨n, opened, converted, finish, hn, -, -, -, hopening, -, -, hconverted, hrounds, -⟩ :=
    rounds_repeat_conversion "deck" (fun _ => pure []) hload hlines (fun _ => rfl) hwait
  obtain ⟨final, added, hsteps, -, hadded, hshown⟩ := hrounds 2
  refine ⟨hload, hlines, fun _ => rfl, hwait, n, opened, final, added, hn, hopening, hsteps, hadded,
    ?_⟩
  rw [hshown, hconverted]
  rfl

end Autoplay

end SlideDeck
