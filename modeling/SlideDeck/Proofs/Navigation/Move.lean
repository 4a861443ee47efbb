import SlideDeck.Proofs.Navigation.Pass

/-!
# Operations of a presentation

What each operation asks of the stage (`Move.entries`) and where it leaves the presentation
(`Move.next`) depend on the navigator alone. On every surface an operation asks exactly that, in
that order (`Move.state_make`, `Move.state_make_drive`).
-/

namespace SlideDeck

inductive Move where
  | drive
  | advance
  | retreat
  | jump (index : Option Int)
  | firstPage
  | wrapForward
  | drawStatus
  | handle (action : Action)

/-- Something that an operation asks of the stage. The end of a pass asks for nothing and says
whether the pass stopped at a pause. -/
inductive Entry where
  | shown
  | dispatched (line : Text)
  | passed (paused : Bool)
  | status (number count : Int) (ended : Bool) (title : Text)

namespace Entry

variable {σ : Type} [Surface σ]

def act : Entry → Act σ Unit
  | shown => Surface.perform .newPage
  | dispatched line => do
    let _ ← Directive.dispatch (some line)
  | passed _ => pure ()
  | status number count ended title => do
    Surface.drawStatus number count ended (some title)
    Surface.perform .refresh

def after (s : Stage σ) (e : Entry) : Stage σ := Outcome.state (e.act s)

theorem after_dispatched {line : Text} {s t : Stage σ} {answer : Bool}
    (h : Directive.dispatch (some line) s = .ok answer t) : (dispatched line).after s = t :=
  congrArg Outcome.state (Outcome.bind_ok h)

theorem foldl_dispatched {lines : List Text} {s t : Stage σ}
    (h : Conversion.dispatchLines lines s = .ok () t) :
    (lines.map dispatched).foldl after s = t := by
  induction lines generalizing s with
  | nil =>
    cases h
    rfl
  | cons line rest ih =>
    obtain ⟨answer, u, hline, hrest⟩ := Outcome.bind_eq_ok h
    rw [List.map_cons, List.foldl_cons, after_dispatched hline]
    exact ih hrest

end Entry

namespace Move

def turn? (n : Navigator) : Move → Option Nat
  | advance | handle .advance =>
    if n.finished && n.index + 1 < n.pages.length then some (n.index + 1) else none
  | retreat | handle .retreat => if 0 < n.index then some (n.index - 1) else none
  | jump index =>
    index.bind fun i => if 0 ≤ i ∧ i < n.pages.length then some i.toNat else none
  | firstPage | handle .firstPage => some 0
  | wrapForward => some ((n.index + 1) % n.pages.length)
  | _ => none

/-- From a page of the deck, an operation turns to a page of the deck. -/
theorem lt_of_turn {n : Navigator} {m : Move} {index : Nat} (hindex : n.index < n.pages.length)
    (hturn : m.turn? n = some index) : index < n.pages.length := by
  cases m with
  | drive | drawStatus => cases hturn
  | firstPage => grind [turn?]
  | advance | retreat => grind [turn?]
  | jump i =>
    obtain ⟨j, -, hj⟩ := Option.bind_eq_some_iff.1 hturn
    split at hj
    · cases hj
      omega
    · cases hj
  | wrapForward =>
    cases hturn
    exact Nat.mod_lt _ (Nat.zero_lt_of_lt hindex)
  | handle action => cases action <;> grind [turn?]

def entries (n : Navigator) : Move → List Entry
  | drive => (upToPause n.reader.left).map .dispatched ++ [.passed n.stopsAtPause]
  | drawStatus => [.status (n.index + 1) n.pages.length n.finished n.reader.page.title]
  | m => if (m.turn? n).isSome then [.shown] else []

def next (n : Navigator) : Move → Navigator
  | drive => n.afterPass
  | handle .quit => { n with quit := true }
  | handle .reload => { n with reloadRequested := true }
  | m => ((m.turn? n).map n.turnTo).getD n

variable {σ : Type} [Surface σ]

/-- The operation with its answer; one that has no answer says yes. -/
def make : Move → Present σ Bool
  | drive => Present.drive
  | advance => Present.advance
  | retreat => Present.retreat
  | jump index => Present.jump index
  | firstPage => do
    Present.firstPage
    return true
  | wrapForward => do
    Present.wrapForward
    return true
  | drawStatus => do
    Present.drawStatus
    return true
  | handle action => Present.handle action

end Move

namespace Present

variable {σ : Type}

theorem lift_bind {α β : Type} (x : Act σ α) (f : α → Act σ β) :
    ((liftM x : Present σ α) >>= fun a => (liftM (f a) : Present σ β)) = liftM (x >>= f) := by
  funext p
  rcases h : x p.stage with ⟨a, s⟩ | ⟨fault, s⟩
  · rw [Outcome.bind_ok (lift_ok h)]
    show onStage (f a) _ = onStage (x >>= f) p
    simp only [onStage, Outcome.bind_ok h]
  · rw [Outcome.bind_error (lift_error h), lift_error (Outcome.bind_error h)]

theorem state_lift {α : Type} (act : Act σ α) (p : Presentation σ) :
    Outcome.state ((liftM act : Present σ α) p) = ⟨Outcome.state (act p.stage), p.nav⟩ := by
  rcases h : act p.stage with ⟨a, s⟩ | ⟨fault, s⟩
  · rw [lift_ok h]
    rfl
  · rw [lift_error h]
    rfl

variable [Surface σ]

/-- Showing a page of the deck asks the stage for a new page. -/
theorem showPage_eq {index : Nat} {p : Presentation σ} (hindex : index < p.nav.pages.length) :
    showPage index p =
      (liftM (Surface.perform (σ := σ) .newPage) : Present σ Unit) ⟨p.stage, p.nav.turnTo index⟩ := by
  let turned : Presentation σ := ⟨p.stage, p.nav.turnTo index⟩
  have hpages : ¬turned.nav.pages.length ≤ index := by
    rw [show turned.nav.pages = p.nav.pages from p.nav.pages_turnTo index]
    exact not_le.2 hindex
  refine (Outcome.bind_ok (t := turned) rfl).trans ((Outcome.bind_ok (nav_apply turned)).trans ?_)
  rw [if_neg hpages]

/-- Past the deck there is nothing to show, and the stage is not asked for it. -/
theorem showPage_past {index : Nat} {p : Presentation σ} (hindex : p.nav.pages.length ≤ index) :
    showPage index p = .error .noSuchPage ⟨p.stage, p.nav.turnTo index⟩ := by
  let turned : Presentation σ := ⟨p.stage, p.nav.turnTo index⟩
  have hpages : turned.nav.pages.length ≤ index := by
    rw [show turned.nav.pages = p.nav.pages from p.nav.pages_turnTo index]
    exact hindex
  refine (Outcome.bind_ok (t := turned) rfl).trans ((Outcome.bind_ok (nav_apply turned)).trans ?_)
  rw [if_pos hpages]
  rfl

theorem state_showPage {index : Nat} {p : Presentation σ} (hindex : index < p.nav.pages.length) :
    Outcome.state (showPage index p) = ⟨Entry.shown.after p.stage, p.nav.turnTo index⟩ := by
  rw [showPage_eq hindex]
  exact state_lift (Surface.perform .newPage) ⟨p.stage, p.nav.turnTo index⟩

theorem state_drawStatus (p : Presentation σ) :
    Outcome.state (drawStatus p) =
      ⟨(Entry.status (p.nav.index + 1) p.nav.pages.length p.nav.finished
        p.nav.reader.page.title).after p.stage, p.nav⟩ := by
  refine (congrArg Outcome.state (Outcome.bind_ok (nav_apply p))).trans ?_
  rw [lift_bind]
  exact state_lift _ p

def turnOrStay : Option Nat → Present σ Bool
  | some index => do
    showPage index
    return true
  | none => return false

theorem state_turnOrStay {turn : Option Nat} {p : Presentation σ}
    (hturn : ∀ index, turn = some index → index < p.nav.pages.length) :
    Outcome.state (turnOrStay turn p) =
      ⟨(if turn.isSome then [Entry.shown] else []).foldl Entry.after p.stage,
        (turn.map p.nav.turnTo).getD p.nav⟩ := by
  cases turn with
  | none => rfl
  | some index =>
    refine (Outcome.state_bind_pure (showPage index) true p).trans ?_
    exact state_showPage (hturn index rfl)

theorem eq_of_turnOrStay_eq_false {turn : Option Nat} {p q : Presentation σ}
    (h : turnOrStay turn p = .ok false q) : turn = none ∧ q = p := by
  cases turn with
  | none =>
    cases h
    exact ⟨rfl, rfl⟩
  | some index =>
    obtain ⟨_, r, -, hpure⟩ := Outcome.bind_eq_ok h
    cases hpure

theorem advance_eq (p : Presentation σ) :
    advance p = turnOrStay (Move.advance.turn? p.nav) p := by
  refine (Outcome.bind_ok (nav_apply p)).trans ?_
  simp only [Move.turn?]
  split
  · rfl
  · rfl

theorem retreat_eq (p : Presentation σ) :
    retreat p = turnOrStay (Move.retreat.turn? p.nav) p := by
  refine (Outcome.bind_ok (nav_apply p)).trans ?_
  simp only [Move.turn?]
  split
  · rfl
  · rfl

theorem jump_eq (index : Option Int) (p : Presentation σ) :
    jump index p = turnOrStay ((Move.jump index).turn? p.nav) p := by
  cases index with
  | none => rfl
  | some i =>
    refine (Outcome.bind_ok (nav_apply p)).trans ?_
    simp only [Move.turn?, Option.bind_some]
    split
    · rfl
    · rfl

end Present

namespace Move

variable {σ : Type} [Surface σ]

/-- A pass that meets no fault asks the stage for its lines, leaves the navigator after it, and
answers whether it stopped at a pause. -/
theorem state_make_drive {p q : Presentation σ} {paused : Bool}
    (h : drive.make p = .ok paused q) :
    q = ⟨(drive.entries p.nav).foldl Entry.after p.stage, drive.next p.nav⟩ ∧
      paused = p.nav.stopsAtPause := by
  rcases hlines : Conversion.dispatchLines (upToPause p.nav.reader.left) p.stage
    with ⟨⟨⟩, s⟩ | ⟨fault, s⟩
  · have hdrive : drive.make p = .ok p.nav.stopsAtPause ⟨s, p.nav.afterPass⟩ :=
      Present.drive_ok hlines
    rw [hdrive] at h
    cases h
    refine ⟨?_, rfl⟩
    simp only [entries, List.foldl_append, Entry.foldl_dispatched hlines]
    rfl
  · obtain ⟨n, hn⟩ := Present.drive_error hlines
    cases hn.symm.trans h

/-- On a page of the deck, every other operation does so even if the stage meets a fault: it turns to
no page that the deck does not have. -/
theorem state_make {m : Move} (hm : m ≠ drive) {p : Presentation σ}
    (hindex : p.nav.index < p.nav.pages.length) :
    Outcome.state (m.make p) =
      ⟨(m.entries p.nav).foldl Entry.after p.stage, m.next p.nav⟩ := by
  have hturns (m : Move) : Outcome.state (Present.turnOrStay (m.turn? p.nav) p) = _ :=
    Present.state_turnOrStay fun _ => lt_of_turn hindex
  cases m with
  | drive => exact absurd rfl hm
  | advance =>
    rw [make, Present.advance_eq]
    exact hturns .advance
  | retreat =>
    rw [make, Present.retreat_eq]
    exact hturns .retreat
  | jump index =>
    rw [make, Present.jump_eq]
    exact hturns (.jump index)
  | firstPage => exact hturns .firstPage
  | wrapForward =>
    refine (Outcome.state_bind_pure Present.wrapForward true p).trans ?_
    refine (congrArg Outcome.state (Outcome.bind_ok (Present.nav_apply p))).trans ?_
    exact Present.state_showPage (lt_of_turn (m := .wrapForward) hindex rfl)
  | drawStatus => exact (Outcome.state_bind_pure _ true p).trans (Present.state_drawStatus p)
  | handle action =>
    cases action with
    | advance =>
      refine (Outcome.state_bind_pure Present.advance true p).trans ?_
      rw [Present.advance_eq]
      exact hturns .advance
    | retreat =>
      refine (Outcome.state_bind_pure Present.retreat true p).trans ?_
      rw [Present.retreat_eq]
      exact hturns .retreat
    | firstPage => exact hturns .firstPage
    | quit => rfl
    | reload => rfl
    | jump => rfl
    | help => rfl
    | edit => rfl
    | resize => rfl

/-- Whether the answer of an operation says if it turned the page. -/
def mayStay : Move → Bool
  | advance | retreat | jump _ => true
  | _ => false

theorem eq_of_make_eq_false {m : Move} {p q : Presentation σ} (hm : m.mayStay = true)
    (h : m.make p = .ok false q) : q = p ∧ m.entries p.nav = [] := by
  have hstay : m.turn? p.nav = none ∧ q = p := by
    cases m with
    | advance => exact Present.eq_of_turnOrStay_eq_false ((Present.advance_eq p).symm.trans h)
    | retreat => exact Present.eq_of_turnOrStay_eq_false ((Present.retreat_eq p).symm.trans h)
    | jump i => exact Present.eq_of_turnOrStay_eq_false ((Present.jump_eq i p).symm.trans h)
    | drive | firstPage | wrapForward | drawStatus | handle => cases hm
  refine ⟨hstay.2, ?_⟩
  cases m with
  | advance | retreat | jump => simp [entries, hstay.1]
  | drive | firstPage | wrapForward | drawStatus | handle => cases hm

end Move

end SlideDeck
