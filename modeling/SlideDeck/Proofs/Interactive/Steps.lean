import SlideDeck.Presenter.Autoplay
import SlideDeck.Proofs.Deck.Faults
import SlideDeck.Proofs.Interactive.Keys
import SlideDeck.Proofs.Navigation.Move

/-!
# Steps of presentations

A presentation dispatches the lines of its page, asks its console for something, or changes its
navigator (`Present.Steps`, `Interactive.Steps`). What these steps keep, and what they can end in,
holds of every key and of any number of them. Pages are shown only from a page of the deck, and so
only those of the deck.
-/

namespace SlideDeck

open Outcome

/-- A change that leaves a navigator on its page. -/
structure Navigator.Still (f : Navigator → Navigator) : Prop where
  pages : ∀ n, (f n).pages = n.pages := by exact fun _ => rfl
  index : ∀ n, (f n).index = n.index := by exact fun _ => rfl
  page : ∀ n, (f n).reader.page = n.reader.page := by exact fun _ => rfl

variable {σ : Type} {Q : Presentation σ → Prop} {E : Fault → Prop}

namespace Present

structure Steps [Surface σ] (Q : Presentation σ → Prop) (E : Fault → Prop) : Prop where
  index_lt : ∀ p, Q p → p.nav.index < p.nav.pages.length
  dispatch : ∀ p, Q p → ∀ line ∈ p.nav.reader.rest,
    Ends Q Any E (liftM (Directive.dispatch (σ := σ) (some line)) : Present σ Bool)
  perform : ∀ op, op.isExposed = false →
    Ends Q Any E (liftM (Surface.perform (σ := σ) op) : Present σ Unit)
  status : ∀ number count ended title,
    Ends Q Any E (liftM (Surface.drawStatus (σ := σ) number count ended title) : Present σ Unit)
  clear : Ends Q Any E (liftM (Surface.clear (σ := σ)) : Present σ Unit)
  change : ∀ {f}, Navigator.Still f → Ends Q Any E (modifyNav f)
  turnTo : ∀ p, Q p → ∀ index < p.nav.pages.length, Q ⟨p.stage, p.nav.turnTo index⟩

theorem nav_ends : Ends Q (fun n => ∃ p, Q p ∧ p.nav = n) E nav :=
  .bind (V := Q) .get fun p hp => .pure ⟨p, hp, rfl⟩

namespace Steps

variable [Surface σ]

theorem driveLines (h : Steps Q E) {lines : List Text}
    (hlines : ∀ line ∈ lines,
      Ends Q Any E (liftM (Directive.dispatch (σ := σ) (some line)) : Present σ Bool)) :
    Ends Q Any E (driveLines lines : Present σ Bool) := by
  induction lines with
  | nil => exact .pure trivial
  | cons line rest ih =>
    refine .andThen (h.change {}) fun _ => .andThen (hlines line List.mem_cons_self) fun paused => ?_
    refine .ite (fun _ => .pure trivial) fun _ => ?_
    exact ih fun l hl => hlines l (List.mem_cons_of_mem line hl)

theorem drive (h : Steps Q E) : Ends Q Any E (drive : Present σ Bool) := by
  refine .bind nav_ends fun n hn => ?_
  obtain ⟨p, hp, rfl⟩ := hn
  have hend (paused : Bool) : Ends Q Any E (do
      modifyNav (σ := σ) fun n => { n with finished := n.reader.ended && !paused }
      return paused) := .andThen (h.change {}) fun _ => .pure trivial
  dsimp only
  refine .ite (fun _ => .andThen (.pure (V := Any) trivial) hend) fun _ =>
    .ite (fun _ => ?_) fun _ => ?_
  · exact .andThen (h.change {}) fun _ => .andThen (.pure (V := Any) trivial) hend
  · exact .andThen (h.driveLines (h.dispatch p hp)) hend

/-- A page of the deck is shown. -/
theorem showPage (h : Steps Q E) {p : Presentation σ} (hp : Q p) {index : Nat}
    (hindex : index < p.nav.pages.length) : Ended Q Any E (showPage index p) := by
  rw [showPage_eq hindex]
  exact h.perform .newPage rfl _ (h.turnTo p hp index hindex)

theorem drawStatus (h : Steps Q E) : Ends Q Any E (drawStatus : Present σ Unit) :=
  .andThen nav_ends fun _ => .andThen (h.status _ _ _ _) fun _ => h.perform .refresh rfl

theorem pass (h : Steps Q E) : Ends Q Any E (pass : Present σ Unit) :=
  .andThen h.drawStatus fun _ => .andThen h.drive fun _ => h.drawStatus

theorem turnOrStay (h : Steps Q E) {p : Presentation σ} (hp : Q p) {turn : Option Nat}
    (hturn : ∀ index, turn = some index → index < p.nav.pages.length) :
    Ended Q Any E (turnOrStay turn p) := by
  cases turn with
  | none => exact ⟨trivial, hp⟩
  | some index => exact ended_bind (h.showPage hp (hturn index rfl)) fun _ _ => .pure trivial

/-- An operation that turns to a page of the deck, or stays. -/
theorem turning (h : Steps Q E) {x : Present σ Bool} (m : Move)
    (hx : ∀ p, x p = Present.turnOrStay (m.turn? p.nav) p) : Ends Q Any E x := by
  intro p hp
  rw [hx]
  exact h.turnOrStay hp fun _ => Move.lt_of_turn (h.index_lt p hp)

theorem advance (h : Steps Q E) : Ends Q Any E (advance : Present σ Bool) :=
  h.turning .advance advance_eq

theorem retreat (h : Steps Q E) : Ends Q Any E (retreat : Present σ Bool) :=
  h.turning .retreat retreat_eq

theorem jump (h : Steps Q E) (index : Option Int) : Ends Q Any E (jump index : Present σ Bool) :=
  h.turning (.jump index) (jump_eq index)

theorem firstPage (h : Steps Q E) : Ends Q Any E (firstPage : Present σ Unit) :=
  fun p hp => h.showPage hp (Nat.zero_lt_of_lt (h.index_lt p hp))

theorem wrapForward (h : Steps Q E) : Ends Q Any E (wrapForward : Present σ Unit) := by
  intro p hp
  have hindex := Move.lt_of_turn (m := .wrapForward) (h.index_lt p hp) rfl
  exact h.showPage hp hindex

theorem handle (h : Steps Q E) (action : Action) :
    Ends Q Any E (handle action : Present σ Bool) := by
  cases action with
  | quit | reload => exact .andThen (h.change {}) fun _ => .pure trivial
  | advance => exact .andThen h.advance fun _ => .pure trivial
  | retreat => exact .andThen h.retreat fun _ => .pure trivial
  | firstPage => exact .andThen h.firstPage fun _ => .pure trivial
  | jump | help | edit | resize => exact .pure trivial

end Steps

end Present

namespace Interactive

open Present

theorem opening_ends [Console σ] (h : Present.Steps Q E) :
    Ends Q Any E (opening : Present σ Unit) :=
  .andThen h.clear fun _ => .andThen (h.perform .newPage rfl) fun _ => h.pass

/-- What a presentation at a console does besides. -/
structure Steps [Console σ] (script : Script σ) (Q : Presentation σ → Prop) (E : Fault → Prop) :
    Prop extends Present.Steps Q E where
  showHelp : Ends Q Any E (liftM (Console.showHelp (σ := σ)) : Present σ Unit)
  askPageNumber : ∀ titles current,
    Ends Q Any E (liftM (Console.askPageNumber (σ := σ) titles current) : Present σ (Option Int))
  storeScreen : Ends Q Any E (liftM (Console.storeScreen (σ := σ)) : Present σ Window)
  restoreScreen : ∀ saved,
    Ends Q Any E (liftM (Console.restoreScreen (σ := σ) saved) : Present σ Unit)
  updateSize : Ends Q Any E (liftM (Console.updateSize (σ := σ)) : Present σ Unit)
  edit : Ends Q Any E (liftM (edit script) : Present σ Unit)
  reload : Ends Q Any E (reload script)

namespace Steps

variable [Console σ] {script : Script σ}

theorem jump (h : Steps script Q E) : Ends Q Any E (jump : Present σ Unit) := by
  refine .andThen h.storeScreen fun saved => .andThen nav_ends fun n => ?_
  refine .andThen (h.askPageNumber _ _) fun answer => ?_
  refine .andThen (h.toSteps.jump answer) fun turned => ?_
  exact .ite (fun _ => h.pass) fun _ => h.restoreScreen saved

theorem press (h : Steps script Q E) (phase : Phase) (action : Action) :
    Ends Q Any E (press script phase action) := by
  cases phase with
  | reading saved =>
    exact .andThen h.clear fun _ => .andThen (h.restoreScreen saved) fun _ => .pure trivial
  | choosing =>
    refine .andThen (h.handle action) fun handled => .ite (fun _ => ?_) fun _ => ?_
    · exact .andThen h.pass fun _ => .pure trivial
    · cases action with
      | quit => exact .pure trivial
      | reload => exact .andThen h.reload fun _ => .pure trivial
      | jump => exact .andThen h.jump fun _ => .pure trivial
      | edit => exact .andThen h.edit fun _ => .pure trivial
      | help =>
        exact .andThen h.storeScreen fun saved => .andThen h.showHelp fun _ => .pure trivial
      | resize => exact .andThen h.updateSize fun _ => .pure trivial
      | advance | retreat | firstPage => exact .pure trivial

theorem presses (h : Steps script Q E) {keys : List Keystroke}
    (hkeys : ∀ key ∈ keys, Ends Q Any E (liftM (edited (σ := σ) key.edits) : Present σ Unit))
    (phase : Phase) : Ends Q Any E (presses script phase keys) := by
  induction keys generalizing phase with
  | nil => exact .pure trivial
  | cons key keys ih =>
    refine .andThen (hkeys key List.mem_cons_self) fun _ =>
      .andThen (h.press phase key.action) fun next => ?_
    cases next with
    | none => exact .pure trivial
    | some next => exact ih (fun k hk => hkeys k (List.mem_cons_of_mem key hk)) next

/-- When the keys are used up, the user quits. -/
theorem play (h : Steps script Q E) {keys : List Keystroke}
    (hkeys : ∀ key ∈ keys, Ends Q Any E (liftM (edited (σ := σ) key.edits) : Present σ Unit))
    (phase : Phase) : Ends Q Any E (play script phase keys) := by
  have hquit (phase : Phase) : Ends Q Any E (Interactive.play script phase []) := by
    refine .andThen (h.press phase .quit) fun next => ?_
    cases next with
    | none => exact .pure trivial
    | some next => exact .andThen (h.press next .quit) fun _ => .pure trivial
  have hplay := play_append script phase keys []
  rw [List.append_nil] at hplay
  rw [hplay]
  refine .andThen (h.presses hkeys phase) fun next => ?_
  cases next with
  | none => exact .pure trivial
  | some next => exact hquit next

end Steps

end Interactive

namespace Autoplay

open Present

variable [Surface σ] {delay : Option Delay}

theorem opening_ends (h : Present.Steps Q E) : Ends Q Any E (opening : Present σ Unit) :=
  .andThen h.clear fun _ => h.perform .newPage rfl

theorem step_ends (h : Present.Steps Q E)
    (hpause : ∀ d, delay = some d → Ends Q Any E (liftM (Act.pause (σ := σ) d) : Present σ Unit))
    (hnone : delay = none →
      Ends Q Any E (liftM (Act.pauseWithoutLength (σ := σ) (α := Unit)) : Present σ Unit)) :
    Ends Q Any E (step delay : Present σ Unit) := by
  have hthen {wait : Present σ Unit} (hwait : Ends Q Any E wait) : Ends Q Any E (do
      pass
      if (← nav).finished then wrapForward
      wait) :=
    .andThen h.pass fun _ => .andThen nav_ends fun n =>
      .ite (fun _ => .andThen h.wrapForward fun _ => hwait) fun _ => hwait
  cases delay with
  | some d => exact hthen (hpause d rfl)
  | none => exact hthen (hnone rfl)

theorem steps_ends (hstep : Ends Q Any E (step delay : Present σ Unit)) (count : Nat) :
    Ends Q Any E (steps delay count : Present σ Unit) := by
  induction count with
  | zero => exact .pure trivial
  | succ count ih => exact .andThen hstep fun _ => ih

end Autoplay

end SlideDeck
