import SlideDeck.Proofs.Interactive.Keys
import SlideDeck.Proofs.Navigation.Move
import SlideDeck.Surface.Recorder

/-!
# What a presentation does not look at

A presentation on a recorder does not depend on what was recorded before, and depends on the answers
to page prompts only where it asks for a page. An action that does not look at something respects
every change of it (`Outcome.Respects`).
-/

namespace SlideDeck.Outcome

variable {ε σ α β : Type}

def mapState (f : σ → σ) : EStateM.Result ε σ α → EStateM.Result ε σ α
  | .ok a s => .ok a (f s)
  | .error e s => .error e (f s)

/-- From a changed state an action does what it does from the state as it is, and the change is
there afterwards. -/
def Respects (f : σ → σ) (x : EStateM ε σ α) : Prop := ∀ s, x (f s) = mapState f (x s)

theorem bind_eq_mapState {f : σ → σ} {x y : EStateM ε σ α} {g : α → EStateM ε σ β} {s t : σ}
    (h : x s = mapState f (y t)) (hg : ∀ a, Respects f (g a)) :
    (x >>= g) s = mapState f ((y >>= g) t) := by
  rcases hy : y t with ⟨a, u⟩ | ⟨e, u⟩
  · rw [hy] at h
    rw [bind_ok h, bind_ok hy]
    exact hg a u
  · rw [hy] at h
    rw [bind_error h, bind_error hy]
    rfl

namespace Respects

variable {f : σ → σ} {x : EStateM ε σ α}

theorem pure (a : α) : Respects f (pure a : EStateM ε σ α) := fun _ => rfl

theorem throw (e : ε) : Respects f (throw e : EStateM ε σ α) := fun _ => rfl

theorem bind {g : α → EStateM ε σ β} (hx : Respects f x) (hg : ∀ a, Respects f (g a)) :
    Respects f (x >>= g) := fun s => bind_eq_mapState (hx s) hg

theorem get_bind {g : σ → EStateM ε σ α} (hsame : ∀ s, g (f s) = g s)
    (hg : ∀ s, Respects f (g s)) : Respects f (get >>= g) := by
  intro s
  show g (f s) (f s) = mapState f (g s s)
  rw [hsame]
  exact hg s s

theorem modify {g : σ → σ} (h : ∀ s, g (f s) = f (g s)) :
    Respects f (modify g : EStateM ε σ Unit) := by
  intro s
  show EStateM.Result.ok () (g (f s)) = .ok () (f (g s))
  rw [h]

end Respects

end SlideDeck.Outcome

namespace SlideDeck

open Outcome

namespace Recorder

/-- A stage on which other calls were recorded first and other answers are to come. -/
def revise (past : Array Event) (g : List (Option Int) → List (Option Int)) (s : Stage Recorder) :
    Stage Recorder :=
  { s with
    journal := { s.journal with events := past ++ s.journal.events }
    surface := { s.surface with answers := g s.surface.answers } }

/-- An action that takes note neither of what was recorded nor of the answers to come. -/
def Unaware {α : Type} (x : Act Recorder α) : Prop := ∀ past g, Respects (revise past g) x

theorem revise_answers (s : Stage Recorder) :
    revise #[] (fun _ => s.surface.answers) s = s := by
  simp [revise]

theorem Unaware.answers_eq {α : Type} {x : Act Recorder α} {s t : Stage Recorder} {a : α}
    (hx : Unaware x) (h : x s = .ok a t) : t.surface.answers = s.surface.answers := by
  have hs := hx #[] (fun _ => s.surface.answers) s
  rw [revise_answers, h] at hs
  injection hs with _ ht
  exact congrArg (·.surface.answers) ht

theorem note_unaware (e : Event) : Unaware (Act.note e) := by
  intro past g
  refine .modify fun s => ?_
  simp only [revise, Array.append_push]

theorem warn_unaware (w : Warning) : Unaware (Act.warn w) :=
  fun _ _ => .modify fun _ => rfl

theorem askConsole_unaware (op : ConsoleOp) : Unaware (askConsole op) := by
  intro past g s
  have hask (t : Stage Recorder) : askConsole op t =
      (if t.surface.hasScreen then Act.note (.askedConsole op) else Pure.pure ()) t := rfl
  have hscreen : (revise past g s).surface.hasScreen = s.surface.hasScreen := rfl
  rw [hask, hask, hscreen]
  split
  · exact note_unaware _ past g s
  · rfl

theorem readFile_unaware (path : Text) : Unaware (Act.readFile path : Act Recorder _) :=
  fun _ _ _ => rfl

theorem readClock_unaware : Unaware (Act.readClock : Act Recorder _) := fun _ _ _ => rfl

end Recorder

namespace Directive

open Recorder

theorem printLines_unaware (lines : List Text) : Unaware (printLines lines) := by
  intro past g
  induction lines with
  | nil => exact .pure ()
  | cons line rest ih => exact .bind (note_unaware _ past g) fun _ => ih

theorem includedLines_unaware (path : Text) : Unaware (includedLines path : Act Recorder _) := by
  intro past g
  refine .bind (readFile_unaware path past g) fun content => ?_
  rcases content with (e | -) | t
  · exact .bind (warn_unaware _ past g) fun _ => .pure _
  · exact .throw _
  · exact .pure _

theorem obey_unaware (rest : Text) (d : Directive) : Unaware (obey rest d : Act Recorder _) := by
  intro past g
  cases d with
  | comment => exact .pure false
  | ask op => exact .bind (note_unaware _ past g) fun _ => .pure false
  | pause => exact .bind (note_unaware _ past g) fun _ => .pure true
  | sleep =>
    unfold obey
    rcases Text.leadingSeconds rest with fault | n
    · exact .throw _
    · exact .bind (note_unaware _ past g) fun _ => .pure false
  | date =>
    exact .bind (readClock_unaware past g) fun _ =>
      .bind (note_unaware _ past g) fun _ => .pure false
  | includeFile =>
    refine .bind (.modify fun _ => rfl) fun _ => ?_
    refine .bind (note_unaware _ past g) fun _ => .bind (note_unaware _ past g) fun _ => ?_
    refine .bind (includedLines_unaware _ past g) fun lines => ?_
    exact .bind (printLines_unaware lines past g) fun _ =>
      .bind (note_unaware _ past g) fun _ => .pure false

theorem dispatch_unaware (line : Option Text) : Unaware (dispatch line : Act Recorder _) := by
  intro past g
  cases line with
  | none => exact .pure false
  | some line =>
    simp only [dispatch, dispatchBy]
    rcases find? table line with - | ⟨m, d, rest⟩
    · exact .bind (note_unaware _ past g) fun _ => .pure false
    · exact obey_unaware rest d past g

end Directive

namespace Deck

open Recorder

variable {capture : Text → Act Recorder (List Text)}

theorem splice_unaware (hcapture : ∀ command, Unaware (capture command)) (line : Text) :
    Unaware (Page.splice capture line) := by
  intro past g
  unfold Page.splice
  rcases Page.embedded? line with - | ⟨lead, command⟩
  · exact .pure _
  · exact .bind (hcapture command past g) fun _ => .pure _

theorem collect_unaware (hcapture : ∀ command, Unaware (capture command)) (lines : List Text)
    (number : Nat) (title : Text) : Unaware (collect capture number title lines) := by
  intro past g
  induction lines generalizing number title with
  | nil => exact .pure _
  | cons line rest ih =>
    unfold collect
    split
    · exact ih number title
    · rcases Text.after? "--newpage" line with - | name
      · exact .bind (splice_unaware hcapture line past g) fun _ =>
          .bind (ih number title) fun _ => .pure _
      · exact .bind (ih (number + 1) _) fun _ => .pure _

theorem load_unaware (hcapture : ∀ command, Unaware (capture command)) (path : Text) :
    Unaware (load capture path) := by
  intro past g
  refine .bind (readFile_unaware path past g) fun content => ?_
  rcases content with fault | source
  · exact .throw _
  · exact collect_unaware hcapture _ _ _ past g

end Deck

theorem Command.outcome_unaware (command : Text) :
    Recorder.Unaware (Command.outcome command : Act Recorder _) := by
  intro past g
  refine .get_bind (fun _ => rfl) fun s => ?_
  dsimp only
  split
  · exact .bind (.throw _) fun _ => .pure _
  · exact .pure _

theorem Command.capture_unaware (command : Text) :
    Recorder.Unaware (Command.capture command : Act Recorder _) := by
  intro past g
  refine .bind (Recorder.note_unaware _ past g) fun _ =>
    .bind (Command.outcome_unaware command past g) fun outcome => ?_
  rcases outcome with reason | ⟨output, errors, status⟩
  · exact .bind (Recorder.warn_unaware _ past g) fun _ => .pure _
  · dsimp only
    split
    · exact .bind (Recorder.warn_unaware _ past g) fun _ => .pure _
    · exact .pure _

/-! ### Presentations -/

def Presentation.revise (past : Array Event) (g : List (Option Int) → List (Option Int))
    (p : Presentation Recorder) : Presentation Recorder :=
  { p with stage := Recorder.revise past g p.stage }

namespace Present

@[inherit_doc Recorder.Unaware]
def Unaware {α : Type} (x : Present Recorder α) : Prop :=
  ∀ past g, Respects (Presentation.revise past g) x

variable {α : Type} {past : Array Event} {g : List (Option Int) → List (Option Int)}

theorem Unaware.answers_eq {x : Present Recorder α} {p q : Presentation Recorder} {a : α}
    (hx : Unaware x) (h : x p = .ok a q) :
    q.stage.surface.answers = p.stage.surface.answers := by
  have hp := hx #[] (fun _ => p.stage.surface.answers) p
  rw [Presentation.revise, Recorder.revise_answers, h] at hp
  injection hp with _ hq
  exact congrArg (·.stage.surface.answers) hq

theorem lift_respects {act : Act Recorder α} (h : Respects (Recorder.revise past g) act) :
    Respects (Presentation.revise past g) (liftM act : Present Recorder α) := by
  intro p
  have hact := h p.stage
  rcases hrun : act p.stage with ⟨a, s⟩ | ⟨fault, s⟩
  · rw [hrun] at hact
    rw [lift_ok hact, lift_ok hrun]
    rfl
  · rw [hrun] at hact
    rw [lift_error hact, lift_error hrun]
    rfl

theorem lift_unaware {act : Act Recorder α} (h : Recorder.Unaware act) :
    Unaware (liftM act : Present Recorder α) := fun past g => lift_respects (h past g)

theorem nav_bind {x : Navigator → Present Recorder α}
    (h : ∀ n, Respects (Presentation.revise past g) (x n)) :
    Respects (Presentation.revise past g) (nav >>= x) := fun p => h p.nav p

theorem modifyNav_unaware (f : Navigator → Navigator) :
    Unaware (modifyNav f : Present Recorder Unit) := fun _ _ => .modify fun _ => rfl

theorem perform_unaware (op : Op) :
    Unaware (liftM (Surface.perform op : Act Recorder Unit) : Present Recorder Unit) :=
  lift_unaware (Recorder.note_unaware _)

theorem askConsole_unaware (op : ConsoleOp) :
    Unaware (liftM (Recorder.askConsole op) : Present Recorder Unit) :=
  lift_unaware (Recorder.askConsole_unaware op)

theorem driveLines_unaware (lines : List Text) :
    Unaware (driveLines lines : Present Recorder Bool) := by
  intro past g
  induction lines with
  | nil => exact .pure false
  | cons line rest ih =>
    refine .bind (modifyNav_unaware _ past g) fun _ => ?_
    refine .bind (lift_unaware (Directive.dispatch_unaware _) past g) fun answer => ?_
    cases answer with
    | true => exact .pure true
    | false => exact ih

theorem drive_unaware : Unaware (drive : Present Recorder Bool) := by
  intro past g
  refine nav_bind fun n => ?_
  have hend (paused : Bool) : Respects (Presentation.revise past g) (do
      modifyNav fun n => { n with finished := n.reader.ended && !paused }
      return paused) := .bind (modifyNav_unaware _ past g) fun _ => .pure _
  dsimp only
  split
  · exact .bind (.pure false) hend
  · split
    · exact .bind (modifyNav_unaware _ past g) fun _ => .bind (.pure false) hend
    · exact .bind (driveLines_unaware _ past g) hend

theorem showPage_unaware (index : Nat) : Unaware (showPage index : Present Recorder Unit) := by
  intro past g
  refine .bind (modifyNav_unaware _ past g) fun _ => nav_bind fun n => ?_
  dsimp only
  split
  · exact .bind (.throw _) fun _ => perform_unaware .newPage past g
  · exact perform_unaware .newPage past g

theorem turnOrStay_unaware (turn : Option Nat) :
    Unaware (turnOrStay turn : Present Recorder Bool) := by
  intro past g
  cases turn with
  | none => exact .pure false
  | some index => exact .bind (showPage_unaware index past g) fun _ => .pure true

/-- An operation that turns the page by the navigator alone. -/
theorem unaware_of_turn {x : Present Recorder Bool} {m : Move}
    (h : ∀ p, x p = turnOrStay (m.turn? p.nav) p) : Unaware x := by
  intro past g p
  rw [h, h]
  exact turnOrStay_unaware _ past g p

theorem drawStatus_unaware : Unaware (drawStatus : Present Recorder Unit) :=
  fun past g => nav_bind fun _ => .bind (askConsole_unaware _ past g) fun _ =>
    perform_unaware .refresh past g

theorem pass_unaware : Unaware (pass : Present Recorder Unit) :=
  fun past g => .bind (drawStatus_unaware past g) fun _ => .bind (drive_unaware past g) fun _ =>
    drawStatus_unaware past g

theorem jump_unaware (index : Option Int) : Unaware (jump index : Present Recorder Bool) :=
  unaware_of_turn (jump_eq index)

theorem handle_unaware (action : Action) : Unaware (handle action : Present Recorder Bool) := by
  intro past g
  cases action with
  | quit => exact .bind (modifyNav_unaware _ past g) fun _ => .pure false
  | reload => exact .bind (modifyNav_unaware _ past g) fun _ => .pure false
  | advance => exact .bind (unaware_of_turn advance_eq past g) fun _ => .pure true
  | retreat => exact .bind (unaware_of_turn retreat_eq past g) fun _ => .pure true
  | firstPage => exact .bind (showPage_unaware 0 past g) fun _ => .pure true
  | jump => exact .pure false
  | help => exact .pure false
  | edit => exact .pure false
  | resize => exact .pure false

end Present

namespace Interactive

open Present

variable {script : Script Recorder} {past : Array Event}
  {g : List (Option Int) → List (Option Int)}

/-! ### Keys -/

theorem storeScreen_unaware :
    Present.Unaware (liftM (Console.storeScreen : Act Recorder Window) : Present Recorder Window) :=
  lift_unaware fun past g => .bind (Recorder.askConsole_unaware _ past g) fun _ => .pure 0

theorem opening_unaware : Present.Unaware (opening : Present Recorder Unit) :=
  fun past g => .bind (askConsole_unaware .clear past g) fun _ =>
    .bind (perform_unaware .newPage past g) fun _ => pass_unaware past g

theorem reload_unaware (hcapture : ∀ command, Recorder.Unaware (script.capture command)) :
    Present.Unaware (reload script) := by
  intro past g
  refine .bind (lift_unaware (Deck.load_unaware hcapture _) past g) fun deck => nav_bind fun n => ?_
  rcases Navigator.start deck n.index with fault | n
  · exact .throw _
  · exact .bind (modifyNav_unaware _ past g) fun _ => opening_unaware past g

theorem edit_unaware (script : Script Recorder) : Recorder.Unaware (edit script) :=
  fun past g => .get_bind (fun _ => rfl) fun _ =>
    .bind (.bind (Recorder.askConsole_unaware _ past g) fun _ => .pure 0) fun _ =>
      .bind (Recorder.note_unaware _ past g) fun _ => Recorder.askConsole_unaware _ past g

theorem edited_unaware (edits : List FileEdit) : Recorder.Unaware (edited edits) :=
  fun _ _ => .modify fun _ => rfl

theorem press_respects (hcapture : ∀ command, Recorder.Unaware (script.capture command))
    {phase : Phase} {action : Action}
    (hjump : phase = .choosing → action = .jump →
      Respects (Presentation.revise past g) (jump : Present Recorder Unit)) :
    Respects (Presentation.revise past g) (press script phase action) := by
  cases phase with
  | reading saved =>
    exact .bind (askConsole_unaware .clear past g) fun _ =>
      .bind (askConsole_unaware .restoreScreen past g) fun _ => .pure _
  | choosing =>
    refine .bind (handle_unaware action past g) fun handled => ?_
    cases handled with
    | true => exact .bind (pass_unaware past g) fun _ => .pure _
    | false =>
      cases action with
      | quit => exact .pure _
      | reload => exact .bind (reload_unaware hcapture past g) fun _ => .pure _
      | jump => exact .bind (hjump rfl rfl) fun _ => .pure _
      | edit => exact .bind (lift_unaware (edit_unaware script) past g) fun _ => .pure _
      | help =>
        exact .bind (storeScreen_unaware past g) fun _ =>
          .bind (askConsole_unaware .showHelp past g) fun _ => .pure _
      | resize => exact .bind (askConsole_unaware .updateSize past g) fun _ => .pure _
      | advance => exact .pure _
      | retreat => exact .pure _
      | firstPage => exact .pure _

end Interactive

/-! ### Page prompts -/

namespace Recorder

/-- The stage after a console operation was asked for. -/
def asked (op : ConsoleOp) (s : Stage Recorder) : Stage Recorder :=
  if s.surface.hasScreen then
    { s with journal := { s.journal with events := s.journal.events.push (.askedConsole op) } }
  else s

def answered (s : Stage Recorder) : Stage Recorder :=
  { s with surface := { s.surface with answers := s.surface.answers.tail } }

theorem askConsole_apply (op : ConsoleOp) (s : Stage Recorder) :
    askConsole op s = .ok () (asked op s) := by
  have hask : askConsole op s =
      (if s.surface.hasScreen then Act.note (.askedConsole op) else Pure.pure ()) s := rfl
  rw [hask, asked]
  split
  · rfl
  · rfl

theorem answers_asked (op : ConsoleOp) (s : Stage Recorder) :
    (asked op s).surface.answers = s.surface.answers := by
  unfold asked
  split
  · rfl
  · rfl

theorem askPageNumber_apply (titles : List Text) (current : Int) (s : Stage Recorder) :
    Console.askPageNumber titles current s =
      .ok (s.surface.answers.headD none) (answered (asked (.askPageNumber titles current) s)) := by
  refine (bind_ok (askConsole_apply _ s)).trans ?_
  have hanswers := answers_asked (.askPageNumber titles current) s
  generalize asked (.askPageNumber titles current) s = t at hanswers ⊢
  obtain ⟨host, journal, ⟨hasScreen, answers⟩, included⟩ := t
  obtain rfl : answers = s.surface.answers := hanswers
  cases s.surface.answers with
  | nil => rfl
  | cons answer rest => rfl

theorem asked_revise (past : Array Event) (g : List (Option Int) → List (Option Int))
    (op : ConsoleOp) (s : Stage Recorder) :
    asked op (revise past g s) = revise past g (asked op s) := by
  have h := askConsole_unaware op past g s
  rw [askConsole_apply, askConsole_apply] at h
  injection h

end Recorder

/-- The presentation with these answers to come. -/
def Presentation.answering (answers : List (Option Int)) :
    Presentation Recorder → Presentation Recorder := Presentation.revise #[] fun _ => answers

namespace Interactive

variable {script : Script Recorder} {past : Array Event} {p q : Presentation Recorder}
  {phase next : Phase} {action : Action} {keys : List Keystroke} {A B : List (Option Int)}

/-- What follows the answer to a page prompt. -/
def follow (answer : Option Int) : Present Recorder Unit := do
  if ← Present.jump answer then Present.pass else Console.restoreScreen (σ := Recorder) 0

theorem follow_unaware (answer : Option Int) : Present.Unaware (follow answer) := by
  intro past g
  refine .bind (Present.jump_unaware answer past g) fun turned => ?_
  cases turned with
  | true => exact Present.pass_unaware past g
  | false => exact Present.askConsole_unaware .restoreScreen past g

/-- The stage after a page prompt, but for the answer. -/
def prompted (p : Presentation Recorder) : Stage Recorder :=
  Recorder.asked (.askPageNumber (p.nav.pages.map (·.title)) p.nav.index)
    (Recorder.asked .storeScreen p.stage)

theorem prompted_revise (past : Array Event) (g : List (Option Int) → List (Option Int))
    (p : Presentation Recorder) :
    prompted (p.revise past g) = Recorder.revise past g (prompted p) :=
  (congrArg _ (Recorder.asked_revise ..)).trans (Recorder.asked_revise ..)

theorem jump_apply (p : Presentation Recorder) :
    jump p = follow (p.stage.surface.answers.headD none)
      ⟨Recorder.answered (prompted p), p.nav⟩ := by
  have hstore : (Console.storeScreen : Act Recorder Window) p.stage =
      .ok 0 (Recorder.asked .storeScreen p.stage) := bind_ok (Recorder.askConsole_apply _ _)
  have hask := Recorder.askPageNumber_apply (p.nav.pages.map (·.title)) p.nav.index
    (Recorder.asked .storeScreen p.stage)
  rw [Recorder.answers_asked] at hask
  exact (bind_ok (Present.lift_ok hstore)).trans
    ((bind_ok (Present.nav_apply _)).trans (bind_ok (Present.lift_ok hask)))

theorem jump_respects (past : Array Event) :
    Respects (Presentation.revise past id) (jump : Present Recorder Unit) := by
  intro p
  rw [jump_apply, jump_apply, prompted_revise]
  exact follow_unaware _ past id ⟨Recorder.answered (prompted p), p.nav⟩

/-- Of the answers to come, a page prompt takes the first. -/
theorem jump_answering (A : List (Option Int)) (p : Presentation Recorder) :
    jump (p.answering A) =
      mapState (Presentation.answering A.tail) (follow (A.headD none) ⟨prompted p, p.nav⟩) := by
  rw [jump_apply, Presentation.answering, prompted_revise]
  exact follow_unaware _ #[] (fun _ => A.tail) ⟨prompted p, p.nav⟩

variable (hcapture : ∀ command, Recorder.Unaware (script.capture command))

include hcapture

theorem press_respects_past (phase : Phase) (action : Action) (past : Array Event) :
    Respects (Presentation.revise past id) (press script phase action) :=
  press_respects hcapture fun _ _ => jump_respects past

theorem presses_respects_past (phase : Phase) (keys : List Keystroke) (past : Array Event) :
    Respects (Presentation.revise past id) (presses script phase keys) := by
  induction keys generalizing phase with
  | nil => exact .pure _
  | cons key keys ih =>
    refine .bind (Present.lift_unaware (edited_unaware key.edits) past id) fun _ =>
      .bind (press_respects_past hcapture phase key.action past) fun answer => ?_
    cases answer with
    | none => exact .pure _
    | some phase => exact ih phase

theorem play_respects_past (phase : Phase) (keys : List Keystroke) (past : Array Event) :
    Respects (Presentation.revise past id) (play script phase keys) := by
  induction keys generalizing phase with
  | nil =>
    refine .bind (press_respects_past hcapture phase .quit past) fun answer => ?_
    cases answer with
    | none => exact .pure _
    | some phase =>
      exact .bind (press_respects_past hcapture phase .quit past) fun _ => .pure _
  | cons key keys ih =>
    refine .bind (Present.lift_unaware (edited_unaware key.edits) past id) fun _ =>
      .bind (press_respects_past hcapture phase key.action past) fun answer => ?_
    cases answer with
    | none => exact .pure _
    | some phase => exact ih phase

omit hcapture

end Interactive

end SlideDeck
