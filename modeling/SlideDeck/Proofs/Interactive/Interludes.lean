import SlideDeck.Proofs.Interactive.Unseen

/-!
# Keys that do not move the presentation

A new size, a visit to the editor, a look at the help and a page prompt that leads nowhere are
interludes: a presentation goes on after them as it would have without them, and all that they add
are their own calls.
-/

namespace SlideDeck

open Outcome

namespace Recorder

def withEvents (events : Array Event) (s : Stage Recorder) : Stage Recorder :=
  { s with journal := { s.journal with events := events } }

end Recorder

/-- The presentation with these calls in the place of the ones that were recorded. -/
def Presentation.withEvents (events : Array Event) (p : Presentation Recorder) :
    Presentation Recorder := { p with stage := Recorder.withEvents events p.stage }

@[inherit_doc Presentation.withEvents]
def Ending.withEvents (events : Array Event) (e : Ending Recorder) : Ending Recorder :=
  { e with stage := Recorder.withEvents events e.stage }

theorem Ending.ofPlay_mapState (events : Array Event)
    (r : EStateM.Result Fault (Presentation Recorder) Unit) :
    Ending.ofPlay (mapState (Presentation.withEvents events) r) =
      (Ending.ofPlay r).withEvents events := by
  cases r with
  | ok => rfl
  | error => rfl

/-- Whatever was recorded before, an action that does not look at it records the same calls. -/
theorem Present.records_same {α : Type} {x : Present Recorder α}
    (hx : ∀ past, Respects (Presentation.revise past id) x) (p : Presentation Recorder) :
    ∃ added, ∀ past, x (p.withEvents past) =
      mapState (Presentation.withEvents (past ++ added)) (x p) := by
  have hfresh (past : Array Event) : p.withEvents past =
      (p.withEvents #[]).revise past id := by
    simp [Presentation.withEvents, Presentation.revise, Recorder.withEvents, Recorder.revise]
  have hself : p.withEvents p.stage.journal.events = p := rfl
  refine ⟨(state (x (p.withEvents #[]))).stage.journal.events, fun past => ?_⟩
  have hp := hx p.stage.journal.events (p.withEvents #[])
  rw [← hfresh, hself] at hp
  rw [hfresh, hx, hp]
  cases x (p.withEvents #[]) with
  | ok => rfl
  | error => rfl

namespace Interactive

variable {script : Script Recorder} {s : Stage Recorder} {p q : Presentation Recorder}
  {phase next : Phase} {action : Action} {keys : List Keystroke} {A B : List (Option Int)}

/-! ### Answers to page prompts -/

/-- What a presentation on a recorder waits for after a key. -/
def phaseAfter : Phase → Action → Phase
  | .choosing, .help => .reading 0
  | _, _ => .choosing

/-- How many page prompts some keys lead to. -/
def prompts (phase : Phase) : List Keystroke → Nat
  | [] => 0
  | key :: keys =>
    (if phase = .choosing ∧ key.action = .jump then 1 else 0) +
      prompts (phaseAfter phase key.action) keys

theorem press_help (p : Presentation Recorder) :
    press script .choosing .help p =
      .ok (some (.reading 0))
        ⟨Recorder.asked .showHelp (Recorder.asked .storeScreen p.stage), p.nav⟩ := by
  have hstore : (Console.storeScreen : Act Recorder Window) p.stage =
      .ok 0 (Recorder.asked .storeScreen p.stage) := bind_ok (Recorder.askConsole_apply _ _)
  exact (bind_ok (Present.lift_ok hstore)).trans
    (bind_ok (Present.lift_ok (Recorder.askConsole_apply _ _)))

theorem press_answers_choosing (h : phase = .choosing → action ≠ .help) :
    Answers (press script phase action) (fun answer => ∀ next, answer = some next →
      next = .choosing) := by
  have hsome {x : Present Recorder (Option Phase)} (hx : x = pure (some .choosing)) :
      Answers x fun answer => ∀ next, answer = some next → next = .choosing := by
    rw [hx]
    exact .pure fun next hnext => (Option.some.inj hnext).symm
  cases phase with
  | reading saved => exact .bind fun _ => .bind fun _ => hsome rfl
  | choosing =>
    refine .bind fun handled => ?_
    cases handled with
    | true => exact .bind fun _ => hsome rfl
    | false =>
      cases action with
      | help => exact absurd rfl (h rfl)
      | quit => exact .pure nofun
      | reload => exact .bind fun _ => hsome rfl
      | jump => exact .bind fun _ => hsome rfl
      | edit => exact .bind fun _ => hsome rfl
      | resize => exact .bind fun _ => hsome rfl
      | advance => exact hsome rfl
      | retreat => exact hsome rfl
      | firstPage => exact hsome rfl

theorem phase_of_press (h : press script phase action p = .ok (some next) q) :
    next = phaseAfter phase action := by
  by_cases hhelp : phase = .choosing ∧ action = .help
  · obtain ⟨rfl, rfl⟩ := hhelp
    cases (press_help p).symm.trans h
    rfl
  · have hnext := press_answers_choosing (fun hphase haction => hhelp ⟨hphase, haction⟩) _ _ _ h
      next rfl
    rw [hnext]
    unfold phaseAfter
    split
    · exact absurd ⟨rfl, rfl⟩ hhelp
    · rfl

theorem answering_self (p : Presentation Recorder) :
    p.answering p.stage.surface.answers = p := by
  simp [Presentation.answering, Presentation.revise, Recorder.revise]

theorem answering_answering (A B : List (Option Int)) (p : Presentation Recorder) :
    (p.answering A).answering B = p.answering B := by
  simp [Presentation.answering, Presentation.revise, Recorder.revise]

theorem press_answering (hcapture : ∀ command, Recorder.Unaware (script.capture command))
    (phase : Phase) (action : Action) (p : Presentation Recorder) {count : Nat}
    (hcount : count = if phase = .choosing ∧ action = .jump then 1 else 0)
    (hanswers : A.takeD count none = B.takeD count none) :
    ∃ result,
      press script phase action (p.answering A) =
        mapState (Presentation.answering (A.drop count)) result ∧
      press script phase action (p.answering B) =
        mapState (Presentation.answering (B.drop count)) result := by
  split_ifs at hcount with hjump
  · obtain ⟨rfl, rfl⟩ := hjump
    subst hcount
    have hpress (C : List (Option Int)) :
        press script .choosing .jump (p.answering C) =
          mapState (Presentation.answering (C.drop 1))
            ((follow (C.headD none) >>= fun _ => pure (some .choosing)) ⟨prompted p, p.nav⟩) := by
      rw [List.drop_one]
      exact bind_eq_mapState (jump_answering C p) fun _ => .pure _
    have hhead : A.headD none = B.headD none := (List.cons.inj hanswers).1
    exact ⟨_, hpress A, hhead ▸ hpress B⟩
  · subst hcount
    have hpress (C : List (Option Int)) :
        press script phase action (p.answering C) =
          mapState (Presentation.answering (C.drop 0)) (press script phase action p) :=
      press_respects hcapture (fun hphase haction => absurd ⟨hphase, haction⟩ hjump) p
    exact ⟨_, hpress A, hpress B⟩

theorem takeD_add_eq {count more : Nat}
    (h : A.takeD (count + more) none = B.takeD (count + more) none) :
    A.takeD count none = B.takeD count none ∧
      (A.drop count).takeD more none = (B.drop count).takeD more none := by
  induction count generalizing A B with
  | zero => exact ⟨rfl, by simpa using h⟩
  | succ count ih =>
    rw [Nat.add_right_comm, List.takeD_succ, List.takeD_succ] at h
    obtain ⟨hhead, htail⟩ := List.cons.inj h
    obtain ⟨hcount, hmore⟩ := ih htail
    refine ⟨?_, ?_⟩
    · rw [List.takeD_succ, List.takeD_succ, hhead, hcount]
    · rw [← List.drop_tail, ← List.drop_tail]
      exact hmore

/-- Keys that take the same answers to page prompts do the same, and leave the answers that come
after these. -/
theorem presses_answering (hcapture : ∀ command, Recorder.Unaware (script.capture command))
    (hanswers : A.takeD (prompts phase keys) none = B.takeD (prompts phase keys) none)
    (h : presses script phase keys (p.answering A) = .ok (some next) q) :
    q.stage.surface.answers = A.drop (prompts phase keys) ∧
      presses script phase keys (p.answering B) =
        .ok (some next) (q.answering (B.drop (prompts phase keys))) := by
  induction keys generalizing phase p A B with
  | nil =>
    cases h
    exact ⟨rfl, by rw [answering_answering]; rfl⟩
  | cons key keys ih =>
    obtain ⟨hcount, hrest⟩ := takeD_add_eq hanswers
    obtain ⟨t, ht⟩ : ∃ t, edited (σ := Recorder) key.edits p.stage = .ok () t := ⟨_, rfl⟩
    have hedited (C : List (Option Int)) :
        (liftM (edited (σ := Recorder) key.edits) : Present Recorder Unit) (p.answering C) =
          .ok () ((⟨t, p.nav⟩ : Presentation Recorder).answering C) := by
      cases ht
      rfl
    obtain ⟨result, hA, hB⟩ :=
      press_answering hcapture phase key.action ⟨t, p.nav⟩ rfl hcount
    obtain ⟨_, _, hfirst, h⟩ := bind_eq_ok h
    cases (hedited A).symm.trans hfirst
    obtain ⟨answer, _, hpress, h⟩ := bind_eq_ok h
    -- Both presses come to one result, so that the run that is known decides the cases of both.
    rcases result with ⟨_, r⟩ | ⟨fault, r⟩
    · cases hA.symm.trans hpress
      rcases answer with - | reached
      · cases h
      · obtain rfl := phase_of_press hA
        obtain ⟨hleft, hkeys⟩ := ih hrest h
        rw [List.drop_drop] at hleft hkeys
        exact ⟨hleft, (bind_ok (hedited B)).trans ((bind_ok hB).trans hkeys)⟩
    · cases hA.symm.trans hpress

/-- A run waits in the same place when other answers come after the ones that it took. -/
theorem Waits.answering (hcapture : ∀ command, Recorder.Unaware (script.capture command))
    (h : Waits script keys s next q) (more : List (Option Int)) :
    let count := prompts .choosing keys
    let A := s.surface.answers
    q.stage.surface.answers = A.drop count ∧
      Waits script keys
        { s with surface := { s.surface with answers := A.takeD count none ++ more } }
        next (q.answering more) := by
  intro count A
  obtain ⟨deck, t, n, first, hload, hstart, hopening, hkeys⟩ := h
  have hlength : (A.takeD count none).length = count := List.takeD_length ..
  have htaken : A.takeD count none = (A.takeD count none ++ more).takeD count none :=
    (List.takeD_left' hlength).symm
  have hanswers : first.stage.surface.answers = A :=
    (opening_unaware.answers_eq hopening).trans
      ((Deck.load_unaware hcapture _).answers_eq hload)
  obtain ⟨hleft, hagain⟩ := presses_answering hcapture htaken
    (show presses script .choosing keys (first.answering A) = .ok (some next) q by
      rw [← hanswers, answering_self]
      exact hkeys)
  rw [List.drop_left' hlength] at hagain
  refine ⟨hleft, deck, Recorder.revise #[] (fun _ => A.takeD count none ++ more) t, n, _, ?_,
    hstart, ?_, hagain⟩
  · have hrevised := Deck.load_unaware hcapture script.path #[]
      (fun _ => A.takeD count none ++ more) s
    rw [hload] at hrevised
    refine Eq.trans ?_ hrevised
    simp [Recorder.revise]
  · have hrevised := opening_unaware #[] (fun _ => A.takeD count none ++ more) ⟨t, n⟩
    rw [hopening] at hrevised
    exact hrevised

/-! ### Interludes -/

end Interactive

/-- Something that a user does between two keys without moving the presentation: help is dismissed
by any key, and a page prompt is answered. -/
inductive Interlude where
  | resize
  | edit
  | help (dismissal : Action)
  | jump (answer : Option Int)

namespace Interlude

def keys : Interlude → List Keystroke
  | resize => [⟨.resize, []⟩]
  | edit => [⟨.edit, []⟩]
  | help dismissal => [⟨.help, []⟩, ⟨dismissal, []⟩]
  | jump _ => [⟨.jump, []⟩]

/-- The answers that the keys take. -/
def answers : Interlude → List (Option Int)
  | jump answer => [answer]
  | resize | edit | help _ => []

/-- Whether a page prompt leads nowhere: there is no answer, or it is no page of the deck. -/
def Idle (n : Navigator) : Interlude → Prop
  | jump (some index) => index < 0 ∨ n.pages.length ≤ index
  | _ => True

open Interactive in
/-- The calls of an interlude. -/
def calls (script : Script Recorder) (p : Presentation Recorder) : Interlude → Array Event
  | resize => #[.askedConsole .updateSize]
  | edit =>
    let target := editTarget script.path p.stage.included
    #[.askedConsole .storeScreen, .asked (.exec (Command.editorLine script.editor target)),
      .askedConsole .restoreScreen]
  | help _ =>
    #[.askedConsole .storeScreen, .askedConsole .showHelp, .askedConsole .clear,
      .askedConsole .restoreScreen]
  | jump _ =>
    #[.askedConsole .storeScreen,
      .askedConsole (.askPageNumber (p.nav.pages.map (·.title)) p.nav.index),
      .askedConsole .restoreScreen]

end Interlude

def Event.copiesScreen : Event → Bool
  | .askedConsole .storeScreen | .askedConsole .restoreScreen => true
  | _ => false

namespace Interactive

variable {script : Script Recorder} {s : Stage Recorder} {p q : Presentation Recorder}
  {phase next : Phase} {action : Action} {keys : List Keystroke}

theorem jump_idle {answer : Option Int} (h : (Interlude.jump answer).Idle p.nav) :
    Present.jump answer p = .ok false p := by
  rw [Present.jump_eq]
  cases answer with
  | none => rfl
  | some index =>
    have hturn : (Move.jump (some index)).turn? p.nav = none := by
      simp only [Move.turn?, Option.bind_some]
      exact if_neg fun hrange => h.elim (by omega) (by omega)
    rw [hturn]
    rfl

theorem presses_interlude (i : Interlude) (hscreen : q.stage.surface.hasScreen = true)
    (hidle : i.Idle q.nav) :
    presses script .choosing i.keys
        (q.answering (i.answers ++ q.stage.surface.answers)) =
      .ok (some .choosing) (q.withEvents (q.stage.journal.events ++ i.calls script q)) := by
  have hself : q.answering ([] ++ q.stage.surface.answers) = q := answering_self q
  have hjump (answer : Option Int) (h : (Interlude.jump answer).Idle q.nav) :
      jump (q.answering (answer :: q.stage.surface.answers)) =
        .ok () (q.withEvents
          (q.stage.journal.events ++ (Interlude.jump answer).calls script q)) := by
    rw [jump_answering]
    refine (congrArg (mapState _) (bind_ok (jump_idle (p := ⟨prompted q, q.nav⟩) h))).trans ?_
    obtain ⟨⟨host, journal, ⟨hasScreen, answers⟩, included⟩, nav⟩ := q
    obtain rfl : hasScreen = true := hscreen
    refine (congrArg (mapState _)
      (Present.lift_ok (Recorder.askConsole_apply .restoreScreen _))).trans ?_
    simp only [mapState, Presentation.answering, Presentation.revise, Recorder.revise,
      Array.empty_append]
    rfl
  obtain ⟨⟨host, journal, ⟨hasScreen, answers⟩, included⟩, nav⟩ := q
  obtain rfl : hasScreen = true := hscreen
  cases i with
  | resize =>
    rw [Interlude.answers, hself]
    rfl
  | edit =>
    rw [Interlude.answers, hself]
    rfl
  | help dismissal =>
    rw [Interlude.answers, hself]
    rfl
  | jump answer =>
    have hpress := bind_ok (f := fun _ => pure (some Phase.choosing)) (hjump answer hidle)
    exact (bind_ok rfl).trans (bind_ok (x := press script .choosing .jump) hpress)

theorem calls_copiesScreen (i : Interlude) :
    (i.calls script q).toList.filter Event.copiesScreen = [] ∨
      (i.calls script q).toList.filter Event.copiesScreen =
        [.askedConsole .storeScreen, .askedConsole .restoreScreen] := by
  cases i with
  | resize => exact .inl rfl
  | edit => exact .inr rfl
  | help => exact .inr rfl
  | jump => exact .inr rfl

/-- Wherever a run waits for an action, an interlude changes nothing of what comes later: every key
does what it did, and the run ends where it ended, with the calls of the interlude in between. A
screen that the interlude stores is restored. Answers to page prompts come in the order of the
prompts, and none comes when there are no more, so that the answer of the interlude follows the
ones that the keys in front of it take. -/
theorem interlude_unnoticed (hcapture : ∀ command, Recorder.Unaware (script.capture command))
    {pre : List Keystroke} (hwaits : Waits script pre s .choosing q)
    (hscreen : q.stage.surface.hasScreen = true) (i : Interlude) (hidle : i.Idle q.nav) :
    let before := q.stage.journal.events
    let own := i.calls script q
    let count := prompts .choosing pre
    let A := s.surface.answers
    let s' := { s with surface :=
      { s.surface with answers := A.takeD count none ++ (i.answers ++ A.drop count) } }
    Waits script (pre ++ i.keys) s' .choosing (q.withEvents (before ++ own)) ∧
      (own.toList.filter Event.copiesScreen = [] ∨
        own.toList.filter Event.copiesScreen =
          [.askedConsole .storeScreen, .askedConsole .restoreScreen]) ∧
      (∀ post next r, Waits script (pre ++ post) s next r →
        ∃ added, r.stage.journal.events = before ++ added ∧
          Waits script (pre ++ i.keys ++ post) s' next (r.withEvents (before ++ own ++ added))) ∧
      ∀ post,
        let plain := run script (pre ++ post) s
        ∃ added, plain.stage.journal.events = before ++ added ∧
          run script (pre ++ i.keys ++ post) s' = plain.withEvents (before ++ own ++ added) := by
  intro before own count A s'
  obtain ⟨hleft, hbefore⟩ := hwaits.answering hcapture (i.answers ++ A.drop count)
  have hafter : Waits script (pre ++ i.keys) s' .choosing (q.withEvents (before ++ own)) := by
    refine hbefore.append ?_
    rw [← hleft]
    exact presses_interlude i hscreen hidle
  have hself : q.withEvents before = q := rfl
  -- The two stages differ in their past alone, which neither keys nor the rest of a play look at.
  refine ⟨hafter, calls_copiesScreen i, fun post next r hr => ?_, fun post => ?_⟩
  · have hkeys := hwaits.presses_eq hr
    obtain ⟨added, hadded⟩ :=
      Present.records_same (presses_respects_past hcapture .choosing post) q
    have hplain := hadded before
    have hlater := hadded (before ++ own)
    rw [hself, hkeys] at hplain
    rw [hkeys] at hlater
    injection hplain with _ hr
    exact ⟨added, congrArg (·.stage.journal.events) hr, hafter.append hlater⟩
  · obtain ⟨added, hadded⟩ :=
      Present.records_same (play_respects_past hcapture .choosing post) q
    have hplain := hadded before
    have hlater := hadded (before ++ own)
    rw [hself] at hplain
    intro plain
    have hrun : plain = Ending.ofPlay (play script .choosing post q) := hwaits.run_append post
    refine ⟨added, ?_, ?_⟩
    · rw [hrun, hplain, Ending.ofPlay_mapState]
      rfl
    · rw [hafter.run_append, hlater, Ending.ofPlay_mapState, hrun]

/-- After a page prompt without an answer, one more prompt, for a page that is not there. -/
theorem interlude_unnoticed_second_prompt :
    let host : Host := { Host.quiet with
      files := { nodes := [(["deck"], .file (Text.Utf8.encode "--newpage b\n"))] } }
    let s : Stage Recorder := ⟨host, {}, {}, none⟩
    let script : Script Recorder := ⟨"deck", "vi", Command.capture⟩
    let prompt : Keystroke := ⟨.jump, []⟩
    ∃ q, Waits script [prompt] s .choosing q ∧
      ∀ post, ∃ added,
        (run script ([prompt] ++ post) s).stage.journal.events =
          q.stage.journal.events ++ added ∧
        run script ([prompt] ++ [prompt] ++ post)
            { s with surface := { answers := [none, some 5] } } =
          (run script ([prompt] ++ post) s).withEvents (q.stage.journal.events ++
            #[.askedConsole .storeScreen, .askedConsole (.askPageNumber ["Title", "b"] 0),
              .askedConsole .restoreScreen] ++ added) := by
  intro host s script prompt
  let deck : Deck := [⟨"Title", []⟩, ⟨"b", []⟩]
  let n : Navigator := { pages := deck, index := 0, reader := .start ⟨"Title", []⟩ }
  have hload : Deck.load script.capture script.path s = .ok deck s := rfl
  have hopening : ∃ p, opening ⟨s, n⟩ = .ok () p ∧ p.stage.surface = {} ∧ p.nav.pages = deck ∧
      p.nav.index = 0 := ⟨_, rfl, rfl, rfl, rfl⟩
  obtain ⟨⟨⟨_, _, surface, _⟩, _⟩, hopening, hsurface, hpages, hindex⟩ := hopening
  obtain rfl : surface = {} := hsurface
  have hwaits : ∃ q, Waits script [prompt] s .choosing q ∧ q.stage.surface.hasScreen = true ∧
      q.nav.pages = deck ∧ q.nav.index = 0 :=
    ⟨_, ⟨_, _, _, _, hload, rfl, hopening, rfl⟩, rfl, hpages, hindex⟩
  obtain ⟨q, hwaits, hscreen, hpages, hindex⟩ := hwaits
  have hidle : (Interlude.jump (some 5)).Idle q.nav := by
    refine .inr ?_
    rw [hpages]
    decide
  obtain ⟨-, -, -, hend⟩ :=
    interlude_unnoticed Command.capture_unaware hwaits hscreen (.jump (some 5)) hidle
  refine ⟨q, hwaits, fun post => ?_⟩
  obtain ⟨added, hplain, hrun⟩ := hend post
  refine ⟨added, hplain, ?_⟩
  rw [Interlude.calls, hpages, hindex] at hrun
  exact hrun

end Interactive

end SlideDeck
