import SlideDeck.Deck.Load
import SlideDeck.Host.Command
import SlideDeck.Proofs.Outcome

/-!
# Commands of a deck

Reading a source runs the commands that its lines embed, in the order of the lines and each of them
once, and does nothing else (`parse_eq`): the pages follow from the lines and the outputs.
-/

namespace SlideDeck.Deck

/-- The command that a line embeds, if the line belongs to a page. -/
def command? (line : Text) : Option Text :=
  if line.startsWith "--##" then none
  else match Text.after? "--newpage" line with
    | some _ => none
    | none => (Page.embedded? line).map (·.2)

def commands (source : Text) : List Text := (Text.sourceLines source).filterMap command?

/-- The pages that some lines come to, with the outputs of their commands in the same order. -/
def layOut (number : Nat) (title : Text) : (lines : List Text) → (outputs : List (List Text)) → Deck
  | [], _ => [⟨title, []⟩]
  | line :: rest, outputs =>
    if line.startsWith "--##" then layOut number title rest outputs
    else match Text.after? "--newpage" line with
      | some name => ⟨title, []⟩ :: layOut (number + 1) (titleOf (number + 1) name) rest outputs
      | none =>
        match Page.embedded? line, outputs with
        | some (lead, _), output :: later =>
          prependLines (line :: output.map (lead ++ ·)) (layOut number title rest later)
        | _, _ => prependLines [line] (layOut number title rest outputs)

def ofOutputs (source : Text) (outputs : List (List Text)) : Deck :=
  layOut 1 firstTitle (Text.sourceLines source) outputs

theorem prependLines_ne_nil {deck : Deck} (lines : List Text) (h : deck ≠ []) :
    prependLines lines deck ≠ [] := by
  cases deck with
  | nil => exact absurd rfl h
  | cons page pages => exact List.cons_ne_nil _ _

theorem layOut_ne_nil (number : Nat) (title : Text) (lines : List Text)
    (outputs : List (List Text)) : layOut number title lines outputs ≠ [] := by
  induction lines generalizing number title outputs with
  | nil => exact List.cons_ne_nil _ _
  | cons line rest ih =>
    unfold layOut
    split
    · exact ih number title outputs
    · split
      · exact List.cons_ne_nil _ _
      · split
        · exact prependLines_ne_nil _ (ih _ _ _)
        · exact prependLines_ne_nil _ (ih _ _ _)

section Monad

variable {m : Type → Type} [Monad m] [LawfulMonad m] (capture : Text → m (List Text))

theorem collect_eq (number : Nat) (title : Text) (lines : List Text) :
    collect capture number title lines = (do
      let outputs ← (lines.filterMap command?).mapM capture
      return layOut number title lines outputs) := by
  induction lines generalizing number title with
  | nil => simp only [collect, layOut, List.filterMap_nil, List.mapM_nil, pure_bind]
  | cons line rest ih =>
    have hcommand : command? line =
        if line.startsWith "--##" then none
        else match Text.after? "--newpage" line with
          | some _ => none
          | none => (Page.embedded? line).map (·.2) := rfl
    rw [List.filterMap_cons, hcommand]
    unfold collect layOut
    split
    · exact ih number title
    · rcases Text.after? "--newpage" line with - | name
      · unfold Page.splice
        rcases Page.embedded? line with - | ⟨lead, command⟩
        · simp only [ih, Option.map_none, pure_bind, bind_assoc]
        · simp only [ih, Option.map_some, List.mapM_cons, pure_bind, bind_assoc]
      · simp only [ih, bind_assoc, pure_bind]

theorem parse_eq (source : Text) :
    parse capture source = (do
      let outputs ← (commands source).mapM capture
      return ofOutputs source outputs) :=
  collect_eq capture 1 firstTitle (Text.sourceLines source)

end Monad

variable {σ : Type} {capture : Text → Act σ (List Text)} {path source : Text} {s t : Stage σ}
  {outputs : List (List Text)}

theorem load_ok
    (hread : (s.host.files.read path).map Text.Utf8.decode = .ok source)
    (hrun : (commands source).mapM capture s = .ok outputs t) :
    load capture path s = .ok (ofOutputs source outputs) t := by
  have hfile : Act.readFile path s = .ok (.ok source) s :=
    congrArg (EStateM.Result.ok · s) hread
  refine (Outcome.bind_ok hfile).trans ?_
  show parse capture source s = _
  rw [parse_eq]
  exact Outcome.bind_ok hrun

/-- Every source has a page. -/
theorem ne_nil_of_load {deck : Deck} (h : load capture path s = .ok deck t) : deck ≠ [] := by
  obtain ⟨content, u, -, h⟩ := Outcome.bind_eq_ok h
  rcases content with fault | source
  · cases h
  · have hparse : parse capture source u = .ok deck t := h
    rw [parse_eq] at hparse
    obtain ⟨outputs, v, -, h⟩ := Outcome.bind_eq_ok hparse
    cases h
    exact layOut_ne_nil _ _ _ _

theorem exists_outputs {commands : List Text}
    (hcapture : ∀ command ∈ commands, ∀ s, ∃ output t, capture command s = .ok output t)
    (s : Stage σ) : ∃ outputs t, commands.mapM capture s = .ok outputs t := by
  induction commands generalizing s with
  | nil => exact ⟨[], s, rfl⟩
  | cons command rest ih =>
    obtain ⟨output, u, hfirst⟩ := hcapture command List.mem_cons_self s
    obtain ⟨outputs, t, hrest⟩ := ih (fun c hc => hcapture c (List.mem_cons_of_mem command hc)) u
    refine ⟨output :: outputs, t, ?_⟩
    rw [List.mapM_cons]
    exact (Outcome.bind_ok hfirst).trans (Outcome.bind_ok hrest)

/-- A command without a NUL is refused by no host. -/
theorem refusesCommand_of_not_mem (h : Host) {command : Text} (hcommand : '\x00' ∉ command) :
    h.refusesCommand command = false := by
  rw [Host.refusesCommand, Bool.eq_false_iff.2 (mt List.contains_iff_mem.1 hcommand),
    Bool.and_false]

theorem outcome_ok {command : Text} {s : Stage σ} (h : s.host.refusesCommand command = false) :
    Command.outcome command s = .ok (s.host.shell command) s := by
  refine (Outcome.bind_ok (t := s) rfl).trans ?_
  simp only [h]
  rfl

/-- A command that is not refused leaves one call in the journal, and changes neither the host nor
the surface. -/
theorem capture_ok {command : Text} {s : Stage σ} (h : s.host.refusesCommand command = false) :
    ∃ t, Command.capture command s = .ok (Command.shownLines (s.host.shell command)) t ∧
      t.journal.events = s.journal.events.push (.capture command) ∧ t.host = s.host ∧
      t.surface = s.surface ∧ t.included = s.included := by
  let noted : Stage σ :=
    { s with journal := { s.journal with events := s.journal.events.push (.capture command) } }
  let warned (w : Warning) : Stage σ :=
    { noted with journal := { noted.journal with warnings := noted.journal.warnings.push w } }
  have houtcome : Command.outcome command noted = .ok (s.host.shell command) noted := outcome_ok h
  rcases hshell : s.host.shell command with reason | ⟨output, errors, status⟩
  · refine ⟨warned (.embeddedNotStarted command reason), ?_, rfl, rfl, rfl, rfl⟩
    refine (Outcome.bind_ok (t := noted) rfl).trans ((Outcome.bind_ok houtcome).trans ?_)
    rw [hshell]
    rfl
  · by_cases hstatus : status = 0
    · refine ⟨noted, ?_, rfl, rfl, rfl, rfl⟩
      refine (Outcome.bind_ok (t := noted) rfl).trans ((Outcome.bind_ok houtcome).trans ?_)
      simp only [hshell, hstatus]
      rfl
    · refine ⟨warned (.embeddedStatus command status), ?_, rfl, rfl, rfl, rfl⟩
      refine (Outcome.bind_ok (t := noted) rfl).trans ((Outcome.bind_ok houtcome).trans ?_)
      simp only [hshell, if_pos hstatus]
      rfl

end SlideDeck.Deck
