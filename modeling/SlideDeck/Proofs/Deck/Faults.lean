import SlideDeck.Deck.Directive
import SlideDeck.Proofs.Deck.Commands
import SlideDeck.Proofs.Faults
import SlideDeck.Proofs.Pause

/-!
# Faults of a deck

Reading a deck fails only where its file cannot be read or one of its commands is refused, and else
gives the same deck each time (`load_ends`). Of a line that is dispatched, the number of seconds of
a pause and the path of an included file can be at fault, and what the surface that the line is
dispatched to refuses of a pause, a command or huge text (`dispatch_ends`).
-/

namespace SlideDeck

open Outcome

variable {σ : Type} {P : Stage σ → Prop} {E : Fault → Prop} {F : Op → Fault → Prop}

/-- A property that reading a deck and reading the clock leave alone. -/
structure Undisturbed (P : Stage σ → Prop) : Prop where
  captured : ∀ s command, P s → P { s with
    journal := { s.journal with events := s.journal.events.push (.capture command) } }
  warned : ∀ s w, P s → P { s with
    journal := { s.journal with warnings := s.journal.warnings.push w } }
  timed : ∀ s n, P s → P { s with journal := { s.journal with readings := n } }

/-- A path is refused for itself only where it holds a NUL. -/
theorem Files.nul_mem_of_report {α : Type} {path : Text} {r : Except FileProblem α}
    (h : report path r = .error .nul) : '\x00' ∈ path := by
  unfold report at h
  split at h
  · rename_i hnul
    exact List.contains_iff_mem.1 hnul
  · split at h
    · cases h
    · cases h

namespace Deck

/-- The deck of a source, where its commands have the outputs that the shell gives. -/
def ofShell (shell : Text → CommandOutcome) (source : Text) : Deck :=
  ofOutputs source ((commands source).map fun command => Command.shownLines (shell command))

/-- The deck that a host has at a path, or what reading it ends in. -/
def ofHost (h : Host) (path : Text) : Except Fault Deck :=
  match h.files.read path with
  | .error fault => .error (Fault.ofOpening fault)
  | .ok content =>
    if (commands (Text.Utf8.decode content)).any h.refusesCommand then
      .error (.refused .command)
    else .ok (ofShell h.shell (Text.Utf8.decode content))

theorem ne_nil_of_ofHost {h : Host} {path : Text} {deck : Deck} (hdeck : ofHost h path = .ok deck) :
    deck ≠ [] := by
  unfold ofHost at hdeck
  split at hdeck
  · cases hdeck
  · split at hdeck
    · cases hdeck
    · cases hdeck
      exact layOut_ne_nil _ _ _ _

/-- A property of stages whose host reads decks as the host `h` does. -/
structure ReadsLike (h : Host) (P : Stage σ → Prop) : Prop where
  files : ∀ s, P s → s.host.files = h.files
  shell : ∀ s, P s → s.host.shell = h.shell
  refusesCommand : ∀ s, P s → s.host.refusesCommand = h.refusesCommand

variable {h : Host}

theorem capture_ends (hP : Undisturbed P) (hlike : ReadsLike h P) (command : Text) :
    Ends P
      (fun output => output = Command.shownLines (h.shell command) ∧ ¬h.refusesCommand command)
      (fun e => h.refusesCommand command ∧ e = .refused .command) (Command.capture command) := by
  have houtcome : Ends P (fun o => o = h.shell command ∧ ¬h.refusesCommand command)
      (fun e => h.refusesCommand command ∧ e = .refused .command)
      (Command.outcome (σ := σ) command) := by
    refine .bind .get fun s hs => ?_
    dsimp only
    rw [hlike.shell s hs, hlike.refusesCommand s hs]
    by_cases hrefused : h.refusesCommand command = true
    · rw [if_pos hrefused]
      exact .bind (V := fun _ => False) (.throw ⟨hrefused, rfl⟩) fun _ hnone => hnone.elim
    · rw [if_neg hrefused]
      exact .pure ⟨rfl, hrefused⟩
  refine .andThen (.modify fun s => hP.captured s command) fun _ => .bind houtcome fun o ho => ?_
  have hwarn (w : Warning) : Ends P Any (fun e => h.refusesCommand command ∧ e = .refused .command)
      (Act.warn (σ := σ) w) := .modify fun s => hP.warned s w
  obtain ⟨rfl, haccepted⟩ := ho
  rcases hshell : h.shell command with reason | ⟨output, errors, status⟩
  · exact .andThen (hwarn _) fun _ => .pure ⟨rfl, haccepted⟩
  · exact .iteThen (fun _ => hwarn _) (.pure ⟨rfl, haccepted⟩)

theorem captures_end (hP : Undisturbed P) (hlike : ReadsLike h P) (commands : List Text) :
    Ends P
      (fun outputs => outputs = commands.map (fun command => Command.shownLines (h.shell command)) ∧
        commands.any h.refusesCommand = false)
      (fun e => commands.any h.refusesCommand = true ∧ e = .refused .command)
      (commands.mapM Command.capture) := by
  induction commands with
  | nil => exact .pure ⟨rfl, rfl⟩
  | cons command rest ih =>
    rw [List.mapM_cons, List.any_cons]
    refine .bind ((capture_ends hP hlike command).mono (fun _ => id) fun e he => ?_)
      fun output houtput => .bind (ih.mono (fun _ => id) fun e he => ?_)
        fun outputs houtputs => .pure ?_
    · exact ⟨by rw [he.1, Bool.true_or], he.2⟩
    · exact ⟨by rw [he.1, Bool.or_true], he.2⟩
    · rw [houtput.1, houtputs.1, houtputs.2, Bool.or_false, Bool.eq_false_iff]
      exact ⟨rfl, houtput.2⟩

/-- Reading a deck comes to the deck of the host, or ends in what the host has in its place. -/
theorem load_ends (hP : Undisturbed P) (hlike : ReadsLike h P) (path : Text) :
    Ends P (ofHost h path = .ok ·) (ofHost h path = .error ·) (load Command.capture path) := by
  have hread : Ends P (· = (h.files.read path).map Text.Utf8.decode)
      (ofHost h path = .error ·) (Act.readFile (σ := σ) path) :=
    .bind .get fun s hs => .pure (by rw [hlike.files s hs])
  refine .bind hread fun content hcontent => ?_
  subst hcontent
  unfold ofHost
  rcases h.files.read path with fault | bytes
  · exact .throw rfl
  · show Ends _ _ _ (parse Command.capture (Text.Utf8.decode bytes))
    rw [parse_eq]
    refine .bind ((captures_end hP hlike _).mono (fun _ => id) fun e he => ?_)
      fun outputs houtputs => .pure ?_
    · dsimp only
      rw [he.1, he.2]
      rfl
    · dsimp only
      rw [houtputs.1, houtputs.2]
      rfl

end Deck

/-- An operation that a surface may refuse for what it asks of the host: to wait, to run a command,
to draw letters. -/
def Op.isExposed : Op → Bool
  | .sleep _ | .exec _ | .huge _ => true
  | _ => false

namespace Directive

def Includes (line path : Text) : Prop :=
  ∃ m rest, find? table line = some (m, .includeFile, rest) ∧ path = Text.strip rest

/-- What can be wrong with a line, where `F` are the faults that operations have: it includes a file
by a path that is none, it pauses for a number of seconds that is too long to be read, or what it
asks for is refused. -/
inductive LineFault (F : Op → Fault → Prop) (line : Text) : Fault → Prop where
  | path {p : Text} (h : Includes line p) (hnul : '\x00' ∈ p) : LineFault F line .nulInPath
  | seconds {m rest : Text} {n : Text.NumeralFault} (h : find? table line = some (m, .sleep, rest))
      (hn : Text.leadingSeconds rest = .error n) : LineFault F line (.numeral n)
  | sleep {m rest : Text} {n : Int} {e : Fault} (h : find? table line = some (m, .sleep, rest))
      (hn : Text.leadingSeconds rest = .ok n) (he : F (.sleep (.whole n)) e) : LineFault F line e
  | ask {m rest : Text} {op : Text → Op} {e : Fault}
      (h : find? table line = some (m, .ask op, rest)) (he : F (op rest) e) : LineFault F line e

theorem includedLines_ends (hwarned : ∀ s w, P s → P { s with
      journal := { s.journal with warnings := s.journal.warnings.push w } }) {path : Text}
    (hnul : '\x00' ∈ path → E .nulInPath) : Ends P Any E (includedLines (σ := σ) path) := by
  have hread : Ends P (fun content => content = .error .nul → '\x00' ∈ path) E
      (Act.readFile (σ := σ) path) := by
    refine .bind .get fun s _ => .pure fun hcontent => ?_
    rcases hfile : s.host.files.read path with fault | bytes
    · rw [hfile] at hcontent
      cases hcontent
      exact Files.nul_mem_of_report hfile
    · rw [hfile] at hcontent
      cases hcontent
  refine .bind hread fun content hcontent => ?_
  rcases content with (e | -) | source
  · exact .andThen (.modify fun s => hwarned s _) fun _ => .pure trivial
  · exact .throw (hnul (hcontent rfl))
  · exact .pure trivial

variable [Surface σ]

theorem printLines_ends (hprint : ∀ t, Ends P Any E (Surface.perform (σ := σ) (.printLine t)))
    (lines : List Text) : Ends P Any E (printLines (σ := σ) lines) := by
  induction lines with
  | nil => exact .pure trivial
  | cons line rest ih => exact .andThen (hprint _) fun _ => ih

/-- A line has its own faults, and otherwise those of the surface that it is dispatched to. -/
theorem dispatch_ends (hP : Undisturbed P) {line : Text}
    (hincluded : ∀ s path, Includes line path → P s → P { s with included := some path })
    (hperform : ∀ op, (op.isExposed → ∀ e, F op e → E e) →
      Ends P Any E (Surface.perform (σ := σ) op))
    (hline : ∀ e, LineFault F line e → E e) : Ends P Any E (dispatch (σ := σ) (some line)) := by
  have hask (op : Op) (answer : Bool) (hop : op.isExposed → ∀ e, F op e → E e) :
      Ends P Any E (do Surface.perform op; return answer : Act σ Bool) :=
    .andThen (hperform op hop) fun _ => .pure trivial
  have hown {op : Op} (hop : op.isExposed = false) : op.isExposed → ∀ e, F op e → E e :=
    fun hexposed => absurd (hop.symm.trans hexposed) Bool.false_ne_true
  simp only [dispatch, dispatchBy]
  rcases hfind : find? table line with - | ⟨m, d, rest⟩
  · exact hask (.printLine (some line)) false (hown rfl)
  cases d with
  | comment => exact .pure trivial
  | ask op => exact hask (op rest) false fun _ e he => hline e (.ask hfind he)
  | pause => exact hask .wait true (hown rfl)
  | sleep =>
    show Ends P Any E (obey rest .sleep)
    unfold obey
    rcases hseconds : Text.leadingSeconds rest with n | n
    · exact .throw (hline _ (.seconds hfind hseconds))
    · exact hask (.sleep (.whole n)) false fun _ e he => hline e (.sleep hfind hseconds he)
  | date =>
    have hclock : Ends P Any E (Act.readClock (σ := σ)) :=
      .modifyGet fun s hs => ⟨trivial, hP.timed s _ hs⟩
    exact .andThen hclock fun _ => hask (.date _) false (hown rfl)
  | includeFile =>
    have hpath : Includes line (Text.strip rest) := ⟨m, rest, hfind, rfl⟩
    refine .andThen (.modify fun s => hincluded s _ hpath) fun _ => ?_
    refine .andThen (hperform .beginOutput (hown rfl)) fun _ => ?_
    refine .andThen (hperform (.printLine _) (hown rfl)) fun _ => ?_
    refine .andThen (includedLines_ends hP.warned fun hnul => hline _ (.path hpath hnul))
      fun lines => ?_
    exact .andThen (printLines_ends (fun _ => hperform _ (hown rfl)) lines) fun _ =>
      hask .endOutput false (hown rfl)

end Directive

namespace Deck

/-- What can be wrong with a line of a deck. -/
def LineFault (F : Op → Fault → Prop) (deck : Deck) (e : Fault) : Prop :=
  ∃ page ∈ deck, ∃ line ∈ page.lines, Directive.LineFault F line e

def Includes (deck : Deck) (path : Text) : Prop :=
  ∃ page ∈ deck, ∃ line ∈ page.lines, Directive.Includes line path

end Deck

end SlideDeck
