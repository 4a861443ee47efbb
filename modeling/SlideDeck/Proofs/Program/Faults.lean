import SlideDeck.Program.Run
import SlideDeck.Proofs.Export.Faults
import SlideDeck.Proofs.Interactive.Faults
import SlideDeck.Proofs.Screen.Faults

/-!
# Faults of runs

What a run that is ready to begin can end in: a presentation on a screen (`Screen.confinedConsole`,
`Run.present_fault`), or a conversion to a handout or to slides.
-/

namespace SlideDeck

open Outcome

namespace Screen

open Act

variable {h : Host} {typing sliding : Delay} {deck : Deck}

/-- The path that was included last, if one was, is one that the deck includes. -/
def IncludedFrom (deck : Deck) (s : Stage Screen) : Prop :=
  ∀ path, s.included = some path → deck.Includes path

theorem applyStyle_included (style : Style) :
    Ends (IncludedFrom deck) Any Any (applyStyle style) :=
  applyStyle_ends (fun _ => trivial) (fun _ => trivial) (fun _ _ hs => ⟨hs, hs⟩)
    (fun _ _ hs => hs) style

/-- No operation includes a file. -/
theorem operating_included : Operating (IncludedFrom deck) Any :=
  .ofStyles ⟨fun _ _ _ _ _ hs => hs, fun _ _ _ _ _ _ => trivial⟩ (fun _ _ _ hs => hs)
    applyStyle_included (.modify fun _ hs => hs) (fun _ _ _ hs => hs)
    (fun _ => .modify fun _ hs => hs) (.modify fun _ hs => hs) (.modify fun _ hs => hs)

/-- A settled screen whose attributes are in step, and which shows a deck. -/
def Ordered (h : Host) (typing sliding : Delay) (deck : Deck) (s : Stage Screen) : Prop :=
  Settled h typing sliding s ∧ (ink s).InStep ∧ IncludedFrom deck s

/-- What goes wrong on an ordered screen. -/
def OrderedFault (h : Host) (typing sliding : Delay) (e : Fault) : Prop :=
  ScreenFault h typing sliding e ∧ ∀ name, e ≠ .noColorPair name

variable {E : Fault → Prop}

/-- Before anything was included, a screen may show any deck. -/
theorem Ordered.of_nil {s : Stage Screen} (hs : Ordered h typing sliding [] s) (deck : Deck) :
    Ordered h typing sliding deck s := by
  refine ⟨hs.1, hs.2.1, fun path hpath => ?_⟩
  obtain ⟨page, hpage, -⟩ := hs.2.2 path hpath
  cases hpage

theorem Ordered.withJournal {s : Stage Screen} (hs : Ordered h typing sliding deck s) {j : Journal}
    (hpen : j.pen = s.journal.pen) : Ordered h typing sliding deck { s with journal := j } := by
  refine ⟨hs.1.withJournal j, ?_, hs.2.2⟩
  rw [ink_journal hpen]
  exact hs.2.1

theorem operating_ordered (hE : ∀ e, OrderedFault h typing sliding e → E e) :
    Operating (Ordered h typing sliding deck) E :=
  (operating_settled.both (operating_inStep.both operating_included)).mono fun e he =>
    hE e ⟨he.1, he.2.1⟩

theorem ordered_undisturbed : Undisturbed (Ordered h typing sliding deck) where
  captured _ _ hs := hs.withJournal (Journal.pen_push _ _)
  warned _ _ hs := hs.withJournal rfl
  timed _ _ hs := hs.withJournal rfl

theorem ordered_readsLike : Deck.ReadsLike h (Ordered h typing sliding deck) where
  files s hs := by rw [hs.1.host]
  shell s hs := by rw [hs.1.host]
  refusesCommand s hs := by
    rw [hs.1.host]
    rfl

theorem ordered_included (s : Stage Screen) (path : Text) (hpath : deck.Includes path)
    (hs : Ordered h typing sliding deck s) :
    Ordered h typing sliding deck { s with included := some path } := by
  refine ⟨⟨hs.1.host, hs.1.typed, hs.1.columns, hs.1.typeDelay, hs.1.slideDelay⟩, hs.2.1, ?_⟩
  rintro _ ⟨⟩
  exact hpath

theorem OpFault.isExposed {columns : Int} {op : Op} {e : Fault} (he : OpFault h columns op e) :
    op.isExposed := by
  cases he <;> rfl

theorem confined (hE : ∀ e, OrderedFault h typing sliding e → E e) :
    Confined (OpFault h h.columns) (Ordered h typing sliding deck) E where
  toUndisturbed := ordered_undisturbed
  perform _ hop := (operating_ordered hE).perform fun _ _ e hs ht he =>
    hop he.isExposed e (hs.1.opFault ht.1 he)
  drawStatus number count ended title := (operating_ordered hE).drawStatus number count ended title
  clear := (operating_ordered hE).clear

theorem confinedConsole (hE : ∀ e, OrderedFault h typing sliding e → E e)
    (hprompt : ∀ e, PromptFault h e → E e) :
    ConfinedConsole (OpFault h h.columns) (Ordered h typing sliding deck) E where
  toConfined := confined hE
  showHelp := (operating_ordered hE).showHelp
  askPageNumber titles current := by
    have hkept : Operating (fun s => (ink s).InStep ∧ IncludedFrom deck s)
        fun e => (∀ name, e ≠ .noColorPair name) ∧ Any e := operating_inStep.both operating_included
    have hstep := hkept.askPageNumber (V := Any) trivial
      (fun y x => hkept.readTyped (fun _ _ hs => hs) y x 6)
      (fun _ _ _ _ _ _ => ⟨nofun, trivial⟩) titles current
    exact ((askPageNumber_ends titles current).both hstep).mono (fun _ _ => trivial) fun e he =>
      he.1.elim (fun h => hE e ⟨h, he.2.1⟩) (hprompt e)
  storeScreen := (operating_ordered hE).store
  restoreScreen saved := (operating_ordered hE).restore saved
  updateSize := (operating_ordered hE).learnSize

/-- Taking the terminal over leads to an ordered screen. -/
theorem openTerminal_ordered {r : Report} (typing sliding : Delay) (font : Text)
    (hjournal : r.journal.pen = {}) (hpatient : Patient r.host.refuses) :
    ∃ s, openTerminal (r.stage (start r.host typing sliding font)) = .ok () s ∧
      Ordered r.host typing sliding [] s := by
  let begun : Stage Screen := r.stage (start r.host typing sliding font)
  have hstart : Settled r.host typing sliding begun := ⟨rfl, List.suffix_refl _, rfl, rfl, rfl⟩
  have htracked : (ink begun).Tracked := tracked_start rfl hjournal hpatient
  have hincluded : IncludedFrom [] begun := nofun
  obtain ⟨s, hopen, hstep⟩ := openTerminal_ok htracked
  have hopened := operating_settled.openTerminal applyStyle_sound _ hstart
  have hkept := operating_included.openTerminal applyStyle_included _ hincluded
  rw [hopen] at hopened hkept
  exact ⟨s, hopen, hopened.2, hstep, hkept.2⟩

theorem closeTerminal_ok (s : Stage Screen) : ∃ t, closeTerminal s = .ok () t := by
  have hclose (s : Stage Screen) : ∃ t, (do
      modifySurface fun s => { s with closed := true }
      tolerant (call (.setAttributes .normal)) : Act Screen Unit) s = .ok () t :=
    ⟨_, (bind_ok rfl).trans (tolerant_call Host.takes_nil)⟩
  show ∃ t, (if s.surface.closed then pure () else _ : Act Screen Unit) s = .ok () t
  split
  · exact ⟨s, rfl⟩
  · exact hclose s

end Screen

namespace Files

theorem read_of_isFile {fs : Files} {path : Text} (h : fs.isFile path = true) :
    ∃ content, fs.read path = .ok content := by
  unfold isFile report at h
  by_cases hnul : path.contains '\x00' = true
  · rw [if_pos hnul] at h
    cases h
  · rw [if_neg hnul] at h
    rcases hlocate : fs.locate path with problem | ⟨place, node⟩
    · rw [hlocate] at h
      cases h
    · rw [hlocate] at h
      rcases node with - | content | - | -
      · cases h
      · refine ⟨content, ?_⟩
        unfold read report
        rw [if_neg hnul, hlocate]
        rfl
      · cases h
      · cases h

end Files

namespace Fault

/-- A path that cannot be opened is a fault of the set-up, or it holds a NUL. -/
theorem ofOpening_cases (f : PathFault) :
    (ofOpening f).isSetup = true ∨ f = .nul ∧ ofOpening f = .nulInPath := by
  cases f with
  | system e => exact .inl rfl
  | nul => exact .inr ⟨rfl, rfl⟩

end Fault

namespace Run

/-- What single operations of a deck can end in, in each mode: the screen asks its host for all that
they need, a handout for letters only, and slides ask for nothing. -/
def opFault (options : Options) (settings : Settings) (h : Host) : Op → Fault → Prop :=
  match options.mode with
  | some .interactive | some .autoplay => Screen.OpFault h h.columns
  | some .handout => Handout.OpFault h.lettering settings.textWidth
  | some .latex | none => fun _ _ => False

/-- What a run that is ready to begin can end in without a status. -/
inductive RunFault (options : Options) (settings : Settings) (h : Host) : Fault → Prop where
  /-- A line of the deck is at fault, or what it asks for is refused. -/
  | line {deck : Deck} {e : Fault} (hdeck : Deck.ofHost h options.file = .ok deck)
      (he : deck.LineFault (opFault options settings h) e) : RunFault options settings h e
  | deckName (hmode : isFullScreen options.mode = false) (hnul : '\x00' ∈ options.file) :
      RunFault options settings h .nulInPath
  /-- A command whose output is to stand in the deck is refused. -/
  | command (hdeck : Deck.ofHost h options.file = .error (.refused .command)) :
      RunFault options settings h (.refused .command)
  /-- The line that calls the editor is refused. -/
  | editing {target : Text} (hmode : options.mode = some .interactive)
      (htarget : target = options.file ∨
        ∃ deck, Deck.ofHost h options.file = .ok deck ∧ deck.Includes target)
      (hrefused : h.refusesCommand (Command.editorLine settings.editor target) = true) :
      RunFault options settings h (.refused .command)
  | outputName {path : Text} (hmode : isFullScreen options.mode = false)
      (hpath : options.output = .value path) (hnul : '\x00' ∈ path) :
      RunFault options settings h .nulInPath
  /-- Nothing has checked that there is an output, where the option for the mode is hollow. -/
  | noOutput {e : Fault} (hmode : options.mode = none) (he : outputPath options.output = .error e) :
      RunFault options settings h e
  | typing {n : Nat} {d : Delay} {e : Fault} (hmode : isFullScreen options.mode = true)
      (hd : settings.typeDelay.typing? n = some d) (he : Act.PauseFault h d e) :
      RunFault options settings h e
  | sliding {d : Delay} {e : Fault} (hmode : isFullScreen options.mode = true)
      (hd : d = settings.slideDelay ∨ d = settings.slideDelay.twice) (he : Act.PauseFault h d e) :
      RunFault options settings h e
  /-- The delay between two passes of a presentation without a user. -/
  | passing {d : Delay} {e : Fault} (hmode : options.mode = some .autoplay)
      (hd : autoplayDelay options settings = some d) (he : Act.PauseFault h d e) :
      RunFault options settings h e
  | noDelay (hmode : options.mode = some .autoplay) (hseconds : options.seconds = .hollow) :
      RunFault options settings h .noDelay
  | pageNumber {e : Fault} (hmode : options.mode = some .interactive)
      (he : Screen.PromptFault h e) : RunFault options settings h e
  | tooManyCopies (hmode : isFullScreen options.mode = true) (hwide : Act.countLimit < h.columns) :
      RunFault options settings h .tooManyCopies
  | outOfMemory (hmode : isFullScreen options.mode = true) (hwide : Act.memoryLimit < h.columns) :
      RunFault options settings h .outOfMemory

end Run

namespace Report

/-- The report ends with a status, and with that of a failure only after a line that says so. -/
def EndsWithStatus (r : Report) : Prop :=
  r.result = .ok 0 ∨ r.result = .ok 130 ∨
    r.result = .ok 1 ∧ ∃ message, r.errors = Text.concat ["Error: ", message, "\n"]

/-- A fault that a run may end in: it gives a status, or it is one of the others. -/
def Accounted (E : Fault → Prop) (e : Fault) : Prop := e = .interrupted ∨ e.isSetup = true ∨ E e

/-- The report ends with a status, or the run ends in one of some faults. -/
def Settles (E : Fault → Prop) (r : Report) : Prop :=
  r.EndsWithStatus ∨ ∃ e, r.result = .error e ∧ E e

theorem ofStage_settles {σ : Type} {r : Report} (hr : r.errors = []) (s : Stage σ)
    {fault : Option Fault} {E : Fault → Prop} (hfault : ∀ e, fault = some e → Accounted E e) :
    Settles E (r.ofStage s fault) := by
  rcases fault with - | e
  · exact .inl (.inl rfl)
  by_cases hinterrupted : e = .interrupted
  · rw [hinterrupted]
    exact .inl (.inr (.inl rfl))
  by_cases hsetup : e.isSetup = true
  · have hreport : r.ofStage s (some e) = { r with
        host := s.host
        journal := s.journal
        errors := r.errors ++ Text.concat ["Error: ", e.message, "\n"]
        result := .ok 1 } := by
      cases e with
      | unopened | noDeck | unfitTerminal => rfl
      | _ => cases hsetup
    rw [hreport]
    exact .inl (.inr (.inr ⟨rfl, e.message, by rw [hr, List.nil_append]⟩))
  · have he : E e := ((hfault e rfl).resolve_left hinterrupted).resolve_left hsetup
    have hresult : (r.ofStage s (some e)).result = .error e := by
      cases e with
      | interrupted => exact absurd rfl hinterrupted
      | unopened | noDeck | unfitTerminal => exact absurd rfl hsetup
      | _ => rfl
    exact .inr ⟨e, hresult, he⟩

end Report

namespace Run

open Report

variable {options : Options} {settings : Settings} {h : Host} {e : Fault}

/-! ### Conversions -/

/-- An output that cannot be opened is accounted for. -/
theorem opened_accounted {σ : Type} [Export σ] {opening : Act σ Unit} {s t : Stage σ}
    (hmode : isFullScreen options.mode = false)
    (hnamed : options.mode ≠ none → ∃ path, options.output = .value path)
    (hpath : (Export.output s.surface).path = (outputPath options.output).toOption.getD [])
    (hopening : ∀ t e, opening s = .error e t →
      ∃ f, s.host.files.create (Export.output s.surface).path = .error f ∧ e = Fault.ofOpening f)
    (he : opened (outputPath options.output) opening s = .error e t) :
    Accounted (RunFault options settings h) e := by
  rcases houtput : outputPath options.output with fault | path
  · rw [houtput] at he
    cases he
    refine .inr (.inr (.noOutput ?_ houtput))
    by_contra hsome
    obtain ⟨path, hvalue⟩ := hnamed hsome
    rw [hvalue] at houtput
    cases houtput
  · have hvalue : options.output = .value path := by
      rcases hgiven : options.output with - | - | name
      · rw [hgiven] at houtput
        cases houtput
      · rw [hgiven] at houtput
        cases houtput
      · rw [hgiven] at houtput
        cases houtput
        rfl
    rw [houtput] at he hpath
    obtain ⟨f, hcreate, rfl⟩ := hopening t e he
    rcases Fault.ofOpening_cases f with hsetup | ⟨rfl, hnul⟩
    · exact .inr (.inl hsetup)
    · rw [hnul]
      rw [hpath] at hcreate
      exact .inr (.inr (.outputName hmode hvalue (Files.nul_mem_of_report hcreate)))

/-- A deck that cannot be read is accounted for. -/
theorem deck_accounted
    (hfile : isFullScreen options.mode = true → h.files.isFile options.file = true)
    (hdeck : Deck.ofHost h options.file = .error e) : Accounted (RunFault options settings h) e := by
  have hread := hdeck
  unfold Deck.ofHost at hread
  rcases hcontent : h.files.read options.file with f | content
  · rw [hcontent] at hread
    cases hread
    rcases Fault.ofOpening_cases f with hsetup | ⟨rfl, hnul⟩
    · exact .inr (.inl hsetup)
    · -- What is presented is a file, so that its name holds no NUL.
      rw [hnul]
      refine .inr (.inr (.deckName ?_ (Files.nul_mem_of_report hcontent)))
      rw [Bool.eq_false_iff]
      intro hfull
      obtain ⟨content, hfound⟩ := Files.read_of_isFile (hfile hfull)
      cases hcontent.symm.trans hfound
  · rw [hcontent] at hread
    dsimp only at hread
    split at hread
    · cases hread
      exact .inr (.inr (.command hdeck))
    · cases hread

theorem convert_accounted {σ : Type} [Surface σ] [Export σ] {opening closing : Act σ Unit}
    {s : Stage σ}
    (hmode : isFullScreen options.mode = false)
    (hnamed : options.mode ≠ none → ∃ path, options.output = .value path)
    (hpath : (Export.output s.surface).path = (outputPath options.output).toOption.getD [])
    (hopened : ∀ u t, u.host = s.host → u.surface = s.surface → opening u = .ok () t →
      ∃ P, Export.Serving (opFault options settings s.host) closing P ∧ P t)
    (hopening : ∀ u t e, opening u = .error e t →
      ∃ f, u.host.files.create (Export.output u.surface).path = .error f ∧ e = Fault.ofOpening f)
    (he : (attempt (convert options.file (opened (outputPath options.output) opening) closing)
      s).2 = some e) : Accounted (RunFault options settings s.host) e := by
  rcases hconvert : convert options.file (opened (outputPath options.output) opening) closing s
    with ⟨⟨⟩, t⟩ | ⟨fault, t⟩
  · simp only [attempt, hconvert] at he
    cases he
  simp only [attempt, hconvert] at he
  cases he
  have hserving (u t : Stage σ) (hhost : u.host = s.host) (hu : u.surface = s.surface)
      (ht : opened (outputPath options.output) opening u = .ok () t) :
      ∃ P, Export.Serving (opFault options settings s.host) closing P ∧ P t := by
    rcases houtput : outputPath options.output with fault | path
    · rw [houtput] at ht
      cases ht
    · rw [houtput] at ht
      exact hopened u t hhost hu ht
  have hrefused (u t : Stage σ) (e : Fault) (_ : u.host = s.host) (hu : u.surface = s.surface)
      (ht : opened (outputPath options.output) opening u = .error e t) :
      Accounted (RunFault options settings s.host) e :=
    opened_accounted hmode hnamed (by rw [hu, hpath]) (hopening u) ht
  rcases convert_fault hserving hrefused rfl rfl hconvert with hdeck | he | ⟨deck, hdeck, he⟩
  · exact deck_accounted (fun hfull => absurd hfull (by simp [hmode])) hdeck
  · exact he
  · exact .inr (.inr (.line hdeck he))

variable {setup : Setup}

theorem writeHandout_settles (hr : setup.report.errors = [])
    (hmode : setup.options.mode = some .handout)
    (hnamed : setup.options.mode ≠ none → ∃ path, setup.options.output = .value path)
    (hwidth : setup.settings.textWidth ≤ Act.memoryLimit) :
    Settles (RunFault setup.options setup.settings setup.report.host) setup.writeHandout := by
  have hfaults : opFault setup.options setup.settings setup.report.host =
      Handout.OpFault setup.report.host.lettering setup.settings.textWidth := by
    unfold opFault
    rw [hmode]
  refine ofStage_settles hr _ fun _ he => convert_accounted (by rw [hmode]; rfl) hnamed rfl
    (fun u t hhost hu hopen => ?_) (fun _ _ _ hrun => (Export.openOutput_error hrun).2) he
  have hserving := Handout.exists_serving (hu ▸ hwidth) hopen
  rw [hhost, hu] at hserving
  exact hfaults ▸ hserving

theorem writeLatex_settles (hr : setup.report.errors = [])
    (hmode : setup.options.mode = some .latex ∨ setup.options.mode = none)
    (hnamed : setup.options.mode ≠ none → ∃ path, setup.options.output = .value path) :
    Settles (RunFault setup.options setup.settings setup.report.host) setup.writeLatex := by
  have hexport : isFullScreen setup.options.mode = false ∧
      opFault setup.options setup.settings setup.report.host = fun _ _ => False := by
    unfold opFault
    rcases hmode with hmode | hmode
    · rw [hmode]
      exact ⟨rfl, rfl⟩
    · rw [hmode]
      exact ⟨rfl, rfl⟩
  exact ofStage_settles hr _ fun _ he => convert_accounted hexport.1 hnamed rfl
    (fun _ _ _ _ hopen => hexport.2 ▸ Beamer.exists_serving hopen)
    (fun _ _ _ hrun => (Beamer.openDocument_error hrun).2) he

/-! ### Presentations -/

/-- What a terminal refuses makes it unfit, which gives a status. -/
theorem unfit_accounted {E : Fault → Prop} (he : Accounted E e) : Accounted E (unfit e) := by
  unfold unfit
  split
  · exact .inr (.inl rfl)
  · exact he

theorem ordered_accounted (hmode : isFullScreen options.mode = true)
    (hreal : ∀ n, settings.typeDelay.typing? n ≠ none) (htakes : h.TakesAnyText)
    (he : Screen.OrderedFault h settings.typeDelay settings.slideDelay e) :
    Accounted (RunFault options settings h) (unfit e) := by
  obtain ⟨he, hcolor⟩ := he
  cases he with
  | interrupted => exact .inl rfl
  | terminal f => exact .inr (.inl rfl)
  | text hnul => cases hnul.symm.trans htakes
  | color name => exact absurd rfl (hcolor name)
  | typing hd he => exact unfit_accounted (.inr (.inr (.typing hmode hd he)))
  | typingTooLong hd => exact absurd hd (hreal _)
  | sliding hd he => exact unfit_accounted (.inr (.inr (.sliding hmode hd he)))
  | tooManyCopies hwide => exact .inr (.inr (.tooManyCopies hmode hwide))
  | outOfMemory hwide => exact .inr (.inr (.outOfMemory hmode hwide))

variable {s : Stage Screen} {deck : Deck}

theorem isFullScreen_iff {mode : Option Mode} :
    isFullScreen mode = true ↔ mode = some .interactive ∨ mode = some .autoplay := by
  simp [isFullScreen]

theorem opFault_of_fullScreen (hmode : isFullScreen options.mode = true) :
    opFault options settings h = Screen.OpFault h h.columns := by
  unfold opFault
  rcases isFullScreen_iff.1 hmode with hchosen | hchosen
  · rw [hchosen]
  · rw [hchosen]

/-- A presentation that could not read its deck has ended. -/
theorem unread_accounted {nav : Deck → Except Fault Navigator} {go : Present Screen Unit}
    (hfile : h.files.isFile options.file = true) {unread : Fault}
    (hdeck : Deck.ofHost h options.file = .error unread)
    (hs : Screen.Ordered h settings.typeDelay settings.slideDelay [] s)
    (he : (Ending.ofRun (Deck.load Command.capture options.file) nav go s).fault = some e) :
    Accounted (RunFault options settings h) (unfit e) := by
  have hloaded := Deck.load_ends Screen.ordered_undisturbed Screen.ordered_readsLike options.file
    s hs
  unfold Ending.ofRun at he
  rcases hload : Deck.load Command.capture options.file s with ⟨deck, t⟩ | ⟨fault, t⟩
  · rw [hload] at hloaded
    cases hdeck.symm.trans hloaded.1
  · rw [hload] at hloaded he
    cases he
    exact unfit_accounted (deck_accounted (fun _ => hfile) hloaded.1)

theorem interactive_accounted (hmode : options.mode = some .interactive)
    (hreal : ∀ n, settings.typeDelay.typing? n ≠ none) (htakes : h.TakesAnyText)
    (hfile : h.files.isFile options.file = true)
    (hs : Screen.Ordered h settings.typeDelay settings.slideDelay [] s) {keys : List Int}
    (he : (interactive options settings keys s).fault = some e) :
    Accounted (RunFault options settings h) (unfit e) := by
  have hfull : isFullScreen options.mode = true := by rw [hmode]; rfl
  rcases hdeck : Deck.ofHost h options.file with unread | deck
  · exact unread_accounted hfile hdeck hs he
  let E : Fault → Prop := fun e => Accounted (RunFault options settings h) (unfit e)
  have hload : Ends (Screen.Ordered h settings.typeDelay settings.slideDelay deck) (· = deck) E
      (Deck.load Command.capture options.file) :=
    Deck.load_same Screen.ordered_undisturbed Screen.ordered_readsLike hdeck
  have hconsole : ConfinedConsole (Screen.OpFault h h.columns)
      (Screen.Ordered h settings.typeDelay settings.slideDelay deck) E := by
    refine Screen.confinedConsole (fun _ => ordered_accounted hfull hreal htakes) fun e hprompt => ?_
    cases hprompt with
    | pageNumber hline hanswer hdigits hn =>
      exact .inr (.inr (.pageNumber hmode (.pageNumber hline hanswer hdigits hn)))
  have hsteps : Interactive.Steps (script options settings)
      (Presentation.Of (Screen.Ordered h settings.typeDelay settings.slideDelay deck) deck) E := by
    refine Interactive.steps_of hconsole Screen.ordered_included (fun e he => ?_)
      (fun s hs e he => ?_) (Deck.ne_nil_of_ofHost hdeck) hload
    · exact unfit_accounted (.inr (.inr (.line hdeck (opFault_of_fullScreen hfull ▸ he))))
    · cases he with
      | exec hrefused =>
        refine .inr (.inr (.editing hmode ?_ hrefused))
        unfold Interactive.editTarget
        split
        · rename_i hincluded
          exact .inr ⟨deck, hdeck, hs.2.2 _ hincluded⟩
        · exact .inl rfl
  refine Interactive.run_fault hsteps (Deck.ne_nil_of_ofHost hdeck) hload (fun key hkey => ?_)
    (hs.of_nil deck) he
  obtain ⟨code, -, rfl⟩ := List.mem_map.1 hkey
  rfl

theorem autoplay_accounted (hmode : options.mode = some .autoplay)
    (hreal : ∀ n, settings.typeDelay.typing? n ≠ none) (htakes : h.TakesAnyText)
    (hfile : h.files.isFile options.file = true)
    (hs : Screen.Ordered h settings.typeDelay settings.slideDelay [] s) {passes : Nat}
    (he : (Autoplay.run options.file Command.capture (autoplayDelay options settings) passes
      s).fault = some e) : Accounted (RunFault options settings h) (unfit e) := by
  have hfull : isFullScreen options.mode = true := by rw [hmode]; rfl
  rcases hdeck : Deck.ofHost h options.file with unread | deck
  · exact unread_accounted hfile hdeck hs he
  let E : Fault → Prop := fun e => Accounted (RunFault options settings h) (unfit e)
  have hordered (e : Fault)
      (he : Screen.OrderedFault h settings.typeDelay settings.slideDelay e) : E e :=
    ordered_accounted hfull hreal htakes he
  have hoperating : Screen.Operating
      (Screen.Ordered h settings.typeDelay settings.slideDelay deck) E :=
    Screen.operating_ordered hordered
  have hsteps : Present.Steps (Presentation.Of
      (Screen.Ordered h settings.typeDelay settings.slideDelay deck) deck) E :=
    Present.steps_of (Screen.confined hordered) Screen.ordered_included fun e he =>
      unfit_accounted (.inr (.inr (.line hdeck (opFault_of_fullScreen hfull ▸ he))))
  refine Autoplay.run_fault hsteps (Deck.ne_nil_of_ofHost hdeck)
    (Deck.load_same Screen.ordered_undisturbed Screen.ordered_readsLike hdeck)
    (fun d hd => ?_) (fun hd => ?_) (hs.of_nil deck) he
  · refine hoperating.pause d fun s e hs he => ?_
    exact unfit_accounted (.inr (.inr (.passing hmode hd (hs.1.pauseFault he))))
  · have hhollow : options.seconds = .hollow := by
      unfold autoplayDelay at hd
      split at hd
      · cases hd
      · assumption
      · cases hd
    exact .andThen (hoperating.note fun _ => rfl) fun _ =>
      .throw (.inr (.inr (.noDelay hmode hhollow)))

/-- Once its terminal is taken over, a presentation has the faults of the way in which it goes on:
leaving the terminal has none. -/
theorem onScreen_accounted {E : Fault → Prop} {how : Stage Screen → Ending Screen}
    {t : Stage Screen} (hopen : Screen.openTerminal s = .ok () t)
    (hhow : ∀ f, (how t).fault = some f → Accounted E (unfit f))
    (he : (Id.run (onScreen (fun s => pure (how s)) s)).2 = some e) : Accounted E e := by
  unfold onScreen at he
  by_cases hrefused : s.host.refuses .setUp = true
  · rw [if_pos hrefused] at he
    cases he
    exact .inr (.inl rfl)
  · obtain ⟨u, hclose⟩ := Screen.closeTerminal_ok (how t).stage
    have hleave : leave (how t) = (u, (how t).fault.map unfit) := by
      unfold leave
      rw [hclose]
    rw [if_neg hrefused, hopen] at he
    replace he : (leave (how t)).2 = some e := he
    rw [hleave] at he
    obtain ⟨f, hf, rfl⟩ := Option.map_eq_some_iff.1 he
    exact hhow f hf

theorem present_settles {how : Stage Screen → Ending Screen} (hr : setup.report.errors = [])
    (hjournal : setup.report.journal.pen = {}) (hpatient : Patient setup.report.host.refuses)
    (hhow : ∀ s, setup.report.host.files.isFile setup.options.file = true →
      Screen.Ordered setup.report.host setup.settings.typeDelay setup.settings.slideDelay [] s →
      ∀ f, (how s).fault = some f →
        Accounted (RunFault setup.options setup.settings setup.report.host) (unfit f)) :
    Settles (RunFault setup.options setup.settings setup.report.host)
      (Id.run (setup.present fun s => pure (how s))) := by
  unfold Setup.present
  by_cases hfile : setup.report.host.files.isFile setup.options.file = true
  · obtain ⟨t, hopen, ht⟩ := Screen.openTerminal_ordered setup.settings.typeDelay
      setup.settings.slideDelay setup.settings.hugeFont hjournal hpatient
    rw [if_pos hfile]
    exact ofStage_settles hr _ fun e he => onScreen_accounted hopen (hhow t hfile ht) he
  · rw [if_neg hfile]
    show Settles _ (setup.report.ofStage _ (some (.noDeck setup.options.file)))
    refine ofStage_settles hr _ fun e he => ?_
    cases he
    exact .inr (.inl rfl)

end Run

end SlideDeck
