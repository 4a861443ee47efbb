import SlideDeck.Proofs.Interactive.Reload

/-!
# Faults of presentations

A presentation has the faults of what it asks its console for, and those of the lines of its deck:
the deck that it reads again is the same one, and the page that it shows is always one of that deck.
-/

namespace SlideDeck

open Outcome

variable {σ α : Type} {P : Stage σ → Prop} {E : Fault → Prop} {F : Op → Fault → Prop}
  {V : α → Prop} {deck : Deck}

/-- Whatever is asked of the surface keeps the property `P` and has only faults that are `E`, beside
those that single operations have by `F`. -/
structure Confined [Surface σ] (F : Op → Fault → Prop) (P : Stage σ → Prop) (E : Fault → Prop) :
    Prop extends Undisturbed P where
  perform : ∀ op, (op.isExposed → ∀ e, F op e → E e) → Ends P Any E (Surface.perform (σ := σ) op)
  drawStatus : ∀ number count ended title,
    Ends P Any E (Surface.drawStatus (σ := σ) number count ended title)
  clear : Ends P Any E (Surface.clear (σ := σ))

@[inherit_doc Confined]
structure ConfinedConsole [Console σ] (F : Op → Fault → Prop) (P : Stage σ → Prop)
    (E : Fault → Prop) : Prop extends Confined F P E where
  showHelp : Ends P Any E (Console.showHelp (σ := σ))
  askPageNumber : ∀ titles current,
    Ends P Any E (Console.askPageNumber (σ := σ) titles current)
  storeScreen : Ends P Any E (Console.storeScreen (σ := σ))
  restoreScreen : ∀ saved, Ends P Any E (Console.restoreScreen (σ := σ) saved)
  updateSize : Ends P Any E (Console.updateSize (σ := σ))

/-- A presentation of a deck, on a stage with a property. -/
structure Presentation.Of (P : Stage σ → Prop) (deck : Deck) (p : Presentation σ) : Prop where
  stage : P p.stage
  pages : p.nav.pages = deck
  inDeck : p.nav.InDeck

namespace Present

open Presentation

theorem lift_ends {act : Act σ α} (h : Ends P V E act) :
    Ends (Of P deck) V E (liftM act : Present σ α) := by
  intro p hp
  have hact := h p.stage hp.stage
  rcases hran : act p.stage with ⟨a, s⟩ | ⟨fault, s⟩
  · rw [hran] at hact
    rw [lift_ok hran]
    exact ⟨hact.1, hact.2, hp.pages, hp.inDeck⟩
  · rw [hran] at hact
    rw [lift_error hran]
    exact ⟨hact.1, hact.2, hp.pages, hp.inDeck⟩

/-- The steps of a presentation have the faults of its surface and those of the lines of its deck. -/
theorem steps_of [Surface σ] (h : Confined F P E)
    (hincluded : ∀ s path, deck.Includes path → P s → P { s with included := some path })
    (hdeck : ∀ e, deck.LineFault F e → E e) : Steps (Of P deck) E where
  index_lt _ hp := hp.inDeck.index_lt
  dispatch p hp line hline := by
    have hpage : p.nav.reader.page ∈ deck := hp.pages ▸ List.mem_of_getElem? hp.inDeck
    have hmem : line ∈ p.nav.reader.page.lines := List.mem_of_mem_drop hline
    refine lift_ends (Directive.dispatch_ends h.toUndisturbed (fun s path hpath => ?_) h.perform
      fun e he => hdeck e ⟨p.nav.reader.page, hpage, line, hmem, he⟩)
    exact hincluded s path ⟨p.nav.reader.page, hpage, line, hmem, hpath⟩
  perform op hop := lift_ends (h.perform op fun hexposed => by rw [hop] at hexposed; cases hexposed)
  status number count ended title := lift_ends (h.drawStatus number count ended title)
  clear := lift_ends h.clear
  change hf := .modify fun p hp =>
    ⟨hp.stage, (hf.pages p.nav).trans hp.pages, hp.inDeck.of_still hf⟩
  turnTo p hp index hindex :=
    ⟨hp.stage, (p.nav.pages_turnTo index).trans hp.pages, .turnTo hindex⟩

end Present

namespace Deck

/-- A deck that has been read once is the same when it is read again. -/
theorem load_same (hP : Undisturbed P) {h : Host} (hlike : ReadsLike h P) {path : Text}
    (hdeck : ofHost h path = .ok deck) : Ends P (· = deck) E (load Command.capture path) := by
  refine (load_ends hP hlike path).mono (fun d hd => ?_) fun e he => ?_
  · rw [hdeck] at hd
    exact (Except.ok.inj hd).symm
  · rw [hdeck] at he
    cases he

end Deck

/-- A run has the faults of its preparation and of what it goes on to do. -/
theorem Ending.fault_ofRun {β : Type} {Q : Presentation σ → Prop} {prepare : Act σ α}
    {nav : α → Except Fault Navigator} {go : Present σ β} {s : Stage σ} {e : Fault}
    (hprepare : Ends P V E prepare) (hnav : ∀ a, V a → ∃ n, nav a = .ok n ∧ ∀ t, P t → Q ⟨t, n⟩)
    (hgo : Ends Q Any E go) (hs : P s) (h : (ofRun prepare nav go s).fault = some e) : E e := by
  have hprepared := hprepare s hs
  unfold ofRun at h
  rcases hran : prepare s with ⟨a, t⟩ | ⟨fault, t⟩
  · rw [hran] at hprepared h
    obtain ⟨n, hn, hstart⟩ := hnav a hprepared.1
    have hgone := hgo ⟨t, n⟩ (hstart t hprepared.2)
    simp only [hn] at h
    rcases hwent : go ⟨t, n⟩ with ⟨b, p⟩ | ⟨fault, p⟩
    · simp only [hwent] at h
      cases h
    · simp only [hwent] at h
      cases h
      rw [hwent] at hgone
      exact hgone.1
  · rw [hran] at hprepared h
    cases h
    exact hprepared.1

theorem Presentation.of_start (hpages : deck ≠ []) (d : Deck) (hd : d = deck) :
    ∃ n, Navigator.start d 0 = .ok n ∧ ∀ t, P t → Presentation.Of P deck ⟨t, n⟩ := by
  rw [hd]
  obtain ⟨n, hn⟩ := Navigator.exists_start hpages 0
  exact ⟨n, hn, fun t ht => ⟨ht, (Navigator.consistent_start hn).pages, Navigator.inDeck_start hn⟩⟩

namespace Interactive

open Presentation Present

variable [Console σ] {script : Script σ}

/-- The deck that is read again is the same one, as long as nothing edits its file. What the editor
may be refused is a file that the presentation could come to. -/
theorem steps_of (h : ConfinedConsole F P E)
    (hincluded : ∀ s path, deck.Includes path → P s → P { s with included := some path })
    (hdeck : ∀ e, deck.LineFault F e → E e)
    (heditor : ∀ s, P s → ∀ e,
      F (.exec (Command.editorLine script.editor (editTarget script.path s.included))) e → E e)
    (hpages : deck ≠ []) (hload : Ends P (· = deck) E (Deck.load script.capture script.path)) :
    Steps script (Of P deck) E where
  toSteps := Present.steps_of h.toConfined hincluded hdeck
  showHelp := lift_ends h.showHelp
  askPageNumber titles current := lift_ends (h.askPageNumber titles current)
  storeScreen := lift_ends h.storeScreen
  restoreScreen saved := lift_ends (h.restoreScreen saved)
  updateSize := lift_ends h.updateSize
  edit := by
    refine lift_ends (.bind .get fun s hs => .andThen h.storeScreen fun saved => ?_)
    exact .andThen (h.perform (.exec _) fun _ => heditor s hs) fun _ => h.restoreScreen saved
  reload := by
    refine .bind (lift_ends hload) fun d hd => .andThen nav_ends fun n => ?_
    obtain ⟨m, hm⟩ := Navigator.exists_start hpages n.index
    rw [hd, hm]
    have hstart : Ends (Of P deck) Any E (modifyNav fun _ => m : Present σ Unit) :=
      .modify fun p hp =>
        ⟨hp.stage, (Navigator.consistent_start hm).pages, Navigator.inDeck_start hm⟩
    exact .andThen hstart fun _ => opening_ends (Present.steps_of h.toConfined hincluded hdeck)

theorem run_fault {keys : List Keystroke}
    (hsteps : Steps script (Of P deck) E) (hpages : deck ≠ [])
    (hload : Ends P (· = deck) E (Deck.load script.capture script.path))
    (hkeys : ∀ key ∈ keys, key.edits = []) {s : Stage σ} (hs : P s)
    {e : Fault} (he : (run script keys s).fault = some e) : E e := by
  refine Ending.fault_ofRun hload (of_start hpages) ?_ hs he
  refine .andThen (opening_ends hsteps.toSteps) fun _ => hsteps.play (fun key hkey => ?_) .choosing
  rw [hkeys key hkey]
  exact lift_ends (.modify fun _ hs => hs)

end Interactive

namespace Autoplay

open Presentation Present

variable [Surface σ] {delay : Option Delay}

theorem run_fault (hsteps : Steps (Of P deck) E) (hpages : deck ≠ [])
    {path : Text} {capture : Text → Act σ (List Text)}
    (hload : Ends P (· = deck) E (Deck.load capture path))
    (hpause : ∀ d, delay = some d → Ends P Any E (Act.pause (σ := σ) d))
    (hnone : delay = none → Ends P Any E (Act.pauseWithoutLength (σ := σ) (α := Unit)))
    {count : Nat} {s : Stage σ} (hs : P s) {e : Fault}
    (he : (run path capture delay count s).fault = some e) : E e := by
  have hstep : Ends (Of P deck) Any E (step delay : Present σ Unit) :=
    step_ends hsteps (fun d hd => lift_ends (hpause d hd)) fun hd => lift_ends (hnone hd)
  refine Ending.fault_ofRun hload (of_start hpages) ?_ hs he
  exact .andThen (opening_ends hsteps) fun _ => steps_ends hstep count

end Autoplay

end SlideDeck
