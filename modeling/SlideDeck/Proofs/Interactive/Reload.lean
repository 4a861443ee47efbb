import SlideDeck.Proofs.Deck.Commands
import SlideDeck.Proofs.Interactive.Steps
import SlideDeck.Proofs.Navigation.InDeck
import SlideDeck.Surface.Recorder

/-!
# Reloading a deck

A reload reads the deck anew, whatever its file holds by then, and shows the page that has the
number of the page before it, or the last page when there are fewer. The presentation is always on a
page of the deck that was read last.
-/

namespace SlideDeck

open Outcome

namespace Navigator

/-- Where a presentation of a deck starts: at the first line of the page with the index, or of the
last page. -/
theorem start_ok {deck : Deck} (hdeck : deck ≠ []) (index : Nat) :
    ∃ page n, start deck index = .ok n ∧
      n = { pages := deck, index := min index (deck.length - 1), reader := .start page } ∧
      deck[min index (deck.length - 1)]? = some page := by
  have hlength : 0 < deck.length := List.length_pos_iff.2 hdeck
  have hindex : (min (max (index : Int) 0) (deck.length - 1)).toNat =
      min index (deck.length - 1) := by omega
  have hlt : min index (deck.length - 1) < deck.length := by omega
  refine ⟨deck[min index (deck.length - 1)], _, ?_, rfl, List.getElem?_eq_getElem hlt⟩
  simp only [start, hindex, List.getElem?_eq_getElem hlt]

end Navigator

namespace Present

theorem lift_bind_congr {σ α β : Type} {p : Presentation σ} {act : Act σ α} {f g : α → Present σ β}
    (h : ∀ a u, f a ⟨u, p.nav⟩ = g a ⟨u, p.nav⟩) :
    ((liftM act : Present σ α) >>= f) p = ((liftM act : Present σ α) >>= g) p := by
  rcases hact : act p.stage with ⟨a, u⟩ | ⟨fault, u⟩
  · rw [bind_ok (lift_ok hact), bind_ok (lift_ok hact)]
    exact h a u
  · rw [bind_error (lift_error hact), bind_error (lift_error hact)]

end Present

namespace Interactive

variable {σ : Type} [Console σ] {script : Script σ} {keys : List Keystroke} {phase : Phase}
  {s t u : Stage σ} {p : Presentation σ} {n : Navigator}

/-! ### The page after a reload -/

/-- What a console is asked for in front of the first line of a page. -/
def greeting (n : Navigator) : Act σ Unit := do
  Surface.clear
  Surface.perform .newPage
  Surface.drawStatus (n.index + 1) n.pages.length n.finished (some n.reader.page.title)
  Surface.perform .refresh

theorem opening_eq (t : Stage σ) (n : Navigator) :
    (opening : Present σ Unit) ⟨t, n⟩ =
      ((liftM (greeting (σ := σ) n) : Present σ Unit) >>= fun _ => do
        let _ ← Present.drive
        Present.drawStatus) ⟨t, n⟩ := by
  rw [greeting, ← Present.lift_bind, ← Present.lift_bind, ← Present.lift_bind, bind_assoc]
  refine Present.lift_bind_congr fun _ u => ?_
  rw [bind_assoc]
  refine Present.lift_bind_congr fun _ u => ?_
  show Present.pass _ = _
  rw [bind_assoc, Present.pass, Present.drawStatus, bind_assoc]
  refine (bind_ok (Present.nav_apply _)).trans ?_
  rw [bind_assoc]

/-- The first pass over a page starts at its first line. -/
theorem opening_dispatches {page : Page} (hreader : n.reader = .start page)
    (hgreeting : greeting n t = .ok () u) :
    (∀ v, Conversion.dispatchLines (upToPause page.lines) u = .ok () v →
      opening ⟨t, n⟩ = Present.drawStatus ⟨v, n.afterPass⟩) ∧
    ∀ fault v, Conversion.dispatchLines (upToPause page.lines) u = .error fault v →
      ∃ m, opening (σ := σ) ⟨t, n⟩ = .error fault ⟨v, m⟩ := by
  have hleft : n.reader.left = page.lines := by
    rw [hreader]
    rfl
  rw [opening_eq, bind_ok (Present.lift_ok hgreeting), ← hleft]
  constructor
  · intro v hlines
    exact bind_ok (Present.drive_ok hlines)
  · intro fault v hlines
    obtain ⟨m, hm⟩ := Present.drive_error (p := ⟨u, n⟩) hlines
    exact ⟨m, bind_error hm⟩

theorem opening_error {fault : Fault} (hgreeting : greeting n t = .error fault u) :
    opening (σ := σ) ⟨t, n⟩ = .error fault ⟨u, n⟩ := by
  rw [opening_eq]
  exact bind_error (Present.lift_error hgreeting)

theorem press_reload {deck : Deck}
    (hload : Deck.load script.capture script.path p.stage = .ok deck t)
    (hstart : Navigator.start deck p.nav.index = .ok n) :
    press script .choosing .reload p =
      ((opening : Present σ Unit) >>= fun _ => pure (some .choosing)) ⟨t, n⟩ := by
  let flagged : Presentation σ := ⟨p.stage, { p.nav with reloadRequested := true }⟩
  have hload : Deck.load script.capture script.path flagged.stage = .ok deck t := hload
  have hreload : reload script flagged = (opening : Present σ Unit) ⟨t, n⟩ := by
    refine (bind_ok (Present.lift_ok hload)).trans ((bind_ok (Present.nav_apply _)).trans ?_)
    have hstart : Navigator.start deck flagged.nav.index = .ok n := hstart
    simp only [hstart]
    rfl
  refine (bind_ok rfl).trans ?_
  show (reload script >>= fun _ => pure (some Phase.choosing)) flagged = _
  rcases hopening : (opening : Present σ Unit) ⟨t, n⟩ with ⟨a, q⟩ | ⟨fault, q⟩
  · rw [bind_ok (hreload.trans hopening), bind_ok hopening]
  · rw [bind_error (hreload.trans hopening), bind_error hopening]

/-! ### The page at every point of a run -/

open Present (StaysInDeck lift_staysInDeck)

theorem opening_staysInDeck : StaysInDeck (opening : Present σ Unit) :=
  keeps_iff_ends.2 (opening_ends Present.steps_inDeck)

theorem reload_staysInDeck (script : Script σ) : StaysInDeck (reload script) := by
  refine keeps_iff_ends.2 (.andThen (keeps_iff_ends.1 (lift_staysInDeck _)) fun deck =>
    .andThen Present.nav_ends fun n => ?_)
  rcases hstart : Navigator.start deck n.index with fault | m
  · exact .throw trivial
  · exact .andThen (.modify fun _ _ => Navigator.inDeck_start hstart) fun _ =>
      opening_ends Present.steps_inDeck

theorem steps_inDeck (script : Script σ) : Steps script (fun p => p.nav.InDeck) Any where
  toSteps := Present.steps_inDeck
  showHelp := keeps_iff_ends.1 (lift_staysInDeck _)
  askPageNumber _ _ := keeps_iff_ends.1 (lift_staysInDeck _)
  storeScreen := keeps_iff_ends.1 (lift_staysInDeck _)
  restoreScreen _ := keeps_iff_ends.1 (lift_staysInDeck _)
  updateSize := keeps_iff_ends.1 (lift_staysInDeck _)
  edit := keeps_iff_ends.1 (lift_staysInDeck _)
  reload := keeps_iff_ends.1 (reload_staysInDeck script)

theorem presses_staysInDeck (script : Script σ) (phase : Phase) (keys : List Keystroke) :
    StaysInDeck (presses script phase keys) :=
  keeps_iff_ends.2 ((steps_inDeck script).presses
    (fun _ _ => keeps_iff_ends.1 (lift_staysInDeck _)) phase)

theorem play_staysInDeck (script : Script σ) (phase : Phase) (keys : List Keystroke) :
    StaysInDeck (play script phase keys) :=
  keeps_iff_ends.2 ((steps_inDeck script).play
    (fun _ _ => keeps_iff_ends.1 (lift_staysInDeck _)) phase)

theorem Waits.inDeck (h : Waits script keys s phase p) : p.nav.InDeck := by
  obtain ⟨deck, t, n, first, -, hstart, hopening, hkeys⟩ := h
  have hfirst := opening_staysInDeck ⟨t, n⟩ (Navigator.inDeck_start hstart)
  rw [hopening] at hfirst
  have hlast := presses_staysInDeck script .choosing keys first hfirst
  rw [hkeys] at hlast
  exact hlast

theorem inDeck_of_run (h : (run script keys s).nav = some n) : n.InDeck := by
  simp only [run, Ending.ofRun] at h
  split at h
  · cases h
  · rename_i deck t hload
    split at h
    · cases h
    · rename_i m hstart
      have hplayed := opening_staysInDeck.bind (fun _ => play_staysInDeck script .choosing keys)
        ⟨t, m⟩ (Navigator.inDeck_start hstart)
      split at h
      · rename_i hrun
        rw [hrun] at hplayed
        cases h
        exact hplayed
      · rename_i hrun
        rw [hrun] at hplayed
        cases h
        exact hplayed

/-- Whatever the file of the deck holds when it is read again, where it embeds only commands that can
be run: every one of them runs once, in the order of the file, and the pages that come of it are
shown from the page with the number of the page before, or from the last page. The first pass there
starts at the first line. At no point does a presentation stand on, or turn to, a page that its deck
does not have. -/
theorem reload_presents_contents (s : Stage σ) :
    (∀ keys phase p, Waits script keys s phase p →
      p.nav.InDeck ∧ ∀ (m : Move) index, m.turn? p.nav = some index →
        index < p.nav.pages.length) ∧
    (∀ keys n, (run script keys s).nav = some n → n.InDeck) ∧
    ∀ keys p edits source, Waits script keys s .choosing p →
      let changed := state (edited edits p.stage)
      (changed.host.files.read script.path).map Text.Utf8.decode = .ok source →
      (∀ command ∈ Deck.commands source, ∀ s, ∃ output t, script.capture command s = .ok output t) →
      ∃ outputs t page n,
        (Deck.commands source).mapM script.capture changed = .ok outputs t ∧
        Deck.load script.capture script.path changed = .ok (Deck.ofOutputs source outputs) t ∧
        n =
          { pages := Deck.ofOutputs source outputs
            index := min p.nav.index ((Deck.ofOutputs source outputs).length - 1)
            reader := .start page } ∧
        n.pages[n.index]? = some page ∧
        presses script .choosing [⟨.reload, edits⟩] p =
          ((opening : Present σ Unit) >>= fun _ => pure (some .choosing)) ⟨t, n⟩ ∧
        (∀ u, greeting n t = .ok () u →
          (∀ v, Conversion.dispatchLines (upToPause page.lines) u = .ok () v →
            opening ⟨t, n⟩ = Present.drawStatus ⟨v, n.afterPass⟩) ∧
          ∀ fault v, Conversion.dispatchLines (upToPause page.lines) u = .error fault v →
            ∃ m, opening (σ := σ) ⟨t, n⟩ = .error fault ⟨v, m⟩) ∧
        ∀ fault u, greeting n t = .error fault u →
          opening (σ := σ) ⟨t, n⟩ = .error fault ⟨u, n⟩ := by
  refine ⟨fun keys phase p h => ⟨h.inDeck, fun m index => Move.lt_of_turn h.inDeck.index_lt⟩,
    fun keys n => inDeck_of_run, ?_⟩
  intro keys p edits source hwaits changed hread hcapture
  obtain ⟨outputs, t, hrun⟩ := Deck.exists_outputs hcapture changed
  have hload := Deck.load_ok hread hrun
  obtain ⟨page, n, hstart, hn, hpage⟩ :=
    Navigator.start_ok (Deck.ne_nil_of_load hload) p.nav.index
  have hreader : n.reader = .start page := congrArg Navigator.reader hn
  refine ⟨outputs, t, page, n, hrun, hload, hn, ?_, ?_,
    fun u hgreeting => opening_dispatches hreader hgreeting, fun fault u => opening_error⟩
  · rw [hn]
    exact hpage
  · have hedited : (liftM (edited (σ := σ) edits) : Present σ Unit) p = .ok () ⟨changed, p.nav⟩ :=
      rfl
    rw [presses_singleton]
    exact (bind_ok hedited).trans (press_reload hload hstart)

/-- On the second of two pages, the deck is read again and has one page with a command. -/
theorem reload_presents_contents_fewer_pages :
    let host : Host := { Host.quiet with
      files := { nodes := [(["deck"], .file (Text.Utf8.encode "--newpage b\n"))] } }
    let s : Stage Recorder := ⟨host, {}, {}, none⟩
    let script : Script Recorder := ⟨"deck", "vi", Command.capture⟩
    let edits : List FileEdit := [.write ["deck"] (.file (Text.Utf8.encode "$$ls\n"))]
    ∃ p t n, Waits script [⟨.advance, []⟩] s .choosing p ∧ p.nav.index = 1 ∧
      Deck.commands "$$ls\n" = [("ls" : Text)] ∧
      presses script .choosing [⟨.reload, edits⟩] p =
        ((opening : Present Recorder Unit) >>= fun _ => pure (some .choosing)) ⟨t, n⟩ ∧
      n.pages = [⟨"Title", ["$$ls"]⟩] ∧ n.index = 0 := by
  intro host s script edits
  let deck : Deck := [⟨"Title", []⟩, ⟨"b", []⟩]
  let n : Navigator := { pages := deck, index := 0, reader := .start ⟨"Title", []⟩ }
  have hload : Deck.load script.capture script.path s = .ok deck s := rfl
  have hopening : ∃ p, opening ⟨s, n⟩ = .ok () p ∧ p.stage.host = host ∧ p.stage.surface = {} ∧
      p.nav = { pages := deck, index := 0, reader := ⟨⟨"Title", []⟩, 0, true⟩, finished := true } :=
    ⟨_, rfl, rfl, rfl, rfl⟩
  obtain ⟨⟨⟨_, _, surface, _⟩, _⟩, hopening, rfl, hsurface, rfl⟩ := hopening
  obtain rfl : surface = {} := hsurface
  have hwaits : ∃ p, Waits script [⟨.advance, []⟩] s .choosing p ∧ p.stage.host = host ∧
      p.nav.index = 1 := ⟨_, ⟨_, _, _, _, hload, rfl, hopening, rfl⟩, rfl, rfl⟩
  obtain ⟨⟨⟨_, _, _, _⟩, _⟩, hwaits, rfl, hindex⟩ := hwaits
  have hcommands : Deck.commands "$$ls\n" = [("ls" : Text)] := rfl
  have hcapture : ∀ command ∈ Deck.commands "$$ls\n", ∀ s : Stage Recorder,
      ∃ output t, script.capture command s = .ok output t := by
    rw [hcommands]
    intro command hcommand s
    obtain rfl := List.mem_singleton.1 hcommand
    have hplain : '\x00' ∉ ("ls" : Text) := by decide
    obtain ⟨t, ht, -⟩ := Deck.capture_ok (Deck.refusesCommand_of_not_mem s.host hplain)
    exact ⟨_, t, ht⟩
  obtain ⟨-, -, hreload⟩ := @reload_presents_contents Recorder _ script s
  obtain ⟨outputs, t, page, n, hrun, -, hn, -, hpress, -⟩ :=
    hreload _ _ edits "$$ls\n" hwaits rfl hcapture
  have houtputs : outputs = [[]] := by
    rw [hcommands, List.mapM_cons] at hrun
    obtain ⟨output, _, hfirst, hrest⟩ := bind_eq_ok hrun
    cases hfirst
    cases hrest
    rfl
  subst houtputs
  have hpages : Deck.ofOutputs "$$ls\n" [[]] = [⟨"Title", ["$$ls"]⟩] := rfl
  rw [hpages, hindex] at hn
  exact ⟨_, t, n, hwaits, hindex, hcommands, hpress, congrArg Navigator.pages hn,
    congrArg Navigator.index hn⟩

end Interactive

end SlideDeck
