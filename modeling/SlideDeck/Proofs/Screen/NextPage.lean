import SlideDeck.Proofs.Export.FramedText
import SlideDeck.Proofs.Pause
import SlideDeck.Proofs.Screen.Twins

/-!
# What a page takes over from the page before

Blocks that are opened or ended on a page, and what is printed in them, leave a mark on the next
page in one way only: how text slides in. Whatever else was left open, the next page is shown with
the same calls.
-/

namespace SlideDeck

def Outcome.fault? {ε σ α : Type} : EStateM.Result ε σ α → Option ε
  | .ok _ _ => none
  | .error e _ => some e

open Outcome Surface

/-- Operations that open or end a block, or print in one. -/
def Op.isBlock : Op → Bool
  | beginOutput | endOutput | beginShellOutput | endShellOutput | beginSlide _ | endSlide
  | printLine _ => true
  | _ => false

def Event.call? : Event → Option TerminalCall
  | terminal c => some c
  | _ => none

/-- A call whose saved windows are counted from the last one before; the screen stays the screen. -/
def TerminalCall.countedFrom (last : Window) : TerminalCall → TerminalCall
  | copyWindow source target => copyWindow (source - last) (target - last)
  | c => c

theorem TerminalCall.countedFrom_of_isPlain {c : TerminalCall} (hc : c.isPlain = true)
    (last : Window) : c.countedFrom last = c := by
  cases c with
  | copyWindow source target => cases hc
  | _ => rfl

namespace Screen

open Act

/-- The side from which text slides in, if it does. -/
def slideMode (b : Screen) : Option Side := if b.sliding then some b.side else none

/-- The screen apart from its blocks: the row, what is open, how text slides in, and the attributes
that are believed to be on. -/
def withoutBlocks (b : Screen) : Screen :=
  { b with row := topRow, output := false, shellOutput := false, sliding := false, side := .left,
           active := {} }

/-- Screens that differ in their blocks only, but not in the row, the frames and the attributes,
look alike if text slides in on both in the same way. -/
theorem looksLike_of_withoutBlocks {b c : Screen} (h : b.withoutBlocks = c.withoutBlocks)
    (hrow : b.row = c.row) (houtput : b.output = c.output)
    (hshell : b.shellOutput = c.shellOutput) (hactive : b.active = c.active)
    (hmode : b.slideMode = c.slideMode) : LooksLike b c := by
  have hsliding : c.sliding = b.sliding := by
    unfold slideMode at hmode
    rcases hb : b.sliding with - | - <;> rcases hc : c.sliding with - | - <;>
      simp [hb, hc] at hmode ⊢
  refine ⟨c.side, ?_, fun hon => ?_⟩
  · calc c = { c.withoutBlocks with
          row := c.row, output := c.output, shellOutput := c.shellOutput, sliding := c.sliding,
          side := c.side, active := c.active } := rfl
      _ = { b.withoutBlocks with
          row := b.row, output := b.output, shellOutput := b.shellOutput, sliding := b.sliding,
          side := c.side, active := b.active } := by
        rw [h, hrow, houtput, hshell, hsliding, hactive]
      _ = { b with side := c.side } := rfl
  · unfold slideMode at hmode
    rw [hsliding, if_pos hon, if_pos hon] at hmode
    exact (Option.some.inj hmode).symm

/-! ### Blocks -/

/-- Nothing but the blocks changed: the host and the fonts are as they were, no clock was read, and
the screen apart from its blocks is as it was. -/
structure Kept (s u : Stage Screen) : Prop where
  host : u.host = s.host
  included : u.included = s.included
  fonts : u.journal.fonts = s.journal.fonts
  readings : u.journal.readings = s.journal.readings
  surface : u.surface.withoutBlocks = s.surface.withoutBlocks

variable {s u : Stage Screen}

instance : Lasting (Kept s) :=
  ⟨fun _ _ hfonts hreadings h =>
    ⟨h.host, h.included, hfonts.trans h.fonts, hreadings.trans h.readings, h.surface⟩⟩

theorem Kept.style_eq (h : Kept s u) : u.surface.style = s.surface.style :=
  (congrArg Screen.style h.surface : u.surface.withoutBlocks.style = s.surface.withoutBlocks.style)

theorem Kept.typeDelay_eq (h : Kept s u) : u.surface.typeDelay = s.surface.typeDelay :=
  (congrArg Screen.typeDelay h.surface :
    u.surface.withoutBlocks.typeDelay = s.surface.withoutBlocks.typeDelay)

theorem modifySurface_kept {f : Screen → Screen}
    (hf : ∀ b, (f b).withoutBlocks = b.withoutBlocks) : Ends (Kept s) Any Any (modifySurface f) :=
  .modify fun u h => ⟨h.host, h.included, h.fonts, h.readings, (hf u.surface).trans h.surface⟩

theorem perform_kept {op : Op} (hop : op.isBlock = true) : Keeps (Kept s) (perform op) := by
  have hwriting : Writing (Kept s) Any :=
    Lasting.writing (keeps_iff_ends.2 (modifySurface_kept fun _ => rfl))
      fun _ _ h => ⟨h.host, h.included, h.fonts, h.readings, h.surface⟩
  refine keeps_iff_ends.2 ?_
  cases op with
  | beginOutput | beginShellOutput =>
    exact .andThen (hwriting.drawRule _ _) fun _ => modifySurface_kept fun _ => rfl
  | endOutput | endShellOutput =>
    exact .andThen surface_ends fun _ => .ite (fun _ => .andThen (hwriting.drawRule _ _) fun _ =>
      modifySurface_kept fun _ => rfl) fun _ => .pure trivial
  | beginSlide side =>
    exact modifySurface_kept (f := ({ · with sliding := true, side := side })) fun _ => rfl
  | endSlide => exact modifySurface_kept (f := ({ · with sliding := false })) fun _ => rfl
  | printLine t => exact hwriting.drawText _ t
  | _ => cases hop

/-! ### The same page twice -/

/-- The terminal calls among events, with saved windows counted from the last one before. -/
def callsAfter (last : Window) (es : List Event) : List TerminalCall :=
  (es.filterMap Event.call?).map (·.countedFrom last)

theorem callsAfter_append (last : Window) (es fs : List Event) :
    callsAfter last (es ++ fs) = callsAfter last es ++ callsAfter last fs := by
  unfold callsAfter
  rw [List.filterMap_append, List.map_append]

/-- Whether typing goes through does not hang on what is drawn for it. -/
def TypesAlike (h : Host) (d : Delay) : Prop := ∀ i j k,
  (d.typing? (h.draw j 20)).map (h.pauseFault? i) = (d.typing? (h.draw k 20)).map (h.pauseFault? i)

/-- The pauses after the first `j` are refused or not as those after the first `k` are. -/
def WaitsAlike (h : Host) (j k : Nat) : Prop :=
  ∀ i d, h.pauseFault? (j + i) d = h.pauseFault? (k + i) d

/-- The calls made since two points are the same, and so are the numbers of windows saved and of
pauses made since then. -/
structure SameCalls (past past' j k : Journal) : Prop where
  fonts : k.fonts = j.fonts
  readings : k.readings = j.readings
  windows : ∃ n, j.windows = past.windows + n ∧ k.windows = past'.windows + n
  pauses : ∃ n, j.pauses = past.pauses + n ∧ k.pauses = past'.pauses + n
  calls : ∃ es fs, j.events.toList = past.events.toList ++ es ∧
    k.events.toList = past'.events.toList ++ fs ∧
    callsAfter past.windows es = callsAfter past'.windows fs

/-- Two screens on one host on which the same page is shown. -/
structure SamePage (h : Host) (d : Delay) (past past' : Journal) (s t : Stage Screen) : Prop where
  here : s.host = h
  there : t.host = h
  included : t.included = s.included
  looks : LooksLike s.surface t.surface
  typeDelay : s.surface.typeDelay = d
  journal : SameCalls past past' s.journal t.journal

variable {h : Host} {d : Delay} {past past' : Journal} {t : Stage Screen} {α : Type}

theorem SameCalls.noted {j k : Journal} (hjk : SameCalls past past' j k) {e f : Event}
    (hcalls : callsAfter past.windows [e] = callsAfter past'.windows [f]) :
    SameCalls past past' { j with events := j.events.push e }
      { k with events := k.events.push f } := by
  obtain ⟨es, fs, hes, hfs, hsame⟩ := hjk.calls
  refine ⟨hjk.fonts, hjk.readings, hjk.windows, hjk.pauses, es ++ [e], fs ++ [f], ?_, ?_, ?_⟩
  · rw [Array.toList_push, hes, List.append_assoc]
  · rw [Array.toList_push, hfs, List.append_assoc]
  · rw [callsAfter_append, callsAfter_append, hsame, hcalls]

theorem SamePage.noted (hst : SamePage h d past past' s t) {e f : Event}
    (hcalls : callsAfter past.windows [e] = callsAfter past'.windows [f]) :
    SamePage h d past past' (noted s e) (noted t f) :=
  { hst with journal := hst.journal.noted hcalls }

theorem same_note {e f : Event}
    (hcalls : callsAfter past.windows [e] = callsAfter past'.windows [f]) :
    Parallel (SamePage h d past past') Eq (note e) (note f) :=
  .modify fun _ _ hst => hst.noted hcalls

/-- Two calls that both terminals refuse or both accept. -/
theorem same_calls {c c' : TerminalCall} (hrejection : h.rejection? c = h.rejection? c')
    (hcalls : c.countedFrom past.windows = c'.countedFrom past'.windows) :
    Parallel (SamePage h d past past') Eq (call c) (call c') := by
  intro s t hst
  rw [call_eq, call_eq, hst.here, hst.there, hrejection]
  refine (?_ : Parallel _ _ _ _) _ _ (hst.noted (congrArg ([·]) hcalls))
  split
  · exact .throw _
  · exact .pure rfl

theorem same_call {c : TerminalCall}
    (hcalls : c.countedFrom past.windows = c.countedFrom past'.windows) :
    Parallel (SamePage h d past past') Eq (call c) (call c) :=
  same_calls rfl hcalls

theorem same_tolerant {c : TerminalCall}
    (hcalls : c.countedFrom past.windows = c.countedFrom past'.windows) :
    Parallel (SamePage h d past past') Eq (tolerant (call c)) (tolerant (call c)) := by
  refine .tryCatch (same_call hcalls) fun fault => ?_
  split
  · exact .pure rfl
  · exact .throw _

theorem same_drawAt (y x : Int) (text : Text) :
    Parallel (SamePage h d past past') Eq (drawAt y x text) (drawAt y x text) := by
  refine Twins.surfaces fun s t hst => ?_
  obtain ⟨side, hside, -⟩ := hst.looks
  rw [hside]
  exact .ite (.pure rfl) (.ite (.pure rfl) (same_tolerant rfl))

theorem SamePage.pause_alike (hst : SamePage h d past past' s t)
    (hwaits : WaitsAlike h past.pauses past'.pauses) (e : Delay) :
    h.pauseFault? s.journal.pauses e = h.pauseFault? t.journal.pauses e := by
  obtain ⟨n, hs, ht⟩ := hst.journal.pauses
  rw [hs, ht]
  exact hwaits n e

/-- Two pauses that are both refused for one reason or both go by. -/
theorem matched_pause (hinterrupt : h.interruptAt = none) {e f : Delay}
    (hst : SamePage h d past past' s t)
    (hfault : h.pauseFault? s.journal.pauses e = h.pauseFault? t.journal.pauses f) :
    Matched (SamePage h d past past') Eq (pause e s) (pause f t) := by
  have hpausing : SamePage h d past past' (pausing e s) (pausing f t) :=
    hst.noted (e := .pause e) (f := .pause f) rfl
  have hpaused : SamePage h d past past' (paused e s) (paused f t) := by
    obtain ⟨n, hs, ht⟩ := hst.journal.pauses
    exact { hpausing with journal := { hpausing.journal with
      pauses := ⟨n + 1, congrArg (· + 1) hs, congrArg (· + 1) ht⟩ } }
  rw [pause_eq, pause_eq, hst.here, hst.there, hinterrupt, hfault]
  rcases h.pauseFault? t.journal.pauses f with - | fault
  · exact .ok rfl hpaused
  · exact .error fault hpausing

theorem same_pause (hinterrupt : h.interruptAt = none)
    (hwaits : WaitsAlike h past.pauses past'.pauses) (e : Delay) :
    Parallel (SamePage h d past past') Eq (pause e) (pause e) :=
  fun _ _ hst => matched_pause hinterrupt hst (hst.pause_alike hwaits e)

theorem same_typePause (hinterrupt : h.interruptAt = none)
    (hwaits : WaitsAlike h past.pauses past'.pauses) (htyping : TypesAlike h d) :
    Parallel (SamePage h d past past') Eq (typePause d) (typePause d) := by
  intro s t hst
  let drawn (s : Stage Screen) : Stage Screen :=
    { s with journal := { s.journal with draws := s.journal.draws + 1 } }
  have hdrawn : SamePage h d past past' (drawn s) (drawn t) :=
    { hst with journal := { hst.journal with } }
  have hrun (s : Stage Screen) :
      typePause d s = pauseOf (d.typing? (s.host.draw s.journal.draws 20)) (drawn s) := rfl
  have halike := htyping s.journal.pauses s.journal.draws t.journal.draws
  rw [hrun s, hrun t, hst.here, hst.there]
  rcases hs : d.typing? (h.draw s.journal.draws 20) with - | e <;>
    rcases ht : d.typing? (h.draw t.journal.draws 20) with - | f <;>
    rw [hs, ht] at halike
  · exact .error _ hdrawn
  · cases halike
  · cases halike
  · exact matched_pause hinterrupt hdrawn
      ((Option.some.inj halike).trans (hst.pause_alike hwaits f))

/-- A window that was saved as the `n`-th since each of the two points. -/
def SameWindow (past past' : Journal) (v w : Window) : Prop :=
  ∃ n, v = past.windows + n ∧ w = past'.windows + n

theorem same_saveScreen (rows columns : Int) :
    Parallel (SamePage h d past past') (SameWindow past past') (saveScreen rows columns)
      (saveScreen rows columns) := by
  refine .andThen (same_call rfl) fun _ => .get_bind fun s t hst => ?_
  obtain ⟨n, hs, ht⟩ := hst.journal.windows
  have hwindow : SameWindow past past' (s.journal.windows + 1) (t.journal.windows + 1) :=
    ⟨n + 1, by rw [hs, Nat.add_assoc], by rw [ht, Nat.add_assoc]⟩
  have hcopy : Parallel (SamePage h d past past') Eq
      (call (.copyWindow 0 (s.journal.windows + 1)))
      (call (.copyWindow 0 (t.journal.windows + 1))) := by
    refine same_calls rfl ?_
    simp only [TerminalCall.countedFrom, hs, ht, Nat.add_assoc, Nat.add_sub_cancel_left,
      Nat.zero_sub]
  refine (?_ : Parallel _ _ _ _) s t hst
  exact .andThen (.modify fun u v huv =>
    { huv with journal := { huv.journal with windows := hwindow } }) fun _ =>
      .andThen hcopy fun _ => .pure hwindow

theorem same_copyWindow {v w : Window} (hw : SameWindow past past' v w) :
    Parallel (SamePage h d past past') Eq (call (.copyWindow v 0)) (call (.copyWindow w 0)) := by
  obtain ⟨n, rfl, rfl⟩ := hw
  refine same_calls rfl ?_
  simp only [TerminalCall.countedFrom, Nat.add_sub_cancel_left, Nat.zero_sub]

theorem same_warn (w : Warning) : Parallel (SamePage h d past past') Eq (warn w) (warn w) :=
  .modify fun _ _ hst => { hst with journal := { hst.journal with } }

theorem same_render (text font : Text) (width : Int) :
    Parallel (SamePage h d past past') Eq (HugeText.render text font width)
      (HugeText.render text font width) := by
  have hchoose (width : Nat) : Parallel (SamePage h d past past') Eq
      (HugeText.chooseFont font width) (HugeText.chooseFont font width) := by
    refine .get_bind fun s t hst => ?_
    rw [hst.journal.fonts, hst.here, hst.there]
    refine (?_ : Parallel _ _ _ _) s t hst
    split
    · exact .pure rfl
    · exact .iteThen (same_warn _) (.andThen (.modify fun u v huv =>
        { huv with journal := { huv.journal with fonts := by rw [huv.journal.fonts] } }) fun _ =>
          .pure rfl)
  refine .andThen (hchoose _) fun used => .get_bind fun s t hst => ?_
  rw [hst.here, hst.there]
  refine (?_ : Parallel _ _ _ _) s t hst
  exact .iteThen (.throw _) (.pure rfl)

theorem same_runAttached (command : Text) :
    Parallel (SamePage h d past past') Eq (Command.runAttached command)
      (Command.runAttached command) := by
  have houtcome : Parallel (SamePage h d past past') Eq (Command.outcome command)
      (Command.outcome command) := by
    refine .get_bind fun s t hst => ?_
    rw [hst.here, hst.there]
    refine (?_ : Parallel _ _ _ _) s t hst
    exact .iteThen (.throw _) (.pure rfl)
  refine .andThen (same_note rfl) fun _ => .andThen houtcome fun outcome => ?_
  rcases outcome with reason | ⟨output, errors, status⟩
  · exact .andThen (same_warn _) fun _ => .pure rfl
  · exact .pure rfl

/-- Both clocks were read equally often, and show the same. -/
theorem same_readClock :
    Parallel (SamePage h d past past') Eq (readClock : Act Screen _) readClock := by
  intro s t hst
  have hclock : s.host.clockAt s.journal.readings = t.host.clockAt t.journal.readings := by
    rw [hst.here, hst.there, hst.journal.readings]
  exact .ok hclock { hst with journal := { hst.journal with
    readings := congrArg (· + 1) hst.journal.readings } }

/-- A change of the surface by which screens that look alike go on looking alike. -/
theorem same_modifySurface {f : Screen → Screen} (htype : ∀ b, (f b).typeDelay = b.typeDelay)
    (hlooks : ∀ b c, LooksLike b c → LooksLike (f b) (f c)) :
    Parallel (SamePage h d past past') Eq (modifySurface f) (modifySurface f) :=
  .modify fun s _ hst =>
    { hst with looks := hlooks _ _ hst.looks, typeDelay := (htype s.surface).trans hst.typeDelay }

theorem same_twins (hinterrupt : h.interruptAt = none)
    (hwaits : WaitsAlike h past.pauses past'.pauses) (htyping : TypesAlike h d) :
    PageTwins (SamePage h d past past') (SameWindow past past') d where
  looks hst := hst.looks
  typeDelay hst := hst.typeDelay
  change {f} hf := by
    refine same_modifySurface hf.typeDelay ?_
    rintro b - ⟨x, rfl, hside⟩
    have hstays : f b = { f b with side := b.side } := hf.side b b.side
    exact ⟨x, hf.side b x, fun hon =>
      (hside ((hf.sliding b).symm.trans hon)).trans (by rw [hstays])⟩
  drawAt := same_drawAt
  move y x := same_tolerant rfl
  call c hc := same_call (by rw [c.countedFrom_of_isPlain hc, c.countedFrom_of_isPlain hc])
  save := same_saveScreen
  copy _ _ hw := same_copyWindow hw
  pause := same_pause hinterrupt hwaits
  typePause := same_typePause hinterrupt hwaits htyping
  beginSlide side := by
    refine same_modifySurface (fun _ => rfl) ?_
    rintro b - ⟨x, rfl, -⟩
    exact ⟨side, rfl, fun _ => rfl⟩
  endSlide := by
    refine same_modifySurface (fun _ => rfl) ?_
    rintro b - ⟨x, rfl, -⟩
    exact ⟨x, rfl, nofun⟩
  warn := same_warn
  render := same_render
  attached := same_runAttached

/-! ### Lines of a page -/

theorem table_no_newPage : ∀ entry ∈ Directive.table, ∀ op, entry.2 = .ask op → ∀ rest,
    op rest ≠ .newPage := by
  simp [Directive.table]

theorem includedLines_same (path : Text) :
    Parallel (SamePage h d past past') Eq (Directive.includedLines path : Act Screen (List Text))
      (Directive.includedLines path) := by
  have hread : Parallel (SamePage h d past past') Eq (readFile path : Act Screen _)
      (readFile path) := by
    refine .get_bind fun s t hst => ?_
    rw [hst.here, hst.there]
    exact .ok rfl hst
  refine .andThen hread fun content => ?_
  rcases content with (e | -) | source
  · exact .andThen (same_warn _) fun _ => .pure rfl
  · exact .throw _
  · exact .pure rfl

/-- Shows lines of a page one after the other. -/
def showLines (lines : List Text) : Act Screen Unit := lines.forM fun line => do
  let _ ← Directive.dispatch (some line)

/-- What is seen of lines that are shown: the fault, if they end in one, and the terminal calls,
with saved windows counted from before. -/
def shown (s : Stage Screen) (lines : List Text) : Option Fault × List TerminalCall :=
  let ended := showLines lines s
  (fault? ended,
    callsAfter s.journal.windows ((state ended).journal.events.toList.drop s.journal.events.size))

section Lines

variable (hinterrupt : h.interruptAt = none) (hwaits : WaitsAlike h past.pauses past'.pauses)
  (htyping : TypesAlike h d)
include hinterrupt hwaits htyping

theorem perform_same {op : Op} (hop : op ≠ .newPage) :
    Parallel (SamePage h d past past') Eq (Surface.perform op : Act Screen Unit)
      (Surface.perform op) := (same_twins hinterrupt hwaits htyping).perform hop

theorem printLines_same (lines : List Text) :
    Parallel (SamePage h d past past') Eq (Directive.printLines lines : Act Screen Unit)
      (Directive.printLines lines) := by
  induction lines with
  | nil => exact .pure rfl
  | cons line rest ih =>
    exact .andThen (perform_same hinterrupt hwaits htyping (by simp)) fun _ => ih

theorem obey_same {m rest : Text} {directive : Directive}
    (hmem : (m, directive) ∈ Directive.table) :
    Parallel (SamePage h d past past') Eq (directive.obey rest : Act Screen Bool)
      (directive.obey rest) := by
  have hperform (op : Op) (answer : Bool) (hop : op ≠ .newPage) :
      Parallel (SamePage h d past past') Eq
        (do Surface.perform op; return answer : Act Screen Bool)
        (do Surface.perform op; return answer) :=
    .andThen (perform_same hinterrupt hwaits htyping hop) fun _ => .pure rfl
  cases directive with
  | comment => exact .pure rfl
  | ask op => exact hperform (op rest) false (table_no_newPage _ hmem op rfl rest)
  | pause => exact hperform .wait true (by simp)
  | sleep =>
    unfold Directive.obey
    rcases Text.leadingSeconds rest with fault | n
    · exact .throw _
    · exact hperform (.sleep (.whole n)) false (by simp)
  | date =>
    exact .andThen same_readClock fun moment => hperform (.date _) false (by simp)
  | includeFile =>
    refine .andThen (.modify fun s t hst => { hst with included := rfl }) fun _ => ?_
    refine .andThen (perform_same hinterrupt hwaits htyping (by simp)) fun _ => ?_
    refine .andThen (perform_same hinterrupt hwaits htyping (by simp)) fun _ => ?_
    refine .andThen (includedLines_same _) fun lines => ?_
    exact .andThen (printLines_same hinterrupt hwaits htyping lines) fun _ =>
      hperform .endOutput false (by simp)

theorem dispatch_same (line : Text) :
    Parallel (SamePage h d past past') Eq (Directive.dispatch (some line) : Act Screen Bool)
      (Directive.dispatch (some line)) := by
  simp only [Directive.dispatch, Directive.dispatchBy]
  rcases hfind : Directive.find? Directive.table line with - | ⟨m, directive, rest⟩
  · exact .andThen (perform_same hinterrupt hwaits htyping (by simp)) fun _ => .pure rfl
  · exact obey_same hinterrupt hwaits htyping (Directive.find?_eq_some hfind).1

theorem showLines_same (lines : List Text) :
    Parallel (SamePage h d past past') Eq (showLines lines) (showLines lines) :=
  .forM lines fun line => .andThen (dispatch_same hinterrupt hwaits htyping line) fun _ => .pure rfl

end Lines

/-! ### The next page -/

theorem performed_kept {ops : List Op} (hops : ∀ op ∈ ops, op.isBlock = true) (hu : Kept s u) :
    Kept s (performed u ops) := by
  induction ops generalizing u with
  | nil => exact hu
  | cons op ops ih =>
    obtain ⟨hop, hrest⟩ := List.forall_mem_cons.1 hops
    exact ih hrest (perform_kept hop u hu)

theorem SameCalls.drop_eq {j k : Journal} (h : SameCalls past past' j k) :
    callsAfter past.windows (j.events.toList.drop past.events.size) =
      callsAfter past'.windows (k.events.toList.drop past'.events.size) := by
  obtain ⟨es, fs, hes, hfs, hsame⟩ := h.calls
  have hdrop (p : Journal) (es : List Event) :
      (p.events.toList ++ es).drop p.events.size = es := List.drop_left
  rw [hes, hfs, hdrop, hdrop]
  exact hsame

theorem shown_eq_of_samePage (hst : SamePage h d s.journal t.journal s t)
    (hinterrupt : h.interruptAt = none)
    (hwaits : WaitsAlike h s.journal.pauses t.journal.pauses) (htyping : TypesAlike h d)
    (lines : List Text) : shown s lines = shown t lines := by
  have hlines := showLines_same hinterrupt hwaits htyping lines s t hst
  have hcalls := hlines.state_related.journal.drop_eq
  have hfault : fault? (showLines lines s) = fault? (showLines lines t) := by
    generalize showLines lines s = x at hlines
    generalize showLines lines t = y at hlines
    cases hlines <;> rfl
  exact Prod.ext hfault hcalls

theorem performed_newPage (s : Stage Screen) : performed s [.newPage] =
    { noted s (.terminal .clear) with surface := s.surface.atTop s.host } :=
  congrArg state (perform_newPage s)

/-- A new page takes down everything that blocks left on the page before, but not the way that text
slides in. -/
theorem samePage_newPage {a b : Stage Screen} (ha : Kept s a) (hb : Kept s b)
    (hactive : a.surface.active = b.surface.active)
    (hmode : a.surface.slideMode = b.surface.slideMode) :
    SamePage s.host s.surface.typeDelay (performed a [.newPage]).journal
      (performed b [.newPage]).journal (performed a [.newPage]) (performed b [.newPage]) := by
  have hsurface : a.surface.withoutBlocks = b.surface.withoutBlocks :=
    ha.surface.trans hb.surface.symm
  have hnew (c : Stage Screen) : (c.surface.atTop c.host).withoutBlocks =
      { c.surface.withoutBlocks with rows := c.host.rows, columns := c.host.columns } := rfl
  rw [performed_newPage, performed_newPage]
  have hcalls (p q : Journal) (hfonts : q.fonts = p.fonts) (hreadings : q.readings = p.readings) :
      SameCalls p q p q :=
    ⟨hfonts, hreadings, ⟨0, rfl, rfl⟩, ⟨0, rfl, rfl⟩,
      [], [], (List.append_nil _).symm, (List.append_nil _).symm, rfl⟩
  refine ⟨ha.host, hb.host, hb.included.trans ha.included.symm, ?_, ?_,
    hcalls _ _ (hb.fonts.trans ha.fonts.symm) (hb.readings.trans ha.readings.symm)⟩
  · refine looksLike_of_withoutBlocks ?_ rfl rfl rfl hactive hmode
    rw [hnew, hnew, hsurface, ha.host, hb.host]
  · exact ha.typeDelay_eq

/-- Two histories of blocks on the same screen, then a new page: whatever they left open, every list
of lines is then shown with the same calls and ends in the same way, if text slides in after both in
the same way or after neither. -/
theorem next_page_same {begun : Stage Screen} {home : Host} {typeDelay slideDelay : Delay}
    {font : Text} (hstart : begun.surface = start home typeDelay slideDelay font)
    (hpen : begun.journal.pen = {}) (hpatient : Patient begun.host.refuses)
    (hreached : Reached begun s) (hinterrupt : s.host.interruptAt = none)
    (htyping : TypesAlike s.host s.surface.typeDelay) {first second : List Op}
    (hfirst : ∀ op ∈ first, op.isBlock = true) (hsecond : ∀ op ∈ second, op.isBlock = true)
    (hmode : (performed s first).surface.slideMode = (performed s second).surface.slideMode)
    (hwaits : WaitsAlike s.host (performed s first).journal.pauses
      (performed s second).journal.pauses) (lines : List Text) :
    shown (performed s (first ++ [.newPage])) lines =
      shown (performed s (second ++ [.newPage])) lines := by
  have hbegun : (ink begun).Tracked := tracked_start hstart hpen hpatient
  have hkept {ops : List Op} (hops : ∀ op ∈ ops, op.isBlock = true) : Kept s (performed s ops) :=
    performed_kept hops ⟨rfl, rfl, rfl, rfl, rfl⟩
  -- The attributes believed to be on are those of the style, which blocks leave alone.
  have hactive {ops : List Op} (hops : ∀ op ∈ ops, op.isBlock = true) :
      (performed s ops).surface.active = s.surface.style :=
    ((hreached.performed ops).inStep hbegun).synced.trans (hkept hops).style_eq
  have hpage := samePage_newPage (hkept hfirst) (hkept hsecond)
    ((hactive hfirst).trans (hactive hsecond).symm) hmode
  have happend (ops : List Op) :
      performed s (ops ++ [.newPage]) = performed (performed s ops) [.newPage] :=
    List.foldl_append
  have hpauses (t : Stage Screen) :
      (performed t [.newPage]).journal.pauses = t.journal.pauses := by
    rw [performed_newPage]
    rfl
  rw [happend, happend]
  rw [← hpauses (performed s first), ← hpauses (performed s second)] at hwaits
  exact shown_eq_of_samePage hpage hinterrupt hwaits htyping lines

/-- After an output block with a line, and after a shell block, both left open. -/
theorem next_page_same_open_frames :
    let begun : Stage Screen :=
      ⟨Host.quiet, {}, start Host.quiet (.whole 0) (.whole 0) "standard", none⟩
    let opened := state (openTerminal begun)
    let first : List Op := [.beginOutput, .printLine (some "ls")]
    let second : List Op := [.beginShellOutput]
    Reached begun opened ∧ (∀ op ∈ first, op.isBlock = true) ∧
      (∀ op ∈ second, op.isBlock = true) ∧
      (performed opened first).surface.framed = true ∧
      shown (performed opened (first ++ [.newPage])) ["a"] = (none, [.drawText 5 3 "a"]) ∧
      shown (performed opened (second ++ [.newPage])) ["a"] = (none, [.drawText 5 3 "a"]) := by
  intro begun opened first second
  have hfirst : ∀ op ∈ first, op.isBlock = true := by simp [first, Op.isBlock]
  have hsecond : ∀ op ∈ second, op.isBlock = true := by simp [second, Op.isBlock]
  have hframed : (performed opened first).surface.framed = true := by decide +kernel
  have hmode : (performed opened first).surface.slideMode =
      (performed opened second).surface.slideMode := by decide +kernel
  have hwaits (j k : Nat) : WaitsAlike opened.host j k := fun _ _ => rfl
  have hsame := @next_page_same opened begun Host.quiet (.whole 0) (.whole 0) "standard" rfl rfl
    (fun _ => nofun) .opened rfl (fun _ _ _ => rfl) first second hfirst hsecond hmode
    (hwaits _ _) ["a"]
  have hshown : shown (performed opened (second ++ [.newPage])) ["a"] =
      (none, [.drawText 5 3 "a"]) := by decide +kernel
  exact ⟨.opened, hfirst, hsecond, hframed, hsame.trans hshown, hshown⟩

/-- A text that slides in from the left goes on sliding in on the next page. -/
theorem next_page_slides :
    let begun : Stage Screen :=
      ⟨Host.quiet, {}, start Host.quiet (.whole 0) (.whole 0) "standard", none⟩
    let opened := state (openTerminal begun)
    shown (performed opened [.beginSlide .left, .newPage]) ["ab"] =
        (none, [.drawText 5 3 "b", .refresh, .drawText 5 3 "ab", .refresh]) ∧
      shown (performed opened [.newPage]) ["ab"] = (none, [.drawText 5 3 "ab"]) := by
  decide +kernel

end Screen

end SlideDeck
