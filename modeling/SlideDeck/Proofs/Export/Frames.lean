import SlideDeck.Proofs.Export.FramedText

/-!
# Frames on a screen and in a handout

A screen has two kinds of frame, which are open or not on their own; an end that comes too early
does nothing, and a new page starts without frames. A handout has one frame for both kinds; any end
closes it, and a new page leaves it open. So the two go together just as long as every end comes when
the frame of its kind is the only one open, and every page turns when none is.
-/

namespace SlideDeck

open Surface Outcome

/-- Operations that open or end a frame, print a text, or turn the page. -/
def Op.isFrame : Op → Bool
  | newPage | beginOutput | endOutput | beginShellOutput | endShellOutput => true
  | printLine t => t.isSome
  | _ => false

def Op.endsFrame : Op → Bool
  | endOutput | endShellOutput => true
  | _ => false

/-- The frames that are open on a screen. -/
structure Frames where
  output : Bool
  shell : Bool
deriving DecidableEq

/-- Whether a handout is framed after an operation. -/
def Op.leavesFramed (framed : Bool) : Op → Bool
  | beginOutput | beginShellOutput => true
  | endOutput | endShellOutput => false
  | _ => framed

namespace Frames

def framed (f : Frames) : Bool := f.output || f.shell

def after (f : Frames) : Op → Frames
  | .newPage => ⟨false, false⟩
  | .beginOutput => { f with output := true }
  | .beginShellOutput => { f with shell := true }
  | .endOutput => { f with output := false }
  | .endShellOutput => { f with shell := false }
  | _ => f

/-- Whether an operation closes a frame. -/
def closes (f : Frames) : Op → Bool
  | .endOutput => f.output
  | .endShellOutput => f.shell
  | _ => false

/-- The frames that are to be open when an operation comes: just that which it ends, none for a new
page, and any for all others. -/
def expected (f : Frames) : Op → Frames
  | .endOutput => ⟨true, false⟩
  | .endShellOutput => ⟨false, true⟩
  | .newPage => ⟨false, false⟩
  | _ => f

def Fits (f : Frames) (op : Op) : Prop := f = f.expected op

instance (f : Frames) (op : Op) : Decidable (f.Fits op) := inferInstanceAs (Decidable (_ = _))

/-- Every operation fits the frames that are open when it comes. -/
def Orderly (f : Frames) : List Op → Prop
  | [] => True
  | op :: ops => f.Fits op ∧ Orderly (f.after op) ops

instance decidableOrderly (f : Frames) : (ops : List Op) → Decidable (f.Orderly ops)
  | [] => isTrue trivial
  | op :: ops =>
    have := decidableOrderly (f.after op) ops
    inferInstanceAs (Decidable (f.Fits op ∧ (f.after op).Orderly ops))

/-- An operation fits just when a handout is left framed as a screen is, and an end that a handout
writes closes a frame on the screen. -/
theorem fits_iff {f : Frames} {op : Op} (hop : op.isFrame = true) :
    f.Fits op ↔ op.leavesFramed f.framed = (f.after op).framed ∧
      (op.endsFrame = true → f.closes op = true) := by
  obtain ⟨output, shell⟩ := f
  cases op with
  | newPage | beginOutput | beginShellOutput | endOutput | endShellOutput =>
    cases output <;> cases shell <;>
      simp [Fits, expected, after, closes, framed, Op.leavesFramed, Op.endsFrame]
  | printLine t => simp [Fits, expected, after, framed, Op.leavesFramed, Op.endsFrame]
  | _ => cases hop

end Frames

namespace Screen

open Act

variable {s : Stage Screen}

def frames (b : Screen) : Frames := ⟨b.output, b.shellOutput⟩

/-- No row of the screen is longer than memory holds, now or on the next page. -/
def Bounded (s : Stage Screen) : Prop :=
  s.surface.columns ≤ memoryLimit ∧ s.host.columns ≤ memoryLimit

instance (s : Stage Screen) : Decidable (Bounded s) := inferInstanceAs (Decidable (_ ∧ _))

/-- The rule over or under a frame, as far as it fits on the screen. -/
def ruleMarks (s : Stage Screen) (left right : Text) : List Mark :=
  let line := Text.rule (s.surface.columns - 8) '-'
  s.surface.clip (s.journal.pen.textMarks s.surface.row 3 (left ++ line ++ right))

theorem drawRule_ok {left right : Text} (hplain : '\x00' ∉ left ++ right) (h : Bounded s) :
    Draws (drawRule left right) s { s.surface with row := s.surface.row + 1 }
      (ruleMarks s left right) := by
  have hwidth : s.surface.columns - indent * 2 - 2 = s.surface.columns - 8 := by
    unfold indent
    omega
  have hcopies : copies (s.surface.columns - indent * 2 - 2) '-' s =
      .ok (Text.rule (s.surface.columns - 8) '-') s := by
    rw [hwidth]
    exact copies_ok '-' (by have := h.1; omega)
  have hnul : '\x00' ∉ left ++ Text.rule (s.surface.columns - 8) '-' ++ right := by
    simp only [List.mem_append, not_or] at hplain ⊢
    exact ⟨⟨hplain.1, fun h => nomatch List.eq_of_mem_replicate h⟩, hplain.2⟩
  obtain ⟨t, hdraw, ht⟩ :=
    drawAt_clips (s := s) (Host.takes_of_not_mem hnul) s.surface.row indent
  refine ⟨{ t with surface := { t.surface with row := t.surface.row + 1 } }, ?_, ht.host, ht.pen,
    ?_, ht.marks⟩
  · refine (Outcome.bind_ok (t := s) rfl).trans ((Outcome.bind_ok hcopies).trans ?_)
    exact (Outcome.bind_ok hdraw).trans rfl
  · rw [ht.surface]

/-- A rule closes a frame: it is drawn, and the next row is below it. -/
def ClosesFrame (s t : Stage Screen) : Prop :=
  t.surface.row = s.surface.row + 1 ∧ t.journal.marks = s.journal.marks ++ ruleMarks s "`" "'"

theorem not_closesFrame_self : ¬ ClosesFrame s s := fun h => by
  have hrow := h.1
  omega

/-- A rule is drawn, and the frames change. -/
theorem rule_ok {left right : Text} (hplain : '\x00' ∉ left ++ right) (f : Screen → Screen)
    (h : Bounded s) :
    Draws (do drawRule left right; modifySurface f) s
      (f { s.surface with row := s.surface.row + 1 }) (ruleMarks s left right ++ []) := by
  refine (drawRule_ok hplain h).bind fun t ht => ?_
  rw [← ht.surface]
  exact draws_modifySurface f

/-- The host, the frames and the width stay. -/
structure FramesKept (s u : Stage Screen) : Prop where
  host : u.host = s.host
  frames : u.surface.frames = s.surface.frames
  columns : u.surface.columns = s.surface.columns

instance : Lasting (FramesKept s) := ⟨fun _ _ _ _ h => ⟨h.host, h.frames, h.columns⟩⟩

theorem printLine_framesKept (t : Option Text) :
    FramesKept s (state (perform (.printLine t) s)) := by
  have hrow : Outcome.Keeps (FramesKept s) nextRow :=
    .modify fun _ h => ⟨h.host, h.frames, h.columns⟩
  have hwriting : Writing (FramesKept s) Any :=
    Lasting.writing hrow fun _ _ h => ⟨h.host, h.frames, h.columns⟩
  exact keeps_iff_ends.2 (hwriting.drawText .left t) s ⟨rfl, rfl, rfl⟩

theorem Bounded.of_drawn {b : Screen} {ms : List Mark} {t : Stage Screen} (h : Bounded s)
    (ht : Drawn s b ms t) (hcolumns : b.columns = s.surface.columns) : Bounded t := by
  unfold Bounded
  rw [ht.surface, ht.host, hcolumns]
  exact h

theorem beginning_frames (f : Screen → Screen) (hcolumns : ∀ b, (f b).columns = b.columns)
    (h : Bounded s) :
    let s' := state ((do drawRule "." "."; modifySurface f : Act Screen Unit) s)
    s'.surface = f { s.surface with row := s.surface.row + 1 } ∧ Bounded s' := by
  obtain ⟨t, hrun, ht⟩ := rule_ok (show '\x00' ∉ ("." ++ "." : Text) by decide) f h
  rw [hrun]
  exact ⟨ht.surface, h.of_drawn ht (hcolumns _)⟩

/-- An end draws a rule if its frame is open, and else does nothing at all. -/
theorem ending_frames (isOpen : Bool) (f : Screen → Screen)
    (hcolumns : ∀ b, (f b).columns = b.columns) (hrow : ∀ b, (f b).row = b.row) (h : Bounded s) :
    let s' := state ((if isOpen then do drawRule "`" "'"; modifySurface f else pure () :
      Act Screen Unit) s)
    s'.surface =
        (if isOpen then f { s.surface with row := s.surface.row + 1 } else s.surface) ∧
      Bounded s' ∧ (ClosesFrame s s' ↔ isOpen = true) := by
  cases isOpen with
  | false => exact ⟨rfl, h, fun hclosed => absurd hclosed not_closesFrame_self, nofun⟩
  | true =>
    obtain ⟨t, hrun, ht⟩ := rule_ok (show '\x00' ∉ ("`" ++ "'" : Text) by decide) f h
    rw [if_pos rfl, if_pos rfl, hrun]
    have hmarks : t.journal.marks = s.journal.marks ++ ruleMarks s "`" "'" := by
      rw [ht.marks, List.append_nil]
    have hclosed : ClosesFrame s t := ⟨by rw [ht.surface, hrow], hmarks⟩
    exact ⟨ht.surface, h.of_drawn ht (hcolumns _), fun _ => rfl, fun _ => hclosed⟩

/-- What an operation does to the frames of a screen, and when it draws a rule to close one. -/
theorem perform_frames {op : Op} (hop : op.isFrame = true) (h : Bounded s) :
    let s' := state (perform op s)
    s'.surface.frames = s.surface.frames.after op ∧ Bounded s' ∧
      (op.endsFrame = true → (ClosesFrame s s' ↔ s.surface.frames.closes op = true)) := by
  cases op with
  | newPage =>
    rw [perform_newPage]
    exact ⟨rfl, ⟨h.2, h.2⟩, nofun⟩
  | printLine t =>
    have hkept := printLine_framesKept (s := s) t
    refine ⟨hkept.frames, ?_, nofun⟩
    unfold Bounded
    rw [hkept.host, hkept.columns]
    exact h
  | beginOutput =>
    obtain ⟨hsurface, hbounded⟩ := beginning_frames ({ · with output := true }) (fun _ => rfl) h
    exact ⟨congrArg frames hsurface, hbounded, nofun⟩
  | beginShellOutput =>
    obtain ⟨hsurface, hbounded⟩ :=
      beginning_frames ({ · with shellOutput := true }) (fun _ => rfl) h
    exact ⟨congrArg frames hsurface, hbounded, nofun⟩
  | endOutput =>
    obtain ⟨hsurface, hbounded, hclosed⟩ := ending_frames s.surface.output
      ({ · with output := false }) (fun _ => rfl) (fun _ => rfl) h
    refine ⟨(congrArg frames hsurface).trans ?_, hbounded, fun _ => hclosed⟩
    rcases hopen : s.surface.output <;> simp [frames, Frames.after, hopen]
  | endShellOutput =>
    obtain ⟨hsurface, hbounded, hclosed⟩ := ending_frames s.surface.shellOutput
      ({ · with shellOutput := false }) (fun _ => rfl) (fun _ => rfl) h
    refine ⟨(congrArg frames hsurface).trans ?_, hbounded, fun _ => hclosed⟩
    rcases hopen : s.surface.shellOutput <;> simp [frames, Frames.after, hopen]
  | _ => cases hop

end Screen

namespace Handout

open Export

/-- The rule that closes a frame is written. -/
def ClosesFrame (s t : Stage Handout) : Prop :=
  t.surface.out.written.toList = s.surface.out.written.toList ++ [closingRule]

/-- The lines of a text are written, behind bars or not. -/
def Prints (barred : Bool) (text : Text) (s t : Stage Handout) : Prop :=
  t.surface.out.written.toList = s.surface.out.written.toList ++
    (Layout.wrapText s.surface.width (stripMarkup text)).map (Handout.barred barred)

variable {clean : Prop} {place : Place} {s : Stage Handout}

/-- What an operation does to the frame of a handout, and what it writes. -/
theorem perform_frame {op : Op} (hop : op.isFrame = true) (h : WritesTo clean place s) :
    let s' := state (perform op s)
    s'.surface.framed = op.leavesFramed s.surface.framed ∧ WritesTo clean place s' ∧
      (op.endsFrame = true → ClosesFrame s s') ∧
      ∀ text, op = .printLine (some text) → Prints s.surface.framed text s s' := by
  have hpush {t : Stage Handout} {line : Text}
      (ht : t.surface.out = s.surface.out.push line) :
      t.surface.out.written.toList = s.surface.out.written.toList ++ [line] := by
    rw [ht]
    exact Array.toList_push
  cases op with
  | newPage =>
    obtain ⟨t, hrun, ht, hsurface⟩ := write_ok (Text.rule 44 '-') h
    have hperform : perform .newPage s = .ok () t := hrun
    rw [hperform]
    exact ⟨(congrArg framed hsurface : t.surface.framed = _), ht, nofun, nofun⟩
  | printLine t =>
    obtain ⟨text, rfl⟩ := Option.isSome_iff_exists.1 hop
    obtain ⟨t, hrun, ht, hsurface, hwritten⟩ := printLine_ok text h
    rw [hrun]
    refine ⟨(congrArg framed hsurface : t.surface.framed = _), ht, nofun, fun text' htext => ?_⟩
    cases htext
    exact hwritten
  | beginOutput | beginShellOutput =>
    obtain ⟨t, hrun, ht, hsurface⟩ := openFrame_ok h
    rw [perform, hrun]
    exact ⟨congrArg framed hsurface, ht, nofun, nofun⟩
  | endOutput | endShellOutput =>
    obtain ⟨t, hrun, ht, hsurface⟩ := closeFrame_ok h
    rw [perform, hrun]
    exact ⟨congrArg framed hsurface, ht, fun _ => hpush (congrArg out hsurface), nofun⟩
  | _ => cases hop

end Handout

/-! ### Side by side -/

/-- An operation on a screen and on a handout treats the frame alike: afterwards both are framed or
neither is, a text is written behind bars just when the screen is framed, and an end writes a rule
just when the screen draws one. -/
structure SameFrame (op : Op) (s s' : Stage Screen) (t t' : Stage Handout) : Prop where
  framed : t'.surface.framed = s'.surface.framed
  printed : ∀ text, op = .printLine (some text) → Handout.Prints s.surface.framed text t t'
  closed : op.endsFrame = true → (Handout.ClosesFrame t t' ↔ Screen.ClosesFrame s s')

/-- Every one of some operations treats the frame alike on a screen and on a handout. -/
def SameFrames (s : Stage Screen) (t : Stage Handout) : List Op → Prop
  | [] => True
  | op :: ops => SameFrame op s (performed s [op]) t (performed t [op]) ∧
      SameFrames (performed s [op]) (performed t [op]) ops

open Export

variable {clean : Prop} {place : Place} {s : Stage Screen} {t : Stage Handout}

/-- One operation, from the same frame. -/
theorem sameFrame_iff {op : Op} (hop : op.isFrame = true) (hs : Screen.Bounded s)
    (ht : WritesTo clean place t) (hframed : t.surface.framed = s.surface.framed) :
    SameFrame op s (performed s [op]) t (performed t [op]) ↔ s.surface.frames.Fits op := by
  obtain ⟨hframes, -, hdrawn⟩ := Screen.perform_frames hop hs
  obtain ⟨hleft, -, hwritten, hprints⟩ := Handout.perform_frame hop ht
  have hscreen : (performed s [op]).surface.framed = (s.surface.frames.after op).framed :=
    congrArg Frames.framed hframes
  have hhandout : (performed t [op]).surface.framed = op.leavesFramed s.surface.frames.framed :=
    hleft.trans (congrArg op.leavesFramed hframed)
  rw [Frames.fits_iff hop, ← hhandout, ← hscreen]
  constructor
  · intro h
    exact ⟨h.framed, fun hend => (hdrawn hend).1 ((h.closed hend).1 (hwritten hend))⟩
  · rintro ⟨hsame, hcloses⟩
    refine ⟨hsame, fun text htext => ?_, fun hend => ?_⟩
    · rw [← hframed]
      exact hprints text htext
    · exact ⟨fun _ => (hdrawn hend).2 (hcloses hend), fun _ => hwritten hend⟩

theorem sameFrames_iff_of_writesTo {ops : List Op} (hops : ∀ op ∈ ops, op.isFrame = true)
    (hs : Screen.Bounded s) (ht : WritesTo clean place t)
    (hframed : t.surface.framed = s.surface.framed) :
    SameFrames s t ops ↔ s.surface.frames.Orderly ops := by
  induction ops generalizing s t with
  | nil => exact Iff.rfl
  | cons op ops ih =>
    obtain ⟨hop, hrest⟩ := List.forall_mem_cons.1 hops
    obtain ⟨hframes, hs', -⟩ := Screen.perform_frames hop hs
    obtain ⟨-, ht', -⟩ := Handout.perform_frame hop ht
    have hhead := sameFrame_iff hop hs ht hframed
    show SameFrame op s _ t _ ∧ SameFrames _ _ ops ↔ _ ∧ Frames.Orderly _ ops
    rw [← hframes, hhead]
    exact and_congr_right fun hfits => ih hrest hs' ht' (hhead.2 hfits).framed

/-- A screen and a handout with an open output that start from the same frame treat it alike, at
every one of some operations, exactly if these are orderly: every end comes when the frame of its
kind is the only one that is open, and every new page when none is. -/
theorem same_frames_iff {unopened : Stage Handout} (hopen : openOutput unopened = .ok () t)
    (hs : Screen.Bounded s) (hframed : t.surface.framed = s.surface.framed) {ops : List Op}
    (hops : ∀ op ∈ ops, op.isFrame = true) :
    SameFrames s t ops ↔ s.surface.frames.Orderly ops := by
  obtain ⟨place, ht, -⟩ := openOutput_eq_ok hopen
  exact sameFrames_iff_of_writesTo hops hs ht hframed

/-- An output block with a line in it, and a new page after it. -/
theorem same_frames_one_block :
    let begun : Stage Screen :=
      ⟨Host.quiet, {}, Screen.start Host.quiet (.whole 0) (.whole 0) "standard", none⟩
    let s := state (Screen.openTerminal begun)
    let ops : List Op :=
      [.beginOutput, .printLine (some "ls"), .endOutput, .newPage, .printLine (some "a")]
    ∃ t, openOutput (⟨Host.quiet, {}, { out := { path := "talk.txt" } }, none⟩ : Stage Handout) =
        .ok () t ∧
      Screen.Bounded s ∧ t.surface.framed = s.surface.framed ∧ s.surface.frames.Orderly ops ∧
      SameFrames s t ops := by
  intro begun s ops
  obtain ⟨t, hopen⟩ : ∃ t, openOutput
      (⟨Host.quiet, {}, { out := { path := "talk.txt" } }, none⟩ : Stage Handout) = .ok () t :=
    ⟨_, rfl⟩
  obtain ⟨place, -, hsurface⟩ := openOutput_eq_ok hopen
  have hs : Screen.Bounded s := by decide +kernel
  have hframed : t.surface.framed = s.surface.framed := by
    rw [hsurface]
    rfl
  have hops : ∀ op ∈ ops, op.isFrame = true := by simp [ops, Op.isFrame]
  have horderly : s.surface.frames.Orderly ops := by decide +kernel
  exact ⟨t, hopen, hs, hframed, horderly, (same_frames_iff hopen hs hframed hops).2 horderly⟩

/-- An end that comes first, and a page that turns in a block. -/
theorem same_frames_violated :
    let begun : Stage Screen :=
      ⟨Host.quiet, {}, Screen.start Host.quiet (.whole 0) (.whole 0) "standard", none⟩
    let s := state (Screen.openTerminal begun)
    ∃ t, openOutput (⟨Host.quiet, {}, { out := { path := "talk.txt" } }, none⟩ : Stage Handout) =
        .ok () t ∧
      t.surface.framed = s.surface.framed ∧
      ¬ SameFrames s t [.endOutput] ∧ ¬ SameFrames s t [.beginOutput, .newPage] := by
  intro begun s
  obtain ⟨t, hopen⟩ : ∃ t, openOutput
      (⟨Host.quiet, {}, { out := { path := "talk.txt" } }, none⟩ : Stage Handout) = .ok () t :=
    ⟨_, rfl⟩
  obtain ⟨place, ht, hsurface⟩ := openOutput_eq_ok hopen
  have hs : Screen.Bounded s := by decide +kernel
  have hframed : t.surface.framed = s.surface.framed := by
    rw [hsurface]
    rfl
  have hiff {ops : List Op} (hops : ∀ op ∈ ops, op.isFrame = true) :=
    sameFrames_iff_of_writesTo hops hs ht hframed
  refine ⟨t, hopen, hframed, fun hsame => ?_, fun hsame => ?_⟩
  · have horderly := (hiff (by simp [Op.isFrame])).1 hsame
    exact absurd horderly (by decide +kernel)
  · have horderly := (hiff (by simp [Op.isFrame])).1 hsame
    exact absurd horderly (by decide +kernel)

end SlideDeck
