import SlideDeck.Proofs.Parallel
import SlideDeck.Proofs.Screen.Keeps
import SlideDeck.Proofs.Screen.Operations

/-!
# Two screens side by side

Two runs of a screen that are asked for the same go on alike as soon as their strokes do (`Twins`):
everything on a screen is drawn with a few strokes, and what is drawn follows from the state of the
screen alone. What the two runs may differ in is open; the state of the screen is the same in both,
but perhaps for a side that no text comes from.
-/

namespace SlideDeck

/-- Calls whose outcome counts, and that name no window. -/
def TerminalCall.isPlain : TerminalCall → Bool
  | drawText .. | moveTo .. | showCursor _ | setAttributes _ | copyWindow .. => false
  | _ => true

namespace Screen

open Act Outcome

/-- The same screen, but perhaps for the side that text would come from if any slid in. -/
def LooksLike (b c : Screen) : Prop :=
  ∃ x, c = { b with side := x } ∧ (b.sliding = true → x = b.side)

/-- A change that leaves the size, the pause after typed characters, and how text slides in. -/
structure Steady (f : Screen → Screen) : Prop where
  rows : ∀ b, (f b).rows = b.rows := by exact fun _ => rfl
  columns : ∀ b, (f b).columns = b.columns := by exact fun _ => rfl
  typeDelay : ∀ b, (f b).typeDelay = b.typeDelay := by exact fun _ => rfl
  sliding : ∀ b, (f b).sliding = b.sliding := by exact fun _ => rfl
  side : ∀ b x, f { b with side := x } = { f b with side := x } := by exact fun _ _ => rfl

/-- A pause, unless its length grew past every double. -/
def pauseOf : Option Delay → Act Screen Unit
  | some delay => pause delay
  | none => throw .delayTooLong

/-- The pause after a typed character. -/
def typePause (d : Delay) : Act Screen Unit := do
  pauseOf (d.typing? (← Act.drawBelow 20))

theorem typePause_keeps {P : Stage Screen → Prop} [Lasting P] (d : Delay) :
    Keeps P (typePause d) := by
  refine keeps_iff_ends.2 (.andThen (Lasting.drawing.drawBelow 20) fun n => ?_)
  cases d.typing? n with
  | none => exact .throw trivial
  | some delay => exact Lasting.drawing.pause delay fun _ _ _ _ => trivial

/-- In related stages the strokes of a screen have matching outcomes. Saved windows are related by
`W`, and `d` is the delay that typing goes by. -/
structure Twins (R : Stage Screen → Stage Screen → Prop) (W : Window → Window → Prop)
    (d : Delay) : Prop where
  looks : ∀ {s t}, R s t → LooksLike s.surface t.surface
  typeDelay : ∀ {s t}, R s t → s.surface.typeDelay = d
  change : ∀ {f}, Steady f → Parallel R Eq (modifySurface f) (modifySurface f)
  drawAt : ∀ y x t, Parallel R Eq (drawAt y x t) (drawAt y x t)
  move : ∀ y x, Parallel R Eq (tolerant (call (.moveTo y x))) (tolerant (call (.moveTo y x)))
  call : ∀ c : TerminalCall, c.isPlain = true → Parallel R Eq (call c) (call c)
  save : ∀ rows columns, Parallel R W (saveScreen rows columns) (saveScreen rows columns)
  copy : ∀ v w, W v w → Parallel R Eq (Act.call (.copyWindow v 0)) (Act.call (.copyWindow w 0))
  pause : ∀ e, Parallel R Eq (pause e) (pause e)
  typePause : Parallel R Eq (typePause d) (typePause d)

namespace Twins

variable {R : Stage Screen → Stage Screen → Prop} {W : Window → Window → Prop} {d : Delay}
  {α : Type} {V : α → α → Prop}

theorem surfaces {f g : Screen → Act Screen α}
    (hf : ∀ s t, R s t → Parallel R V (f s.surface) (g t.surface)) :
    Parallel R V (Act.surface >>= f) (Act.surface >>= g) := fun s t hR => hf s t hR s t hR

theorem surface (h : Twins R W d) {f g : Screen → Act Screen α}
    (hf : ∀ b x, b.typeDelay = d → Parallel R V (f b) (g { b with side := x })) :
    Parallel R V (Act.surface >>= f) (Act.surface >>= g) := by
  refine surfaces fun s t hR => ?_
  obtain ⟨x, hx, -⟩ := h.looks hR
  rw [hx]
  exact hf s.surface x (h.typeDelay hR)

/-- Whether text slides in may be assumed on the way: no stroke changes it. -/
theorem sliding (h : Twins R W d) (on : Bool) :
    Twins (fun s t => R s t ∧ OfSurface (fun b => b.sliding = on) s) W d where
  looks hR := h.looks hR.1
  typeDelay hR := h.typeDelay hR.1
  change hf := (h.change hf).keeping fun s hs => (hf.sliding s.surface).trans hs
  drawAt y x t := (h.drawAt y x t).keeping (drawAt_keeps y x t)
  move y x := (h.move y x).keeping (Keeps.tolerant (call_keeps _))
  call c hc := (h.call c hc).keeping (call_keeps c)
  save rows columns := (h.save rows columns).keeping (saveScreen_keeps rows columns)
  copy v w hw := (h.copy v w hw).keeping (call_keeps _)
  pause e := (h.pause e).keeping (pause_keeps e)
  typePause := h.typePause.keeping (typePause_keeps d)

theorem bySliding {x y : Act Screen α}
    (h : ∀ on, Parallel (fun s t => R s t ∧ OfSurface (fun b => b.sliding = on) s) V x y) :
    Parallel R V x y :=
  fun s t hR => (h s.surface.sliding s t ⟨hR, rfl⟩).mono fun _ _ => And.left

/-! ### Strokes put together -/

theorem attempt (h : Twins R W d) {c : TerminalCall} (hc : c.isPlain = true) :
    Parallel R Eq (tolerant (Act.call c)) (tolerant (Act.call c)) := by
  refine .tryCatch (h.call c hc) fun fault => ?_
  split
  · exact .pure rfl
  · exact .throw fault

theorem moveTo (h : Twins R W d) (y x : Int) : Parallel R Eq (moveTo y x) (moveTo y x) :=
  h.surface fun _ _ _ => h.move _ _

theorem copies (n : Int) (c : Char) : Parallel R Eq (copies n c) (copies n c) := by
  unfold Act.copies
  exact .iteThen (.throw _) (.iteThen (.throw _) (.pure rfl))

theorem applyFlag (h : Twins R W d) (style : Style) (f : Flag) :
    Parallel R Eq (applyFlag style f) (applyFlag style f) := by
  refine h.surface fun b x _ =>
    .ite (.andThen (h.attempt ?_) fun _ => h.change {}) (.pure rfl)
  split <;> rfl

theorem applyColor (h : Twins R W d) (style : Style) :
    Parallel R Eq (applyColor style) (applyColor style) := by
  unfold Screen.applyColor
  split
  · exact .pure rfl
  · rename_i name _
    refine h.surface fun b x _ => .ite (.andThen (h.call _ rfl) fun _ => ?_) (.pure rfl)
    have hchange : Parallel R Eq
        (modifySurface fun s => { s with active := s.active.withColor (some name) })
        (modifySurface fun s => { s with active := s.active.withColor (some name) }) :=
      h.change {}
    split
    · exact .andThen (.throw _) fun _ => hchange
    · exact .andThen (h.call _ rfl) fun _ => hchange

theorem applyStyle (h : Twins R W d) (style : Style) :
    Parallel R Eq (applyStyle style) (applyStyle style) :=
  .andThen (h.applyFlag style .bold) fun _ => .andThen (h.applyFlag style .underline) fun _ =>
    .andThen (h.applyFlag style .reverse) fun _ => h.applyColor style

theorem setStyle (h : Twins R W d) (style : Style) :
    Parallel R Eq (setStyle style) (setStyle style) :=
  .andThen (h.change {}) fun _ => h.applyStyle style

theorem restyle (h : Twins R W d) (f : Style → Style) :
    Parallel R Eq (restyle f) (restyle f) := h.surface fun _ _ _ => h.setStyle _

theorem tryFinally {x y : Act Screen α} {f g : Act Screen Unit} (hx : Parallel R V x y)
    (hf : Parallel R Eq f g) : Parallel R V (tryFinally x f) (tryFinally y g) := by
  intro s t hR
  have hfirst := hx s t hR
  rw [tryFinally_eq, tryFinally_eq]
  generalize x s = first at hfirst ⊢
  generalize y t = second at hfirst ⊢
  cases hfirst with
  | @ok a b s' t' hvalue hstate =>
    have hlast := hf s' t' hstate
    dsimp only
    generalize f s' = last at hlast ⊢
    generalize g t' = last' at hlast ⊢
    cases hlast with
    | ok _ hend => exact .ok hvalue hend
    | error later hend => exact .error later hend
  | @error e s' t' hstate =>
    have hlast := hf s' t' hstate
    dsimp only
    generalize f s' = last at hlast ⊢
    generalize g t' = last' at hlast ⊢
    cases hlast with
    | ok _ hend => exact .error e hend
    | error later hend => exact .error later hend

theorem withStyle (h : Twins R W d) (f : Style → Style) {x y : Act Screen Unit}
    (hx : Parallel R Eq x y) : Parallel R Eq (withStyle f x) (withStyle f y) :=
  h.surface fun _ _ _ => .andThen (h.setStyle _) fun _ => tryFinally hx (h.setStyle _)

theorem restyle_flag (h : Twins R W d) (f : Flag) (on : Bool) :
    Parallel R Eq (Screen.restyle (·.withFlag f on)) (Screen.restyle (·.withFlag f on)) :=
  h.restyle _

theorem withStyle_flag (h : Twins R W d) (f : Flag) (on : Bool) {x y : Act Screen Unit}
    (hx : Parallel R Eq x y) : Parallel R Eq (Screen.withStyle (·.withFlag f on) x)
      (Screen.withStyle (·.withFlag f on) y) := h.withStyle _ hx

theorem nextRow (h : Twins R W d) : Parallel R Eq nextRow nextRow := h.change {}

theorem store (h : Twins R W d) : Parallel R W store store :=
  h.surface fun _ _ _ => h.save _ _

theorem restore (h : Twins R W d) {v w : Window} (hw : W v w) :
    Parallel R Eq (restore v) (restore w) :=
  .andThen (h.copy v w hw) fun _ => h.call _ rfl

/-! ### Text -/

theorem typeText_cons (x : Int) (c : Char) (rest : Text) :
    Screen.typeText x (c :: rest) = (do
      let s ← Act.surface
      Screen.drawAt s.row x [c]
      Act.call .refresh
      Screen.typePause s.typeDelay
      Screen.typeText (x + 1) rest) := by
  simp only [Screen.typeText, Screen.typePause, bind_assoc]
  refine bind_congr fun s => bind_congr fun _ => bind_congr fun _ => bind_congr fun n => ?_
  cases s.typeDelay.typing? n with
  | none => rfl
  | some delay => rfl

theorem typeText (h : Twins R W d) (x : Int) (t : Text) :
    Parallel R Eq (typeText x t) (typeText x t) := by
  induction t generalizing x with
  | nil => exact .pure rfl
  | cons c rest ih =>
    rw [typeText_cons]
    refine h.surface fun b y hd => .andThen (h.drawAt _ _ _) fun _ =>
      .andThen (h.call _ rfl) fun _ => ?_
    have hpause : Parallel R Eq (Screen.typePause b.typeDelay) (Screen.typePause b.typeDelay) :=
      hd ▸ h.typePause
    exact .andThen hpause fun _ => ih _

theorem frame (h : Twins R W d) {x y : Act Screen Unit} (hx : Parallel R Eq x y) (e : Delay) :
    Parallel R Eq (frame x e) (frame y e) :=
  .andThen hx fun _ => .andThen (h.call _ rfl) fun _ => h.pause e

theorem slideText (h : Twins R W d) (hsame : ∀ s t, R s t → t.surface = s.surface)
    (line : Text) : Parallel R Eq (slideText line) (slideText line) := by
  have hleft (line : Text) (e : Delay) :
      Parallel R Eq (slideFromLeft line e) (slideFromLeft line e) :=
    h.surface fun _ _ _ => .forM _ fun _ => h.frame (h.drawAt _ _ _) e
  have hright (line : Text) (e : Delay) :
      Parallel R Eq (slideFromRight line e) (slideFromRight line e) :=
    h.surface fun _ _ _ => .natForM fun _ _ => h.frame (.andThen (h.moveTo _ _) fun _ =>
      .andThen (h.call _ rfl) fun _ => h.drawAt _ _ _) e
  have hover (line : Text) (count : Int) (row : Nat → Int) (e : Delay) :
      Parallel R Eq (slideOverRows line count row e) (slideOverRows line count row e) :=
    .bind h.store fun _ _ hw => .natForM fun _ _ => h.frame (.andThen (h.restore hw) fun _ =>
      h.drawAt _ _ _) e.twice
  refine surfaces fun s t hR => ?_
  rw [hsame s t hR]
  refine .ite (.pure rfl) ?_
  split
  · exact hleft _ _
  · exact hright _ _
  · exact hover _ _ _ _
  · exact hover _ _ _ _
  · exact .pure rfl

/-! ### Lines -/

theorem drawPlainLine (h : Twins R W d) (align : Alignment) (typing slides : Bool) (line : Text)
    (hslide : slides = true → Parallel R Eq (Screen.slideText line) (Screen.slideText line)) :
    Parallel R Eq (drawPlainLine align typing slides line)
      (drawPlainLine align typing slides line) := by
  refine h.surface fun b x _ => .iteThen (h.drawAt _ _ _) ?_
  have hend : Parallel R Eq (do
      if b.framed && !b.sliding then Screen.drawAt b.row (b.columns - indent - 2) " |"
      Screen.nextRow) (do
      if b.framed && !b.sliding then Screen.drawAt b.row (b.columns - indent - 2) " |"
      Screen.nextRow) := .iteThen (h.drawAt _ _ _) h.nextRow
  refine .ite (.andThen (h.drawAt _ _ _) fun _ => hend) ?_
  refine .ite (.andThen (h.typeText _ _) fun _ => hend) ?_
  cases slides with
  | true => exact .andThen (hslide rfl) fun _ => hend
  | false => exact .andThen (h.drawAt _ _ _) fun _ => hend

theorem drawSegments (h : Twins R W d) (x : Int) (segs : List (Layout.Segment Char)) :
    Parallel R Eq (drawSegments x segs) (drawSegments x segs) := by
  induction segs generalizing x with
  | nil => exact .pure rfl
  | cons seg rest ih =>
    exact .andThen (h.applyStyle _) fun _ => h.surface fun _ _ _ =>
      .andThen (h.drawAt _ _ _) fun _ => ih _

theorem drawStyledLine (h : Twins R W d) (align : Alignment) (line : List (Glyph Char)) :
    Parallel R Eq (drawStyledLine align line) (drawStyledLine align line) :=
  h.surface fun _ _ _ => .ite (.andThen (h.drawSegments _ _) fun _ =>
    .andThen (h.applyStyle _) fun _ => h.nextRow) h.nextRow

theorem drawText (h : Twins R W d) (align : Alignment) (t : Option Text) :
    Parallel R Eq (drawText align t) (drawText align t) := by
  cases t with
  | none => exact .pure rfl
  | some t =>
    refine bySliding fun on => ?_
    have hon := h.sliding on
    refine surfaces fun s u hR => ?_
    obtain ⟨x, hx, -⟩ := h.looks hR.1
    rw [hx]
    refine .ite (.forM _ fun _ => hon.drawPlainLine _ _ _ _ nofun)
      (.iteOf (fun hslides => .forM _ fun _ => hon.drawPlainLine _ _ _ _ fun _ => ?_)
        fun _ => .forM _ fun _ => hon.drawStyledLine _ _)
    have hstays : on = true := hR.2.symm.trans (Bool.and_eq_true_iff.1 hslides).2
    refine hon.slideText (fun s u hR => ?_) _
    obtain ⟨x, hx, hside⟩ := h.looks hR.1
    rw [hx, hside (hR.2.trans hstays)]

theorem drawTitleLine (h : Twins R W d) (t : Option Text) :
    Parallel R Eq (drawTitleLine t) (drawTitleLine t) :=
  .andThen (h.drawText _ _) fun _ => h.drawText _ _

theorem drawRule (h : Twins R W d) (left right : Text) :
    Parallel R Eq (drawRule left right) (drawRule left right) :=
  h.surface fun _ _ _ => .andThen (copies _ _) fun _ => .andThen (h.drawAt _ _ _) fun _ => h.nextRow

theorem drawBorder (h : Twins R W d) : Parallel R Eq drawBorder drawBorder :=
  h.surface fun _ _ _ => .andThen (copies _ _) fun _ => .andThen (h.drawAt _ _ _) fun _ =>
    .andThen (h.drawAt _ _ _) fun _ => .forM _ fun _ =>
      .andThen (h.drawAt _ _ _) fun _ => h.drawAt _ _ _

theorem drawCentered (h : Twins R W d) (y : Int) (t : Text) :
    Parallel R Eq (drawCentered y t) (drawCentered y t) := h.surface fun _ _ _ => h.drawAt _ _ _

theorem setFooter (h : Twins R W d) (t : Text) : Parallel R Eq (setFooter t) (setFooter t) :=
  .andThen (h.change {}) fun _ => h.surface fun _ _ _ => h.drawCentered _ _

theorem setHeader (h : Twins R W d) (t : Text) : Parallel R Eq (setHeader t) (setHeader t) :=
  .andThen (h.change {}) fun _ => h.drawCentered _ _

theorem setBackground (h : Twins R W d) (name : Option Text) :
    Parallel R Eq (setBackground name) (setBackground name) :=
  .andThen (.forM _ fun _ => h.call _ rfl) fun _ => h.surface fun _ _ _ =>
    .andThen (h.call _ rfl) fun _ => .andThen (h.change {}) fun _ =>
      h.surface fun _ _ _ => h.applyStyle _

theorem drawStatus (h : Twins R W d) (number count : Int) (ended : Bool) (title : Option Text) :
    Parallel R Eq (drawStatus number count ended title) (drawStatus number count ended title) := by
  refine .andThen (h.withStyle _ ?_) fun _ => h.surface fun b x _ => ?_
  · exact h.surface fun _ _ _ => .andThen (h.change {}) fun _ => h.drawAt _ _ _
  · refine .iteThen (h.setFooter _) (.iteThen (h.setHeader _) (.ite ?_ (.pure rfl)))
    exact h.withStyle _ (h.surface fun _ _ _ => h.drawAt _ _ _)

theorem showHelp (h : Twins R W d) : Parallel R Eq showHelp showHelp := by
  have hlines (y : Int) (lines : List Text) :
      Parallel R Eq (drawBelow y lines) (drawBelow y lines) := by
    induction lines generalizing y with
    | nil => exact .pure rfl
    | cons line rest ih => exact .andThen (h.drawAt _ _ _) fun _ => ih _
  exact .andThen (h.call _ rfl) fun _ => .andThen (hlines _ _) fun _ =>
    h.surface fun _ _ _ => .andThen (h.drawAt _ _ _) fun _ => h.call _ rfl

theorem drawEntries (h : Twins R W d) (current : Int) (number : Nat) (column row : Int)
    (titles : List Text) : Parallel R Eq (drawEntries current number column row titles)
      (drawEntries current number column row titles) := by
  induction titles generalizing number column row with
  | nil => exact .pure rfl
  | cons title rest ih =>
    exact .andThen (h.drawAt _ _ _) fun _ => h.surface fun _ _ _ => .ite (ih _ _ _) (ih _ _ _)

end Twins

/-! ### Operations on a page -/

/-- In related stages whatever a line of a deck can ask for, but a new page, has matching outcomes:
besides the strokes, what starts and ends sliding, and what goes beyond the screen. -/
structure PageTwins (R : Stage Screen → Stage Screen → Prop) (W : Window → Window → Prop)
    (d : Delay) : Prop extends Twins R W d where
  beginSlide : ∀ side,
    Parallel R Eq (modifySurface fun b => { b with sliding := true, side := side })
      (modifySurface fun b => { b with sliding := true, side := side })
  endSlide : Parallel R Eq (modifySurface fun b => { b with sliding := false })
    (modifySurface fun b => { b with sliding := false })
  warn : ∀ w, Parallel R Eq (Act.warn w) (Act.warn w)
  render : ∀ t font width, Parallel R Eq (HugeText.render t font width)
    (HugeText.render t font width)
  attached : ∀ command, Parallel R Eq (Command.runAttached command) (Command.runAttached command)

namespace PageTwins

variable {R : Stage Screen → Stage Screen → Prop} {W : Window → Window → Prop} {d : Delay}

theorem drawHuge (h : PageTwins R W d) (t : Text) : Parallel R Eq (drawHuge t) (drawHuge t) :=
  h.surface fun _ _ _ => .andThen (h.render _ _ _) fun _ => .forM _ fun _ => h.drawText _ _

theorem exec (h : PageTwins R W d) (command : Text) :
    Parallel R Eq (exec command) (exec command) :=
  .andThen (h.call _ rfl) fun _ => .andThen (h.call _ rfl) fun _ =>
    .andThen (Twins.tryFinally (h.attached _) (.andThen (h.call _ rfl) fun _ => h.call _ rfl))
      fun _ => .ite (h.warn _) (.pure rfl)

theorem setColor (h : PageTwins R W d) (name : Option Text) :
    Parallel R Eq (setColor name) (setColor name) := by
  unfold Screen.setColor
  split
  · exact .ite (h.restyle _) (h.warn _)
  · exact h.warn _

theorem setForeground (h : PageTwins R W d) (name : Option Text) :
    Parallel R Eq (setForeground name) (setForeground name) := by
  unfold Screen.setForeground
  split
  · exact .ite (.andThen (h.change {}) fun _ => h.restyle _)
      (h.warn _)
  · exact h.warn _

theorem perform (h : PageTwins R W d) {op : Op} (hop : op ≠ .newPage) :
    Parallel R Eq (perform op) (perform op) := by
  cases op with
  | newPage => exact absurd rfl hop
  | refresh => exact h.call _ rfl
  | printLine t | center t | right t => exact h.drawText _ _
  | heading t => exact h.withStyle_flag .bold true (h.drawText _ _)
  | withBorder => exact h.drawBorder
  | horizontalLine =>
    exact h.withStyle_flag .bold true
      (h.surface fun _ _ _ => .andThen (Twins.copies _ _) fun _ => h.drawAt _ _ _)
  | color name => exact h.setColor name
  | exec command => exact h.exec command
  | wait => exact .pure rfl
  | beginOutput | beginShellOutput =>
    exact .andThen (h.drawRule _ _) fun _ => h.change {}
  | endOutput | endShellOutput =>
    exact h.surface fun _ _ _ =>
      .ite (.andThen (h.drawRule _ _) fun _ => h.change {}) (.pure rfl)
  | sleep e => exact .andThen (h.call _ rfl) fun _ => h.pause _
  | boldOn | boldOff | reverseOn | reverseOff | underlineOn | underlineOff =>
    exact h.restyle_flag _ _
  | beginSlide side => exact h.beginSlide side
  | endSlide => exact h.endSlide
  | setHugeFont name =>
    exact h.change (f := ({ · with font := name })) {}
  | huge t => exact h.drawHuge t
  | footer t => exact h.setFooter t
  | header t => exact h.setHeader t
  | title t =>
    exact .andThen (h.restyle_flag .bold true) fun _ => .andThen (h.drawText _ _) fun _ =>
      .andThen (h.restyle_flag .bold false) fun _ => h.drawText _ _
  | author t | date t => exact h.drawTitleLine t
  | background name => exact h.setBackground name
  | foreground name => exact h.setForeground name

end PageTwins

end Screen

end SlideDeck
