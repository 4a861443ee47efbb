import SlideDeck.Proofs.Screen.Ink

/-!
# Strokes

Whatever draws, waits, saves the screen, runs a command or asks for a line is made of calls that
leave the attributes of the terminal alone. It keeps every property that hangs on no more of the
journal than the attributes, the fonts and how often the clock was read, and its faults can be told
from the surface (`Drawing`). The only actions left out are those that take on a style or change the
surface.
-/

namespace SlideDeck.Screen

open Act Outcome

/-- What can go wrong in drawing on the screen of a host. -/
inductive DrawingFault (h : Host) (b : Screen) : Fault → Prop where
  | interrupted : DrawingFault h b .interrupted
  | terminal (f : TerminalFunction) : DrawingFault h b (.refused (.terminal f))
  | text (hnul : h.refuses .drawNul = true) : DrawingFault h b (.refused .text)
  | typing {n : Nat} {d : Delay} {e : Fault} (hd : b.typeDelay.typing? n = some d)
      (he : PauseFault h d e) : DrawingFault h b e
  | typingTooLong {n : Nat} (hd : b.typeDelay.typing? n = none) : DrawingFault h b .delayTooLong
  | sliding {d : Delay} {e : Fault} (hd : d = b.slideDelay ∨ d = b.slideDelay.twice)
      (he : PauseFault h d e) : DrawingFault h b e
  | tooManyCopies (hwide : countLimit < b.columns) : DrawingFault h b .tooManyCopies
  | outOfMemory (hwide : memoryLimit < b.columns) : DrawingFault h b .outOfMemory

/-- What an operation asks of the host of a screen, where that can refuse it. -/
inductive OpFault (h : Host) (columns : Int) : Op → Fault → Prop where
  | sleep {d : Delay} {e : Fault} (he : PauseFault h d.orZero e) : OpFault h columns (.sleep d) e
  | exec {command : Text} (hrefused : h.refusesCommand command = true) :
      OpFault h columns (.exec command) (.refused .command)
  | huge {t font : Text} {framed : Bool}
      (hroom : h.lettering.hasRoom font
        (max 1 (columns - indent - (if framed then 2 else 0))).toNat t = false) :
      OpFault h columns (.huge t) (.refused .letters)

theorem pauseFault_ne_noColorPair {h : Host} {d : Delay} {e : Fault} (he : PauseFault h d e)
    (name : Text) : e ≠ .noColorPair name := by
  rintro rfl
  obtain ⟨k, hk⟩ := he
  unfold Host.pauseFault? at hk
  split at hk
  · cases hk
  · split at hk
    · cases hk
    · cases hk

theorem OpFault.ne_noColorPair {h : Host} {columns : Int} {op : Op} {e : Fault}
    (he : OpFault h columns op e) (name : Text) : e ≠ .noColorPair name := by
  cases he with
  | sleep he => exact pauseFault_ne_noColorPair he name
  | exec | huge => nofun

/-- What strokes keep, and the faults that they may have where it holds. -/
structure Drawing (P : Stage Screen → Prop) (E : Fault → Prop) : Prop where
  journal : ∀ s j, j.pen = s.journal.pen → j.fonts = s.journal.fonts →
    j.readings = s.journal.readings → P s → P { s with journal := j }
  fault : ∀ s t e, P s → P t → DrawingFault t.host s.surface e → E e

theorem drawing_ink (P : Ink → Prop) :
    Drawing (fun s => P (ink s)) (fun e => ∀ name, e ≠ .noColorPair name) where
  journal s j hpen _ _ hs := by rwa [ink_journal hpen]
  fault _ _ _ _ _ he := by
    cases he with
    | typing _ he | sliding _ he => exact pauseFault_ne_noColorPair he
    | _ => nofun

namespace Drawing

variable {P : Stage Screen → Prop} {E F : Fault → Prop}

theorem mono (h : Drawing P E) (hE : ∀ e, E e → F e) : Drawing P F :=
  ⟨h.journal, fun s t e hs ht he => hE e (h.fault s t e hs ht he)⟩

theorem note (h : Drawing P E) {e : Event} (he : ∀ p : Pen, p.after e = p) :
    Ends P Any E (note e) :=
  .modify fun s hs => h.journal s _ (by rw [Journal.pen_push, he]) rfl rfl hs

theorem warn (h : Drawing P E) (w : Warning) : Ends P Any E (warn w) :=
  .modify fun s hs => h.journal s _ rfl rfl rfl hs

theorem call (h : Drawing P E) {c : TerminalCall} (hc : ∀ p : Pen, p.apply c = p) :
    Ends P Any E (call c) := by
  refine call_ends (fun s hs => h.journal s _ ((Journal.pen_push _ _).trans (hc _)) rfl rfl hs)
    fun s r hs hr => h.fault s s _ hs hs ?_
  rcases Host.rejection?_cases hr with ⟨rfl, hnul, -⟩ | ⟨f, rfl, -⟩
  · exact .text hnul
  · exact .terminal f

theorem drawBelow (h : Drawing P E) (n : Nat) : Ends P Any E (Act.drawBelow n) :=
  .modifyGet fun s hs => ⟨trivial, h.journal s _ rfl rfl rfl hs⟩

theorem pause (h : Drawing P E) (d : Delay) (hd : ∀ s e, P s → PauseFault s.host d e → E e) :
    Ends P Any E (pause d) :=
  pause_ends (fun s hs => h.journal s _ (Journal.pen_push _ _) rfl rfl hs)
    (fun s hs => h.journal s _ (Journal.pen_push _ _) rfl rfl hs) hd
    fun s hs => h.fault s s _ hs hs .interrupted

/-- No text within the width of the screen is too long, unless the screen is too wide. -/
theorem copies (h : Drawing P E) {s : Stage Screen} (hs : P s) {n : Int}
    (hn : n ≤ s.surface.columns) (c : Char) : Ends P Any E (copies n c) :=
  copies_ends (fun hwide => h.fault s s _ hs hs (.tooManyCopies (Int.lt_of_lt_of_le hwide hn)))
    (fun hwide => h.fault s s _ hs hs (.outOfMemory (Int.lt_of_lt_of_le hwide hn))) c

/-! ### Pictures -/

theorem drawAt (h : Drawing P E) (y x : Int) (t : Text) : Ends P Any E (drawAt y x t) :=
  .andThen surface_ends fun _ => .ite (fun _ => .pure trivial) fun _ =>
    .ite (fun _ => .pure trivial) fun _ => tolerant_ends (h.call fun _ => rfl)

theorem moveTo (h : Drawing P E) (y x : Int) : Ends P Any E (moveTo y x) :=
  .andThen surface_ends fun _ => tolerant_ends (h.call fun _ => rfl)

theorem saveScreen (h : Drawing P E) (rows columns : Int) :
    Ends P Any E (saveScreen rows columns) :=
  .andThen (h.call fun _ => rfl) fun _ => .andThen .get fun _ =>
    .andThen (.modify fun s hs => h.journal s _ rfl rfl rfl hs) fun _ =>
      .andThen (h.call fun _ => rfl) fun _ => .pure trivial

theorem store (h : Drawing P E) : Ends P Any E store :=
  .andThen surface_ends fun _ => h.saveScreen _ _

theorem restore (h : Drawing P E) (saved : Window) : Ends P Any E (restore saved) :=
  .andThen (h.call fun _ => rfl) fun _ => h.call fun _ => rfl

theorem clear (h : Drawing P E) : Ends P Any E (Surface.clear (σ := Screen)) :=
  .andThen (h.call fun _ => rfl) fun _ => h.call fun _ => rfl

theorem drawCentered (h : Drawing P E) (y : Int) (t : Text) : Ends P Any E (drawCentered y t) :=
  .andThen surface_ends fun _ => h.drawAt _ _ _

theorem drawBorder (h : Drawing P E) : Ends P Any E drawBorder := by
  refine .bind surface_ends fun b hb => ?_
  obtain ⟨s, hs, rfl⟩ := hb
  have hwidth : s.surface.columns - 2 ≤ s.surface.columns := by omega
  refine .andThen (h.copies hs hwidth _) fun edge => .andThen (h.drawAt _ _ _) fun _ =>
    .andThen (h.drawAt _ _ _) fun _ => .forM fun y _ => ?_
  exact .andThen (h.drawAt _ _ _) fun _ => h.drawAt _ _ _

/-! ### Text that is typed or slides in -/

theorem typeText (h : Drawing P E) (x : Int) (t : Text) : Ends P Any E (typeText x t) := by
  induction t generalizing x with
  | nil => exact .pure trivial
  | cons c rest ih =>
    refine .bind surface_ends fun b hb => ?_
    obtain ⟨s, hs, rfl⟩ := hb
    refine .andThen (h.drawAt _ _ _) fun _ => .andThen (h.call fun _ => rfl) fun _ => ?_
    refine .andThen (h.drawBelow 20) fun n => ?_
    rcases hd : s.surface.typeDelay.typing? n with - | d
    · exact .andThen (.throw (V := Any) (h.fault s s _ hs hs (.typingTooLong hd))) fun _ => ih _
    · have hpause : Ends P Any E (Act.pause d) :=
        h.pause d fun t e ht he => h.fault s t e hs ht (.typing hd he)
      exact .andThen hpause fun _ => ih _

theorem frame (h : Drawing P E) {draw : Act Screen Unit} (hdraw : Ends P Any E draw) {d : Delay}
    (hd : ∀ s e, P s → PauseFault s.host d e → E e) : Ends P Any E (frame draw d) :=
  .andThen hdraw fun _ => .andThen (h.call fun _ => rfl) fun _ => h.pause d hd

theorem slideText (h : Drawing P E) (line : Text) : Ends P Any E (slideText line) := by
  refine .bind surface_ends fun b hb => .ite (fun _ => .pure trivial) fun _ => ?_
  obtain ⟨s, hs, rfl⟩ := hb
  have hover (count : Int) (row : Nat → Int) :
      Ends P Any E (slideOverRows line count row s.surface.slideDelay) := by
    refine .andThen h.store fun saved => .natForM fun n _ =>
      h.frame ?_ fun t e ht he => h.fault s t e hs ht (.sliding (.inr rfl) he)
    exact .andThen (h.restore saved) fun _ => h.drawAt _ _ _
  have honce (t : Stage Screen) (e : Fault) (ht : P t)
      (he : PauseFault t.host s.surface.slideDelay e) : E e :=
    h.fault s t e hs ht (.sliding (.inl rfl) he)
  rcases s.surface.side with - | - | - | - | name
  · exact .andThen surface_ends fun _ => .forM fun _ _ => h.frame (h.drawAt _ _ _) honce
  · refine .andThen surface_ends fun s => .natForM fun n _ => h.frame ?_ honce
    exact .andThen (h.moveTo _ _) fun _ => .andThen (h.call fun _ => rfl) fun _ => h.drawAt _ _ _
  · exact hover _ _
  · exact hover _ _
  · exact .pure trivial

/-! ### Besides the page -/

theorem exec (h : Drawing P E) (command : Text)
    (hrefused : ∀ s, P s → s.host.refusesCommand command = true → E (.refused .command)) :
    Ends P Any E (exec command) := by
  have houtcome : Ends P Any E (Command.outcome command) := .bind .get fun s hs =>
    .iteThen (fun h => .throw (hrefused s hs h)) (.pure trivial)
  have hrun : Ends P Any E (Command.runAttached command) := by
    refine .andThen (h.note fun _ => rfl) fun _ => .andThen houtcome fun outcome => ?_
    rcases outcome with reason | ⟨output, errors, status⟩
    · exact .andThen (h.warn _) fun _ => .pure trivial
    · exact .pure trivial
  have hback : Ends P Any E (do Act.call .restoreMode; Act.call .refresh) :=
    .andThen (h.call fun _ => rfl) fun _ => h.call fun _ => rfl
  refine .andThen (h.call fun _ => rfl) fun _ => .andThen (h.call fun _ => rfl) fun _ => ?_
  exact .andThen (.tryFinally hrun hback) fun status =>
    .ite (fun _ => h.warn _) fun _ => .pure trivial

theorem showHelp (h : Drawing P E) : Ends P Any E showHelp := by
  have hlines (y : Int) (lines : List Text) : Ends P Any E (Screen.drawBelow y lines) := by
    induction lines generalizing y with
    | nil => exact .pure trivial
    | cons line rest ih => exact .andThen (h.drawAt _ _ _) fun _ => ih _
  exact .andThen (h.call fun _ => rfl) fun _ => .andThen (hlines _ _) fun _ =>
    .andThen surface_ends fun _ => .andThen (h.drawAt _ _ _) fun _ => h.call fun _ => rfl

theorem drawEntries (h : Drawing P E) (current : Int) (number : Nat) (column row : Int)
    (titles : List Text) : Ends P Any E (drawEntries current number column row titles) := by
  induction titles generalizing number column row with
  | nil => exact .pure trivial
  | cons title rest ih =>
    exact .andThen (h.drawAt _ _ _) fun _ => .andThen surface_ends fun _ =>
      .ite (fun _ => ih _ _ _) fun _ => ih _ _ _

/-- A line is typed where a property of the stage allows that one is used up. -/
theorem readTyped (h : Drawing P E)
    (htyped : ∀ s typed, P s → P { s with host := { s.host with typed := typed } })
    (y x : Int) (bytes : Nat) : Ends P Any E (readTyped y x bytes) := by
  refine .andThen (h.call fun _ => rfl) fun _ => .modifyGet fun s hs => ⟨trivial, ?_⟩
  rcases s.host.typed with - | ⟨line, rest⟩
  · exact hs
  · exact htyped s rest hs

section Prompt

variable {V : List UInt8 → Prop}

/-- The line that is typed is empty where none can be read. -/
theorem readAnswer (h : Drawing P E) (hempty : V [])
    (hread : ∀ y x, Ends P V E (Act.readTyped y x 6)) :
    Ends P (fun answer => ∃ bytes, V bytes ∧ answer = Text.strip (Text.Utf8.decode bytes)) E
      readAnswer := by
  refine .andThen surface_ends fun s => .andThen (h.call fun _ => rfl) fun _ => ?_
  refine .bind (.tryFinally (.tryCatch (hread _ _) fun fault hfault => ?_) (h.call fun _ => rfl))
    fun bytes hbytes => .pure ⟨bytes, hbytes, rfl⟩
  split
  · exact .pure hempty
  · exact .throw hfault

theorem askPageNumber (h : Drawing P E) (hempty : V [])
    (hread : ∀ y x, Ends P V E (Act.readTyped y x 6))
    (hnumber : ∀ bytes n, V bytes → Text.strip (Text.Utf8.decode bytes) ≠ [] →
      (Text.strip (Text.Utf8.decode bytes)).all Text.isDigit = true →
      Text.readNumeral (Text.strip (Text.Utf8.decode bytes)) = .error n → E (.numeral n))
    (titles : List Text) (current : Int) : Ends P Any E (askPageNumber titles current) := by
  refine .andThen (h.call fun _ => rfl) fun _ => .andThen (h.drawEntries _ _ _ _ _) fun _ => ?_
  refine .andThen surface_ends fun s => .andThen (h.drawAt _ _ _) fun _ => ?_
  refine .bind (h.readAnswer hempty hread) fun answer hanswer => ?_
  obtain ⟨bytes, hbytes, rfl⟩ := hanswer
  refine .andThen (h.drawAt _ _ _) fun _ => .ite (fun _ => .pure trivial) fun hdigits => ?_
  rw [not_or, Bool.not_eq_true', Bool.not_eq_false] at hdigits
  rcases hn : Text.readNumeral (Text.strip (Text.Utf8.decode bytes)) with n | n
  · exact .throw (hnumber bytes n hbytes hdigits.1 hdigits.2 hn)
  · exact .pure trivial

end Prompt

end Drawing

end SlideDeck.Screen
