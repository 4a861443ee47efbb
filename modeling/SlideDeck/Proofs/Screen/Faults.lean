import SlideDeck.Proofs.Deck.Faults
import SlideDeck.Proofs.Screen.Operations

/-!
# Faults of a screen

What can go wrong on a screen (`ScreenFault`): a pause that is broken off or refused, a rule for
which the screen is too wide, a call that the terminal refuses. Every operation has only these
faults, wherever it is asked for (`operating_settled`), and those of what it asks of the host itself
(`OpFault`); the prompt for a page has one more, a number that cannot be read (`PromptFault`).
-/

namespace SlideDeck.Screen

open Act Outcome

/-- The text of a line that is typed at the prompt. -/
def answerOf (typed : List UInt8) : Text := Text.strip (Text.Utf8.decode (typed.take 6))

/-- A screen of a host, where text is typed and slides in with certain delays. -/
structure Settled (h : Host) (typing sliding : Delay) (s : Stage Screen) : Prop where
  host : s.host = { h with typed := s.host.typed }
  typed : s.host.typed <:+ h.typed
  columns : s.surface.columns = h.columns
  typeDelay : s.surface.typeDelay = typing
  slideDelay : s.surface.slideDelay = sliding

inductive ScreenFault (h : Host) (typing sliding : Delay) : Fault → Prop where
  | interrupted : ScreenFault h typing sliding .interrupted
  | terminal (f : TerminalFunction) : ScreenFault h typing sliding (.refused (.terminal f))
  | text (hnul : h.refuses .drawNul = true) : ScreenFault h typing sliding (.refused .text)
  | color (name : Text) : ScreenFault h typing sliding (.noColorPair name)
  | typing {n : Nat} {d : Delay} {e : Fault} (hd : typing.typing? n = some d)
      (he : PauseFault h d e) : ScreenFault h typing sliding e
  | typingTooLong {n : Nat} (hd : typing.typing? n = none) :
      ScreenFault h typing sliding .delayTooLong
  | sliding {d : Delay} {e : Fault} (hd : d = sliding ∨ d = sliding.twice)
      (he : PauseFault h d e) : ScreenFault h typing sliding e
  | tooManyCopies (hwide : countLimit < h.columns) : ScreenFault h typing sliding .tooManyCopies
  | outOfMemory (hwide : memoryLimit < h.columns) : ScreenFault h typing sliding .outOfMemory

/-- What can be wrong with a line that is typed at the prompt: it has digits only, and these are no
number. -/
inductive PromptFault (h : Host) : Fault → Prop where
  | pageNumber {line : List UInt8} {n : Text.NumeralFault} (hline : line ∈ h.typed)
      (hanswer : answerOf line ≠ []) (hdigits : (answerOf line).all Text.isDigit = true)
      (hn : Text.readNumeral (answerOf line) = .error n) : PromptFault h (.numeral n)

/-- On a screen that is settled, an action leaves it so, and has only the faults of a screen. -/
def Sound (h : Host) (typing sliding : Delay) {α : Type} (x : Act Screen α) : Prop :=
  Ends (Settled h typing sliding) Any (ScreenFault h typing sliding) x

variable {h : Host} {typing sliding : Delay} {s : Stage Screen}

theorem Settled.withJournal (hs : Settled h typing sliding s) (j : Journal) :
    Settled h typing sliding { s with journal := j } :=
  ⟨hs.host, hs.typed, hs.columns, hs.typeDelay, hs.slideDelay⟩

theorem Settled.pauseFault (hs : Settled h typing sliding s) {d : Delay} {e : Fault}
    (he : PauseFault s.host d e) : PauseFault h d e := by
  rwa [hs.host] at he

/-- An operation asks of the host of a settled screen what it would ask of the host at the start. -/
theorem Settled.opFault {t : Stage Screen} (hs : Settled h typing sliding s)
    (ht : Settled h typing sliding t) {op : Op} {e : Fault}
    (he : OpFault t.host s.surface.columns op e) : OpFault h h.columns op e := by
  rw [hs.columns] at he
  cases he with
  | sleep he => exact .sleep (ht.pauseFault he)
  | exec hrefused =>
    rw [ht.host] at hrefused
    exact .exec hrefused
  | huge hroom =>
    rw [ht.host] at hroom
    exact .huge hroom

/-- A screen has only the faults that its host and its delays give rise to. -/
theorem drawing_settled :
    Drawing (Settled h typing sliding) (ScreenFault h typing sliding) where
  journal _ j _ _ _ hs := hs.withJournal j
  fault s t e hs ht he := by
    cases he with
    | interrupted => exact .interrupted
    | terminal f => exact .terminal f
    | text hnul =>
      rw [ht.host] at hnul
      exact .text hnul
    | typing hd he => exact .typing (hs.typeDelay ▸ hd) (ht.pauseFault he)
    | typingTooLong hd => exact .typingTooLong (hs.typeDelay ▸ hd)
    | sliding hd he => exact .sliding (hs.slideDelay ▸ hd) (ht.pauseFault he)
    | tooManyCopies hwide => exact .tooManyCopies (hs.columns ▸ hwide)
    | outOfMemory hwide => exact .outOfMemory (hs.columns ▸ hwide)

theorem modifySurface_sound {f : Screen → Screen}
    (hf : ∀ b, (f b).columns = b.columns ∧ (f b).typeDelay = b.typeDelay ∧
      (f b).slideDelay = b.slideDelay) : Sound h typing sliding (modifySurface f) := by
  refine .modify fun s hs => ?_
  obtain ⟨hcolumns, htype, hslide⟩ := hf s.surface
  exact ⟨hs.host, hs.typed, hcolumns.trans hs.columns, htype.trans hs.typeDelay,
    hslide.trans hs.slideDelay⟩

theorem applyStyle_sound (style : Style) : Sound h typing sliding (applyStyle style) :=
  applyStyle_ends .terminal .color (fun _ _ hs => ⟨hs.withJournal _, hs.withJournal _⟩)
    (fun _ _ hs => ⟨hs.host, hs.typed, hs.columns, hs.typeDelay, hs.slideDelay⟩) style

/-- A screen stays settled, whatever it is asked for. -/
theorem operating_settled :
    Operating (Settled h typing sliding) (ScreenFault h typing sliding) := by
  have hpaint (s : Stage Screen) (style active : Style) (hs : Settled h typing sliding s) :
      Settled h typing sliding
        { s with surface := { s.surface with style := style, active := active } } :=
    ⟨hs.host, hs.typed, hs.columns, hs.typeDelay, hs.slideDelay⟩
  have hsize : Sound h typing sliding learnSize := by
    refine .modify fun s hs => ⟨hs.host, hs.typed, ?_, hs.typeDelay, hs.slideDelay⟩
    show s.host.columns = h.columns
    rw [hs.host]
  exact .ofStyles drawing_settled hpaint applyStyle_sound
    (modifySurface_sound fun _ => ⟨rfl, rfl, rfl⟩) (fun _ j _ hs => hs.withJournal j)
    (fun hf => modifySurface_sound fun b => ⟨hf.columns b, hf.typeDelay b, hf.slideDelay b⟩)
    (modifySurface_sound fun _ => ⟨rfl, rfl, rfl⟩) hsize

/-- The prompt has the faults of a screen, and that of a line with digits that are no number. -/
theorem askPageNumber_ends (titles : List Text) (current : Int) :
    Ends (Settled h typing sliding) Any
      (fun e => ScreenFault h typing sliding e ∨ PromptFault h e)
      (askPageNumber titles current) := by
  have hdrawing : Drawing (Settled h typing sliding)
      (fun e => ScreenFault h typing sliding e ∨ PromptFault h e) :=
    drawing_settled.mono fun _ => .inl
  have hread (y x : Int) : Ends (Settled h typing sliding)
      (fun bytes => bytes = [] ∨ ∃ line ∈ h.typed, bytes = line.take 6)
      (fun e => ScreenFault h typing sliding e ∨ PromptFault h e) (readTyped y x 6) := by
    refine .andThen (hdrawing.call fun _ => rfl) fun _ => .modifyGet fun s hs => ?_
    rcases htyped : s.host.typed with - | ⟨line, rest⟩
    · exact ⟨.inl rfl, hs⟩
    · have hsuffix := hs.typed
      rw [htyped] at hsuffix
      refine ⟨.inr ⟨line, hsuffix.subset List.mem_cons_self, rfl⟩, ?_⟩
      refine ⟨?_, (List.suffix_cons line rest).trans hsuffix, hs.columns, hs.typeDelay,
        hs.slideDelay⟩
      show { s.host with typed := rest } = { h with typed := rest }
      rw [hs.host]
  refine hdrawing.askPageNumber (.inl rfl) hread ?_ titles current
  rintro bytes n (rfl | ⟨line, hline, rfl⟩) hanswer hdigits hn
  · exact absurd rfl hanswer
  · exact .inr (.pageNumber hline hanswer hdigits hn)

end SlideDeck.Screen
