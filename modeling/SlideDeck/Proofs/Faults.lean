import SlideDeck.Host.HugeText
import SlideDeck.Proofs.Outcome

/-!
# How actions end

An action that starts in a state with some property ends in one, in a value of which something is
known or in a fault of some kind (`Ends`). The rules follow the way actions are put together, so
that the faults of a whole are found from those of its parts.
-/

namespace SlideDeck.Outcome

variable {ε σ α β : Type}

def Ended (P : σ → Prop) (V : α → Prop) (E : ε → Prop) : EStateM.Result ε σ α → Prop
  | .ok a t => V a ∧ P t
  | .error e t => E e ∧ P t

/-- From a state with the property `P` an action comes to such a state again, in a value that is
`V` or in a fault that is `E`. -/
def Ends (P : σ → Prop) (V : α → Prop) (E : ε → Prop) (x : EStateM ε σ α) : Prop :=
  ∀ s, P s → Ended P V E (x s)

def Any (_ : α) : Prop := True

/-- From a state with the property `P` an action comes to a value. -/
def Succeeds (P : σ → Prop) (x : EStateM ε σ α) : Prop := ∀ s, P s → ∃ a t, x s = .ok a t

theorem ended_bind {P : σ → Prop} {V : α → Prop} {W : β → Prop} {E : ε → Prop} {x : EStateM ε σ α}
    {f : α → EStateM ε σ β} {s : σ} (hx : Ended P V E (x s)) (hf : ∀ a, V a → Ends P W E (f a)) :
    Ended P W E ((x >>= f) s) := by
  rcases h : x s with ⟨a, t⟩ | ⟨e, t⟩
  · rw [h] at hx
    rw [bind_ok h]
    exact hf a hx.1 t hx.2
  · rw [h] at hx
    rw [bind_error h]
    exact hx

/-- The finalizer runs after a value and after a fault; a fault of its own wins. -/
theorem tryFinally_eq (x : EStateM ε σ α) (finalizer : EStateM ε σ β) (s : σ) :
    tryFinally x finalizer s = match x s with
      | .ok a t => match finalizer t with
        | .ok _ u => .ok a u
        | .error fault u => .error fault u
      | .error fault t => match finalizer t with
        | .ok _ u => .error fault u
        | .error later u => .error later u := by
  show EStateM.map (·.1) (tryFinally' x fun _ => finalizer) s = _
  simp only [EStateM.map, tryFinally']
  rcases x s with ⟨a, t⟩ | ⟨fault, t⟩
  · dsimp only
    rcases finalizer t with ⟨b, u⟩ | ⟨later, u⟩
    · rfl
    · rfl
  · dsimp only
    rcases finalizer t with ⟨b, u⟩ | ⟨later, u⟩
    · rfl
    · rfl

theorem tryFinally_ok {x : EStateM ε σ α} {finalizer : EStateM ε σ β} {s t u : σ} {a : α} {b : β}
    (hx : x s = .ok a t) (hf : finalizer t = .ok b u) : tryFinally x finalizer s = .ok a u := by
  rw [tryFinally_eq, hx]
  dsimp only
  rw [hf]

/-- The finalizer leads on from where the action ended, in a value or in a fault. -/
theorem ended_tryFinally {x : EStateM ε σ α} {finalizer : EStateM ε σ β} {s : σ} {P Q : σ → Prop}
    {V : α → Prop} {W : β → Prop} {E : ε → Prop} (hx : Ended P V E (x s))
    (hf : ∀ t, P t → Ended Q W E (finalizer t)) : Ended Q V E (tryFinally x finalizer s) := by
  rw [tryFinally_eq]
  generalize x s = first at hx ⊢
  rcases first with ⟨a, t⟩ | ⟨fault, t⟩
  · have hlast := hf t hx.2
    dsimp only
    generalize finalizer t = last at hlast ⊢
    rcases last with ⟨b, u⟩ | ⟨later, u⟩
    · exact ⟨hx.1, hlast.2⟩
    · exact hlast
  · have hlast := hf t hx.2
    dsimp only
    generalize finalizer t = last at hlast ⊢
    rcases last with ⟨b, u⟩ | ⟨later, u⟩
    · exact ⟨hx.1, hlast.2⟩
    · exact hlast

/-- A finalizer that cannot fail leaves the faults of what it comes after. -/
theorem fault_of_tryFinally {x : EStateM ε σ α} {finalizer : EStateM ε σ β} {s t : σ} {e : ε}
    {P : σ → Prop} {V : α → Prop} {E : ε → Prop} (hx : Ends P V E x) (hf : Succeeds P finalizer)
    (hs : P s) (h : tryFinally x finalizer s = .error e t) : E e := by
  have hlast (u : σ) (hu : P u) : Ended Any Any E (finalizer u) := by
    obtain ⟨b, v, hlast⟩ := hf u hu
    rw [hlast]
    exact ⟨trivial, trivial⟩
  have hended := ended_tryFinally (hx s hs) hlast
  rw [h] at hended
  exact hended.1

theorem keeps_iff_ends {P : σ → Prop} {x : EStateM ε σ α} : Keeps P x ↔ Ends P Any Any x := by
  constructor
  · intro h s hs
    have hkept := h s hs
    rcases hx : x s with ⟨a, t⟩ | ⟨e, t⟩
    · rw [hx] at hkept
      exact ⟨trivial, hkept⟩
    · rw [hx] at hkept
      exact ⟨trivial, hkept⟩
  · intro h s hs
    have hended := h s hs
    rcases hx : x s with ⟨a, t⟩ | ⟨e, t⟩
    · rw [hx] at hended
      exact hended.2
    · rw [hx] at hended
      exact hended.2

namespace Ends

variable {P : σ → Prop} {V V' : α → Prop} {W : β → Prop} {E E' : ε → Prop}

theorem mono {x : EStateM ε σ α} (h : Ends P V E x) (hV : ∀ a, V a → V' a)
    (hE : ∀ e, E e → E' e) : Ends P V' E' x := by
  intro s hs
  have hended := h s hs
  rcases hx : x s with ⟨a, t⟩ | ⟨e, t⟩
  · rw [hx] at hended
    exact ⟨hV a hended.1, hended.2⟩
  · rw [hx] at hended
    exact ⟨hE e hended.1, hended.2⟩

/-- An action without faults comes to a value. -/
theorem ok {x : EStateM ε σ α} (h : Ends P V (fun _ => False) x) {s : σ} (hs : P s) :
    ∃ a t, x s = .ok a t ∧ V a ∧ P t := by
  have hended := h s hs
  rcases hx : x s with ⟨a, t⟩ | ⟨e, t⟩
  · rw [hx] at hended
    exact ⟨a, t, rfl, hended⟩
  · rw [hx] at hended
    exact hended.1.elim

theorem any {x : EStateM ε σ α} (h : Ends P V E x) : Ends P Any E x :=
  h.mono (fun _ _ => trivial) fun _ => id

theorem both {Q : σ → Prop} {U : α → Prop} {F : ε → Prop} {x : EStateM ε σ α} (h : Ends P V E x)
    (h' : Ends Q U F x) :
    Ends (fun s => P s ∧ Q s) (fun a => V a ∧ U a) (fun e => E e ∧ F e) x := by
  intro s hs
  have hleft := h s hs.1
  have hright := h' s hs.2
  rcases hx : x s with ⟨a, t⟩ | ⟨e, t⟩
  · rw [hx] at hleft hright
    exact ⟨⟨hleft.1, hright.1⟩, hleft.2, hright.2⟩
  · rw [hx] at hleft hright
    exact ⟨⟨hleft.1, hright.1⟩, hleft.2, hright.2⟩

theorem pure {a : α} (h : V a) : Ends P V E (pure a : EStateM ε σ α) := fun _ hs => ⟨h, hs⟩

theorem throw {e : ε} (h : E e) : Ends P V E (throw e : EStateM ε σ α) := fun _ hs => ⟨h, hs⟩

theorem bind {x : EStateM ε σ α} {f : α → EStateM ε σ β} (hx : Ends P V E x)
    (hf : ∀ a, V a → Ends P W E (f a)) : Ends P W E (x >>= f) :=
  fun s hs => ended_bind (hx s hs) hf

theorem andThen {x : EStateM ε σ α} {f : α → EStateM ε σ β} (hx : Ends P V E x)
    (hf : ∀ a, Ends P W E (f a)) : Ends P W E (x >>= f) := bind hx fun a _ => hf a

theorem get : Ends P P E (get : EStateM ε σ σ) := fun _ hs => ⟨hs, hs⟩

theorem modify {f : σ → σ} (h : ∀ s, P s → P (f s)) :
    Ends P Any E (modify f : EStateM ε σ Unit) := fun s hs => ⟨trivial, h s hs⟩

theorem modifyGet {f : σ → α × σ} (h : ∀ s, P s → V (f s).1 ∧ P (f s).2) :
    Ends P V E (modifyGet f : EStateM ε σ α) := h

theorem ite {c : Prop} [Decidable c] {x y : EStateM ε σ α} (hx : c → Ends P V E x)
    (hy : ¬c → Ends P V E y) : Ends P V E (if c then x else y) := by
  split
  · rename_i hc
    exact hx hc
  · rename_i hc
    exact hy hc

theorem iteThen {c : Prop} [Decidable c] {x : EStateM ε σ Unit} {rest : Unit → EStateM ε σ α}
    (hx : c → Ends P Any E x) (hrest : Ends P V E (rest ())) :
    Ends P V E (if c then x >>= rest else rest ()) :=
  ite (fun hc => andThen (hx hc) fun _ => hrest) fun _ => hrest

theorem forM {f : α → EStateM ε σ Unit} {xs : List α} (h : ∀ a ∈ xs, Ends P Any E (f a)) :
    Ends P Any E (xs.forM f) := by
  induction xs with
  | nil => exact pure trivial
  | cons x xs ih =>
    exact andThen (h x List.mem_cons_self) fun _ => ih fun a ha => h a (List.mem_cons_of_mem x ha)

theorem ofLoop {count : Nat} {loop : (i : Nat) → i ≤ count → EStateM ε σ Unit}
    (hzero : ∀ h, Ends P Any E (loop 0 h))
    (hsucc : ∀ i h, Ends P Any E (loop i (Nat.le_of_succ_le h)) → Ends P Any E (loop (i + 1) h))
    (i : Nat) (h : i ≤ count) : Ends P Any E (loop i h) := by
  induction i with
  | zero => exact hzero h
  | succ i ih => exact hsucc i h (ih (Nat.le_of_succ_le h))

theorem natForM {count : Nat} {f : (n : Nat) → n < count → EStateM ε σ Unit}
    (h : ∀ n hn, Ends P Any E (f n hn)) : Ends P Any E (count.forM f) := by
  unfold Nat.forM
  exact ofLoop (fun _ => pure trivial) (fun i hi ih => andThen (h _ _) fun _ => ih) count _

theorem tryCatch {x : EStateM ε σ α} {handler : ε → EStateM ε σ α} (hx : Ends P V E' x)
    (hh : ∀ e, E' e → Ends P V E (handler e)) : Ends P V E (tryCatch x handler) := by
  intro s hs
  have hfirst := hx s hs
  show Ended P V E (EStateM.tryCatch x handler s)
  unfold EStateM.tryCatch
  rcases h : x s with ⟨a, t⟩ | ⟨e, t⟩
  · rw [h] at hfirst
    exact hfirst
  · rw [h] at hfirst
    exact hh e hfirst.1 t hfirst.2

theorem tryFinally {x : EStateM ε σ α} {finalizer : EStateM ε σ β} (hx : Ends P V E x)
    (hf : Ends P W E finalizer) : Ends P V E (tryFinally x finalizer) :=
  fun s hs => ended_tryFinally (hx s hs) hf

end Ends

end SlideDeck.Outcome

namespace SlideDeck

/-- The text that a call draws, empty for all others. -/
def TerminalCall.text : TerminalCall → Text
  | .drawText _ _ t => t
  | _ => []

theorem TerminalCall.holdsNul_eq (c : TerminalCall) : c.holdsNul = c.text.contains '\x00' := by
  cases c <;> rfl

namespace Host

variable {h : Host} {c : TerminalCall} {r : Rejection} {t u : Text}

/-- The terminal does not refuse to draw a text for the characters in it. -/
def Takes (h : Host) (t : Text) : Prop := (h.refuses .drawNul && t.contains '\x00') = false

def TakesAnyText (h : Host) : Prop := h.refuses .drawNul = false

theorem TakesAnyText.takes (htakes : h.TakesAnyText) (t : Text) : h.Takes t := by
  rw [Takes, show h.refuses .drawNul = false from htakes, Bool.false_and]

theorem takes_of_not_mem (ht : '\x00' ∉ t) : h.Takes t := by
  rw [Takes, Bool.eq_false_iff.2 (mt List.contains_iff_mem.1 ht), Bool.and_false]

theorem takes_nil : h.Takes [] := takes_of_not_mem List.not_mem_nil

theorem Takes.of_subset (ht : h.Takes t) (hsubset : u ⊆ t) : h.Takes u := by
  by_cases hnul : '\x00' ∈ t
  · rw [Takes, List.contains_iff_mem.2 hnul, Bool.and_true] at ht
    exact TakesAnyText.takes ht u
  · exact takes_of_not_mem (mt (@hsubset _) hnul)

theorem rejection?_eq (htakes : h.Takes c.text) :
    h.rejection? c = match c.function? with
      | some f => if h.refuses f || h.offScreen c then some (.terminal f) else none
      | none => none := by
  unfold rejection?
  rw [c.holdsNul_eq, show (_ && _) = false from htakes]
  rfl

theorem rejection?_eq_none (htakes : h.Takes c.text) (hoff : h.offScreen c = false)
    (haccept : ∀ f, c.function? = some f → h.refuses f = false) : h.rejection? c = none := by
  rw [rejection?_eq htakes]
  rcases hf : c.function? with - | f
  · rfl
  · dsimp only
    rw [haccept f hf, hoff]
    rfl

theorem rejection?_of_not_takes (htakes : ¬h.Takes c.text) : h.rejection? c = some .text := by
  unfold rejection?
  rw [c.holdsNul_eq, eq_true_of_ne_false htakes]
  rfl

/-- A call is refused for the characters that it draws, or by the function that it is made of. -/
theorem rejection?_cases (hr : h.rejection? c = some r) :
    (r = .text ∧ h.refuses .drawNul = true ∧ '\x00' ∈ c.text) ∨
      ∃ f, r = .terminal f ∧ c.function? = some f := by
  by_cases htakes : h.Takes c.text
  · rw [rejection?_eq htakes] at hr
    rcases hf : c.function? with - | f
    · rw [hf] at hr
      cases hr
    · rw [hf] at hr
      dsimp only at hr
      split at hr
      · cases hr
        exact .inr ⟨f, rfl, rfl⟩
      · cases hr
  · rw [rejection?_of_not_takes htakes] at hr
    cases hr
    obtain ⟨hrefuses, hnul⟩ := Bool.and_eq_true_iff.1 (eq_true_of_ne_false htakes)
    exact .inl ⟨rfl, hrefuses, List.contains_iff_mem.1 hnul⟩

/-- No pause of a length is refused, whatever the timer has counted by then. -/
def Waits (h : Host) (d : Delay) : Prop := ∀ k, h.pauseFault? k d = none

end Host

end SlideDeck

namespace SlideDeck.Act

open Outcome

variable {σ : Type} {P : Stage σ → Prop} {E : Fault → Prop}

theorem surface_ends : Ends P (fun b => ∃ s, P s ∧ s.surface = b) E surface :=
  .bind (V := P) .get fun s hs => .pure ⟨s, hs, rfl⟩

/-- A call is noted, and it may be refused. -/
theorem call_ends {c : TerminalCall}
    (hnoted : ∀ s, P s → P { s with
      journal := { s.journal with events := s.journal.events.push (.terminal c) } })
    (hrefused : ∀ s r, P s → s.host.rejection? c = some r → E (.refused r)) :
    Ends P Any E (call (σ := σ) c) := by
  refine .andThen (.modify hnoted) fun _ => .bind .get fun s hs => ?_
  rcases hrejection : s.host.rejection? c with - | r
  · exact .pure trivial
  · exact .throw (hrefused s r hs hrejection)

/-- A stage on which a pause has been noted, and one on which it has passed. -/
def pausing (d : Delay) (s : Stage σ) : Stage σ :=
  { s with journal := { s.journal with events := s.journal.events.push (.pause d) } }

@[inherit_doc pausing]
def paused (d : Delay) (s : Stage σ) : Stage σ :=
  { s with journal := { s.journal with
      events := s.journal.events.push (.pause d), pauses := s.journal.pauses + 1 } }

theorem pause_eq (d : Delay) (s : Stage σ) :
    pause d s = match s.host.pauseFault? s.journal.pauses d with
      | some fault => .error fault (pausing d s)
      | none =>
        if s.host.interruptAt = some (s.journal.pauses + 1) then .error .interrupted (paused d s)
        else .ok () (paused d s) := by
  have hread : pause d s = (match s.host.pauseFault? s.journal.pauses d with
      | some fault => .error fault (pausing d s)
      | none => (if s.host.interruptAt = some (s.journal.pauses + 1) then throw .interrupted
        else pure () : Act σ Unit) (paused d s)) := by
    refine (bind_ok (t := pausing d s) rfl).trans ((bind_ok (t := pausing d s) rfl).trans ?_)
    show _ = match (pausing d s).host.pauseFault? (pausing d s).journal.pauses d with
      | some fault => _
      | none => _
    rcases (pausing d s).host.pauseFault? (pausing d s).journal.pauses d with - | fault
    · rfl
    · rfl
  rw [hread]
  rcases s.host.pauseFault? s.journal.pauses d with - | fault
  · dsimp only
    split
    · rfl
    · rfl
  · rfl

theorem eq_paused_of_ok {d : Delay} {s t : Stage σ} (h : pause d s = .ok () t) :
    t = paused d s := by
  rw [pause_eq] at h
  split at h
  · cases h
  · split at h
    · cases h
    · cases h
      rfl

theorem pause_ok {d : Delay} {s : Stage σ} (hd : s.host.Waits d) (h : s.host.interruptAt = none) :
    pause d s = .ok () (paused d s) := by
  rw [pause_eq, hd, h]
  rfl

/-- What a pause can end in without the user. -/
def PauseFault (h : Host) (d : Delay) (e : Fault) : Prop := ∃ k, h.pauseFault? k d = some e

/-- A pause is noted and counted. It may be refused before it begins, and broken off after. -/
theorem pause_ends {d : Delay} (hpausing : ∀ s, P s → P (pausing d s))
    (hpaused : ∀ s, P s → P (paused d s)) (hfault : ∀ s e, P s → PauseFault s.host d e → E e)
    (hinterrupted : ∀ s, P s → E .interrupted) : Ends P Any E (pause (σ := σ) d) := by
  intro s hs
  rw [pause_eq]
  rcases hrefused : s.host.pauseFault? s.journal.pauses d with - | e
  · dsimp only
    split
    · exact ⟨hinterrupted s hs, hpaused s hs⟩
    · exact ⟨trivial, hpaused s hs⟩
  · exact ⟨hfault s e hs ⟨_, hrefused⟩, hpausing s hs⟩

theorem tolerant_ends {x : Act σ Unit} (hx : Ends P Any E x) : Ends P Any E (tolerant x) := by
  refine .tryCatch hx fun fault hfault => ?_
  split
  · exact .pure trivial
  · exact .throw hfault

/-- Only a text that is too long is not written. -/
theorem copies_ends {n : Int} (hcount : countLimit < n → E .tooManyCopies)
    (hmemory : memoryLimit < n → E .outOfMemory) (c : Char) :
    Ends P Any E (copies (σ := σ) n c) := by
  unfold copies
  exact .iteThen (fun hwide => .throw (hcount hwide))
    (.iteThen (fun hwide => .throw (hmemory hwide)) (.pure trivial))

theorem copies_ok {s : Stage σ} {n : Int} (c : Char) (hn : n ≤ memoryLimit) :
    copies n c s = .ok (Text.rule n c) s := by
  have hcount : ¬ countLimit < n := by
    unfold countLimit memoryLimit at *
    omega
  unfold copies
  rw [if_neg hcount, if_neg (not_lt.2 hn)]
  rfl

end SlideDeck.Act

namespace SlideDeck.HugeText

open Outcome

variable {σ : Type} {P : Stage σ → Prop} {E : Fault → Prop}

theorem chooseFont_ends
    (hP : ∀ s (j : Journal), j.events = s.journal.events → P s → P { s with journal := j })
    (font : Text) (width : Nat) : Ends P Any E (chooseFont (σ := σ) font width) := by
  have hwarn (w : Warning) : Ends P Any E (Act.warn (σ := σ) w) :=
    .modify fun s hs => hP s _ rfl hs
  refine .andThen .get fun s => ?_
  split
  · exact .pure trivial
  · exact .iteThen (fun _ => hwarn _)
      (.andThen (.modify fun s hs => hP s _ rfl hs) fun _ => .pure trivial)

/-- Rendering changes no more of a stage than the warnings and the fonts in its journal, and fails
only where there is no room for the letters. -/
theorem render_ends
    (hP : ∀ s (j : Journal), j.events = s.journal.events → P s → P { s with journal := j })
    (t font : Text) (width : Int)
    (hroom : ∀ s used, P s → s.host.lettering.hasRoom used (max 1 width).toNat t = false →
      E (.refused .letters)) : Ends P Any E (render (σ := σ) t font width) := by
  refine .andThen (chooseFont_ends hP font _) fun used => .bind .get fun s hs => ?_
  refine .iteThen (fun hnone => .throw (hroom s used hs ?_)) (.pure trivial)
  rwa [Bool.not_eq_true'] at hnone

end SlideDeck.HugeText
