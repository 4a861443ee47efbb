import Mathlib
import SlideDeck.Presenter.Navigator

/-!
# Outcomes of actions

An action ends in a value or in a fault, and in a state either way. These lemmas take a sequence of
actions apart at its first one, and say what the primitive actions of a presentation do.
-/

namespace SlideDeck.Outcome

variable {ε σ α β : Type}

def state : EStateM.Result ε σ α → σ
  | .ok _ s => s
  | .error _ s => s

theorem bind_ok {x : EStateM ε σ α} {f : α → EStateM ε σ β} {s t : σ} {a : α}
    (h : x s = .ok a t) : (x >>= f) s = f a t := by
  simp only [bind, EStateM.bind, h]

theorem bind_error {x : EStateM ε σ α} {f : α → EStateM ε σ β} {s t : σ} {e : ε}
    (h : x s = .error e t) : (x >>= f) s = .error e t := by
  simp only [bind, EStateM.bind, h]

theorem bind_eq_ok {x : EStateM ε σ α} {f : α → EStateM ε σ β} {s u : σ} {b : β}
    (h : (x >>= f) s = .ok b u) : ∃ a t, x s = .ok a t ∧ f a t = .ok b u := by
  rcases hx : x s with ⟨a, t⟩ | ⟨e, t⟩
  · exact ⟨a, t, rfl, by rw [← h, bind_ok hx]⟩
  · rw [bind_error hx] at h
    cases h

theorem state_bind_pure (x : EStateM ε σ α) (b : β) (s : σ) :
    state ((x >>= fun _ => pure b) s) = state (x s) := by
  rcases h : x s with ⟨a, t⟩ | ⟨e, t⟩
  · rw [bind_ok h]
    rfl
  · rw [bind_error h]
    rfl

def Answers (x : EStateM ε σ α) (P : α → Prop) : Prop := ∀ s a t, x s = .ok a t → P a

theorem Answers.pure {P : α → Prop} {a : α} (h : P a) : Answers (pure a : EStateM ε σ α) P := by
  intro s b t hb
  cases hb
  exact h

theorem Answers.throw {P : α → Prop} (e : ε) : Answers (throw e : EStateM ε σ α) P := by
  intro s b t hb
  cases hb

theorem Answers.bind {x : EStateM ε σ α} {f : α → EStateM ε σ β} {P : β → Prop}
    (h : ∀ a, Answers (f a) P) : Answers (x >>= f) P := by
  intro s b u hb
  obtain ⟨a, t, -, hf⟩ := bind_eq_ok hb
  exact h a t b u hf

theorem mapM_append_singleton {f : α → EStateM ε σ β} {as : List α} {bs : List β} {a : α} {b : β}
    {s t u : σ} (has : as.mapM f s = .ok bs t) (ha : f a t = .ok b u) :
    (as ++ [a]).mapM f s = .ok (bs ++ [b]) u := by
  rw [List.mapM_append]
  refine (bind_ok has).trans ((bind_ok ?_).trans rfl)
  rw [List.mapM_cons]
  exact (bind_ok ha).trans rfl

/-- From a state an action comes to a value, and leaves a state with some property. -/
def ComesTo (x : EStateM ε σ α) (a : α) (Q : σ → Prop) (s : σ) : Prop := ∃ t, x s = .ok a t ∧ Q t

namespace ComesTo

variable {P Q : σ → Prop} {x : EStateM ε σ α} {f : α → EStateM ε σ β} {a : α} {b : β} {s t : σ}

theorem pure (h : Q s) : ComesTo (pure a : EStateM ε σ α) a Q s := ⟨s, rfl, h⟩

theorem mono (h : ComesTo x a P s) (hPQ : ∀ t, P t → Q t) : ComesTo x a Q s := by
  obtain ⟨t, hx, ht⟩ := h
  exact ⟨t, hx, hPQ t ht⟩

theorem bind (hx : ComesTo x a P s) (hf : ∀ t, P t → ComesTo (f a) b Q t) :
    ComesTo (x >>= f) b Q s := by
  obtain ⟨t, hx, ht⟩ := hx
  obtain ⟨u, hrest, hu⟩ := hf t ht
  exact ⟨u, (bind_ok hx).trans hrest, hu⟩

theorem after (hx : x s = .ok a t) (hf : ComesTo (f a) b Q t) : ComesTo (x >>= f) b Q s := by
  obtain ⟨u, hrest, hu⟩ := hf
  exact ⟨u, (bind_ok hx).trans hrest, hu⟩

theorem iteThen {c : Prop} [Decidable c] {y : EStateM ε σ Unit} {rest : Unit → EStateM ε σ β}
    (hy : c → ComesTo y () P s) (hs : P s) (hrest : ∀ t, P t → ComesTo (rest ()) b Q t) :
    ComesTo (if c then y >>= rest else rest ()) b Q s := by
  split_ifs with hc
  · exact (hy hc).bind hrest
  · exact hrest s hs

end ComesTo

/-- An action keeps a predicate of the state, whether it ends in a value or in a fault. -/
def Keeps (P : σ → Prop) (x : EStateM ε σ α) : Prop := ∀ s, P s → P (state (x s))

namespace Keeps

variable {P : σ → Prop}

theorem modify {f : σ → σ} (h : ∀ s, P s → P (f s)) : Keeps P (modify f : EStateM ε σ Unit) := h

theorem bind {x : EStateM ε σ α} {f : α → EStateM ε σ β} (hx : Keeps P x)
    (hf : ∀ a, Keeps P (f a)) : Keeps P (x >>= f) := by
  intro s hs
  have hfirst := hx s hs
  rcases h : x s with ⟨a, t⟩ | ⟨e, t⟩
  · rw [h] at hfirst
    rw [bind_ok h]
    exact hf a t hfirst
  · rw [h] at hfirst
    rw [bind_error h]
    exact hfirst

end Keeps

end SlideDeck.Outcome

namespace SlideDeck.Present

variable {σ α : Type}

theorem nav_apply (p : Presentation σ) : nav p = .ok p.nav p := rfl

theorem lift_ok {act : Act σ α} {p : Presentation σ} {a : α} {s : Stage σ}
    (h : act p.stage = .ok a s) : (liftM act : Present σ α) p = .ok a ⟨s, p.nav⟩ := by
  show onStage act p = _
  simp only [onStage, h]

theorem lift_error {act : Act σ α} {p : Presentation σ} {fault : Fault} {s : Stage σ}
    (h : act p.stage = .error fault s) :
    (liftM act : Present σ α) p = .error fault ⟨s, p.nav⟩ := by
  show onStage act p = _
  simp only [onStage, h]

end SlideDeck.Present

namespace SlideDeck

/-- A host without files, on which every command prints nothing. -/
def Host.quiet : Host where
  shell _ := .finished [] [] 0
  clock := { year := 2024, month := 1, day := 1 }
  lettering := { hasFont := fun _ => true, render := fun _ _ t => t }
  draw _ _ := 0

end SlideDeck
