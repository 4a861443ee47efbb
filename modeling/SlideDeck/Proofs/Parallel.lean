import SlideDeck.Proofs.Outcome

/-!
# Two runs side by side

Two runs of actions are compared step by step: started in related states, they end in related
states, both with a value or both with the same fault (`Parallel`). The relation of the states and
that of the values are open, and most of the time the two actions are the same one.
-/

namespace SlideDeck.Outcome

variable {ε σ α β : Type}

/-- Two outcomes match: related values or the same fault, and related states. -/
inductive Matched (R : σ → σ → Prop) (V : α → α → Prop) :
    EStateM.Result ε σ α → EStateM.Result ε σ α → Prop where
  | ok {a b : α} {s t : σ} (value : V a b) (state : R s t) : Matched R V (.ok a s) (.ok b t)
  | error (e : ε) {s t : σ} (state : R s t) : Matched R V (.error e s) (.error e t)

/-- From related states two actions come to matching outcomes. -/
def Parallel (R : σ → σ → Prop) (V : α → α → Prop) (x y : EStateM ε σ α) : Prop :=
  ∀ s t, R s t → Matched R V (x s) (y t)

theorem Matched.mono {R R' : σ → σ → Prop} {V : α → α → Prop} {x y : EStateM.Result ε σ α}
    (h : Matched R V x y) (hR : ∀ s t, R s t → R' s t) : Matched R' V x y := by
  cases h with
  | ok value hstate => exact .ok value (hR _ _ hstate)
  | error e hstate => exact .error e (hR _ _ hstate)

theorem Matched.state_related {R : σ → σ → Prop} {V : α → α → Prop}
    {x y : EStateM.Result ε σ α} (h : Matched R V x y) : R (state x) (state y) := by
  cases h with
  | ok value hstate => exact hstate
  | error e hstate => exact hstate

namespace Parallel

variable {R : σ → σ → Prop} {V : α → α → Prop} {U : β → β → Prop}

theorem pure {a b : α} (h : V a b) :
    Parallel R V (pure a : EStateM ε σ α) (pure b) := fun _ _ hR => .ok h hR

theorem throw (e : ε) : Parallel R V (throw e : EStateM ε σ α) (throw e) :=
  fun _ _ hR => .error e hR

theorem bind {x y : EStateM ε σ α} {f g : α → EStateM ε σ β} (hx : Parallel R V x y)
    (hf : ∀ a b, V a b → Parallel R U (f a) (g b)) : Parallel R U (x >>= f) (y >>= g) := by
  intro s t hR
  have hfirst := hx s t hR
  rcases hxs : x s with ⟨a, s'⟩ | ⟨e, s'⟩
  · rcases hyt : y t with ⟨b, t'⟩ | ⟨e, t'⟩
    · rw [hxs, hyt] at hfirst
      obtain ⟨hvalue, hstate⟩ := hfirst
      rw [bind_ok hxs, bind_ok hyt]
      exact hf a b hvalue s' t' hstate
    · rw [hxs, hyt] at hfirst
      cases hfirst
  · rcases hyt : y t with ⟨b, t'⟩ | ⟨e', t'⟩
    · rw [hxs, hyt] at hfirst
      cases hfirst
    · rw [hxs, hyt] at hfirst
      rw [bind_error hxs, bind_error hyt]
      cases hfirst with
      | error _ hstate => exact .error e hstate

/-- One action after another, where the first gives the same value on both sides. -/
theorem andThen {x y : EStateM ε σ α} {f g : α → EStateM ε σ β} (hx : Parallel R Eq x y)
    (hf : ∀ a, Parallel R U (f a) (g a)) : Parallel R U (x >>= f) (y >>= g) :=
  bind hx fun a _ hab => hab ▸ hf a

theorem get_bind {f g : σ → EStateM ε σ α}
    (h : ∀ s t, R s t → Matched R V (f s s) (g t t)) : Parallel R V (get >>= f) (get >>= g) := h

theorem modify {f g : σ → σ} (h : ∀ s t, R s t → R (f s) (g t)) :
    Parallel R Eq (modify f : EStateM ε σ Unit) (modify g) :=
  fun s t hR => .ok rfl (h s t hR)

theorem iteOf {c : Prop} [Decidable c] {x y x' y' : EStateM ε σ α} (hx : c → Parallel R V x x')
    (hy : ¬ c → Parallel R V y y') : Parallel R V (if c then x else y) (if c then x' else y') := by
  split
  · rename_i hc
    exact hx hc
  · rename_i hc
    exact hy hc

theorem ite {c : Prop} [Decidable c] {x y x' y' : EStateM ε σ α} (hx : Parallel R V x x')
    (hy : Parallel R V y y') : Parallel R V (if c then x else y) (if c then x' else y') :=
  iteOf (fun _ => hx) fun _ => hy

theorem iteThen {c : Prop} [Decidable c] {x x' : EStateM ε σ Unit}
    {rest rest' : Unit → EStateM ε σ α} (hx : Parallel R Eq x x')
    (hrest : Parallel R V (rest ()) (rest' ())) :
    Parallel R V (if c then x >>= rest else rest ()) (if c then x' >>= rest' else rest' ()) :=
  ite (andThen hx fun _ => hrest) hrest

theorem forM {f g : α → EStateM ε σ Unit} (xs : List α) (h : ∀ a, Parallel R Eq (f a) (g a)) :
    Parallel R Eq (xs.forM f) (xs.forM g) := by
  induction xs with
  | nil => exact pure rfl
  | cons x xs ih => exact andThen (h x) fun _ => ih

theorem ofLoop {count : Nat} {loop loop' : (i : Nat) → i ≤ count → EStateM ε σ Unit}
    (hzero : ∀ h, Parallel R Eq (loop 0 h) (loop' 0 h))
    (hsucc : ∀ i h, Parallel R Eq (loop i (Nat.le_of_succ_le h)) (loop' i (Nat.le_of_succ_le h)) →
      Parallel R Eq (loop (i + 1) h) (loop' (i + 1) h))
    (i : Nat) (h : i ≤ count) : Parallel R Eq (loop i h) (loop' i h) := by
  induction i with
  | zero => exact hzero h
  | succ i ih => exact hsucc i h (ih (Nat.le_of_succ_le h))

theorem natForM {count : Nat} {f g : (n : Nat) → n < count → EStateM ε σ Unit}
    (h : ∀ n hn, Parallel R Eq (f n hn) (g n hn)) :
    Parallel R Eq (count.forM f) (count.forM g) := by
  unfold Nat.forM
  exact ofLoop (fun _ => pure rfl) (fun i hi ih => andThen (h _ _) fun _ => ih) count _

theorem tryCatch {x y : EStateM ε σ α} {handler handler' : ε → EStateM ε σ α}
    (hx : Parallel R V x y) (hh : ∀ e, Parallel R V (handler e) (handler' e)) :
    Parallel R V (tryCatch x handler) (tryCatch y handler') := by
  intro s t hR
  have hfirst := hx s t hR
  show Matched R V (EStateM.tryCatch x handler s) (EStateM.tryCatch y handler' t)
  unfold EStateM.tryCatch
  generalize x s = first at hfirst ⊢
  generalize y t = second at hfirst ⊢
  cases hfirst with
  | ok value hstate => exact .ok value hstate
  | error e hstate => exact hh e _ _ hstate

/-- What one run keeps may be assumed on the way. -/
theorem keeping {P : σ → Prop} {x y : EStateM ε σ α} (hx : Parallel R V x y) (hP : Keeps P x) :
    Parallel (fun s t => R s t ∧ P s) V x y := by
  rintro s t ⟨hR, hs⟩
  have hfirst := hx s t hR
  have hkept := hP s hs
  generalize x s = first at hfirst hkept ⊢
  generalize y t = second at hfirst ⊢
  cases hfirst with
  | ok value hstate => exact .ok value ⟨hstate, hkept⟩
  | error e hstate => exact .error e ⟨hstate, hkept⟩

end Parallel

end SlideDeck.Outcome
