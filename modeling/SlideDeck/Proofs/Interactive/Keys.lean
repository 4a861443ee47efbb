import SlideDeck.Presenter.Interactive
import SlideDeck.Proofs.Outcome

/-!
# Keys of a presentation

A run is the keys that it has taken so far and the keys that are left. `Waits` says where a run
stands between the two; all that the run does later follows from there.
-/

namespace SlideDeck

def Ending.ofPlay {σ : Type} : EStateM.Result Fault (Presentation σ) Unit → Ending σ
  | .ok _ p => ⟨p.stage, some p.nav, none⟩
  | .error fault p => ⟨p.stage, some p.nav, some fault⟩

namespace Interactive

variable {σ : Type} [Console σ] {script : Script σ} {phase next : Phase} {s : Stage σ}
  {p q : Presentation σ} {keys more : List Keystroke}

/-- Takes some keys, as `play` does, and says what the presentation waits for then; it waits for
nothing once the user has quit. -/
def presses (script : Script σ) (phase : Phase) : List Keystroke → Present σ (Option Phase)
  | [] => return some phase
  | key :: keys => do
    edited (σ := σ) key.edits
    match ← press script phase key.action with
    | some phase => presses script phase keys
    | none => return none

theorem presses_singleton (script : Script σ) (phase : Phase) (key : Keystroke) :
    presses script phase [key] = (do
      edited (σ := σ) key.edits
      press script phase key.action) := by
  simp only [presses]
  congr 1
  funext _
  refine (bind_congr fun answer => ?_).trans (bind_pure _)
  cases answer with
  | none => rfl
  | some phase => rfl

theorem presses_append (script : Script σ) (phase : Phase) (keys more : List Keystroke) :
    presses script phase (keys ++ more) = do
      match ← presses script phase keys with
      | some phase => presses script phase more
      | none => return none := by
  induction keys generalizing phase with
  | nil => exact (pure_bind _ _).symm
  | cons key keys ih =>
    simp only [List.cons_append, presses, bind_assoc]
    congr 1
    funext _
    congr 1
    funext answer
    cases answer with
    | none => exact (pure_bind _ _).symm
    | some phase => exact ih phase

theorem play_append (script : Script σ) (phase : Phase) (keys more : List Keystroke) :
    play script phase (keys ++ more) = (do
      if let some phase ← presses script phase keys then play script phase more) := by
  induction keys generalizing phase with
  | nil => exact (pure_bind _ _).symm
  | cons key keys ih =>
    simp only [List.cons_append, presses, play, bind_assoc]
    congr 1
    funext _
    congr 1
    funext answer
    cases answer with
    | none => exact (pure_bind _ _).symm
    | some phase => exact ih phase

/-- After some keys a run has come to a presentation that waits for a key. -/
def Waits (script : Script σ) (keys : List Keystroke) (s : Stage σ) (phase : Phase)
    (p : Presentation σ) : Prop :=
  ∃ deck t n q,
    Deck.load script.capture script.path s = .ok deck t ∧
    Navigator.start deck 0 = .ok n ∧
    opening ⟨t, n⟩ = .ok () q ∧
    presses script .choosing keys q = .ok (some phase) p

theorem Waits.append (h : Waits script keys s phase p)
    (hmore : presses script phase more p = .ok (some next) q) :
    Waits script (keys ++ more) s next q := by
  obtain ⟨deck, t, n, first, hload, hstart, hopening, hkeys⟩ := h
  refine ⟨deck, t, n, first, hload, hstart, hopening, ?_⟩
  rw [presses_append]
  exact (Outcome.bind_ok hkeys).trans hmore

theorem Waits.presses_eq (h : Waits script keys s phase p)
    (hall : Waits script (keys ++ more) s next q) :
    presses script phase more p = .ok (some next) q := by
  obtain ⟨deck, t, n, first, hload, hstart, hopening, hkeys⟩ := h
  obtain ⟨deck', t', n', first', hload', hstart', hopening', hall⟩ := hall
  cases hload.symm.trans hload'
  cases hstart.symm.trans hstart'
  cases hopening.symm.trans hopening'
  rw [presses_append] at hall
  exact (Outcome.bind_ok hkeys).symm.trans hall

theorem Waits.run_append (h : Waits script keys s phase p) (more : List Keystroke) :
    run script (keys ++ more) s = Ending.ofPlay (play script phase more p) := by
  obtain ⟨deck, t, n, first, hload, hstart, hopening, hkeys⟩ := h
  have hplay : (do opening; play script .choosing (keys ++ more) : Present σ Unit) ⟨t, n⟩ =
      play script phase more p := by
    rw [play_append]
    exact (Outcome.bind_ok hopening).trans (Outcome.bind_ok hkeys)
  simp only [run, Ending.ofRun, hload, hstart, hplay]
  cases play script phase more p with
  | ok => rfl
  | error => rfl

end Interactive

end SlideDeck
