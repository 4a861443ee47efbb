import SlideDeck.Proofs.Outcome

/-!
# Pauses

A line is a pause when it begins with three hyphens: no marker that comes earlier in the table
begins so. The answer of a dispatch that ends in a value is therefore known from the line alone.
-/

namespace SlideDeck

def isPause (line : Text) : Bool := line.startsWith "---"

/-- The lines up to the first pause and with it, or all lines when none is a pause. -/
def upToPause : List Text → List Text
  | [] => []
  | line :: rest => if isPause line then [line] else line :: upToPause rest

theorem upToPause_of_pause {line : Text} (rest : List Text) (h : isPause line = true) :
    upToPause (line :: rest) = [line] := by
  rw [upToPause, if_pos h]

theorem upToPause_of_not_pause {line : Text} (rest : List Text) (h : isPause line = false) :
    upToPause (line :: rest) = line :: upToPause rest := by
  rw [upToPause, if_neg (by simp [h])]

theorem upToPause_ne_nil {lines : List Text} (h : lines ≠ []) : upToPause lines ≠ [] := by
  cases lines with
  | nil => exact absurd rfl h
  | cons line rest =>
    rw [upToPause]
    split
    · exact List.cons_ne_nil line []
    · exact List.cons_ne_nil line (upToPause rest)

theorem upToPause_isPrefix (lines : List Text) : upToPause lines <+: lines := by
  induction lines with
  | nil => exact List.prefix_rfl
  | cons line rest ih =>
    rw [upToPause]
    split
    · exact List.prefix_append [line] rest
    · exact (List.prefix_cons_inj line).2 ih

theorem upToPause_of_no_pause {lines : List Text} (h : lines.any isPause = false) :
    upToPause lines = lines := by
  induction lines with
  | nil => rfl
  | cons line rest ih =>
    rw [List.any_cons, Bool.or_eq_false_iff] at h
    rw [upToPause_of_not_pause rest h.1, ih h.2]

/-- The lines up to the first pause have no other. -/
theorem countP_upToPause (lines : List Text) :
    (upToPause lines).countP isPause = if lines.any isPause then 1 else 0 := by
  induction lines with
  | nil => rfl
  | cons line rest ih =>
    rcases hpause : isPause line with - | -
    · rw [upToPause_of_not_pause rest hpause, List.countP_cons_of_neg (by simp [hpause]), ih,
        List.any_cons, hpause, Bool.false_or]
    · rw [upToPause_of_pause rest hpause, List.countP_cons_of_pos hpause, List.any_cons, hpause]
      rfl

namespace Directive

variable {σ : Type} [Surface σ]

theorem find?_eq_some {entries : List (Text × Directive)} {line m rest : Text} {d : Directive}
    (h : find? entries line = some (m, d, rest)) : (m, d) ∈ entries ∧ line = m ++ rest := by
  obtain ⟨⟨m', d'⟩, hmem, hafter⟩ := List.exists_of_findSome?_eq_some h
  obtain ⟨r, hr, hpair⟩ := Option.map_eq_some_iff.1 hafter
  simp only [Prod.mk.injEq] at hpair
  obtain ⟨rfl, rfl, rfl⟩ := hpair
  exact ⟨hmem, Text.after?_eq_some_iff.1 hr⟩

theorem find?_pause {line : Text} (h : isPause line = true) :
    ∃ rest, find? table line = some (("---" : Text), pause, rest) := by
  obtain ⟨rest, rfl⟩ := Text.startsWith_iff.1 h
  exact ⟨rest, rfl⟩

theorem isPause_of_find? {line m rest : Text} (h : find? table line = some (m, pause, rest)) :
    isPause line = true := by
  obtain ⟨hmem, rfl⟩ := find?_eq_some h
  have hm : m = "---" := by simpa [table] using hmem
  exact Text.startsWith_iff.2 ⟨rest, by rw [hm]⟩

theorem obey_answers (d : Directive) (rest : Text) :
    Outcome.Answers (obey (σ := σ) rest d) fun answer => answer = true ↔ d = pause := by
  cases d with
  | comment => exact .pure (by simp)
  | ask op => exact .bind fun _ => .pure (by simp)
  | pause => exact .bind fun _ => .pure (by simp)
  | sleep =>
    simp only [obey]
    split
    · exact .bind fun _ => .pure (by simp)
    · exact .throw _
  | date => exact .bind fun _ => .bind fun _ => .pure (by simp)
  | includeFile =>
    exact .bind fun _ => .bind fun _ => .bind fun _ => .bind fun _ => .bind fun _ =>
      .bind fun _ => .pure (by simp)

theorem dispatch_answer {line : Text} {s t : Stage σ} {answer : Bool}
    (h : dispatch (some line) s = .ok answer t) : answer = isPause line := by
  simp only [dispatch, dispatchBy] at h
  rcases hfind : find? table line with - | ⟨m, d, rest⟩
  · rw [hfind] at h
    obtain ⟨-, u, -, h⟩ := Outcome.bind_eq_ok h
    cases h
    rcases hpause : isPause line with - | -
    · rfl
    · obtain ⟨r, hr⟩ := find?_pause hpause
      rw [hfind] at hr
      cases hr
  · rw [hfind] at h
    have hanswer := obey_answers d rest s answer t h
    rcases hpause : isPause line with - | -
    · rw [Bool.eq_false_iff]
      intro hyes
      rw [hanswer.1 hyes] at hfind
      rw [isPause_of_find? hfind] at hpause
      cases hpause
    · obtain ⟨r, hr⟩ := find?_pause hpause
      rw [hfind] at hr
      cases hr
      exact hanswer.2 rfl

end Directive

end SlideDeck
