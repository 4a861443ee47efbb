import SlideDeck.Proofs.Layout.Unbroken
import SlideDeck.Proofs.Layout.Wider

/-!
# Lines that are wrapped again

A line is shorter than the width, or it was cut at the full width because no blank stands behind
its first character. Either way it is not broken when it is wrapped once more, at its own width or
at a greater one, and no other text is a line at that width (`lines_stay_whole`).
-/

namespace SlideDeck.Layout

variable {α : Type} {blank : α → Bool} {width : Int} {items line : List α}

/-! ### What a line is -/

/-- A blank behind the first item of a line is one of the window that the line was cut from. -/
theorem exists_lastBlank_of_mem_tail {w : Nat} {rest : List α} {a : α} (ha : a ∈ line.tail)
    (hblank : blank a = true) (hle : line.length ≤ w) :
    ∃ k, LastBlank blank w (line ++ rest) k := by
  obtain ⟨j, hj⟩ := List.mem_iff_getElem?.1 ha
  rw [List.getElem?_tail] at hj
  have hlt : j + 1 < line.length := (List.getElem?_eq_some_iff.1 hj).1
  refine exists_lastBlank (Nat.succ_pos j) (Nat.lt_of_lt_of_le hlt hle) ⟨a, ?_, hblank⟩
  rw [List.getElem?_append_left hlt, hj]

theorem LineRule.unbroken {gap after : List α}
    (h : LineRule blank (clamp width) line gap after) : Unbroken blank width line := by
  rcases h.short_or_broken_or_full with
    ⟨hshort, rfl, rfl⟩ | ⟨k, b, hk, hline, rfl⟩ | ⟨hnone, hline, rfl⟩
  · rw [List.append_nil, List.append_nil] at hshort
    exact .inl hshort
  · exact .inl (hline.trans_lt hk.lt)
  · -- A blank behind the first item would have broken the line.
    refine .inr ⟨hline, fun a ha => ?_⟩
    rw [← Bool.not_eq_true]
    intro hblank
    rw [List.append_nil] at hnone
    obtain ⟨k, hk⟩ := exists_lastBlank_of_mem_tail ha hblank hline.le
    exact hnone k hk

theorem ByRule.unbroken {ps : List (List α × List α)} (h : ByRule blank (clamp width) ps) :
    ∀ p ∈ ps, Unbroken blank width p.1 := by
  induction ps with
  | nil => exact List.forall_mem_nil _
  | cons p ps ih => exact List.forall_mem_cons.2 ⟨h.1.unbroken, ih h.2⟩

theorem unbroken_of_mem_wrap (h : line ∈ wrap blank width items) : Unbroken blank width line := by
  by_cases hne : items = []
  · subst hne
    rw [List.mem_singleton.1 h]
    exact .inl (clamp_pos width)
  · rw [wrap_of_ne_nil blank width hne, ← map_fst_stretches] at h
    obtain ⟨p, hp, rfl⟩ := List.mem_map.1 h
    exact (joined_stretches blank (clamp_pos width) items).2.unbroken p hp

/-! ### Wrapped again -/

theorem Unbroken.mono {wider : Int} (h : Unbroken blank width items) (hle : width ≤ wider) :
    Unbroken blank wider items := by
  rcases (clamp_mono hle).lt_or_eq with hlt | heq
  · refine .inl (lt_of_le_of_lt ?_ hlt)
    exact h.elim Nat.le_of_lt fun hfull => hfull.1.le
  · rwa [Unbroken, ← heq]

theorem wrap_of_mem_wrap {wider : Int} (h : line ∈ wrap blank width items) (hle : width ≤ wider) :
    wrap blank wider line = [line] := wrap_eq_singleton_iff.2 ((unbroken_of_mem_wrap h).mono hle)

/-- A line of a text is its own only line, at the width that it was wrapped at and at every greater
one. And the lines at a width are the texts that are shorter, and those that have exactly the width
and no blank behind their first character. -/
theorem lines_stay_whole (t : Option Text) (width : Int) :
    (∀ line ∈ wrapText width (t.getD []), wrapText width line = [line] ∧
      ∀ wider, width < wider → wrapText wider line = [line]) ∧
    ∀ line, (∃ text, line ∈ wrapText width text) ↔ Unbroken (· == ' ') width line := by
  constructor
  · intro line hline
    exact ⟨wrap_of_mem_wrap hline le_rfl, fun wider hwider => wrap_of_mem_wrap hline hwider.le⟩
  · intro line
    constructor
    · rintro ⟨text, hline⟩
      exact unbroken_of_mem_wrap hline
    · intro hline
      have hself : wrapText width line = [line] := wrap_eq_singleton_iff.2 hline
      refine ⟨line, ?_⟩
      rw [hself]
      exact List.mem_singleton_self line

/-- The second line has exactly the width and begins with a blank. -/
theorem lines_stay_whole_full_line :
    let text : Text := ['a', 'b', ' ', ' ', 'd', 'e', ' ', 'f']
    wrapText 3 text = [['a', 'b'], [' ', 'd', 'e'], [' ', 'f']] ∧
      [' ', 'd', 'e'] ∈ wrapText 3 text ∧ wrapText 3 [' ', 'd', 'e'] = [[' ', 'd', 'e']] ∧
      (3 : Int) < 4 ∧ wrapText 4 [' ', 'd', 'e'] = [[' ', 'd', 'e']] := by
  intro text
  have hlines : wrapText 3 text = [['a', 'b'], [' ', 'd', 'e'], [' ', 'f']] := by
    simp [text, wrapText, wrap, clamp, lines, cutLine]
  have hline : [' ', 'd', 'e'] ∈ wrapText 3 text := by
    rw [hlines]
    decide
  obtain ⟨hsame, hwider⟩ := (lines_stay_whole (some text) 3).1 _ hline
  exact ⟨hlines, hline, hsame, by decide, hwider 4 (by decide)⟩

end SlideDeck.Layout
