import SlideDeck.Proofs.Layout.Rule

/-!
# Lines at a greater width

A greater width never needs more lines: from a place that is no earlier in a text, its next line
ends no earlier. After any number of lines it has come at least as far as the smaller width has
(`wider_reaches_further`).
-/

namespace SlideDeck.Layout

variable {α : Type} {blank : α → Bool} {width wider : Nat}

/-! ### One line -/

theorem blankAt_suffix {items later : List α} (hs : later <:+ items) (k : Nat) :
    BlankAt blank items (items.length - later.length + k) ↔ BlankAt blank later k := by
  obtain ⟨front, rfl⟩ := hs
  simp only [BlankAt]
  rw [List.length_append, Nat.add_sub_cancel, List.getElem?_append_right (Nat.le_add_right _ _),
    Nat.add_sub_cancel_left]

/-- What a line with its blank takes up. -/
theorem LineRule.taken {line gap after : List α} (h : LineRule blank width line gap after)
    (hlong : width ≤ (line ++ gap ++ after).length) :
    (∃ k, LastBlank blank width (line ++ gap ++ after) k ∧ (line ++ gap).length = k + 1) ∨
      (∀ k, ¬LastBlank blank width (line ++ gap ++ after) k) ∧ (line ++ gap).length = width := by
  rcases h.short_or_broken_or_full with
    ⟨hshort, -, -⟩ | ⟨k, b, hk, hline, rfl⟩ | ⟨hnone, hline, rfl⟩
  · exact absurd hlong (Nat.not_le.2 hshort)
  · exact .inl ⟨k, hk, by rw [List.length_append, hline, List.length_singleton]⟩
  · exact .inr ⟨hnone, by rw [List.append_nil, hline]⟩

theorem exists_lastBlank {items : List α} {k : Nat} (hpos : 1 ≤ k) (hlt : k < width)
    (h : BlankAt blank items k) : ∃ j, LastBlank blank width items j := by
  by_cases hlater : ∃ j, k < j ∧ j < width ∧ BlankAt blank items j
  · obtain ⟨j, hj, hjlt, hblank⟩ := hlater
    exact exists_lastBlank (Nat.le_trans hpos hj.le) hjlt hblank
  · exact ⟨k, hpos, hlt, h, fun j hj hjlt hblank => hlater ⟨j, hj, hjlt, hblank⟩⟩
termination_by width - k

/-- From a place that is no earlier, a line of the greater width ends no earlier. -/
theorem LineRule.after_suffix {line gap after line' gap' after' : List α}
    (h : LineRule blank width line gap after) (h' : LineRule blank wider line' gap' after')
    (hle : width ≤ wider) (hs : line' ++ gap' ++ after' <:+ line ++ gap ++ after) :
    after' <:+ after := by
  rcases Nat.lt_or_ge (line' ++ gap' ++ after').length wider with hshort | hlong
  · obtain ⟨-, rfl⟩ := h'.short hshort
    exact List.nil_suffix
  have hlength := hs.length_le
  have htaken := h.taken (Nat.le_trans hle (Nat.le_trans hlong hlength))
  obtain ⟨ahead, hahead⟩ : ∃ n,
      n = (line ++ gap ++ after).length - (line' ++ gap' ++ after').length := ⟨_, rfl⟩
  have hblanks : ∀ k, BlankAt blank (line ++ gap ++ after) (ahead + k) ↔
      BlankAt blank (line' ++ gap' ++ after') k := fun k => hahead ▸ blankAt_suffix hs k
  have hreach : (line ++ gap).length ≤ ahead + (line' ++ gap').length := by
    by_contra hbefore
    rcases h'.taken hlong with ⟨k', hk', hcount'⟩ | ⟨-, hcount'⟩
    · have hpos' := hk'.pos
      rcases htaken with ⟨k, hk, hcount⟩ | ⟨hnone, hcount⟩
      · -- The blank of the earlier line would come after the last one in the later window.
        obtain ⟨j, rfl⟩ : ∃ j, k = ahead + j := ⟨k - ahead, by omega⟩
        have hklt := hk.lt
        exact hk'.none_after j (by omega) (by omega) ((hblanks j).1 hk.blank_at)
      · -- The earlier window would not be without a blank.
        have hpos : 1 ≤ ahead + k' := by omega
        have hlt : ahead + k' < width := by omega
        obtain ⟨j, hj⟩ := exists_lastBlank hpos hlt ((hblanks k').2 hk'.blank_at)
        exact hnone j hj
    · rcases htaken with ⟨k, hk, hcount⟩ | ⟨-, hcount⟩
      · have hklt := hk.lt
        omega
      · omega
  have hafter : after <:+ line ++ gap ++ after := List.suffix_append _ _
  have hafter' : after' <:+ line ++ gap ++ after := (List.suffix_append _ _).trans hs
  refine List.suffix_of_suffix_length_le hafter' hafter ?_
  simp only [List.length_append] at hreach hlength hahead
  omega

/-! ### Any number of lines -/

theorem joined_drop_suffix {ps qs : List (List α × List α)} (hp : ByRule blank width ps)
    (hq : ByRule blank wider qs) (hle : width ≤ wider) (hs : joined qs <:+ joined ps) (k : Nat) :
    joined (qs.drop k) <:+ joined (ps.drop k) := by
  induction k generalizing ps qs with
  | zero => exact hs
  | succ k ih =>
    cases qs with
    | nil => exact List.nil_suffix
    | cons q qs =>
      cases ps with
      | nil => exact absurd (List.suffix_nil.1 hs) hq.joined_ne_nil
      | cons p ps =>
        rw [joined_cons, joined_cons] at hs
        exact ih hp.2 hq.2 (hp.1.after_suffix hq.1 hle hs)

theorem length_le_of_suffix {ps qs : List (List α × List α)} (hp : ByRule blank width ps)
    (hq : ByRule blank wider qs) (hle : width ≤ wider) (hs : joined qs <:+ joined ps) :
    qs.length ≤ ps.length := by
  induction ps generalizing qs with
  | nil =>
    cases qs with
    | nil => exact Nat.le_refl 0
    | cons q qs => exact absurd (List.suffix_nil.1 hs) hq.joined_ne_nil
  | cons p ps ih =>
    cases qs with
    | nil => exact Nat.zero_le _
    | cons q qs =>
      rw [joined_cons, joined_cons] at hs
      exact Nat.succ_le_succ (ih hp.2 hq.2 (hp.1.after_suffix hq.1 hle hs))

theorem joined_take_prefix {ps qs : List (List α × List α)} (hp : ByRule blank width ps)
    (hq : ByRule blank wider qs) (hle : width ≤ wider) (hsame : joined ps = joined qs) (k : Nat) :
    joined (ps.take k) <+: joined (qs.take k) := by
  have hps : joined (ps.take k) ++ joined (ps.drop k) = joined ps := by
    rw [← joined_append, List.take_append_drop]
  have hqs : joined (qs.take k) ++ joined (qs.drop k) = joined ps := by
    rw [← joined_append, List.take_append_drop, hsame]
  have hrest := (joined_drop_suffix hp hq hle (hsame ▸ List.suffix_refl _) k).length_le
  refine List.prefix_of_prefix_length_le ⟨_, hps⟩ ⟨_, hqs⟩ ?_
  have hlength := congrArg List.length (hps.trans hqs.symm)
  simp only [List.length_append] at hlength
  omega

theorem clamp_mono {width wider : Int} (h : width ≤ wider) : clamp width ≤ clamp wider := by
  simp only [clamp]
  omega

/-- At a greater width a text has no more lines. Its lines at any width, put together with what is
dropped after them, are the text, and however many of them are taken from the front, they cover as
much of it as the same number does at a smaller width, or more. -/
theorem wider_reaches_further (text : Text) {width wider : Int} (h : width ≤ wider) :
    (wrapText wider text).length ≤ (wrapText width text).length ∧
      (∀ w, (wrapStretches w text).map (·.1) = wrapText w text ∧
        joined (wrapStretches w text) = text ∧
        ∀ p ∈ wrapStretches w text, p.2 = [] ∨ p.2 = [' ']) ∧
      ∀ k, joined ((wrapStretches width text).take k) <+:
        joined ((wrapStretches wider text).take k) := by
  have hreach : (wrapStretches wider text).length ≤ (wrapStretches width text).length ∧
      ∀ k, joined ((wrapStretches width text).take k) <+:
        joined ((wrapStretches wider text).take k) := by
    by_cases hne : text = []
    · subst hne
      exact ⟨Nat.le_refl 1, fun _ => List.prefix_refl _⟩
    · rw [wrapStretches_of_ne_nil width hne, wrapStretches_of_ne_nil wider hne]
      obtain ⟨hjoined, hrule⟩ := joined_stretches (· == ' ') (clamp_pos width) text
      obtain ⟨hjoined', hrule'⟩ := joined_stretches (· == ' ') (clamp_pos wider) text
      have hsame := hjoined.trans hjoined'.symm
      exact ⟨length_le_of_suffix hrule hrule' (clamp_mono h) (hsame ▸ List.suffix_refl _),
        joined_take_prefix hrule hrule' (clamp_mono h) hsame⟩
  refine ⟨?_, fun w => wrapStretches_spec w text, hreach.2⟩
  rw [← (wrapStretches_spec wider text).1, ← (wrapStretches_spec width text).1,
    List.length_map, List.length_map]
  exact hreach.1

theorem wider_reaches_further_two_four :
    let text : Text := ['a', ' ', 'b', ' ', 'c']
    wrapText 2 text = [['a'], ['b'], ['c']] ∧ wrapText 4 text = [['a', ' ', 'b'], ['c']] ∧
      (wrapText 4 text).length ≤ (wrapText 2 text).length ∧
      joined ((wrapStretches 2 text).take 1) = ['a', ' '] ∧
      joined ((wrapStretches 2 text).take 1) <+: joined ((wrapStretches 4 text).take 1) := by
  intro text
  obtain ⟨hcount, -, hreach⟩ := wider_reaches_further text (show (2 : Int) ≤ 4 by decide)
  refine ⟨?_, ?_, hcount, ?_, hreach 1⟩
  · simp [text, wrapText, wrap, clamp, lines, cutLine]
  · simp [text, wrapText, wrap, clamp, lines, cutLine]
  · simp [text, wrapStretches, clamp, stretches, cutLine, joined]

end SlideDeck.Layout
