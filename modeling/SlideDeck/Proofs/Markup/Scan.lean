import Mathlib
import SlideDeck.Markup.Token

/-!
# Steps of the scanner

What `scan` does at the head of a text: an escape, a marker, or one literal character. A marker is
two hyphens and then something that is no hyphen, so a run of hyphens is left one hyphen at a time
until a marker begins. The last part has the markers of `write` in front of any text.
-/

namespace SlideDeck.Token

/-- Whether a text goes on with an ASCII letter, which would join a colour name before it. -/
def StartsWithLetter (t : Text) : Prop := ∃ c ∈ t.head?, isLetter c = true

instance : DecidablePred StartsWithLetter
  | [] => .isFalse nofun
  | c :: _ => decidable_of_iff (isLetter c = true)
    ⟨fun h => ⟨c, rfl, h⟩, fun ⟨_, hd, h⟩ => Option.some.inj hd ▸ h⟩

/-! ### The head of a text -/

theorem colorArgument?_cases {t rest : Text} {token : Token}
    (h : colorArgument? t = some (token, rest)) :
    ∃ name, token = push name ∧ Color.isKnown name = true ∧ ¬ StartsWithLetter rest := by
  simp only [colorArgument?] at h
  split at h
  · cases h
  · split at h
    · rename_i hknown
      simp only [Option.some.injEq, Prod.mk.injEq] at h
      obtain ⟨rfl, rfl⟩ := h
      refine ⟨_, rfl, hknown, ?_⟩
      rintro ⟨c, hc, hletter⟩
      have hnot := List.head?_dropWhile_not isLetter (t.dropWhile Text.isAsciiBlank)
      rw [hc] at hnot
      exact absurd (hletter.symm.trans hnot) (by decide)
    · cases h

/-- A marker is one of the fixed ones, or a colour whose name takes every letter there is. -/
theorem marker?_cases {s rest : Text} {token : Token} (h : marker? s = some (token, rest)) :
    (∃ m, (m, token) ∈ fixedMarkers ∧ s = m ++ rest) ∨
      ∃ name t, token = push name ∧ Color.isKnown name = true ∧ ¬ StartsWithLetter rest ∧
        s = '-' :: '-' :: 'c' :: t := by
  simp only [marker?] at h
  split at h
  · rename_i found hfound
    obtain ⟨⟨m, k⟩, hm, hk⟩ := List.exists_of_findSome?_eq_some hfound
    obtain ⟨r, hr, hpair⟩ := Option.map_eq_some_iff.1 hk
    simp only [Option.some.injEq] at h
    rw [h, Prod.mk.injEq] at hpair
    obtain ⟨rfl, rfl⟩ := hpair
    exact Or.inl ⟨m, hm, Text.after?_eq_some_iff.1 hr⟩
  · obtain ⟨t, ht, hargument⟩ := Option.bind_eq_some_iff.1 h
    obtain ⟨name, htoken, hknown, hrest⟩ := colorArgument?_cases hargument
    exact Or.inr ⟨name, t, htoken, hknown, hrest, Text.after?_eq_some_iff.1 ht⟩

theorem marker?_shape {s rest : Text} {token : Token} (h : marker? s = some (token, rest)) :
    ∃ c t, s = '-' :: '-' :: c :: t ∧ c ≠ '-' := by
  rcases marker?_cases h with ⟨m, hm, rfl⟩ | ⟨name, t, -, -, -, rfl⟩
  · simp only [fixedMarkers, List.mem_cons, Prod.mk.injEq, List.not_mem_nil, or_false] at hm
    rcases hm with hm | hm | hm | hm | hm | hm | hm <;>
      exact ⟨_, _, by rw [hm.1]; rfl, by decide⟩
  · exact ⟨'c', t, rfl, by decide⟩

theorem marker?_ne_literal {s rest : Text} {token : Token} (h : marker? s = some (token, rest))
    (t : Text) : token ≠ literal t := by
  rcases marker?_cases h with ⟨m, hm, -⟩ | ⟨name, -, rfl, -⟩
  · rintro rfl
    simp [fixedMarkers] at hm
  · simp

theorem marker?_of_head_ne {c : Char} {t : Text} (hc : c ≠ '-') : marker? (c :: t) = none := by
  rcases hm : marker? (c :: t) with - | ⟨token, rest⟩
  · rfl
  · obtain ⟨d, u, hs, -⟩ := marker?_shape hm
    simp only [List.cons.injEq] at hs
    exact absurd hs.1 hc

theorem marker?_of_second_ne {c : Char} {t : Text} (ht : ∀ r, t ≠ '-' :: r) :
    marker? (c :: t) = none := by
  rcases hm : marker? (c :: t) with - | ⟨token, rest⟩
  · rfl
  · obtain ⟨d, u, hs, -⟩ := marker?_shape hm
    simp only [List.cons.injEq] at hs
    exact absurd hs.2 (ht _)

/-- Three hyphens begin no marker. -/
theorem marker?_three_hyphens (t : Text) : marker? ('-' :: '-' :: '-' :: t) = none := rfl

theorem scan_escape (t : Text) :
    scan ('\\' :: '-' :: '-' :: t) = consLiteral ['-', '-'] (scan t) := scan.eq_2 t

theorem scan_of_marker {s rest : Text} {token : Token} (h : marker? s = some (token, rest)) :
    scan s = token :: scan rest := by
  obtain ⟨c, t, rfl, -⟩ := marker?_shape h
  rw [scan.eq_3 '-' ('-' :: c :: t) (fun _ hc _ => absurd hc (by decide))]
  split
  · rename_i token' rest' h'
    rw [h] at h'
    simp only [Option.some.injEq, Prod.mk.injEq] at h'
    rw [h'.1, h'.2]
  · rename_i h'
    rw [h] at h'
    cases h'

theorem scan_of_no_marker {c : Char} {t : Text} (hescape : c = '\\' → ∀ r, t ≠ '-' :: '-' :: r)
    (h : marker? (c :: t) = none) : scan (c :: t) = consLiteral [c] (scan t) := by
  rw [scan.eq_3 c t (fun r hc ht => hescape hc r ht)]
  split
  · rename_i token' rest' h'
    rw [h] at h'
    cases h'
  · rfl

/-- What the head of a text gives: the end, a marker, an escape, or a literal character. -/
theorem scan_cases (s : Text) :
    scan s = [] ∨
      (∃ token rest, marker? s = some (token, rest) ∧ scan s = token :: scan rest) ∨
      (∃ t, s = '\\' :: '-' :: '-' :: t ∧ scan s = consLiteral ['-', '-'] (scan t)) ∨
      ∃ c t, s = c :: t ∧ (c = '\\' → ∀ r, t ≠ '-' :: '-' :: r) ∧
        scan s = consLiteral [c] (scan t) := by
  cases s using scan.fun_cases with
  | case1 => exact Or.inl scan.eq_1
  | case2 t => exact Or.inr (Or.inr (Or.inl ⟨t, rfl, scan_escape t⟩))
  | case3 c t hescape token rest h =>
    exact Or.inr (Or.inl ⟨token, rest, h, scan_of_marker h⟩)
  | case4 c t hescape h =>
    have hno : c = '\\' → ∀ r, t ≠ '-' :: '-' :: r := fun hc r ht => hescape r hc ht
    exact Or.inr (Or.inr (Or.inr ⟨c, t, rfl, hno, scan_of_no_marker hno h⟩))

/-! ### Markers as they are written -/

theorem takeWhile_name {name rest : Text} (hname : ∀ c ∈ name, isLetter c = true)
    (hrest : ¬ StartsWithLetter rest) : (name ++ rest).takeWhile isLetter = name := by
  rw [List.takeWhile_append_of_pos hname]
  cases rest with
  | nil => simp
  | cons c t =>
    have hc : isLetter c ≠ true := fun h => hrest ⟨c, rfl, h⟩
    simp [List.takeWhile_cons_of_neg hc]

theorem dropWhile_name {name rest : Text} (hname : ∀ c ∈ name, isLetter c = true)
    (hrest : ¬ StartsWithLetter rest) : (name ++ rest).dropWhile isLetter = rest := by
  rw [List.dropWhile_append_of_pos hname]
  cases rest with
  | nil => rfl
  | cons c t =>
    have hc : isLetter c ≠ true := fun h => hrest ⟨c, rfl, h⟩
    exact List.dropWhile_cons_of_neg hc

/-- A name of a colour is made of letters alone, and none of them is white space. -/
theorem letters_of_isKnown {name : Text} (h : Color.isKnown name = true) :
    ∀ c ∈ name, isLetter c = true ∧ Text.isAsciiBlank c = false := by
  have hall : (Color.names.all fun n => n.all fun c => isLetter c && !Text.isAsciiBlank c) = true :=
    rfl
  intro c hc
  have hname := List.all_eq_true.1 hall name (Color.isKnown_iff.1 h)
  have hchar := List.all_eq_true.1 hname c hc
  rwa [Bool.and_eq_true, Bool.not_eq_true'] at hchar

theorem ne_nil_of_isKnown {name : Text} (h : Color.isKnown name = true) : name ≠ [] := by
  rintro rfl
  exact absurd h (by decide)

theorem colorArgument?_write {name rest : Text} (hname : Color.isKnown name = true)
    (hrest : ¬ StartsWithLetter rest) :
    colorArgument? (' ' :: (name ++ rest)) = some (push name, rest) := by
  have hletters := fun c hc => (letters_of_isKnown hname c hc).1
  obtain ⟨c, t, rfl⟩ := List.exists_cons_of_ne_nil (ne_nil_of_isKnown hname)
  have hc := (letters_of_isKnown hname c List.mem_cons_self).2
  have hdrop : (' ' :: ((c :: t) ++ rest)).dropWhile Text.isAsciiBlank = (c :: t) ++ rest := by
    rw [List.dropWhile_cons_of_pos rfl]
    exact List.dropWhile_cons_of_neg (by simp [hc])
  have htake : (' ' :: ((c :: t) ++ rest)).takeWhile Text.isAsciiBlank = [' '] := by
    rw [List.takeWhile_cons_of_pos rfl, List.cons_append, List.takeWhile_cons_of_neg (by simp [hc])]
  simp only [colorArgument?]
  rw [htake, hdrop, takeWhile_name hletters hrest, dropWhile_name hletters hrest]
  simp [hname]

/-- A marker as it is written is read as that marker, whatever follows a flag or a return; what
follows a colour must not join its name. -/
theorem marker?_writeToken {token : Token} {rest : Text} (hliteral : ∀ t, token ≠ literal t)
    (hname : ∀ name, token = push name → Color.isKnown name = true ∧ ¬ StartsWithLetter rest) :
    marker? (writeToken token ++ rest) = some (token, rest) := by
  cases token with
  | literal t => exact absurd rfl (hliteral t)
  | toggle f on => cases f <;> cases on <;> rfl
  | push name =>
    obtain ⟨hknown, hrest⟩ := hname name rfl
    have hfixed : marker? (writeToken (push name) ++ rest)
        = colorArgument? (' ' :: (name ++ rest)) := rfl
    rw [hfixed, colorArgument?_write hknown hrest]
  | pop => rfl

end SlideDeck.Token
