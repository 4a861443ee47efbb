import Mathlib
import SlideDeck.Text.Basic

/-!
# Arguments of a command

An argument reaches to the character that ends it, outside of the groups inside it. After a
backslash a character stands for itself, and a percent sign hides the rest of its line. The texts
that leave the end of their argument alone are those that are `Balanced` (`endsAtOwn_iff`).
-/

namespace SlideDeck.Beamer

inductive Reading where
  | plain
  | escaped
  | comment
deriving DecidableEq

/-- What is left of a text after the characters that end an argument and the groups that are open
in it, the innermost one first. A brace that closes no group is an error. -/
def afterClosers : List Char → Reading → Text → Option Text
  | [], _, t => some t
  | _ :: _, _, [] => none
  | close :: closers, .escaped, _ :: t => afterClosers (close :: closers) .plain t
  | close :: closers, .comment, c :: t =>
    afterClosers (close :: closers) (if c = '\n' then .plain else .comment) t
  | close :: closers, .plain, c :: t =>
    if c = '\\' then afterClosers (close :: closers) .escaped t
    else if c = '%' then afterClosers (close :: closers) .comment t
    else if c = '\x7b' then afterClosers ('\x7d' :: close :: closers) .plain t
    else if c = close then afterClosers closers .plain t
    else if c = '\x7d' then none
    else afterClosers (close :: closers) .plain t

/-- Whether an argument that is written in front of its closing character ends there. -/
def EndsAtOwn (close : Char) (t rest : Text) : Prop :=
  afterClosers [close] .plain (t ++ close :: rest) = some rest

instance (close : Char) (t rest : Text) : Decidable (EndsAtOwn close t rest) :=
  inferInstanceAs (Decidable (_ = _))

/-- Texts with no closing character of their own: each brace has its partner, and a comment ends
with its line. -/
inductive Balanced : Char → Text → Prop where
  | nil {close : Char} : Balanced close []
  | plain {close c : Char} {t : Text}
      (hc : c ≠ '\\' ∧ c ≠ '%' ∧ c ≠ '\x7b' ∧ c ≠ '\x7d' ∧ c ≠ close) (ht : Balanced close t) :
      Balanced close (c :: t)
  | escaped {close : Char} {t : Text} (c : Char) (ht : Balanced close t) :
      Balanced close ('\\' :: c :: t)
  | comment {close : Char} {u t : Text} (hu : '\n' ∉ u) (ht : Balanced close t) :
      Balanced close ('%' :: (u ++ '\n' :: t))
  | group {close : Char} {t u : Text} (ht : Balanced '\x7d' t) (hu : Balanced close u) :
      Balanced close ('\x7b' :: (t ++ '\x7d' :: u))

variable {close c : Char} {closers : List Char} {t u rest : Text}

/-! ### Balanced texts are read to their end -/

theorem afterClosers_close (hclose : close = '\x7d' ∨ close = ']') (t : Text) :
    afterClosers (close :: closers) .plain (close :: t) = afterClosers closers .plain t := by
  rcases hclose with rfl | rfl
  · rfl
  · rfl

theorem afterClosers_plain (hc : c ≠ '\\' ∧ c ≠ '%' ∧ c ≠ '\x7b' ∧ c ≠ '\x7d' ∧ c ≠ close)
    (t : Text) :
    afterClosers (close :: closers) .plain (c :: t) =
      afterClosers (close :: closers) .plain t := by
  obtain ⟨hescape, hpercent, hopen, hshut, hclose⟩ := hc
  rw [afterClosers, if_neg hescape, if_neg hpercent, if_neg hopen, if_neg hclose, if_neg hshut]

theorem afterClosers_comment (hu : '\n' ∉ u) (t : Text) :
    afterClosers (close :: closers) .comment (u ++ '\n' :: t) =
      afterClosers (close :: closers) .plain t := by
  induction u with
  | nil => rfl
  | cons c u ih =>
    rw [List.mem_cons, not_or] at hu
    rw [List.cons_append, afterClosers, if_neg (Ne.symm hu.1), ih hu.2]

theorem Balanced.afterClosers_append (h : Balanced close t) (closers : List Char) (rest : Text) :
    afterClosers (close :: closers) .plain (t ++ rest) =
      afterClosers (close :: closers) .plain rest := by
  induction h generalizing closers rest with
  | nil => rfl
  | plain hc _ ih => rw [List.cons_append, afterClosers_plain hc, ih]
  | escaped c _ ih => exact ih closers rest
  | @comment close u t hu _ ih =>
    have hcomment : afterClosers (close :: closers) .plain ('%' :: (u ++ '\n' :: t) ++ rest) =
        afterClosers (close :: closers) .comment (u ++ '\n' :: (t ++ rest)) := by
      rw [List.cons_append, List.append_assoc]
      rfl
    rw [hcomment, afterClosers_comment hu, ih]
  | @group close t u _ _ iht ihu =>
    have hgroup : afterClosers (close :: closers) .plain ('\x7b' :: (t ++ '\x7d' :: u) ++ rest) =
        afterClosers ('\x7d' :: close :: closers) .plain (t ++ '\x7d' :: (u ++ rest)) := by
      rw [List.cons_append, List.append_assoc]
      rfl
    rw [hgroup, iht, afterClosers_close (.inl rfl), ihu]

/-! ### What is read to an end is balanced -/

theorem exists_of_afterClosers_comment {x : Text}
    (h : afterClosers (close :: closers) .comment x = some rest) :
    ∃ u y, x = u ++ '\n' :: y ∧ '\n' ∉ u ∧
      afterClosers (close :: closers) .plain y = some rest := by
  induction x with
  | nil => cases h
  | cons c x ih =>
    rw [afterClosers] at h
    by_cases hc : c = '\n'
    · rw [if_pos hc] at h
      exact ⟨[], x, by rw [hc]; rfl, List.not_mem_nil, h⟩
    · rw [if_neg hc] at h
      obtain ⟨u, y, rfl, hu, hy⟩ := ih h
      refine ⟨c :: u, y, rfl, ?_, hy⟩
      rw [List.mem_cons, not_or]
      exact ⟨Ne.symm hc, hu⟩

theorem exists_balanced_of_afterClosers {x : Text}
    (h : afterClosers (close :: closers) .plain x = some rest) :
    ∃ t y, x = t ++ close :: y ∧ Balanced close t ∧ afterClosers closers .plain y = some rest := by
  -- A group is read to its end first, so that the induction is on the length of what is left.
  induction hlength : x.length using Nat.strong_induction_on generalizing x close closers with
  | _ n ih =>
  subst hlength
  cases x with
  | nil => cases h
  | cons c x =>
    rw [afterClosers] at h
    split_ifs at h with hescape hpercent hopen hclose hshut
    · cases x with
      | nil => cases h
      | cons e x =>
        obtain ⟨t, y, rfl, ht, hy⟩ := ih x.length (by simp) h rfl
        exact ⟨'\\' :: e :: t, y, by rw [hescape]; rfl, .escaped e ht, hy⟩
    · obtain ⟨u, x', rfl, hu, hx⟩ := exists_of_afterClosers_comment h
      obtain ⟨t, y, rfl, ht, hy⟩ := ih x'.length (by simp; omega) hx rfl
      exact ⟨'%' :: (u ++ '\n' :: t), y, by rw [hpercent]; simp, .comment hu ht, hy⟩
    · obtain ⟨t, x', rfl, ht, hx⟩ := ih x.length (by simp) h rfl
      obtain ⟨u, y, rfl, hu, hy⟩ := ih x'.length (by simp; omega) hx rfl
      exact ⟨'\x7b' :: (t ++ '\x7d' :: u), y, by rw [hopen]; simp, .group ht hu, hy⟩
    · exact ⟨[], x, by rw [hclose]; rfl, .nil, h⟩
    · obtain ⟨t, y, rfl, ht, hy⟩ := ih x.length (by simp) h rfl
      exact ⟨c :: t, y, rfl, .plain ⟨hescape, hpercent, hopen, hshut, hclose⟩ ht, hy⟩

theorem endsAtOwn_iff (hclose : close = '\x7d' ∨ close = ']') (t rest : Text) :
    EndsAtOwn close t rest ↔ Balanced close t := by
  constructor
  · intro h
    obtain ⟨u, y, hsplit, hu, hy⟩ := exists_balanced_of_afterClosers h
    rw [afterClosers, Option.some.injEq] at hy
    subst hy
    rwa [List.append_cancel_right hsplit]
  · intro h
    rw [EndsAtOwn, h.afterClosers_append, afterClosers_close hclose, afterClosers]

end SlideDeck.Beamer
