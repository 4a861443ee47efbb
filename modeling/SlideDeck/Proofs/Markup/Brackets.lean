import Mathlib
import SlideDeck.Markup.Style

/-!
# Colours and returns as brackets

A colour is an opening bracket and a return a closing one. A return is matched with the colour that
it closes when everything between the two pairs off (`Paired`); one that closes nothing is of no
account. Which colours are open after tokens can also be counted off from left to right
(`openColors`): the last two theorems say that both come to the same.
-/

namespace SlideDeck.Token

/-- Tokens in which colours and returns pair off as brackets do. -/
inductive Paired : List Token → Prop where
  | nil : Paired []
  | literal {ts : List Token} (t : Text) (rest : Paired ts) : Paired (literal t :: ts)
  | toggle {ts : List Token} (f : Flag) (on : Bool) (rest : Paired ts) :
      Paired (toggle f on :: ts)
  | pair {inner ts : List Token} (color : Text) (hinner : Paired inner) (rest : Paired ts) :
      Paired (push color :: (inner ++ pop :: ts))

/-- Whether a return among the tokens matches a colour in front of them. -/
def Closes (ts : List Token) : Prop := ∃ inner rest, ts = inner ++ pop :: rest ∧ Paired inner

/-- Whether every colour among the tokens is closed by a return that comes later. -/
def NoneOpen (ts : List Token) : Prop :=
  ∀ before color after, ts = before ++ push color :: after → Closes after

/-- The innermost colour that no return has closed: those after it are closed, and it is not. -/
def InnermostOpen (ts : List Token) (color : Text) : Prop :=
  ∃ before after, ts = before ++ push color :: after ∧ ¬ Closes after ∧ NoneOpen after

/-- The colours that are open after tokens, the innermost first, when some are open before them. -/
def openColors (opened : List Text) : List Token → List Text
  | [] => opened
  | push color :: ts => openColors (color :: opened) ts
  | pop :: ts => openColors opened.tail ts
  | literal _ :: ts | toggle _ _ :: ts => openColors opened ts

theorem openColors_append (opened : List Text) (ts us : List Token) :
    openColors opened (ts ++ us) = openColors (openColors opened ts) us := by
  fun_induction openColors opened ts with
  | case1 => rfl
  | case2 _ _ _ ih => exact ih
  | case3 _ _ ih => exact ih
  | case4 _ _ _ ih => exact ih
  | case5 _ _ _ _ ih => exact ih

theorem Paired.openColors_eq {ts : List Token} (h : Paired ts) (opened : List Text) :
    openColors opened ts = opened := by
  induction h generalizing opened with
  | nil => rfl
  | literal t rest ih => exact ih opened
  | toggle f on rest ih => exact ih opened
  | pair color hinner rest ihinner ih =>
    rw [openColors, openColors_append, ihinner]
    exact ih opened

/-- What follows the return that closes a colour starts without that colour. -/
theorem Paired.openColors_pop {inner : List Token} (h : Paired inner) (color : Text)
    (opened : List Text) (rest : List Token) :
    openColors (color :: opened) (inner ++ pop :: rest) = openColors opened rest := by
  rw [openColors_append, h.openColors_eq]
  rfl

theorem not_closes_nil : ¬ Closes [] := by
  rintro ⟨inner, rest, h, -⟩
  simp at h

theorem noneOpen_nil : NoneOpen [] := by
  intro before color after h
  simp at h

theorem NoneOpen.of_append (ts : List Token) {us : List Token} (h : NoneOpen (ts ++ us)) :
    NoneOpen us := by
  intro before color after hus
  exact h (ts ++ before) color after (by rw [hus, List.append_assoc])

theorem Closes.cons_literal {ts : List Token} (h : Closes ts) (t : Text) :
    Closes (literal t :: ts) := by
  obtain ⟨inner, rest, rfl, hinner⟩ := h
  exact ⟨literal t :: inner, rest, rfl, .literal t hinner⟩

theorem Closes.cons_toggle {ts : List Token} (h : Closes ts) (f : Flag) (on : Bool) :
    Closes (toggle f on :: ts) := by
  obtain ⟨inner, rest, rfl, hinner⟩ := h
  exact ⟨toggle f on :: inner, rest, rfl, .toggle f on hinner⟩

/-- A colour and the return that closes it can stand before the return that closes another one. -/
theorem Closes.cons_pair {inner ts : List Token} (h : Closes ts) (color : Text)
    (hinner : Paired inner) : Closes (push color :: (inner ++ pop :: ts)) := by
  obtain ⟨later, rest, rfl, hlater⟩ := h
  refine ⟨push color :: (inner ++ pop :: later), rest, ?_, .pair color hinner hlater⟩
  simp

/-- Tokens that close no colour before them leave all of these open. -/
theorem closes_or_suffix (ts : List Token) :
    Closes ts ∨ ∀ opened, opened <:+ openColors opened ts := by
  -- After a colour that is closed the rest is shorter, but it is not the tail of the list.
  induction hlength : ts.length using Nat.strong_induction_on generalizing ts with
  | _ n ih =>
    cases ts with
    | nil => exact .inr fun opened => List.suffix_rfl
    | cons token rest =>
      simp only [List.length_cons] at hlength
      have hrest := ih rest.length (by omega) rest rfl
      cases token with
      | literal t => exact hrest.imp (fun h => h.cons_literal t) id
      | toggle f on => exact hrest.imp (fun h => h.cons_toggle f on) id
      | pop => exact .inl ⟨[], rest, rfl, .nil⟩
      | push color =>
        rcases hrest with ⟨inner, later, rfl, hinner⟩ | hopen
        · simp only [List.length_append, List.length_cons] at hlength
          have hlater := ih later.length (by omega) later rfl
          refine hlater.imp (fun h => h.cons_pair color hinner) fun hopen opened => ?_
          rw [openColors, hinner.openColors_pop]
          exact hopen opened
        · exact .inr fun opened => (List.suffix_cons color opened).trans (hopen (color :: opened))

/-- Tokens that close all of their own colours leave none of these open. -/
theorem NoneOpen.openColors_suffix {ts : List Token} (h : NoneOpen ts) (opened : List Text) :
    openColors opened ts <:+ opened := by
  induction hlength : ts.length using Nat.strong_induction_on generalizing ts opened with
  | _ n ih =>
    cases ts with
    | nil => exact List.suffix_rfl
    | cons token rest =>
      simp only [List.length_cons] at hlength
      have hrest : NoneOpen rest := NoneOpen.of_append [token] h
      cases token with
      | literal t => exact ih rest.length (by omega) hrest opened rfl
      | toggle f on => exact ih rest.length (by omega) hrest opened rfl
      | pop =>
        have htail := ih rest.length (by omega) hrest opened.tail rfl
        exact htail.trans (List.tail_suffix opened)
      | push color =>
        obtain ⟨inner, later, rfl, hinner⟩ := h [] color rest rfl
        simp only [List.length_append, List.length_cons] at hlength
        have hlater : NoneOpen later := NoneOpen.of_append (inner ++ [pop]) (by simpa using hrest)
        rw [openColors, hinner.openColors_pop]
        exact ih later.length (by omega) hlater opened rfl

/-- The colour that brackets have innermost is the first of those counted off. -/
theorem InnermostOpen.openColors_eq {ts : List Token} {color : Text} (h : InnermostOpen ts color) :
    ∃ others, openColors [] ts = color :: others := by
  obtain ⟨before, after, rfl, hopen, hnone⟩ := h
  have hall : color :: openColors [] before <:+ openColors (color :: openColors [] before) after :=
    (closes_or_suffix after).resolve_left hopen _
  have hno := hnone.openColors_suffix (color :: openColors [] before)
  refine ⟨openColors [] before, ?_⟩
  rw [openColors_append, openColors]
  exact hno.eq_of_length_le hall.length_le

theorem NoneOpen.openColors_eq {ts : List Token} (h : NoneOpen ts) : openColors [] ts = [] :=
  List.suffix_nil.1 (h.openColors_suffix [])

/-- Either every colour is closed, or one of those that are not is the innermost. -/
theorem noneOpen_or_innermostOpen (ts : List Token) :
    NoneOpen ts ∨ ∃ color, InnermostOpen ts color := by
  induction ts with
  | nil => exact .inl noneOpen_nil
  | cons token rest ih =>
    rcases ih with hnone | ⟨color, before, after, rfl, hopen, hnone⟩
    · by_cases hpush : ∃ color, token = push color ∧ ¬ Closes rest
      · obtain ⟨color, rfl, hopen⟩ := hpush
        exact .inr ⟨color, [], rest, rfl, hopen, hnone⟩
      · left
        intro before color after h
        rcases List.cons_eq_append_iff.1 h with ⟨-, h⟩ | ⟨before, -, h⟩
        · cases h
          by_contra hopen
          exact hpush ⟨color, rfl, hopen⟩
        · exact hnone before color after h
    · exact .inr ⟨color, token :: before, after, rfl, hopen, hnone⟩

end SlideDeck.Token
