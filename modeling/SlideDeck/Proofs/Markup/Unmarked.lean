import SlideDeck.Proofs.Layout.Lines
import SlideDeck.Proofs.Markup.Scan

/-!
# Texts without markers

Leaving the markers out of a text gives the text itself just when no marker and no escape begins
anywhere in it (`Unmarked`). Otherwise visible characters are lost, and no way to put blanks between
the lines of what is left brings the text back (`cut_stripMarkup_iff`).
-/

namespace SlideDeck

/-- No marker and no escape begins anywhere in a text. -/
def Unmarked : Text → Prop
  | [] => True
  | c :: t =>
    Token.marker? (c :: t) = none ∧ Text.after? ['\\', '-', '-'] (c :: t) = none ∧ Unmarked t

instance Unmarked.decidable : DecidablePred Unmarked
  | [] => .isTrue trivial
  | c :: t =>
    have := Unmarked.decidable t
    inferInstanceAs (Decidable (Token.marker? (c :: t) = none ∧
      Text.after? ['\\', '-', '-'] (c :: t) = none ∧ Unmarked t))

namespace Token

theorem plainText_consLiteral (s : Text) (ts : List Token) :
    plainText (consLiteral s ts) = s ++ plainText ts := by
  fun_cases consLiteral s ts with
  | case1 t ts => exact List.append_assoc s t (plainText ts)
  | case2 ts hliteral => rfl

theorem colorArgument?_suffix {t rest : Text} {token : Token}
    (h : colorArgument? t = some (token, rest)) : rest <:+ t := by
  simp only [colorArgument?] at h
  split at h
  · cases h
  · split at h
    · cases h
      exact (List.dropWhile_suffix _).trans (List.dropWhile_suffix _)
    · cases h

/-- A marker takes a hyphen away, and perhaps more. -/
theorem marker?_append {s rest : Text} {token : Token} (h : marker? s = some (token, rest)) :
    ∃ front, s = '-' :: (front ++ rest) := by
  obtain ⟨c, t, hs, -⟩ := marker?_shape h
  have hrest : rest <:+ s := by
    simp only [marker?] at h
    split at h
    · rename_i found hfound
      obtain ⟨⟨m, k⟩, -, hk⟩ := List.exists_of_findSome?_eq_some hfound
      obtain ⟨r, hr, rfl⟩ := Option.map_eq_some_iff.1 hk
      cases h
      exact ⟨m, (Text.after?_eq_some_iff.1 hr).symm⟩
    · obtain ⟨r, hr, hargument⟩ := Option.bind_eq_some_iff.1 h
      exact (colorArgument?_suffix hargument).trans ⟨"--c", (Text.after?_eq_some_iff.1 hr).symm⟩
  obtain ⟨front, hfront⟩ := hrest
  have hlength := marker?_length h
  cases front with
  | nil =>
    rw [← hfront, List.nil_append] at hlength
    exact absurd hlength (Nat.lt_irrefl _)
  | cons d front =>
    rw [hs, List.cons_append, List.cons.injEq] at hfront
    exact ⟨front, by rw [hs, hfront.2]⟩

end Token

open Token

theorem stripMarkup_of_marker {s rest : Text} {token : Token}
    (h : marker? s = some (token, rest)) : stripMarkup s = stripMarkup rest := by
  unfold stripMarkup
  rw [scan_of_marker h]
  cases token with
  | literal t => exact absurd rfl (marker?_ne_literal h t)
  | _ => rfl

theorem stripMarkup_escape (t : Text) :
    stripMarkup ('\\' :: '-' :: '-' :: t) = '-' :: '-' :: stripMarkup t := by
  unfold stripMarkup
  rw [scan_escape, plainText_consLiteral]
  rfl

theorem stripMarkup_cons {c : Char} {t : Text} (hmarker : marker? (c :: t) = none)
    (hescape : Text.after? ['\\', '-', '-'] (c :: t) = none) :
    stripMarkup (c :: t) = c :: stripMarkup t := by
  have hno : c = '\\' → ∀ r, t ≠ '-' :: '-' :: r := by
    rintro rfl r rfl
    cases hescape
  unfold stripMarkup
  rw [scan_of_no_marker hno hmarker, plainText_consLiteral]
  rfl

theorem Unmarked.stripMarkup_eq {t : Text} (h : Unmarked t) : stripMarkup t = t := by
  induction t with
  | nil => exact congrArg plainText Token.scan.eq_1
  | cons c t ih => rw [stripMarkup_cons h.1 h.2.1, ih h.2.2]

theorem Glyph.ofTokens_consLiteral (style : Style) (run : Nat) (stack : ColorStack) (s : Text)
    (ts : List Token) :
    ofTokens style run stack (consLiteral s ts) =
      s.map (⟨·, style, run⟩) ++ ofTokens style run stack ts := by
  fun_cases consLiteral s ts with
  | case1 t ts => simp [ofTokens]
  | case2 ts hliteral => rfl

/-- Without markers, all of a text is one run in the style it starts in. -/
theorem Unmarked.ofText_eq {t : Text} (h : Unmarked t) (style : Style) :
    Glyph.ofText style (some t) = t.map (⟨·, style, 0⟩) := by
  induction t with
  | nil => rw [Glyph.ofText, Token.scan.eq_1]; rfl
  | cons c t ih =>
    have hno : c = '\\' → ∀ r, t ≠ '-' :: '-' :: r := by
      rintro rfl r rfl
      cases h.2.1
    have hrest := ih h.2.2
    rw [Glyph.ofText] at hrest ⊢
    rw [scan_of_no_marker hno h.1, Glyph.ofTokens_consLiteral, hrest]
    rfl

/-- Where there is a marker or an escape, characters are lost that are no blanks: the hyphens of a
marker, or the backslash of an escape. -/
theorem unmarked_or_countP_lt {visible : Char → Bool} (hhyphen : visible '-' = true)
    (hbackslash : visible '\\' = true) (t : Text) :
    Unmarked t ∨ (stripMarkup t).countP visible < t.countP visible := by
  -- A marker is left as a whole, so the hypothesis is needed for every shorter text.
  induction h : t.length using Nat.strong_induction_on generalizing t with
  | _ n ih =>
    subst h
    have hle {u : Text} (hu : u.length < t.length) :
        (stripMarkup u).countP visible ≤ u.countP visible := by
      rcases ih u.length hu u rfl with hplain | hlt
      · rw [hplain.stripMarkup_eq]
      · exact hlt.le
    cases t with
    | nil => exact .inl trivial
    | cons c t =>
      rcases hmarker : marker? (c :: t) with - | ⟨token, rest⟩
      · rcases hescape : Text.after? ['\\', '-', '-'] (c :: t) with - | rest
        · rw [stripMarkup_cons hmarker hescape, List.countP_cons, List.countP_cons]
          exact (ih t.length (Nat.lt_succ_self _) t rfl).imp (⟨hmarker, hescape, ·⟩)
            (Nat.add_lt_add_right · _)
        · have ht : c :: t = '\\' :: '-' :: '-' :: rest := Text.after?_eq_some_iff.1 hescape
          have hcount := @hle rest (by rw [ht]; simp only [List.length_cons]; omega)
          right
          rw [ht, stripMarkup_escape]
          simp only [List.countP_cons, hhyphen, hbackslash, if_true]
          omega
      · obtain ⟨front, ht⟩ := marker?_append hmarker
        have hcount := hle (marker?_length hmarker)
        right
        rw [stripMarkup_of_marker hmarker, ht]
        simp only [List.countP_cons, List.countP_append, hhyphen, if_true]
        omega

namespace Layout

/-- The lines of a text without its markers are lines of the text itself just when it has none. -/
theorem cut_stripMarkup_iff (width : Int) (t : Text) :
    Cut (· == ' ') t (wrapText width (stripMarkup t)) ↔ Unmarked t := by
  have hlines := cut_wrap (· == ' ') width (stripMarkup t)
  constructor
  · intro hcut
    have hcount := hcut.countP_eq.trans hlines.countP_eq.symm
    exact (unmarked_or_countP_lt rfl rfl t).resolve_right hcount.symm.not_lt
  · intro hplain
    rwa [hplain.stripMarkup_eq] at hlines ⊢

end Layout

end SlideDeck
