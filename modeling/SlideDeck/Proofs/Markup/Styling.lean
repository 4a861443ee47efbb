import SlideDeck.Markup.Glyph
import SlideDeck.Proofs.Markup.Brackets
import SlideDeck.Proofs.Markup.Canonical

/-!
# The style of a character

A scan carries a style and the colours to return to from one token to the next (`Styling`). What it
carries past a token can be said of the tokens before that alone: a flag is as it was last switched,
and the colours are those that are open, in the order of their brackets.
-/

namespace SlideDeck

/-- What is carried from token to token: the style in force, the number of styles made before it,
and the colours to return to. -/
structure Styling where
  style : Style
  run : Nat := 0
  stack : ColorStack := []

namespace Styling

def next (s : Styling) (token : Token) : Styling :=
  match token.apply s.style s.stack with
  | (none, stack) => { s with stack := stack }
  | (some style, stack) => ⟨style, s.run + 1, stack⟩

def after (s : Styling) (ts : List Token) : Styling := ts.foldl next s

def glyphs (s : Styling) (ts : List Token) : List (Glyph Char) :=
  Glyph.ofTokens s.style s.run s.stack ts

theorem after_cons (s : Styling) (token : Token) (ts : List Token) :
    s.after (token :: ts) = (s.next token).after ts := rfl

theorem after_append (s : Styling) (ts us : List Token) :
    s.after (ts ++ us) = (s.after ts).after us := List.foldl_append

/-- A token gives its literal characters in the style before it. -/
theorem glyphs_cons (s : Styling) (token : Token) (ts : List Token) :
    s.glyphs (token :: ts) =
      (Token.literalText token).map (⟨·, s.style, s.run⟩) ++ (s.next token).glyphs ts := by
  have hmarker (htext : Token.literalText token = [])
      (hglyphs : s.glyphs (token :: ts) = (s.next token).glyphs ts) :
      s.glyphs (token :: ts) =
        (Token.literalText token).map (⟨·, s.style, s.run⟩) ++ (s.next token).glyphs ts := by
    rw [hglyphs, htext]
    rfl
  cases token with
  | literal t => rfl
  | toggle f on => rfl
  | push color =>
    refine hmarker rfl ?_
    simp only [glyphs, Glyph.ofTokens, next, Token.apply]
    cases Color.isKnown color with
    | true => rfl
    | false => rfl
  | pop =>
    refine hmarker rfl ?_
    simp only [glyphs, Glyph.ofTokens, next, Token.apply]
    cases s.stack with
    | nil => rfl
    | cons c cs => rfl

/-- A literal character is drawn in the style that the tokens before its own leave. -/
theorem getElem?_glyphs (s : Styling) {ts : List Token} {t : Text} {k i : Nat}
    (hk : ts[k]? = some (.literal t)) (hi : i < t.length) :
    (s.glyphs ts)[(Token.plainText (ts.take k)).length + i]? =
      some ⟨t[i], (s.after (ts.take k)).style, (s.after (ts.take k)).run⟩ := by
  induction ts generalizing s k with
  | nil => simp at hk
  | cons token rest ih =>
    rw [glyphs_cons]
    cases k with
    | zero =>
      have htoken : token = .literal t := by simpa using hk
      subst htoken
      simp [Token.plainText, Token.literalText, after, List.getElem?_append_left, hi]
    | succ k =>
      have hrest := ih (s.next token) (by simpa using hk)
      have hplace : (Token.plainText ((token :: rest).take (k + 1))).length + i =
          ((Token.literalText token).map fun c => (⟨c, s.style, s.run⟩ : Glyph Char)).length +
            ((Token.plainText (rest.take k)).length + i) := by
        simp only [Token.plainText, List.take_succ_cons, List.flatMap_cons, List.length_append,
          List.length_map]
        omega
      rw [hplace, List.getElem?_append_right (Nat.le_add_right _ _), Nat.add_sub_cancel_left, hrest]
      rfl

end Styling

/-! ### Flags -/

/-- What a token switches a flag to, if it does. -/
def Token.switch? (f : Flag) : Token → Option Bool
  | toggle g on => if f = g then some on else none
  | literal _ | push _ | pop => none

/-- What the last token that switches a flag switches it to. -/
def Token.lastSwitch? (f : Flag) (ts : List Token) : Option Bool :=
  (ts.filterMap (switch? f)).getLast?

namespace Styling

theorem flag_next (s : Styling) (token : Token) (f : Flag) :
    (s.next token).style.flag f = (token.switch? f).getD (s.style.flag f) := by
  have hcolor (color : Option Text) : (s.style.withColor color).flag f = s.style.flag f := by
    cases f <;> rfl
  cases token with
  | literal t => rfl
  | toggle g on =>
    simp only [next, Token.apply, Token.switch?, Style.flag_withFlag]
    split
    · rfl
    · rfl
  | push color =>
    simp only [next, Token.apply, Token.switch?]
    cases Color.isKnown color with
    | true => exact hcolor _
    | false => rfl
  | pop =>
    simp only [next, Token.apply, Token.switch?]
    cases s.stack with
    | nil => rfl
    | cons c cs => exact hcolor _

theorem flag_after (s : Styling) (ts : List Token) (f : Flag) :
    (s.after ts).style.flag f = (Token.lastSwitch? f ts).getD (s.style.flag f) := by
  induction ts generalizing s with
  | nil => rfl
  | cons token rest ih =>
    rw [after_cons, ih, flag_next]
    simp only [Token.lastSwitch?, List.filterMap_cons]
    cases token.switch? f with
    | none => rfl
    | some on => simp [List.getLast?_cons]

/-! ### Colours -/

/-- The colour in force and those to return to. -/
def colors (s : Styling) : List (Option Text) := s.style.color :: s.stack

/-- They are the colours that are open, and at the bottom the one that the scan began with. -/
theorem colors_after {s : Styling} {ts : List Token} {opened : List Text} {base : Option Text}
    (hknown : ∀ color, Token.push color ∈ ts → Color.isKnown color = true)
    (h : s.colors = opened.map some ++ [base]) :
    (s.after ts).colors = (Token.openColors opened ts).map some ++ [base] := by
  induction ts generalizing s opened with
  | nil => exact h
  | cons token rest ih =>
    have hrest : ∀ color, Token.push color ∈ rest → Color.isKnown color = true :=
      fun color hmem => hknown color (List.mem_cons_of_mem _ hmem)
    rw [after_cons]
    cases token with
    | literal t => exact ih hrest h
    | toggle f on =>
      refine ih hrest ?_
      rw [← h]
      simp only [colors, next, Token.apply, Style.color_withFlag]
    | push color =>
      refine ih hrest ?_
      have hcolor := hknown color List.mem_cons_self
      rw [List.map_cons, List.cons_append, ← h]
      simp only [colors, next, Token.apply, hcolor, if_true, Style.withColor]
    | pop =>
      refine ih hrest ?_
      -- Without a colour to return to, none is open either.
      cases opened with
      | nil =>
        have hstack : s.stack = [] := by
          have hlength := congrArg List.length h
          simpa [colors] using hlength
        simpa [colors, next, Token.apply, hstack] using h
      | cons color opened =>
        have hstack : s.stack = opened.map some ++ [base] := by
          simpa [colors] using congrArg List.tail h
        rw [List.tail_cons, ← hstack]
        cases hs : s.stack with
        | nil => simp [hs] at hstack
        | cons c cs => simp [colors, next, Token.apply, hs, Style.withColor]

end Styling

/-- The colour that brackets give after tokens: the innermost open one, or the one before them. -/
inductive Token.ColorAfter (base : Option Text) (ts : List Token) : Option Text → Prop where
  | base (h : NoneOpen ts) : ColorAfter base ts base
  | pushed {color : Text} (h : InnermostOpen ts color) : ColorAfter base ts (some color)

namespace Styling

theorem color_after_iff {s : Styling} {ts : List Token}
    (hknown : ∀ color, Token.push color ∈ ts → Color.isKnown color = true) (hs : s.stack = [])
    (color : Option Text) :
    (s.after ts).style.color = color ↔ Token.ColorAfter s.style.color ts color := by
  have hstart : s.colors = ([] : List Text).map some ++ [s.style.color] := by
    rw [colors, hs]
    rfl
  have hcolors := colors_after hknown hstart
  have hnone (h : Token.NoneOpen ts) : (s.after ts).style.color = s.style.color := by
    rw [h.openColors_eq] at hcolors
    exact (List.cons.inj hcolors).1
  have hopen {c : Text} (h : Token.InnermostOpen ts c) : (s.after ts).style.color = some c := by
    obtain ⟨others, hothers⟩ := h.openColors_eq
    rw [hothers] at hcolors
    exact (List.cons.inj hcolors).1
  constructor
  · rintro rfl
    rcases Token.noneOpen_or_innermostOpen ts with h | ⟨c, h⟩
    · rw [hnone h]
      exact .base h
    · rw [hopen h]
      exact .pushed h
  · intro h
    cases h with
    | base h => exact hnone h
    | pushed h => exact hopen h

end Styling

theorem Token.isKnown_of_mem_scan {t : Text} {color : Text} (h : push color ∈ scan t) :
    Color.isKnown color = true := Color.isKnown_iff.2 (proper_scan t _ h)

namespace Glyph

theorem ofText_eq_glyphs (base : Style) (t : Option Text) :
    ofText base t = (⟨base, 0, []⟩ : Styling).glyphs (Token.scan (t.getD [])) := by
  cases t with
  | none =>
    rw [Option.getD_none, Token.scan.eq_1]
    rfl
  | some t => rfl

/-- Each character of a text is drawn as the markers before it say: every flag as it was last
switched, or as before the text; in the innermost colour that no later return has matched, or in the
colour before the text. There is one glyph for each character of the text without its markers, in
order. -/
theorem style_by_markers (base : Style) (t : Option Text) :
    let tokens := Token.scan (t.getD [])
    let glyphs := ofText base t
    glyphs.map (·.symbol) = stripMarkup (t.getD []) ∧
      ∀ k s, tokens[k]? = some (.literal s) → ∀ i (hi : i < s.length),
        let before := tokens.take k
        ∃ g, glyphs[(Token.plainText before).length + i]? = some g ∧ g.symbol = s[i] ∧
          (∀ f, g.style.flag f = (Token.lastSwitch? f before).getD (base.flag f)) ∧
          ∀ color, g.style.color = color ↔ Token.ColorAfter base.color before color := by
  intro tokens glyphs
  let start : Styling := ⟨base, 0, []⟩
  have hglyphs : glyphs = start.glyphs tokens := ofText_eq_glyphs base t
  refine ⟨?_, ?_⟩
  · rw [hglyphs]
    exact symbols_ofTokens base 0 [] tokens
  · intro k s hk i hi before
    have hknown : ∀ color, Token.push color ∈ before → Color.isKnown color = true :=
      fun color hmem => Token.isKnown_of_mem_scan (List.mem_of_mem_take hmem)
    have hget := start.getElem?_glyphs hk hi
    rw [← hglyphs] at hget
    exact ⟨_, hget, rfl, start.flag_after before, Styling.color_after_iff hknown rfl⟩

/-- A flag that is switched, a return that matches nothing, and a colour that is open. -/
theorem style_by_markers_surplus_return :
    let t : Text := "--rev--/c--c red x"
    (Token.scan t)[3]? = some (.literal " x") ∧ 1 < (" x" : Text).length ∧
      ∃ g, (ofText {} (some t))[1]? = some g ∧ g.symbol = 'x' ∧ g.style.flag .reverse = true ∧
        g.style.flag .bold = false ∧ g.style.color = some ("red" : Text) := by
  intro t
  have htokens : Token.scan t = [.toggle .reverse true, .pop, .push "red", .literal " x"] := by
    decide +kernel
  have hliteral : (Token.scan t)[3]? = some (.literal " x") := by
    rw [htokens]
    rfl
  obtain ⟨-, hstyle⟩ := style_by_markers {} (some t)
  obtain ⟨g, hget, hsymbol, hflag, hcolor⟩ := hstyle 3 " x" hliteral 1 (by decide)
  simp only [Option.getD_some, htokens] at hget hflag hcolor
  have hopen : Token.InnermostOpen [.toggle .reverse true, .pop, .push "red"] "red" :=
    ⟨[.toggle .reverse true, .pop], [], rfl, Token.not_closes_nil, Token.noneOpen_nil⟩
  exact ⟨hliteral, by decide, g, hget, hsymbol, hflag .reverse, hflag .bold,
    (hcolor _).2 (.pushed hopen)⟩

end Glyph

end SlideDeck
