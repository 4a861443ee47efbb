import SlideDeck.Markup.Style

/-!
Symbols with their styles. Each glyph also has the number of its run: the count of styles made
before it. Two glyphs of one run have one style; two runs are drawn apart even when their styles
agree field by field. The symbols of a text are its characters without the markers
(`symbols_ofText`).
-/

namespace SlideDeck

structure Glyph (α : Type) where
  symbol : α
  style : Style
  run : Nat
deriving DecidableEq, Repr

namespace Glyph

def ofTokens (style : Style) (run : Nat) (stack : ColorStack) : List Token → List (Glyph Char)
  | [] => []
  | .literal t :: ts => t.map (⟨·, style, run⟩) ++ ofTokens style run stack ts
  | token :: ts =>
    match token.apply style stack with
    | (none, stack) => ofTokens style run stack ts
    | (some style, stack) => ofTokens style (run + 1) stack ts

theorem symbols_ofTokens (style : Style) (run : Nat) (stack : ColorStack) (ts : List Token) :
    (ofTokens style run stack ts).map (·.symbol) = Token.plainText ts := by
  fun_induction ofTokens style run stack ts with
  | case1 => rfl
  | case2 style run stack t ts ih =>
    simp [Token.plainText, Token.literalText, ih, Function.comp_def]
  | case3 style run stack token ts hliteral stack' happly ih =>
    rw [ih]
    cases token <;> simp_all [Token.plainText, Token.literalText]
  | case4 style run stack token ts hliteral style' stack' happly ih =>
    rw [ih]
    cases token <;> simp_all [Token.plainText, Token.literalText]

/-- The glyphs of a marked-up text that starts in the style `base`; an absent text has none. -/
def ofText (base : Style) : Option Text → List (Glyph Char)
  | none => []
  | some t => ofTokens base 0 [] (Token.scan t)

/-- The glyphs of a text are its characters without the markers. -/
theorem symbols_ofText (base : Style) (t : Text) :
    (ofText base (some t)).map (·.symbol) = stripMarkup t := symbols_ofTokens base 0 [] _

end Glyph

end SlideDeck
