import SlideDeck.Layout.Segment
import SlideDeck.Proofs.Markup.Styling

/-!
# Segments as runs of one style

A style is an object: it has a number, and another style with the same fields is another object. A
segment has neighbouring symbols of one object, as many as there are. In a text two characters share
their object just if no token between them makes a new style.
-/

namespace SlideDeck

/-- The style of a glyph as an object: its number among the styles that were made, and its fields. -/
def Glyph.object {α : Type} (g : Glyph α) : Nat × Style := (g.run, g.style)

@[inherit_doc Glyph.object]
def Layout.Segment.object {α : Type} (s : Segment α) : Nat × Style := (s.run, s.style)

namespace Layout

variable {α : Type}

/-! ### Neighbouring segments -/

theorem object_ne_iff {g : Glyph α} {s : Segment α} :
    g.object ≠ s.object ↔ ¬ (s.run = g.run ∧ s.style = g.style) := by
  simp only [Glyph.object, Segment.object, ne_eq, Prod.mk.injEq, eq_comm]

theorem isChain_consGlyph (g : Glyph α) {ss : List (Segment α)}
    (h : ss.IsChain fun s t => s.object ≠ t.object) :
    (consGlyph g ss).IsChain fun s t => s.object ≠ t.object := by
  cases ss with
  | nil => exact .singleton _
  | cons s ss =>
    by_cases hsame : s.run = g.run ∧ s.style = g.style
    · -- The longer segment still has the object of the one that the glyph joined.
      have hjoined : consGlyph g (s :: ss) = { s with symbols := g.symbol :: s.symbols } :: ss := by
        simp only [consGlyph, hsame, and_self, if_true]
      rw [hjoined]
      cases ss with
      | nil => exact .singleton _
      | cons t ss =>
        obtain ⟨hne, hrest⟩ := List.isChain_cons_cons.1 h
        exact .cons_cons hne hrest
    · have hfirst : consGlyph g (s :: ss) = ⟨g.style, g.run, [g.symbol]⟩ :: s :: ss := by
        simp only [consGlyph, hsame, if_false]
      rw [hfirst]
      exact .cons_cons (object_ne_iff.2 hsame) h

theorem isChain_segments (gs : List (Glyph α)) :
    (segments gs).IsChain fun s t => s.object ≠ t.object := by
  induction gs with
  | nil => exact .nil
  | cons g gs ih => exact isChain_consGlyph g ih

end Layout

/-! ### Styles that a text makes -/

/-- Whether a token leaves the style object in force, when there are these colours to return to. -/
def Token.KeepsStyle (stack : ColorStack) : Token → Prop
  | literal _ => True
  | pop => stack = []
  | toggle _ _ | push _ => False

namespace Styling

/-- A token keeps the style object, or makes a new one and with it a new number. -/
theorem next_cases (s : Styling) {token : Token}
    (hknown : ∀ color, token = .push color → Color.isKnown color = true) :
    token.KeepsStyle s.stack ∧ (s.next token).run = s.run ∧ (s.next token).style = s.style ∨
      ¬ token.KeepsStyle s.stack ∧ (s.next token).run = s.run + 1 := by
  cases token with
  | literal t => exact .inl ⟨trivial, rfl, rfl⟩
  | toggle f on => exact .inr ⟨id, rfl⟩
  | push color =>
    right
    simp [next, Token.apply, Token.KeepsStyle, hknown color rfl]
  | pop =>
    cases hstack : s.stack with
    | nil =>
      left
      simp [next, Token.apply, Token.KeepsStyle, hstack]
    | cons c cs =>
      right
      simp [next, Token.apply, Token.KeepsStyle, hstack]

variable {s : Styling} {ts : List Token}
  (hknown : ∀ color, Token.push color ∈ ts → Color.isKnown color = true)

include hknown

/-- From one place in the tokens to the next, the style object is kept, or else a new one is made. -/
theorem take_succ_cases (k : Nat) :
    (∀ token, ts[k]? = some token → token.KeepsStyle (s.after (ts.take k)).stack) ∧
        (s.after (ts.take (k + 1))).run = (s.after (ts.take k)).run ∧
        (s.after (ts.take (k + 1))).style = (s.after (ts.take k)).style ∨
      (∃ token, ts[k]? = some token ∧ ¬ token.KeepsStyle (s.after (ts.take k)).stack) ∧
        (s.after (ts.take (k + 1))).run = (s.after (ts.take k)).run + 1 := by
  rw [List.take_add_one, after_append]
  cases htoken : ts[k]? with
  | none => exact .inl ⟨nofun, rfl, rfl⟩
  | some token =>
    have hpush : ∀ color, token = .push color → Color.isKnown color = true :=
      fun color h => hknown color (h ▸ List.mem_of_getElem? htoken)
    rcases (s.after (ts.take k)).next_cases hpush with ⟨hkeeps, hrun, hstyle⟩ | ⟨hmakes, hrun⟩
    · refine .inl ⟨fun token' h => ?_, hrun, hstyle⟩
      cases h
      exact hkeeps
    · exact .inr ⟨⟨token, rfl, hmakes⟩, hrun⟩

theorem run_take_le (k d : Nat) :
    (s.after (ts.take k)).run ≤ (s.after (ts.take (k + d))).run := by
  induction d with
  | zero => exact Nat.le_refl _
  | succ d ih =>
    rw [← Nat.add_assoc]
    rcases take_succ_cases hknown (s := s) (k + d) with ⟨-, hrun, -⟩ | ⟨-, hrun⟩
    · omega
    · omega

/-- As long as no style is made, the style stays the same. -/
theorem style_take_eq {k d : Nat}
    (h : (s.after (ts.take (k + d))).run = (s.after (ts.take k)).run) :
    (s.after (ts.take (k + d))).style = (s.after (ts.take k)).style := by
  induction d with
  | zero => rfl
  | succ d ih =>
    have hle := run_take_le hknown (s := s) k d
    rw [← Nat.add_assoc] at h ⊢
    rcases take_succ_cases hknown (s := s) (k + d) with ⟨-, hrun, hstyle⟩ | ⟨-, hrun⟩
    · rw [hstyle]
      exact ih (by omega)
    · omega

/-- The number of styles stays the same just if every token keeps the style. -/
theorem run_take_eq_iff (k d : Nat) :
    (s.after (ts.take (k + d))).run = (s.after (ts.take k)).run ↔
      ∀ m token, k ≤ m → m < k + d → ts[m]? = some token →
        token.KeepsStyle (s.after (ts.take m)).stack := by
  constructor
  · intro h m token hk hm htoken
    obtain ⟨e, rfl⟩ : ∃ e, m = k + e := ⟨m - k, by omega⟩
    obtain ⟨f, rfl⟩ : ∃ f, d = e + 1 + f := ⟨d - (e + 1), by omega⟩
    have hbefore := run_take_le hknown (s := s) k e
    have hafter := run_take_le hknown (s := s) (k + e + 1) f
    rw [show k + (e + 1 + f) = k + e + 1 + f by omega] at h
    rcases take_succ_cases hknown (s := s) (k + e) with ⟨hkeeps, -⟩ | ⟨-, hrun⟩
    · exact hkeeps token htoken
    · omega
  · intro h
    induction d with
    | zero => rfl
    | succ d ih =>
      have hprevious := ih fun m token hk hm => h m token hk (by omega)
      rw [← Nat.add_assoc]
      rcases take_succ_cases hknown (s := s) (k + d) with ⟨-, hrun, -⟩ | ⟨⟨token, htoken, hmakes⟩, -⟩
      · omega
      · exact absurd (h (k + d) token (by omega) (by omega) htoken) hmakes

end Styling

/-- Styles that were there before are counted in front of those of the tokens. -/
theorem Glyph.ofTokens_add (made : Nat) (style : Style) (run : Nat) (stack : ColorStack)
    (ts : List Token) :
    ofTokens style (made + run) stack ts =
      (ofTokens style run stack ts).map fun g => { g with run := made + g.run } := by
  fun_induction ofTokens style run stack ts with
  | case1 => rfl
  | case2 style run stack t ts ih =>
    rw [ofTokens, ih, List.map_append, List.map_map]
    rfl
  | case3 style run stack token ts hliteral stack' happly ih =>
    rw [ofTokens, happly]
    · exact ih
    · exact hliteral
  | case4 style run stack token ts hliteral style' stack' happly ih =>
    rw [ofTokens, happly]
    · exact ih
    · exact hliteral

namespace Layout

/-- Segments hold the symbols with their style objects, none of them is empty, and each ends where
the object changes. When `made` styles are there before a text, the base among them, the text makes
its own: no character has the object of the base. Two characters of the text have one object just if
every token between theirs is literal, or a return with no colour to return to; a flag that is
switched, even to what it was, makes another object. -/
theorem segments_are_runs :
    (∀ {α : Type} (gs : List (Glyph α)),
      (segments gs).flatMap Segment.glyphs = gs ∧ (∀ seg ∈ segments gs, seg.symbols ≠ []) ∧
        (segments gs).IsChain fun s t => s.object ≠ t.object) ∧
    ∀ (base : Style) (t : Option Text) (made : Nat),
      let tokens := Token.scan (t.getD [])
      let start : Styling := ⟨base, made, []⟩
      let glyphs := Glyph.ofTokens base made [] tokens
      glyphs = (Glyph.ofText base t).map (fun g => { g with run := made + g.run }) ∧
        (∀ g ∈ glyphs, ∀ number < made, g.object ≠ (number, base)) ∧
        ∀ k s i k' s' i', tokens[k]? = some (.literal s) → i < s.length →
          tokens[k']? = some (.literal s') → i' < s'.length → k ≤ k' →
          ∃ g g', glyphs[(Token.plainText (tokens.take k)).length + i]? = some g ∧
            glyphs[(Token.plainText (tokens.take k')).length + i']? = some g' ∧
            (g.object = g'.object ↔ ∀ m token, k < m → m < k' → tokens[m]? = some token →
              token.KeepsStyle (start.after (tokens.take m)).stack) ∧
            ∀ m f on, k < m → m < k' → tokens[m]? = some (.toggle f on) → g.run < g'.run := by
  refine ⟨fun gs => ⟨glyphs_segments gs, symbols_ne_nil gs, isChain_segments gs⟩, ?_⟩
  intro base t made tokens start glyphs
  have hglyphs : glyphs = (Glyph.ofText base t).map fun g => { g with run := made + g.run } := by
    rw [Glyph.ofText_eq_glyphs]
    exact Glyph.ofTokens_add made base 0 [] tokens
  have hfresh : ∀ g ∈ glyphs, made ≤ g.run := by
    intro g hg
    rw [hglyphs] at hg
    obtain ⟨g, -, rfl⟩ := List.mem_map.1 hg
    exact Nat.le_add_right _ _
  refine ⟨hglyphs, fun g hg number hnumber hbase => ?_, ?_⟩
  · have hrun : g.run = number := congrArg Prod.fst hbase
    have hle := hfresh g hg
    omega
  · intro k s i k' s' i' hk hi hk' hi' hle
    obtain ⟨d, rfl⟩ : ∃ d, k' = k + d := ⟨k' - k, by omega⟩
    have hknown : ∀ color, Token.push color ∈ tokens → Color.isKnown color = true :=
      fun color => Token.isKnown_of_mem_scan
    have hruns := Styling.run_take_eq_iff hknown (s := start) k d
    have hmono := Styling.run_take_le hknown (s := start) k d
    have hstyle := Styling.style_take_eq hknown (s := start) (k := k) (d := d)
    refine ⟨_, _, start.getElem?_glyphs hk hi, start.getElem?_glyphs hk' hi', ?_, ?_⟩
    · simp only [Glyph.object, Prod.mk.injEq]
      constructor
      · intro h m token hm hm'
        exact hruns.1 h.1.symm m token (by omega) hm'
      · intro h
        have hrun := hruns.2 fun m token hm hm' htoken => by
          rcases Nat.eq_or_lt_of_le hm with rfl | hm
          · cases hk.symm.trans htoken
            trivial
          · exact h m token hm hm' htoken
        exact ⟨hrun.symm, (hstyle hrun).symm⟩
    · intro m f on hm hm' htoken
      refine Nat.lt_of_le_of_ne hmono fun h => ?_
      exact hruns.1 h.symm m _ (by omega) hm' htoken

/-- In bold text, a flag that is switched to bold again makes another style, and a return with
nothing to return to makes none. -/
theorem segments_are_runs_bold_again :
    let t : Text := "a--b b--/c c"
    let tokens := Token.scan t
    let glyphs := Glyph.ofTokens { bold := true } 7 [] tokens
    tokens[0]? = some (.literal "a") ∧ tokens[2]? = some (.literal " b") ∧
      tokens[4]? = some (.literal " c") ∧
      ∃ a b c, glyphs[0]? = some a ∧ glyphs[2]? = some b ∧ glyphs[4]? = some c ∧
        a.object ≠ b.object ∧ b.object = c.object := by
  intro t tokens glyphs
  have htokens : tokens =
      [.literal "a", .toggle .bold true, .literal " b", .pop, .literal " c"] := by
    decide +kernel
  have hpairs := (segments_are_runs.2 { bold := true } (some t) 7).2.2
  rw [show Token.scan ((some t).getD []) = _ from htokens] at hpairs
  simp only [glyphs, htokens]
  refine ⟨rfl, rfl, rfl, ?_⟩
  obtain ⟨a, b, ha, hb, -, hswitched⟩ :=
    hpairs 0 "a" 0 2 " b" 1 rfl (by decide) rfl (by decide) (by decide)
  obtain ⟨b', c, hb', hc, hsame, -⟩ :=
    hpairs 2 " b" 1 4 " c" 1 rfl (by decide) rfl (by decide) (by decide)
  cases hb.symm.trans hb'
  have hrun : a.run < b.run := hswitched 1 .bold true (by decide) (by decide) rfl
  have hreturn : b.object = c.object := by
    refine hsame.2 fun m token hm hm' htoken => ?_
    obtain rfl : m = 3 := by omega
    cases Option.some.inj htoken
    rfl
  exact ⟨a, b, c, ha, hb, hc, fun h => Nat.ne_of_lt hrun (congrArg Prod.fst h), hreturn⟩

end Layout

end SlideDeck
