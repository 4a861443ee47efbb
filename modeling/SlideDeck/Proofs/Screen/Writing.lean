import SlideDeck.Proofs.Screen.Attributes

/-!
# Styled text in step

The markers of a text take colours on and return to them, but only to colours that have a pair, so
every glyph can be drawn. After each line the screen goes back to its own style.
-/

namespace SlideDeck

def ColorStack.Known (stack : ColorStack) : Prop :=
  ∀ color ∈ stack, ∀ style : Style, (style.withColor color).Known

theorem Style.Known.of_color {s t : Style} (h : s.Known) (hcolor : t.color = s.color) :
    t.Known := by
  obtain ⟨c, hc, hs⟩ := h
  exact ⟨c, hc, hcolor.trans hs⟩

theorem Token.known_apply {style : Style} {stack : ColorStack} (hstyle : style.Known)
    (hstack : stack.Known) (token : Token) :
    (∀ s, (token.apply style stack).1 = some s → s.Known) ∧ (token.apply style stack).2.Known := by
  have hnone (s : Style) (h : none = some s) : s.Known := by cases h
  cases token with
  | literal t => exact ⟨hnone, hstack⟩
  | toggle f on =>
    refine ⟨fun s hs => ?_, hstack⟩
    cases hs
    exact hstyle.withFlag f on
  | push name =>
    simp only [apply]
    split
    · rename_i hname
      refine ⟨fun s hs => ?_, ?_⟩
      · cases hs
        exact Style.known_withColor hname
      · intro color hcolor s
        rcases List.mem_cons.1 hcolor with rfl | hmem
        · exact hstyle.of_color rfl
        · exact hstack color hmem s
    · exact ⟨hnone, hstack⟩
  | pop =>
    cases stack with
    | nil => exact ⟨hnone, List.forall_mem_nil _⟩
    | cons color rest =>
      refine ⟨fun s hs => ?_, fun c hc => hstack c (List.mem_cons_of_mem _ hc)⟩
      cases hs
      exact hstack color List.mem_cons_self style

namespace Glyph

theorem known_ofTokens {style : Style} {run : Nat} {stack : ColorStack} {ts : List Token}
    (hstyle : style.Known) (hstack : stack.Known) :
    ∀ g ∈ ofTokens style run stack ts, g.style.Known := by
  fun_induction ofTokens style run stack ts with
  | case1 => exact List.forall_mem_nil _
  | case2 style run stack t ts ih =>
    intro g hg
    rcases List.mem_append.1 hg with hmap | hrest
    · obtain ⟨c, -, rfl⟩ := List.mem_map.1 hmap
      exact hstyle
    · exact ih hstyle hstack g hrest
  | case3 style run stack token ts hliteral stack' happly ih =>
    have hknown := Token.known_apply hstyle hstack token
    rw [happly] at hknown
    exact ih hstyle hknown.2
  | case4 style run stack token ts hliteral style' stack' happly ih =>
    have hknown := Token.known_apply hstyle hstack token
    rw [happly] at hknown
    exact ih (hknown.1 style' rfl) hknown.2

theorem known_ofText {style : Style} (hstyle : style.Known) (t : Option Text) :
    ∀ g ∈ ofText style t, g.style.Known := by
  cases t with
  | none => exact List.forall_mem_nil _
  | some t => exact known_ofTokens hstyle (List.forall_mem_nil _)

end Glyph

namespace Layout

theorem cutLine_subset {α : Type} (blank : α → Bool) (width : Nat) (items : List α) :
    (cutLine blank width items).1 ⊆ items ∧ (cutLine blank width items).2 ⊆ items := by
  simp only [cutLine]
  split
  · exact ⟨List.Subset.refl _, List.nil_subset _⟩
  · split
    · exact ⟨List.take_subset _ _, List.drop_subset _ _⟩
    · exact ⟨List.take_subset _ _, List.drop_subset _ _⟩

theorem subset_of_mem_lines {α : Type} {blank : α → Bool} {width : Nat} {hw : 0 < width}
    {items l : List α} (hl : l ∈ lines blank width hw items) : l ⊆ items := by
  fun_induction lines blank width hw items with
  | case1 => cases hl
  | case2 items _ _ cut ih =>
    rcases List.mem_cons.1 hl with rfl | hl
    · exact (cutLine_subset blank width items).1
    · exact fun a ha => (cutLine_subset blank width items).2 (ih hl ha)

theorem subset_of_mem_wrap {α : Type} {blank : α → Bool} {width : Int} {items l : List α}
    (hl : l ∈ wrap blank width items) : l ⊆ items := by
  cases items with
  | nil =>
    rw [List.mem_singleton.1 hl]
    exact fun _ h => h
  | cons x xs => exact subset_of_mem_lines hl

theorem known_segments {gs : List (Glyph Char)} (h : ∀ g ∈ gs, g.style.Known) :
    ∀ seg ∈ segments gs, seg.style.Known := by
  intro seg hseg
  obtain ⟨c, hc⟩ := List.exists_mem_of_ne_nil _ (symbols_ne_nil gs seg hseg)
  have hglyph : (⟨c, seg.style, seg.run⟩ : Glyph Char) ∈ (segments gs).flatMap Segment.glyphs :=
    List.mem_flatMap.2 ⟨seg, hseg, List.mem_map.2 ⟨c, hc, rfl⟩⟩
  rw [glyphs_segments] at hglyph
  exact h _ hglyph

end Layout

namespace Screen

open Act

variable {s : Stage Screen}

theorem nextRow_preserves {P : Ink → Prop} : Preserves P nextRow :=
  preserves_modifySurface fun _ => ⟨rfl, rfl⟩

theorem drawSegments_ok {x : Int} {segs : List (Layout.Segment Char)}
    (hsegs : ∀ seg ∈ segs, seg.style.Known) (h : (ink s).Tracked) :
    ∃ t, drawSegments x segs s = .ok () t ∧ (ink t).Tracked ∧ (ink t).style = (ink s).style := by
  induction segs generalizing x s with
  | nil => exact ⟨s, rfl, h, rfl⟩
  | cons seg rest ih =>
    obtain ⟨t, happly, ht, -, hstyle⟩ := applyStyle_ok (hsegs seg List.mem_cons_self) h
    have htakes : t.host.TakesAnyText := Patient.takesAnyText ht.patient
    obtain ⟨u, hdraw, hink⟩ := drawAt_ok (htakes.takes seg.symbols) t.surface.row x
    have hu : (ink u).Tracked := by
      rw [hink]
      exact ht
    obtain ⟨v, hrest, hv, hvstyle⟩ :=
      ih (x := x + seg.symbols.length) (fun seg hseg => hsegs seg (List.mem_cons_of_mem _ hseg)) hu
    refine ⟨v, ?_, hv, ?_⟩
    · exact (Outcome.bind_ok happly).trans ((Outcome.bind_ok hdraw).trans hrest)
    · rw [hvstyle, hink, hstyle]

theorem drawStyledLine_ok (align : Alignment) {line : List (Glyph Char)}
    (hline : ∀ g ∈ line, g.style.Known) (h : (ink s).InStep) :
    ∃ t, drawStyledLine align line s = .ok () t ∧ (ink t).InStep ∧
      (ink t).style = (ink s).style := by
  by_cases hempty : line = []
  · subst hempty
    exact ⟨_, rfl, h, rfl⟩
  · obtain ⟨t, hdraw, ht, htstyle⟩ := drawSegments_ok (x := s.surface.column line.length align)
      (Layout.known_segments hline) h.toTracked
    obtain ⟨u, happly, hu, huactive, hustyle⟩ := applyStyle_ok h.known ht
    have hstep : (ink u).InStep := ⟨hu, by rw [huactive, hustyle, htstyle]⟩
    have hrun : drawStyledLine align line s = nextRow u := by
      refine (Outcome.bind_ok (t := s) rfl).trans ?_
      rw [if_pos hempty]
      exact (Outcome.bind_ok hdraw).trans (Outcome.bind_ok happly)
    exact ⟨_, hrun, hstep, hustyle.trans htstyle⟩

theorem drawStyledLine_inStep {align : Alignment} {line : List (Glyph Char)}
    (hline : ∀ g ∈ line, g.style.Known) :
    Preserves Ink.InStep (drawStyledLine align line) := by
  intro s hs
  obtain ⟨t, hdraw, ht, -⟩ := drawStyledLine_ok align hline hs
  rw [hdraw]
  exact ht

end Screen

end SlideDeck
