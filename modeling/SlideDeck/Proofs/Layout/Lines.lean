import Mathlib
import SlideDeck.Layout.Segment
import SlideDeck.Layout.Wrap

/-!
# Lines of styled and of plain text

Where lines end depends on the blanks alone, so styled text has the lines of the plain text that it
shows, and a cut takes nothing away but single blanks between the lines (`Cut`).
-/

namespace SlideDeck.Layout

variable {α β : Type}

/-- Items and lines that they can be cut into: in order, and with nothing left out but, after a
line, a single blank. -/
inductive Cut (blank : α → Bool) : List α → List (List α) → Prop where
  | nil : Cut blank [] []
  | line {items : List α} {lines : List (List α)} (l : List α) (rest : Cut blank items lines) :
      Cut blank (l ++ items) (l :: lines)
  | lineAndBlank {items : List α} {lines : List (List α)} {b : α} (l : List α)
      (hb : blank b = true) (rest : Cut blank items lines) :
      Cut blank (l ++ b :: items) (l :: lines)

/-! ### What a cut leaves out -/

theorem Cut.countP_eq {blank : α → Bool} {items : List α} {lines : List (List α)}
    (h : Cut blank items lines) :
    items.countP (!blank ·) = lines.flatten.countP (!blank ·) := by
  induction h with
  | nil => rfl
  | line l rest ih => rw [List.flatten_cons, List.countP_append, List.countP_append, ih]
  | lineAndBlank l hb rest ih =>
    rw [List.flatten_cons, List.countP_append, List.countP_append, List.countP_cons, ih, hb]
    rfl

/-- Without the items after its last blank, a list of items ends in that blank. -/
theorem exists_last_blank {blank : α → Bool} {items : List α} {n : Nat}
    (h : (items.reverse.dropWhile (!blank ·)).length = n + 1) :
    ∃ front b back, items = front ++ b :: back ∧ front.length = n ∧ blank b = true := by
  have hne : items.reverse.dropWhile (!blank ·) ≠ [] := by
    intro hnil
    rw [hnil] at h
    cases h
  obtain ⟨b, front, hdrop⟩ := List.exists_cons_of_ne_nil hne
  have hb : blank b = true := by
    have hhead := List.head_dropWhile_not (!blank ·) hne
    simpa [hdrop] using hhead
  have hsplit : items.reverse = items.reverse.takeWhile (!blank ·) ++ b :: front := by
    rw [← hdrop]
    exact List.takeWhile_append_dropWhile.symm
  refine ⟨front.reverse, b, (items.reverse.takeWhile (!blank ·)).reverse, ?_, ?_, hb⟩
  · have hitems := congrArg List.reverse hsplit
    simpa using hitems
  · rw [hdrop, List.length_cons] at h
    rw [List.length_reverse]
    omega

theorem cutLine_append (blank : α → Bool) (width : Nat) (items : List α) :
    items = (cutLine blank width items).1 ++ (cutLine blank width items).2 ∨
      ∃ b, blank b = true ∧
        items = (cutLine blank width items).1 ++ b :: (cutLine blank width items).2 := by
  simp only [cutLine]
  split
  · exact Or.inl (List.append_nil items).symm
  · split
    · exact Or.inl (List.take_append_drop width items).symm
    · rename_i n hn
      obtain ⟨front, b, back, htail, hfront, hb⟩ := exists_last_blank hn
      obtain ⟨a, rest, rfl⟩ : ∃ a rest, items = a :: rest := by
        cases items with
        | nil => simp at htail
        | cons a rest => exact ⟨a, rest, rfl⟩
      -- The blank stands among the items after the first, and all of these begin with it there.
      have hrest : ∃ more, rest = front ++ b :: more := by
        cases width with
        | zero => simp at htail
        | succ width =>
          refine ⟨back ++ rest.drop width, ?_⟩
          have hwindow : rest.take width = front ++ b :: back := htail
          have hrest := List.take_append_drop width rest
          rw [hwindow, List.append_assoc] at hrest
          exact hrest.symm
      obtain ⟨more, rfl⟩ := hrest
      refine Or.inr ⟨b, hb, ?_⟩
      subst hfront
      simp

theorem cut_lines (blank : α → Bool) {width : Nat} (hw : 0 < width) (items : List α) :
    Cut blank items (lines blank width hw items) := by
  fun_induction lines blank width hw items with
  | case1 => exact .nil
  | case2 items _ _ cut ih =>
    rcases cutLine_append blank width items with hitems | ⟨b, hb, hitems⟩
    · rw [hitems]
      exact .line _ ih
    · rw [hitems]
      exact .lineAndBlank _ hb ih

theorem cut_wrap (blank : α → Bool) (width : Int) (items : List α) :
    Cut blank items (wrap blank width items) := by
  cases items with
  | nil => exact .line [] .nil
  | cons a items => exact cut_lines blank (clamp_pos width) (a :: items)

/-! ### Lines of a text with its styles left out -/

theorem cutLine_map (blank : β → Bool) (f : α → β) (width : Nat) (items : List α) :
    cutLine blank width (items.map f) =
      ((cutLine (fun a => blank (f a)) width items).1.map f,
        (cutLine (fun a => blank (f a)) width items).2.map f) := by
  have hlast : (((items.map f).take width).tail.reverse.dropWhile (!blank ·)).length =
      ((items.take width).tail.reverse.dropWhile fun a => !blank (f a)).length := by
    rw [← List.map_take, ← List.map_tail, ← List.map_reverse, List.dropWhile_map, List.length_map]
    rfl
  rw [cutLine, cutLine, hlast]
  simp only [← List.map_drop, ← List.map_take, List.isEmpty_map]
  split
  · rfl
  · split
    · rfl
    · rfl

theorem lines_of_ne_nil (blank : α → Bool) {width : Nat} (hw : 0 < width) {items : List α}
    (h : items ≠ []) :
    lines blank width hw items =
      (cutLine blank width items).1 :: lines blank width hw (cutLine blank width items).2 := by
  rw [lines, dif_neg h]

theorem lines_map (blank : β → Bool) (f : α → β) {width : Nat} (hw : 0 < width) (items : List α) :
    lines blank width hw (items.map f) =
      (lines (fun a => blank (f a)) width hw items).map (List.map f) := by
  fun_induction lines (fun a => blank (f a)) width hw items with
  | case1 => rw [List.map_nil, lines, dif_pos rfl, List.map_nil]
  | case2 items hne _ cut ih =>
    have hmap : items.map f ≠ [] := by simpa using hne
    rw [lines_of_ne_nil blank hw hmap, cutLine_map, ih, List.map_cons]

theorem wrap_map (blank : β → Bool) (f : α → β) (width : Int) (items : List α) :
    wrap blank width (items.map f) =
      (wrap (fun a => blank (f a)) width items).map (List.map f) := by
  cases items with
  | nil => rfl
  | cons a items => exact lines_map blank f (clamp_pos width) (a :: items)

theorem symbols_wrapGlyphs (width : Int) (gs : List (Glyph Char)) :
    (wrapGlyphs (· == ' ') width gs).map (·.map (·.symbol)) =
      wrapText width (gs.map (·.symbol)) := (wrap_map (· == ' ') (·.symbol) width gs).symm

theorem symbols_segments (gs : List (Glyph Char)) :
    (segments gs).flatMap (·.symbols) = gs.map (·.symbol) := by
  have hsymbols : ∀ s : Segment Char, s.glyphs.map (·.symbol) = s.symbols := by
    intro s
    simp [Segment.glyphs, Function.comp_def]
  have hflat : (segments gs).flatMap (·.symbols) =
      ((segments gs).flatMap Segment.glyphs).map (·.symbol) := by
    rw [List.map_flatMap]
    exact List.flatMap_congr fun s _ => (hsymbols s).symm
  rw [hflat, glyphs_segments]

theorem symbols_ofText_getD (base : Style) (t : Option Text) :
    (Glyph.ofText base t).map (·.symbol) = stripMarkup (t.getD []) := by
  cases t with
  | none =>
    have hscan : Token.scan [] = [] := Token.scan.eq_1
    rw [Option.getD_none, stripMarkup, hscan]
    rfl
  | some t => exact Glyph.symbols_ofText base t

/-- A marked-up text has the lines of the text without its markers, read off its glyphs or off
its segments; and its lines hold its glyphs as they were, in order, with nothing left out but a
single blank after a line. -/
theorem styled_lines_eq_plain_lines (t : Option Text) (base : Style) (width : Int) :
    let glyphs := Glyph.ofText base t
    let lines := wrapGlyphs (· == ' ') width glyphs
    lines.map (·.map (·.symbol)) = wrapText width (stripMarkup (t.getD [])) ∧
      lines.map (fun line => (segments line).flatMap (·.symbols)) =
        wrapText width (stripMarkup (t.getD [])) ∧
      Cut (·.symbol == ' ') glyphs lines := by
  intro glyphs lines
  have hsymbols : lines.map (·.map (·.symbol)) = wrapText width (stripMarkup (t.getD [])) := by
    rw [symbols_wrapGlyphs, symbols_ofText_getD]
  refine ⟨hsymbols, ?_, cut_wrap _ width glyphs⟩
  rw [← hsymbols]
  exact List.map_congr_left fun line _ => symbols_segments line

end SlideDeck.Layout
