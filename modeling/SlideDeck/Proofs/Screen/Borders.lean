import SlideDeck.Proofs.Screen.Framed
import SlideDeck.Proofs.Screen.Picture

/-!
# Text between borders

A line in a frame stands between two borders of two cells each. Lines are cut as if the borders took
two cells together, so that a line can be two characters too long: then it covers the left border,
or the right border covers its end.
-/

namespace SlideDeck.Screen

open Act

variable {s t : Stage Screen} {through : Prop}

/-- The column of a line of some length in a frame. -/
def frameColumn (b : Screen) (length : Nat) : Alignment → Int
  | .left => indent + 2
  | align => b.column length align

/-- The columns of the two borders of a frame. -/
def borderColumns (b : Screen) : List Int :=
  [indent, indent + 1, b.columns - indent - 2, b.columns - indent - 1]

/-- The most characters that a line can have in a frame so that the right border hides none. -/
def clearLength (b : Screen) : Alignment → Int
  | .left => b.columns - 10
  | .center => b.columns - 9
  | .right => b.columns - 8

/-- A grid with a line of a frame on it: a border, the line, and the other border. -/
def withLine (b : Screen) (p : Pen) (align : Alignment) (g : Grid) (row : Int) (line : Text) :
    Grid :=
  b.drawn (b.drawn (b.drawn g p row 3 "| ") p row (b.frameColumn line.length align) line)
    p row (b.columns - 5) " |"

def withLines (b : Screen) (p : Pen) (align : Alignment) (g : Grid) (row : Int) : List Text → Grid
  | [] => g
  | line :: lines => withLines b p align (b.withLine p align g row line) (row + 1) lines

section Places

variable {b : Screen} {length : Nat} (align : Alignment)

/-- A line that is flush right is never pushed back to the margin, for the cut leaves it room. -/
theorem frameColumn_cases (hframed : b.framed = true) (hlength : length ≤ b.columns - 8) :
    align = .left ∧ b.frameColumn length align = 5 ∨
      align = .center ∧ b.frameColumn length align = (b.columns - length) / 2 ∨
      align = .right ∧ b.frameColumn length align = b.columns - 5 - length := by
  cases align with
  | left => exact .inl ⟨rfl, rfl⟩
  | center => exact .inr (.inl ⟨rfl, rfl⟩)
  | right =>
    refine .inr (.inr ⟨rfl, ?_⟩)
    simp only [frameColumn, column, hframed, indent, if_true]
    omega

theorem disjoint_borders_iff (hwidth : 10 ≤ b.columns) (hframed : b.framed = true)
    (hlength : length ≤ b.columns - 8) :
    (∀ i < length, b.frameColumn length align + i ∉ b.borderColumns) ↔
      length ≤ b.columns - 10 := by
  have hcases := frameColumn_cases align hframed hlength
  simp only [borderColumns, indent, List.mem_cons, List.not_mem_nil, or_false, not_or]
  constructor
  · intro h
    by_contra hlong
    have hfirst := h 0 (by omega)
    have hlast := h (length - 1) (by omega)
    omega
  · intro h i hi
    omega

theorem clear_of_right_border_iff (hframed : b.framed = true) (hlength : length ≤ b.columns - 8) :
    b.frameColumn length align + length ≤ b.columns - 5 ↔ length ≤ b.clearLength align := by
  unfold clearLength
  rcases frameColumn_cases align hframed hlength with ⟨rfl, hplace⟩ | ⟨rfl, hplace⟩ | ⟨rfl, hplace⟩
  · dsimp only
    omega
  · dsimp only
    omega
  · dsimp only
    omega

end Places

/-! ### Cells of a row -/

section Cells

variable {b : Screen} {p : Pen} {align : Alignment} {g h : Grid} {row column : Int} {text : Text}

theorem withLine_congr (hcell : g row column = h row column) :
    b.withLine p align g row text row column = b.withLine p align h row text row column :=
  drawn_congr _ (drawn_congr _ (drawn_congr _ hcell))

theorem withLine_other_row {other : Int} (hrow : other ≠ row) :
    b.withLine p align g row text other column = g other column := by
  unfold withLine
  rw [drawn_off _ (.inl hrow), drawn_off _ (.inl hrow), drawn_off _ (.inl hrow)]

theorem withLines_above {first : Int} (lines : List Text) (hrow : row < first) :
    b.withLines p align g first lines row column = g row column := by
  induction lines generalizing first g with
  | nil => rfl
  | cons line lines ih => rw [withLines, ih (by omega), withLine_other_row (by omega)]

/-- The lines stand one under the other, each on a row of its own. -/
theorem withLines_row {lines : List Text} {k : Nat} (hline : lines[k]? = some text) :
    b.withLines p align g row lines (row + k) column =
      b.withLine p align g (row + k) text (row + k) column := by
  induction lines generalizing k row g with
  | nil => cases hline
  | cons first lines ih =>
    cases k with
    | zero =>
      obtain rfl : first = text := by simpa using hline
      rw [withLines, withLines_above _ (by omega), Nat.cast_zero, Int.add_zero]
    | succ k =>
      have hrest : row + (k + 1 : Nat) = row + 1 + k := by omega
      rw [withLines, hrest, ih (by simpa using hline)]
      exact withLine_congr (withLine_other_row (by omega))

/-- The row that a screen is on has no part in where the lines are. -/
theorem withLines_next (next : Int) (lines : List Text) :
    withLines { b with row := next } p align g row lines = b.withLines p align g row lines := by
  induction lines generalizing row g with
  | nil => rfl
  | cons line lines ih =>
    rw [withLines, ih]
    rfl

variable (hrow : 0 ≤ row ∧ row < b.rows)

include hrow

/-- Drawn last, the right border is never covered. -/
theorem withLine_right_border (hwidth : 10 ≤ b.columns) :
    b.withLine p align g row text row (b.columns - 5) = ⟨' ', p⟩ ∧
      b.withLine p align g row text row (b.columns - 4) = ⟨'|', p⟩ := by
  have hborder (i : Nat) (hi : i < 2) (c : Char) (hc : (" |" : Text)[i]? = some c) :
      b.withLine p align g row text row (b.columns - 5 + i) = ⟨c, p⟩ := by
    unfold withLine
    rw [drawn_within _ hrow (by omega)]
    exact Grid.draw_at hc
  have hbar := hborder 1 (by decide) '|' rfl
  rw [show b.columns - 5 + (1 : Nat) = b.columns - 4 by omega] at hbar
  exact ⟨by simpa using hborder 0 (by decide) ' ' rfl, hbar⟩

theorem withLine_line (hframed : b.framed = true) (hlength : text.length ≤ b.columns - 8) {i : Nat}
    {c : Char} (hc : text[i]? = some c)
    (hclear : b.frameColumn text.length align + i < b.columns - 5) :
    b.withLine p align g row text row (b.frameColumn text.length align + i) = ⟨c, p⟩ := by
  have hcases := frameColumn_cases align hframed hlength
  obtain ⟨hi, -⟩ := List.getElem?_eq_some_iff.1 hc
  unfold withLine
  rw [drawn_off _ (.inr (.inl hclear)), drawn_within _ hrow (by omega)]
  exact Grid.draw_at hc

theorem withLine_left_border (hwidth : 10 ≤ b.columns)
    (hclear : 5 ≤ b.frameColumn text.length align) :
    b.withLine p align g row text row 3 = ⟨'|', p⟩ ∧
      b.withLine p align g row text row 4 = ⟨' ', p⟩ := by
  have hborder (i : Nat) (hi : i < 2) (c : Char) (hc : ("| " : Text)[i]? = some c) :
      b.withLine p align g row text row (3 + i) = ⟨c, p⟩ := by
    unfold withLine
    rw [drawn_off _ (.inr (.inl (by omega))), drawn_off _ (.inr (.inl (by omega))),
      drawn_within _ hrow (by omega)]
    exact Grid.draw_at hc
  exact ⟨hborder 0 (by decide) '|' rfl, hborder 1 (by decide) ' ' rfl⟩

end Cells

/-! ### Lines that are drawn -/

/-- Shows a line in its place in a frame. -/
def showLine (b : Screen) : Alignment → Text → Act Screen Unit
  | .left, line => typeOrDraw b (indent + 2) line
  | align, line => drawAt b.row (b.column line.length align) line

theorem drawPlainLine_bordered (align : Alignment) (line : Text) (hframed : s.surface.framed = true)
    (hsliding : s.surface.sliding = false) :
    drawPlainLine align (align = .left) false line s = (do
      drawAt s.surface.row 3 "| "
      showLine s.surface align line
      drawAt s.surface.row (s.surface.columns - 5) " |"
      nextRow : Act Screen Unit) s := by
  have hedge : s.surface.columns - 5 = s.surface.columns - indent - 2 := by
    simp only [indent]
    omega
  cases align with
  | left => exact drawPlainLine_boxed line hframed hsliding
  | center | right =>
    refine (Outcome.bind_ok (t := s) rfl).trans ?_
    simp only [hframed, hsliding, hedge]
    rfl

theorem Painted.showLine {b : Screen} {g : Grid} {align : Alignment} (ht : Painted s b g t)
    (line : Text) (htyped : through → align = .left ∧ b.shellOutput = true → TypesThrough t) :
    Paints through (showLine b align line) t b
      (b.drawn g s.journal.pen b.row (b.frameColumn line.length align) line) := by
  cases align with
  | left =>
    show Paints through (typeOrDraw b 5 line) t b (b.drawn g s.journal.pen b.row 5 line)
    unfold typeOrDraw
    split_ifs with htype
    · have hshell := (Bool.and_eq_true_iff.1 htype).1
      exact ht.typeText _ _ fun h => htyped h ⟨rfl, hshell⟩
    · exact ht.drawAt _ _ _
  | center => exact ht.drawAt _ _ _
  | right => exact ht.drawAt _ _ _

theorem drawPlainLine_paints {b : Screen} {g : Grid} {align : Alignment} (line : Text)
    (ht : Painted s b g t) (hframed : b.framed = true) (hsliding : b.sliding = false)
    (htyped : through → align = .left ∧ b.shellOutput = true → TypesThrough t) :
    Paints through (drawPlainLine align (align = .left) false line) t { b with row := b.row + 1 }
      (b.withLine s.journal.pen align g b.row line) := by
  obtain rfl := ht.surface
  refine .after (drawPlainLine_bordered align line hframed hsliding) .refl ?_
  refine (ht.drawAt _ _ _).bind fun u htu => ?_
  have hu := ht.trans htu
  have hutyped (h : through) (hleft : align = .left ∧ t.surface.shellOutput = true) :
      TypesThrough u := (htyped h hleft).of_eq htu.host (congrArg typeDelay hu.surface)
  refine (hu.showLine line hutyped).bind fun v huv => ?_
  have hv := hu.trans huv
  exact (hv.drawAt _ _ _).bind fun w hvw => (hv.trans hvw).modifySurface _

theorem drawPlainLines_paint {b : Screen} {g : Grid} {align : Alignment} (lines : List Text)
    (ht : Painted s b g t) (hframed : b.framed = true) (hsliding : b.sliding = false)
    (htyped : through → align = .left ∧ b.shellOutput = true → TypesThrough t) :
    Paints through (lines.forM (drawPlainLine align (align = .left) false)) t
      { b with row := b.row + lines.length } (b.withLines s.journal.pen align g b.row lines) := by
  induction lines generalizing b g t with
  | nil =>
    rw [List.length_nil, Nat.cast_zero, Int.add_zero]
    exact ht.stays
  | cons line lines ih =>
    have hrow : b.row + (line :: lines).length = b.row + 1 + lines.length := by
      rw [List.length_cons]
      push_cast
      omega
    rw [hrow]
    refine (drawPlainLine_paints line ht hframed hsliding htyped).bind fun u htu => ?_
    have hu := ht.trans htu
    have hutyped (h : through) (hleft : align = .left ∧ b.shellOutput = true) : TypesThrough u :=
      (htyped h hleft).of_eq htu.host
        ((congrArg typeDelay hu.surface).trans (congrArg typeDelay ht.surface).symm)
    -- The other lines start on a surface that differs in its row alone.
    rw [withLines, ← withLines_next]
    exact ih hu hframed hsliding hutyped

theorem drawText_paints (hframed : s.surface.framed = true) (hsliding : s.surface.sliding = false)
    (align : Alignment) (t : Text) :
    let b := s.surface
    let lines := Layout.wrapText b.textWidth t
    Paints (align = .left ∧ b.shellOutput = true → TypesThrough s) (drawText align (some t)) s
      { b with row := b.row + lines.length }
      (b.withLines s.journal.pen align (picture s) b.row lines) := by
  intro b lines
  have hread : drawText align (some t) s =
      lines.forM (drawPlainLine align (align = .left) false) s := by
    refine (Outcome.bind_ok (t := s) rfl).trans ?_
    rw [if_pos hframed]
  exact .after hread .refl (drawPlainLines_paint lines .refl hframed hsliding id)

/-- A line in a frame that is at least ten characters shorter than the screen is wide has cells of
its own between the borders, and is shown whole. But lines are cut two characters later than that. A
longer one shares cells with a border: it covers those of the left border, and the right border
covers it. So the end of a line is hidden if the line is flush left and too long, or centred and two
characters too long, and never if it is flush right. -/
theorem framed_lines_shown (htakes : s.host.TakesAnyText) (hframed : s.surface.framed = true)
    (hsliding : s.surface.sliding = false) (hwidth : 10 ≤ s.surface.columns) (align : Alignment)
    (t : Text) :
    let b := s.surface
    let p := s.journal.pen
    let lines := Layout.wrapText b.textWidth t
    let place (text : Text) : Int := b.frameColumn text.length align
    (∀ text ∈ lines, text.length ≤ b.columns - 8 ∧
      ((∀ i < text.length, place text + i ∉ b.borderColumns) ↔ text.length ≤ b.columns - 10) ∧
      (place text + text.length ≤ b.columns - 5 ↔ text.length ≤ b.clearLength align)) ∧
      ((∃ u, drawText align (some t) s = .ok () u) ∨
        align = .left ∧ b.shellOutput = true ∧ ¬ TypesThrough s) ∧
      ∀ u, drawText align (some t) s = .ok () u →
        u.surface = { b with row := b.row + lines.length } ∧
          ∀ (k : Nat) text, lines[k]? = some text → 0 ≤ b.row + k → b.row + k < b.rows →
            let shown (column : Int) : Cell := picture u (b.row + k) column
            shown (b.columns - 5) = ⟨' ', p⟩ ∧ shown (b.columns - 4) = ⟨'|', p⟩ ∧
              (∀ (i : Nat) c, text[i]? = some c → place text + i < b.columns - 5 →
                shown (place text + i) = ⟨c, p⟩) ∧
              (5 ≤ place text → shown 3 = ⟨'|', p⟩ ∧ shown 4 = ⟨' ', p⟩) := by
  intro b p lines place
  have hlength : ∀ text ∈ lines, text.length ≤ b.columns - 8 := fun text htext =>
    length_le_of_mem_framed hframed (by omega) htext
  have hpaints := drawText_paints hframed hsliding align t
  refine ⟨fun text htext => ⟨hlength text htext, ?_, ?_⟩, ?_, fun u hu => ?_⟩
  · exact disjoint_borders_iff align hwidth hframed (hlength text htext)
  · exact clear_of_right_border_iff align hframed (hlength text htext)
  · by_cases hthrough : align = .left ∧ b.shellOutput = true → TypesThrough s
    · obtain ⟨u, hu, -⟩ := hpaints.exists_ok htakes hthrough
      exact .inl ⟨u, hu⟩
    · obtain ⟨⟨hleft, hshell⟩, hbreaks⟩ := Classical.not_imp.1 hthrough
      exact .inr ⟨hleft, hshell, hbreaks⟩
  · have hpainted := hpaints.painted hu
    refine ⟨hpainted.surface, fun k text htext htop hbottom => ?_⟩
    have hline := hlength text (List.mem_of_getElem? htext)
    have hrow : 0 ≤ b.row + k ∧ b.row + k < b.rows := ⟨htop, hbottom⟩
    have hshown (column : Int) : picture u (b.row + k) column =
        b.withLine p align (picture s) (b.row + k) text (b.row + k) column := by
      rw [hpainted.shown]
      exact withLines_row htext
    simp only [hshown]
    refine ⟨(withLine_right_border hrow hwidth).1, (withLine_right_border hrow hwidth).2,
      fun i c hc hclear => ?_, fun hclear => ?_⟩
    · exact withLine_line hrow hframed hline hc hclear
    · exact withLine_left_border hrow hwidth hclear

/-- An open frame on a screen of twelve columns. -/
def narrowFrame : Stage Screen :=
  let host : Host := { Host.quiet with columns := 12 }
  let begun : Stage Screen := ⟨host, {}, start host (.whole 0) (.whole 0) "standard", none⟩
  Outcome.state ((Operation.perform .beginOutput).run (Outcome.state (openTerminal begun)))

/-- A centred line of four characters on twelve columns covers the blank of the left border, and the
right border hides its last character. -/
theorem framed_lines_shown_centred :
    narrowFrame.host.TakesAnyText ∧ narrowFrame.surface.framed = true ∧
      narrowFrame.surface.sliding = false ∧ 10 ≤ narrowFrame.surface.columns ∧
      Layout.wrapText narrowFrame.surface.textWidth "abcd" = ["abcd"] ∧
      ∃ u, drawText .center (some "abcd") narrowFrame = .ok () u ∧
        picture u 6 4 = ⟨'a', narrowFrame.journal.pen⟩ ∧
        picture u 6 6 = ⟨'c', narrowFrame.journal.pen⟩ ∧
        picture u 6 7 = ⟨' ', narrowFrame.journal.pen⟩ := by
  have hwidth : narrowFrame.surface.columns = 12 := rfl
  have hrow : narrowFrame.surface.row = 6 := rfl
  have hrows : narrowFrame.surface.rows = 24 := rfl
  have hlines : Layout.wrapText narrowFrame.surface.textWidth "abcd" = ["abcd"] := by
    decide +kernel
  obtain ⟨-, hends, hshown⟩ :=
    framed_lines_shown (s := narrowFrame) rfl rfl rfl (by rw [hwidth]; decide) .center "abcd"
  obtain ⟨u, hu⟩ : ∃ u, drawText .center (some "abcd") narrowFrame = .ok () u :=
    hends.resolve_right nofun
  obtain ⟨-, hline⟩ := hshown u hu
  obtain ⟨hblank, -, hletters, -⟩ :=
    hline 0 "abcd" (by rw [hlines]; rfl) (by rw [hrow]; decide) (by rw [hrow, hrows]; decide)
  refine ⟨rfl, rfl, rfl, by rw [hwidth]; decide, hlines, u, hu, ?_, ?_, hblank⟩
  · exact hletters 0 'a' rfl (by decide)
  · exact hletters 2 'c' rfl (by decide)

/-- The right border hides the end of a line that is as long as the cut allows. -/
theorem border_over_text :
    narrowFrame.surface.framed = true ∧ narrowFrame.surface.sliding = false ∧
      narrowFrame.surface.columns = 12 ∧ narrowFrame.surface.row = 6 ∧
      Layout.wrapText narrowFrame.surface.textWidth "abcd" = ["abcd"] ∧
      ∃ u, drawText .left (some "abcd") narrowFrame = .ok () u ∧
        (List.range 4).map (fun (i : Nat) => (picture u 6 (5 + i)).symbol) = ("ab |" : Text) := by
  obtain ⟨u, hu, hpainted⟩ :=
    (drawText_paints (s := narrowFrame) rfl rfl .left "abcd").exists_ok rfl nofun
  refine ⟨rfl, rfl, rfl, rfl, by decide +kernel, u, hu, ?_⟩
  rw [hpainted.shown]
  decide +kernel

end SlideDeck.Screen
