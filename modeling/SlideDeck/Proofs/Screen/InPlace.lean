import SlideDeck.Proofs.Layout.Lines
import SlideDeck.Proofs.Screen.Clipping
import SlideDeck.Proofs.Screen.Row

/-!
# Text in its place

Unframed text is drawn line by line, each character once, in its own style, in the column that the
alignment gives. Nothing else is drawn, and nothing of the surface changes but the row.
-/

namespace SlideDeck

namespace Alignment

def op (t : Text) : Alignment → Op
  | left => .printLine (some t)
  | center => .center (some t)
  | right => .right (some t)

/-- The column of a line of some length on a screen of some width. -/
def place (width : Int) (length : Nat) : Alignment → Int
  | left => 3
  | center => (width - length) / 2
  | right => width - 3 - length

theorem margin_le_place {width : Int} {length : Nat} (h : length ≤ width - 6) (a : Alignment) :
    3 ≤ a.place width length := by
  cases a <;> simp only [place] <;> omega

theorem place_add_le {width : Int} {length : Nat} (h : length ≤ width - 6) (a : Alignment) :
    a.place width length + length ≤ width - 3 := by
  cases a <;> simp only [place] <;> omega

end Alignment

namespace Screen

open Act

variable {s : Stage Screen}

theorem column_eq_place {b : Screen} {length : Nat} (hframed : b.framed = false)
    (h : length ≤ b.columns - 6) (a : Alignment) :
    b.column length a = a.place b.columns length := by
  cases a with
  | left => rfl
  | center => rfl
  | right =>
    simp only [column, hframed, indent, Alignment.place, Bool.false_eq_true, if_false]
    omega

/-! ### Lines of glyphs -/

/-- What lines of glyphs leave on an endless screen, one under the other. -/
def glyphRows (b : Screen) (align : Alignment) (row : Int) (lines : List (List (Glyph Char))) :
    List Mark :=
  (lines.mapIdx fun k line => Glyph.marks (row + k) (b.column line.length align) line).flatten

theorem glyphRows_cons (b : Screen) (align : Alignment) (row : Int) (line : List (Glyph Char))
    (lines : List (List (Glyph Char))) :
    b.glyphRows align row (line :: lines) =
      Glyph.marks row (b.column line.length align) line ++ b.glyphRows align (row + 1) lines :=
  Mark.flatten_cons (fun y (l : List (Glyph Char)) =>
    Glyph.marks y (b.column l.length align) l) row line lines

theorem glyphRows_append (b : Screen) (align : Alignment) (row : Int)
    (lines more : List (List (Glyph Char))) :
    b.glyphRows align row (lines ++ more) =
      b.glyphRows align row lines ++ b.glyphRows align (row + lines.length) more :=
  Mark.flatten_append (fun y (l : List (Glyph Char)) =>
    Glyph.marks y (b.column l.length align) l) row lines more

theorem mem_glyphMarks {row x : Int} {gs : List (Glyph Char)} {m : Mark}
    (h : m ∈ Glyph.marks row x gs) : m.row = row ∧ x ≤ m.column ∧ m.column < x + gs.length := by
  obtain ⟨i, hi, rfl⟩ := List.mem_mapIdx.1 h
  dsimp only
  omega

/-- Lines that fit between the margins are cut off at the bottom only. -/
theorem clip_glyphRows {b : Screen} {align : Alignment} {row : Int}
    {lines : List (List (Glyph Char))} (hframed : b.framed = false) (hrow : 0 ≤ row)
    (hlength : ∀ line ∈ lines, line.length ≤ b.columns - 6) :
    b.clip (b.glyphRows align row lines) =
      Glyph.pageMarks b.rows row (align.place b.columns) lines := by
  induction lines generalizing row with
  | nil => rfl
  | cons line lines ih =>
    have hline := hlength line List.mem_cons_self
    have hmargin := Alignment.margin_le_place hline align
    have hedge := Alignment.place_add_le hline align
    rw [glyphRows_cons, clip_append, Glyph.pageMarks_cons, column_eq_place hframed hline,
      ih (Int.le_add_one hrow) fun l hl => hlength l (List.mem_cons_of_mem _ hl)]
    congr 1
    split_ifs with hbelow
    · refine clip_eq_self fun m hm => ?_
      have hmark := mem_glyphMarks hm
      unfold Mark.Within
      omega
    · refine List.filter_eq_nil_iff.2 fun m hm => ?_
      have hmark := mem_glyphMarks hm
      rw [decide_eq_true_iff]
      rintro ⟨-, hbottom, -⟩
      omega

theorem drawSegments_clips (x : Int) (segs : List (Layout.Segment Char))
    (hsegs : ∀ seg ∈ segs, seg.style.Known) (h : (ink s).Tracked) :
    ∃ t, drawSegments x segs s = .ok () t ∧ (ink t).Tracked ∧
      t.surface = { s.surface with active := t.surface.active } ∧
      t.journal.marks = s.journal.marks ++ s.surface.clip
        (Glyph.marks s.surface.row x (segs.flatMap Layout.Segment.glyphs)) := by
  induction segs generalizing x s with
  | nil => exact ⟨s, rfl, h, rfl, (List.append_nil _).symm⟩
  | cons seg rest ih =>
    have hknown := hsegs seg List.mem_cons_self
    have hlength : seg.glyphs.length = seg.symbols.length := List.length_map _
    obtain ⟨t, happly, ht, htsurface, htmarks⟩ := applyStyle_draws hknown h
    have hpen : t.journal.pen = seg.style.pen :=
      pen_of_tracked hknown ht (congrArg Screen.active htsurface)
    have htakes : t.host.TakesAnyText := Patient.takesAnyText ht.patient
    obtain ⟨u, hdraw, hu⟩ := drawAt_clips (htakes.takes seg.symbols) t.surface.row x
    have hutracked : (ink u).Tracked := by
      unfold ink
      rw [hu.pen, hu.surface, hu.host]
      exact ht
    obtain ⟨v, hrest, hv, hvsurface, hvmarks⟩ := ih (s := u) (x + seg.symbols.length)
      (fun seg hseg => hsegs seg (List.mem_cons_of_mem _ hseg)) hutracked
    refine ⟨v, (Outcome.bind_ok happly).trans ((Outcome.bind_ok rfl).trans
      ((Outcome.bind_ok hdraw).trans hrest)), hv, ?_, ?_⟩
    · rw [hvsurface, hu.surface, htsurface]
    · have hsegment : s.surface.clip (Glyph.marks s.surface.row x seg.glyphs) =
          t.surface.clip (t.journal.pen.textMarks t.surface.row x seg.symbols) := by
        rw [Glyph.marks_segment, hpen, htsurface]
        rfl
      rw [hvmarks, hu.marks, htmarks, List.append_assoc, List.flatMap_cons, Glyph.marks_append,
        clip_append, hsegment, hlength, hu.surface, htsurface]
      rfl

/-- After a line the screen goes back to its own style, and on to the next row. -/
theorem drawStyledLine_clips (align : Alignment) {line : List (Glyph Char)}
    (hline : ∀ g ∈ line, g.style.Known) (h : (ink s).InStep) :
    ∃ t, drawStyledLine align line s = .ok () t ∧ (ink t).InStep ∧
      t.surface = { s.surface with row := s.surface.row + 1 } ∧
      t.journal.marks = s.journal.marks ++ s.surface.clip
        (Glyph.marks s.surface.row (s.surface.column line.length align) line) := by
  by_cases hempty : line = []
  · subst hempty
    exact ⟨_, rfl, h, rfl, (List.append_nil _).symm⟩
  obtain ⟨t, hdraw, ht, htsurface, htmarks⟩ := drawSegments_clips
    (s.surface.column line.length align) (Layout.segments line) (Layout.known_segments hline)
    h.toTracked
  rw [Layout.glyphs_segments] at htmarks
  obtain ⟨u, happly, hu, husurface, humarks⟩ := applyStyle_draws h.known ht
  refine ⟨{ u with surface := { u.surface with row := u.surface.row + 1 } }, ?_, ⟨hu, ?_⟩, ?_,
    humarks.trans htmarks⟩
  · refine (Outcome.bind_ok (t := s) rfl).trans ?_
    rw [if_pos hempty]
    exact (Outcome.bind_ok hdraw).trans (Outcome.bind_ok happly)
  · show u.surface.active = u.surface.style
    rw [husurface, htsurface]
    rfl
  · rw [husurface, htsurface]
    show { s.surface with active := (ink s).style, row := s.surface.row + 1 } = _
    rw [← h.synced]
    rfl

theorem drawStyledLines_clip (align : Alignment) (lines : List (List (Glyph Char)))
    (hlines : ∀ line ∈ lines, ∀ g ∈ line, g.style.Known) (h : (ink s).InStep) :
    ∃ t, lines.forM (drawStyledLine align) s = .ok () t ∧ (ink t).InStep ∧
      t.surface = { s.surface with row := s.surface.row + lines.length } ∧
      t.journal.marks = s.journal.marks ++
        s.surface.clip (s.surface.glyphRows align s.surface.row lines) := by
  induction lines generalizing s with
  | nil => exact ⟨s, rfl, h, by simp, (List.append_nil _).symm⟩
  | cons line lines ih =>
    obtain ⟨t, hdraw, ht, htsurface, htmarks⟩ := drawStyledLine_clips align
      (hlines line List.mem_cons_self) h
    obtain ⟨u, hrest, hu, husurface, humarks⟩ := ih (s := t)
      (fun line hline => hlines line (List.mem_cons_of_mem _ hline)) ht
    refine ⟨u, (Outcome.bind_ok hdraw).trans hrest, hu, ?_, ?_⟩
    · rw [husurface, htsurface, List.length_cons]
      simp only [Screen.mk.injEq, true_and, and_true]
      push_cast
      omega
    · rw [humarks, htmarks, htsurface, glyphRows_cons, clip_append, List.append_assoc]
      rfl

theorem drawStyledLines_draw (align : Alignment) (lines : List (List (Glyph Char)))
    (hlines : ∀ line ∈ lines, ∀ g ∈ line, g.style.Known) (h : (ink s).InStep)
    (hframed : s.surface.framed = false) (hrow : 0 ≤ s.surface.row)
    (hlength : ∀ line ∈ lines, line.length ≤ s.surface.columns - 6) :
    ∃ t, lines.forM (drawStyledLine align) s = .ok () t ∧ (ink t).InStep ∧
      t.surface = { s.surface with row := s.surface.row + lines.length } ∧
      t.journal.marks = s.journal.marks ++ Glyph.pageMarks s.surface.rows s.surface.row
        (align.place s.surface.columns) lines := by
  rw [← clip_glyphRows hframed hrow hlength]
  exact drawStyledLines_clip align lines hlines h

theorem mark_of_mem_pageMarks {rows row width : Int} {align : Alignment}
    {lines : List (List (Glyph Char))} {m : Mark}
    (hlength : ∀ line ∈ lines, line.length ≤ width - 6)
    (hm : m ∈ Glyph.pageMarks rows row (align.place width) lines) :
    row ≤ m.row ∧ m.row < rows ∧ 3 ≤ m.column ∧ m.column < width - 3 := by
  obtain ⟨marks, hmarks, hm⟩ := List.mem_flatten.1 hm
  obtain ⟨k, hk, rfl⟩ := List.mem_mapIdx.1 hmarks
  have hline := hlength _ (List.getElem_mem hk)
  have hmargin := Alignment.margin_le_place hline align
  have hedge := Alignment.place_add_le hline align
  split_ifs at hm with hrow
  · obtain ⟨i, hi, rfl⟩ := List.mem_mapIdx.1 hm
    dsimp only
    omega
  · cases hm

/-- On an opened screen of at least seven columns, unframed text that does not slide in is drawn in
place: its lines are those of the text without markers, and each of their characters is drawn once,
on the row of its line and in the column after the one before it, in the style that the markers give
it. Every line takes a row, also one that is below the screen; all else stays as it was. -/
theorem text_drawn_in_place {begun s : Stage Screen} {h : Host} {typeDelay slideDelay : Delay}
    {font : Text} (hstart : begun.surface = start h typeDelay slideDelay font)
    (hpen : begun.journal.pen = {}) (hpatient : Patient begun.host.refuses)
    (hreached : Reached begun s) (hwidth : 7 ≤ s.surface.columns)
    (hframed : s.surface.framed = false) (align : Alignment)
    (hsliding : align = .left → s.surface.sliding = false) (t : Text) :
    let width := s.surface.columns - 6
    let glyphs := Glyph.ofText s.surface.style (some t)
    let lines := Layout.wrapGlyphs (· == ' ') width glyphs
    let drawn := Glyph.pageMarks s.surface.rows s.surface.row (align.place s.surface.columns) lines
    lines.map (·.map (·.symbol)) = Layout.wrapText width (stripMarkup t) ∧
      Layout.Cut (·.symbol == ' ') glyphs lines ∧
      (∀ g ∈ glyphs, ∃ color ∈ Color.all, g.style.color = some color.name ∧
        g.style.pen = ⟨g.style.bold, g.style.underline, g.style.reverse, color.pair⟩) ∧
      (∀ m ∈ drawn, 0 ≤ m.row ∧ m.row < s.surface.rows ∧
        3 ≤ m.column ∧ m.column < s.surface.columns - 3) ∧
      ∃ u, Surface.perform (align.op t) s = .ok () u ∧
        u.journal.marks = s.journal.marks ++ drawn ∧
        u.surface = { s.surface with
          row := s.surface.row + (Layout.wrapText width (stripMarkup t)).length } := by
  intro width glyphs lines drawn
  have hstep : (ink s).InStep := hreached.inStep (tracked_start hstart hpen hpatient)
  have hrow : topRow ≤ s.surface.row := by
    refine hreached.onPage ?_
    rw [hstart]
    exact Int.le_refl topRow
  have hrow0 : 0 ≤ s.surface.row := Int.le_trans (by decide) hrow
  have hsymbols : lines.map (·.map (·.symbol)) = Layout.wrapText width (stripMarkup t) := by
    rw [Layout.symbols_wrapGlyphs, Glyph.symbols_ofText]
  have hknown : ∀ g ∈ glyphs, g.style.Known := Glyph.known_ofText hstep.known (some t)
  have hlength : ∀ line ∈ lines, line.length ≤ s.surface.columns - 6 := by
    intro line hline
    have hle := Layout.length_le_of_mem_wrap _ hline
    simp only [Layout.clamp, width] at hle
    omega
  have htextWidth : s.surface.textWidth = width := by
    simp only [textWidth, hframed, indent, Bool.false_eq_true, if_false, width]
    omega
  obtain ⟨u, hrun, -, husurface, humarks⟩ := drawStyledLines_draw align lines
    (fun line hline g hg => hknown g (Layout.subset_of_mem_wrap hline hg)) hstep hframed hrow0
    hlength
  refine ⟨hsymbols, Layout.cut_wrap _ width glyphs, fun g hg => ?_, fun m hm => ?_, u, ?_, humarks,
    ?_⟩
  · obtain ⟨c, hc, hcolor⟩ := hknown g hg
    refine ⟨c, List.mem_of_find?_eq_some hc, hcolor, ?_⟩
    simp only [Style.pen, hcolor, Option.bind_some, hc, Option.map_some, Option.getD_some]
  · obtain ⟨hle, hrest⟩ := mark_of_mem_pageMarks hlength hm
    exact ⟨Int.le_trans hrow0 hle, hrest⟩
  · have hperform : Surface.perform (align.op t) s = drawText align (some t) s := by
      cases align <;> rfl
    rw [hperform]
    refine (Outcome.bind_ok (t := s) rfl).trans ?_
    -- Only text on the left slides in; elsewhere the setting does not matter.
    have hslides : ¬ (decide (align = .left) && s.surface.sliding) = true := by
      rw [Bool.and_eq_true, decide_eq_true_iff]
      rintro ⟨hleft, hslides⟩
      cases (hsliding hleft).symm.trans hslides
    rw [hframed, if_neg Bool.false_ne_true, if_neg hslides, htextWidth]
    exact hrun
  · rw [husurface, ← hsymbols, List.length_map]

/-- A centred line with a word in red, on a page that draws in bold. -/
theorem text_drawn_in_place_red_word :
    let begun : Stage Screen :=
      ⟨Host.quiet, {}, start Host.quiet (.whole 0) (.whole 0) "standard", none⟩
    let opened := Outcome.state (openTerminal begun)
    let bold := Outcome.state ((Operation.perform .boldOn).run opened)
    let t : Text := "one --c red two--/c three"
    let lines := Layout.wrapGlyphs (· == ' ') 74 (Glyph.ofText bold.surface.style (some t))
    Patient begun.host.refuses ∧ bold.surface.columns = 80 ∧ bold.surface.framed = false ∧
      ∃ u, perform (.center (some t)) bold = .ok () u ∧
        u.journal.marks = bold.journal.marks ++
          Glyph.pageMarks 24 5 (fun length => (80 - length) / 2) lines := by
  intro begun opened bold t lines
  have hpatient : Patient begun.host.refuses := nofun
  have hbold : Reached begun bold := .operated .opened (.perform .boldOn)
  have hcolumns : bold.surface.columns = 80 := rfl
  obtain ⟨-, -, -, -, u, hrun, hmarks, -⟩ := @text_drawn_in_place begun bold _ _ _ _ rfl rfl
    hpatient hbold (by rw [hcolumns]; decide) rfl .center nofun t
  exact ⟨hpatient, hcolumns, rfl, u, hrun, hmarks⟩

end Screen

end SlideDeck
