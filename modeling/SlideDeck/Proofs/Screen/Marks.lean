import SlideDeck.Proofs.Screen.Keeps

/-!
# Marks on a screen

A mark is one character drawn at one place, with the attributes that the terminal has on at that
time. The marks of a journal are in the order of drawing, so to say which marks an action adds is to
say all that it draws.
-/

namespace SlideDeck

structure Mark where
  row : Int
  column : Int
  symbol : Char
  pen : Pen
deriving DecidableEq

def Pen.marks (p : Pen) : Event → List Mark
  | .terminal (.drawText y x t) => t.mapIdx fun i c => ⟨y, x + i, c, p⟩
  | _ => []

def Pen.marksAll (p : Pen) : List Event → List Mark
  | [] => []
  | e :: es => p.marks e ++ (p.after e).marksAll es

theorem Pen.marksAll_append (p : Pen) (es fs : List Event) :
    p.marksAll (es ++ fs) = p.marksAll es ++ (es.foldl Pen.after p).marksAll fs := by
  induction es generalizing p with
  | nil => rfl
  | cons e es ih => simp only [List.cons_append, marksAll, ih, List.append_assoc, List.foldl_cons]

/-- All that was drawn on a terminal that starts with all attributes off. -/
def Journal.marks (j : Journal) : List Mark := ({} : Pen).marksAll j.events.toList

theorem Journal.marks_push (j : Journal) (e : Event) :
    ({ j with events := j.events.push e } : Journal).marks = j.marks ++ j.pen.marks e := by
  unfold marks pen
  rw [Array.toList_push, Pen.marksAll_append]
  simp only [Pen.marksAll, List.append_nil]

/-- The attributes that draw in a style; a style without a known colour is drawn in the terminal's
own. -/
def Style.pen (s : Style) : Pen :=
  ⟨s.bold, s.underline, s.reverse, ((s.color.bind Color.named?).map (·.pair)).getD 0⟩

/-- Glyphs side by side on a row, each in its style. -/
def Glyph.marks (row x : Int) (gs : List (Glyph Char)) : List Mark :=
  gs.mapIdx fun i g => ⟨row, x + i, g.symbol, g.style.pen⟩

theorem Glyph.marks_append (row x : Int) (gs hs : List (Glyph Char)) :
    marks row x (gs ++ hs) = marks row x gs ++ marks row (x + gs.length) hs := by
  unfold marks
  rw [List.mapIdx_append]
  congr 2
  funext i g
  rw [Nat.cast_add, Int.add_assoc, Int.add_comm (gs.length : Int)]

theorem Glyph.marks_segment (row x : Int) (seg : Layout.Segment Char) :
    marks row x seg.glyphs = seg.symbols.mapIdx fun i c => ⟨row, x + i, c, seg.style.pen⟩ := by
  unfold marks Layout.Segment.glyphs
  rw [List.mapIdx_eq_zipIdx_map, List.mapIdx_eq_zipIdx_map, List.zipIdx_map, List.map_map]
  rfl

/-- Lines of glyphs one under the other; `column` gives the place of a line by its length. What
would be below the last row is left out. -/
def Glyph.pageMarks (rows row : Int) (column : Nat → Int) (lines : List (List (Glyph Char))) :
    List Mark :=
  (lines.mapIdx fun k line =>
    if row + k < rows then marks (row + k) (column line.length) line else []).flatten

/-- Below the marks of some lines stand those of the lines after them. -/
theorem Mark.flatten_append {α : Type} (f : Int → α → List Mark) (row : Int) (ls ms : List α) :
    ((ls ++ ms).mapIdx fun k l => f (row + k) l).flatten =
      (ls.mapIdx fun k l => f (row + k) l).flatten ++
        (ms.mapIdx fun k l => f (row + ls.length + k) l).flatten := by
  rw [List.mapIdx_append, List.flatten_append]
  congr 3
  funext k l
  rw [Nat.cast_add, Int.add_comm (k : Int), ← Int.add_assoc]

theorem Mark.flatten_cons {α : Type} (f : Int → α → List Mark) (row : Int) (l : α) (ls : List α) :
    ((l :: ls).mapIdx fun k l => f (row + k) l).flatten =
      f row l ++ (ls.mapIdx fun k l => f (row + 1 + k) l).flatten := by
  refine (flatten_append f row [l] ls).trans ?_
  simp

theorem Glyph.pageMarks_cons (rows row : Int) (column : Nat → Int) (line : List (Glyph Char))
    (lines : List (List (Glyph Char))) :
    pageMarks rows row column (line :: lines) =
      (if row < rows then marks row (column line.length) line else []) ++
        pageMarks rows (row + 1) column lines :=
  Mark.flatten_cons (fun y (l : List (Glyph Char)) =>
    if y < rows then marks y (column l.length) l else []) row line lines

namespace Screen

open Act

variable {s : Stage Screen}

/-- What the screen believes holds, and it believes that a style is on: so that style is on. -/
theorem pen_of_tracked {style : Style} (hstyle : style.Known) (h : (ink s).Tracked)
    (hactive : (ink s).active = style) : s.journal.pen = style.pen := by
  obtain ⟨c, hc, hcolor⟩ := hstyle
  let p := s.journal.pen
  have hpair : p.pair = c.pair := h.pair c hc (by rw [hactive, hcolor])
  have hflags (f : Flag) : p.flag f = style.flag f := by
    rw [← hactive]
    exact h.flags f
  calc p = ⟨p.flag .bold, p.flag .underline, p.flag .reverse, p.pair⟩ := rfl
    _ = ⟨style.bold, style.underline, style.reverse, c.pair⟩ := by
      rw [hflags, hflags, hflags, hpair]
      rfl
    _ = style.pen := by
      simp only [Style.pen, hcolor, Option.bind_some, hc, Option.map_some, Option.getD_some]

/-- Taking on a style draws nothing, and the surface remembers it. -/
theorem applyStyle_draws {style : Style} (hstyle : style.Known) (h : (ink s).Tracked) :
    ∃ t, applyStyle style s = .ok () t ∧ (ink t).Tracked ∧
      t.surface = { s.surface with active := style } ∧ t.journal.marks = s.journal.marks := by
  obtain ⟨t, happly, ht, hactive, -⟩ := applyStyle_ok hstyle h
  have hquiet {u : Stage Screen} {c : TerminalCall} (hc : ∀ p : Pen, p.marks (.terminal c) = [])
      (hu : u.journal.marks = s.journal.marks) :
      (noted u (.terminal c)).journal.marks = s.journal.marks := by
    rw [noted, Journal.marks_push, hc, List.append_nil, hu]
  have hmarks : Keeps (fun u => u.journal.marks = s.journal.marks) (applyStyle style) :=
    applyStyle_keeps style
      (fun u a hu => ⟨hquiet (fun _ => rfl) hu, hquiet (fun _ => rfl) hu⟩) fun u a hu => hu
  have hsurface : Keeps (OfSurface fun b => b = { s.surface with active := b.active })
      (applyStyle style) :=
    applyStyle_keeps style (fun u a hu => ⟨hu, hu⟩) fun u a hu => by
      show _ = _
      rw [hu]
  have htmarks := hmarks s rfl
  have htsurface := hsurface s rfl
  rw [happly] at htmarks htsurface
  refine ⟨t, happly, ht, ?_, htmarks⟩
  rw [← hactive]
  exact htsurface

end Screen

end SlideDeck
