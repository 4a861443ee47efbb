import SlideDeck.Proofs.Screen.Clipping
import SlideDeck.Proofs.Screen.Row

/-!
# Text in a frame

Text that is printed while a frame is open is drawn as it stands: cut into lines, each on a row of
its own between the two borders, or without borders while text slides in. No marker in it is taken
for one, and the attributes stay as they are.
-/

namespace SlideDeck.Screen

open Act

variable {s : Stage Screen}

/-- What a line of a frame draws on its row. -/
def framedRow (b : Screen) (p : Pen) (row : Int) (line : Text) : List Mark :=
  if b.sliding then p.textMarks row 3 line
  else p.textMarks row 3 "| " ++ (p.textMarks row 5 line ++ p.textMarks row (b.columns - 5) " |")

/-- What lines of a frame draw one under the other. -/
def framedRows (b : Screen) (p : Pen) (row : Int) (lines : List Text) : List Mark :=
  (lines.mapIdx fun k line => b.framedRow p (row + k) line).flatten

theorem framedRows_cons (b : Screen) (p : Pen) (row : Int) (line : Text) (lines : List Text) :
    b.framedRows p row (line :: lines) =
      b.framedRow p row line ++ b.framedRows p (row + 1) lines :=
  Mark.flatten_cons (b.framedRow p) row line lines

theorem framedRows_append (b : Screen) (p : Pen) (row : Int) (lines more : List Text) :
    b.framedRows p row (lines ++ more) =
      b.framedRows p row lines ++ b.framedRows p (row + lines.length) more :=
  Mark.flatten_append (b.framedRow p) row lines more

/-! ### Marks of a frame -/

theorem mem_framedRow {b : Screen} {p : Pen} {row : Int} {line : Text} {m : Mark}
    (hline : line.length ≤ b.columns - 8) (hm : m ∈ b.framedRow p row line) :
    m.row = row ∧ 3 ≤ m.column ∧ m.column < b.columns - 3 := by
  have hleft : (("| " : Text).length : Int) = 2 := rfl
  have hright : ((" |" : Text).length : Int) = 2 := rfl
  unfold framedRow at hm
  split_ifs at hm
  · have hmark := Pen.mem_textMarks hm
    omega
  · rcases List.mem_append.1 hm with hm | hm
    · have hmark := Pen.mem_textMarks hm
      omega
    · rcases List.mem_append.1 hm with hm | hm
      · have hmark := Pen.mem_textMarks hm
        omega
      · have hmark := Pen.mem_textMarks hm
        omega

theorem length_le_of_mem_framed {b : Screen} (hframed : b.framed = true) (hwidth : 9 ≤ b.columns)
    {t line : Text} (hline : line ∈ Layout.wrapText b.textWidth t) :
    line.length ≤ b.columns - 8 := by
  have hle := Layout.length_le_of_mem_wrap _ hline
  simp only [Layout.clamp, textWidth, hframed, indent, if_true] at hle
  omega

/-- On a screen that has room for them, the rows of a frame are drawn from edge to edge. -/
theorem clip_framedRows {b : Screen} {row : Int} {lines : List Text} (p : Pen)
    (hrow : 0 ≤ row) (hrows : row + lines.length ≤ b.rows)
    (hlines : ∀ line ∈ lines, line.length ≤ b.columns - 8) :
    b.clip (b.framedRows p row lines) = b.framedRows p row lines := by
  refine clip_eq_self fun m hm => ?_
  obtain ⟨marks, hmarks, hm⟩ := List.mem_flatten.1 hm
  obtain ⟨k, hk, rfl⟩ := List.mem_mapIdx.1 hmarks
  have hmark := mem_framedRow (hlines _ (List.getElem_mem hk)) hm
  unfold Mark.Within
  omega

/-! ### Lines of a frame -/

/-- Shows a line from a column on: a line of shell output that starts with a prompt is typed, any
other is drawn at once. -/
def typeOrDraw (b : Screen) (x : Int) (line : Text) : Act Screen Unit :=
  if b.shellOutput && isTyped line then typeText x line else drawAt b.row x line

theorem typeOrDraw_clips {t : Stage Screen} {ms : List Mark} (htakes : s.host.TakesAnyText)
    (x : Int) (line : Text) (htyped : s.surface.shellOutput = true → TypesThrough s)
    (ht : Drawn s s.surface ms t) :
    Draws (typeOrDraw s.surface x line) t s.surface
      (s.surface.clip (s.journal.pen.textMarks s.surface.row x line)) := by
  have hline : t.host.Takes line := ht.host ▸ htakes.takes line
  rw [← ht.pen, ← ht.surface]
  unfold typeOrDraw
  split
  · rename_i h
    rw [ht.surface] at h
    have hthrough := htyped (Bool.and_eq_true_iff.1 h).1
    exact typeText_clips hline x (hthrough.of_eq ht.host (congrArg typeDelay ht.surface))
  · exact drawAt_clips hline _ _

theorem drawPlainLine_boxed (line : Text) (hframed : s.surface.framed = true)
    (hsliding : s.surface.sliding = false) :
    drawPlainLine .left true false line s = (do
      drawAt s.surface.row 3 "| "
      typeOrDraw s.surface 5 line
      drawAt s.surface.row (s.surface.columns - 5) " |"
      nextRow : Act Screen Unit) s := by
  have hedge : s.surface.columns - indent - 2 = s.surface.columns - 5 := by
    simp only [indent]
    omega
  refine (Outcome.bind_ok (t := s) rfl).trans ?_
  simp only [hframed, hsliding, Bool.true_and, hedge, typeOrDraw]
  cases s.surface.shellOutput && isTyped line <;> rfl

theorem drawPlainLine_unboxed (line : Text) (hframed : s.surface.framed = true)
    (hsliding : s.surface.sliding = true) :
    drawPlainLine .left true false line s = (do
      typeOrDraw s.surface 3 line
      nextRow : Act Screen Unit) s := by
  refine (Outcome.bind_ok (t := s) rfl).trans ?_
  simp only [hframed, hsliding, Bool.true_and, typeOrDraw]
  cases s.surface.shellOutput && isTyped line <;> rfl

theorem drawPlainLine_framed (htakes : s.host.TakesAnyText) (line : Text)
    (hframed : s.surface.framed = true) (htyped : s.surface.shellOutput = true → TypesThrough s) :
    Draws (drawPlainLine .left true false line) s { s.surface with row := s.surface.row + 1 }
      (s.surface.clip (s.surface.framedRow s.journal.pen s.surface.row line)) := by
  let b := s.surface
  let p := s.journal.pen
  have hnext {t : Stage Screen} {ms : List Mark} (ht : Drawn s b ms t) :
      Draws nextRow t { b with row := b.row + 1 } [] := by
    rw [← ht.surface]
    exact draws_modifySurface _
  rcases hsliding : s.surface.sliding with - | -
  · have hmarks : b.clip (b.framedRow p b.row line) = b.clip (p.textMarks b.row 3 "| ") ++
        (b.clip (p.textMarks b.row 5 line) ++
          (b.clip (p.textMarks b.row (b.columns - 5) " |") ++ [])) := by
      rw [framedRow, hsliding, if_neg Bool.false_ne_true, clip_append, clip_append,
        List.append_nil]
    rw [Draws, drawPlainLine_boxed line hframed hsliding, hmarks]
    refine (drawAt_clips (htakes.takes _) ..).bind fun t ht =>
      (typeOrDraw_clips htakes 5 line htyped ht).bind fun u hu => ?_
    have hu' := ht.trans hu
    have hright : u.host.Takes " |" := hu'.host ▸ htakes.takes _
    have hedge := drawAt_clips hright b.row (b.columns - 5)
    rw [hu'.surface, hu'.pen] at hedge
    exact hedge.bind fun v hv => hnext (hu'.trans hv)
  · have hmarks : b.clip (b.framedRow p b.row line) = b.clip (p.textMarks b.row 3 line) ++ [] := by
      rw [framedRow, hsliding, if_pos rfl, List.append_nil]
    rw [Draws, drawPlainLine_unboxed line hframed hsliding, hmarks]
    exact (typeOrDraw_clips htakes 3 line htyped .refl).bind fun t ht => hnext ht

theorem drawPlainLines_framed (htakes : s.host.TakesAnyText) (lines : List Text)
    (hframed : s.surface.framed = true) (htyped : s.surface.shellOutput = true → TypesThrough s) :
    Draws (lines.forM (drawPlainLine .left true false)) s
      { s.surface with row := s.surface.row + lines.length }
      (s.surface.clip (s.surface.framedRows s.journal.pen s.surface.row lines)) := by
  induction lines generalizing s with
  | nil =>
    rw [List.length_nil, Nat.cast_zero, Int.add_zero]
    exact draws_nothing
  | cons line lines ih =>
    rw [framedRows_cons, clip_append]
    refine (drawPlainLine_framed htakes line hframed htyped).bind fun t ht => ?_
    have htframed : t.surface.framed = true := by
      rw [ht.surface]
      exact hframed
    have httyped : t.surface.shellOutput = true → TypesThrough t := by
      rw [ht.surface]
      exact fun h => (htyped h).of_eq ht.host ((congrArg typeDelay ht.surface).trans rfl)
    have hrest := ih (ht.host ▸ htakes) htframed httyped
    have hrow : s.surface.row + (line :: lines).length = s.surface.row + 1 + lines.length := by
      rw [List.length_cons]
      push_cast
      omega
    rw [ht.surface, ht.pen] at hrest
    rw [hrow]
    exact hrest

/-- Text printed in a frame is drawn as it stands. -/
theorem printLine_framed (htakes : s.host.TakesAnyText) (t : Text)
    (hframed : s.surface.framed = true) (htyped : s.surface.shellOutput = true → TypesThrough s) :
    let lines := Layout.wrapText s.surface.textWidth t
    Draws (perform (.printLine (some t))) s { s.surface with row := s.surface.row + lines.length }
      (s.surface.clip (s.surface.framedRows s.journal.pen s.surface.row lines)) := by
  intro lines
  have hrun : perform (.printLine (some t)) s = lines.forM (drawPlainLine .left true false) s := by
    refine (Outcome.bind_ok (t := s) rfl).trans ?_
    rw [if_pos hframed]
    rfl
  rw [Draws, hrun]
  exact drawPlainLines_framed htakes lines hframed htyped

end SlideDeck.Screen
