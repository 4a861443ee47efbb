import SlideDeck.Proofs.Export.FramedText
import SlideDeck.Proofs.Screen.InPlace

/-!
# Widths of handout lines

Text is cut at the width of a handout, moved to its place, and only then put behind the bar of a
frame. So a line in a frame may be two characters too long: it has room for the bar just if it is so
much shorter than the width, and never if it is flush right (`printed_lines_fit_iff`).
-/

namespace SlideDeck

open Surface Export

namespace Handout

/-- The blanks before a line. -/
def lead : Alignment → (width length : Int) → Int
  | .left => flushLeft
  | .center => centered
  | .right => flushRight

/-- The length up to which a line has room behind a bar; flush right there is no room for any. -/
def barRoom (width : Int) : Alignment → Int
  | .left => width - 2
  | .center => width - 3
  | .right => -1

variable {base : Files} {place : Place} {s : Stage Handout} {width : Int} {align : Alignment}
  {line : Text}

/-! ### The length of a line -/

/-- A line that is not too long stays inside the width at its place, and has room for a bar there if
it is short enough. -/
theorem lead_fits (align : Alignment) {length : Nat} (hlength : length ≤ width) :
    0 ≤ lead align width length ∧ lead align width length + length ≤ width ∧
      (lead align width length + length + 2 ≤ width ↔ length ≤ barRoom width align) := by
  cases align with
  | left =>
    simp only [lead, flushLeft, barRoom]
    omega
  | center =>
    simp only [lead, centered, barRoom]
    omega
  | right =>
    simp only [lead, flushRight, barRoom]
    omega

theorem length_placed (align : Alignment) (hline : line.length ≤ width) :
    (placed (lead align) width line).length = lead align width line.length + line.length := by
  have hblanks : (Text.rule (lead align width line.length) ' ').length =
      (lead align width line.length).toNat := List.length_replicate
  have hlead := (lead_fits align hline).1
  rw [placed, List.length_append, hblanks]
  omega

theorem length_barred (framed : Bool) (line : Text) :
    (barred framed line).length = line.length + if framed then 2 else 0 := by
  cases framed with
  | false => rfl
  | true =>
    rw [barred, if_pos rfl, List.length_append, if_pos rfl]
    exact Nat.add_comm 2 line.length

theorem length_barred_le_iff (align : Alignment) (framed : Bool) (hline : line.length ≤ width) :
    (barred framed (placed (lead align) width line)).length ≤ width ↔
      framed = false ∨ line.length ≤ barRoom width align := by
  obtain ⟨-, hle, hbar⟩ := lead_fits align hline
  rw [length_barred, Nat.cast_add, length_placed align hline]
  cases framed with
  | false => simpa using hle
  | true => simpa using hbar

/-! ### Lines that are written -/

theorem lead_le_memoryLimit (hmemory : align = .left ∨ width ≤ Act.memoryLimit)
    (hline : line.length ≤ width) : lead align width line.length ≤ Act.memoryLimit := by
  rcases hmemory with rfl | hmemory
  · show (0 : Int) ≤ Act.memoryLimit
    decide
  · have hle := (lead_fits align hline).2.1
    omega

theorem perform_aligned (align : Alignment) (t : Text) :
    Surface.perform (align.op t) s = emitText (lead align) (some t) s := by
  cases align with
  | left => rfl
  | center => rfl
  | right => rfl

/-- Text is printed in a handout after any operations. Each of its lines is at most as long as the
width, with its bar at most two characters longer, and with its bar no longer than the width just if
no frame is open or it has room for the bar. -/
theorem printed_lines_fit_iff {opened exported : Stage Handout} {ops : List Op}
    (hopen : openOutput s = .ok () opened) (hexported : exported = performed opened ops)
    (hwidth : 3 ≤ exported.surface.width)
    (hmemory : align = .left ∨ exported.surface.width ≤ Act.memoryLimit) (t : Text) :
    let b := exported.surface
    let lines := Layout.wrapText b.width (stripMarkup t)
    let written := lines.map fun line => barred b.framed (placed (lead align) b.width line)
    (∃ u, Surface.perform (align.op t) exported = .ok () u ∧
      u.surface = { b with out := u.surface.out } ∧
      u.surface.out.written.toList = b.out.written.toList ++ written) ∧
    (∀ line ∈ written, line.length ≤ b.width + if b.framed then 2 else 0) ∧
    ((∀ line ∈ written, line.length ≤ b.width) ↔
      b.framed = false ∨ ∀ line ∈ lines, line.length ≤ barRoom b.width align) := by
  intro b lines written
  obtain ⟨place, hopened, -⟩ := openOutput_eq_ok hopen
  have hwrites := performed_writesTo hopened ops
  rw [← hexported] at hwrites
  have hlength : ∀ line ∈ lines, line.length ≤ b.width := by
    intro line hline
    have hle := Layout.length_le_of_mem_wrap _ hline
    have hwide : 3 ≤ b.width := hwidth
    unfold Layout.clamp at hle
    omega
  refine ⟨?_, fun line hline => ?_, ?_⟩
  · obtain ⟨u, hrun, -, hu⟩ := emitLines_ok (lead align) b.width lines
      (fun line hline => lead_le_memoryLimit hmemory (hlength line hline)) hwrites
    refine ⟨u, (perform_aligned align t).trans ?_, hu⟩
    exact (Outcome.bind_ok (t := exported) rfl).trans hrun
  · obtain ⟨text, htext, rfl⟩ := List.mem_map.1 hline
    have hle := (lead_fits align (hlength text htext)).2.1
    rw [length_barred, Nat.cast_add, length_placed align (hlength text htext)]
    split_ifs
    · exact Int.add_le_add_right hle 2
    · exact Int.add_le_add_right hle 0
  · rw [List.forall_mem_map]
    refine (forall₂_congr fun line hline =>
      length_barred_le_iff align b.framed (hlength line hline)).trans ?_
    cases b.framed with
    | false => simp
    | true => simp

/-- A handout of five columns, before its output is opened. -/
def narrowHandout : Stage Handout :=
  ⟨Host.quiet, {}, { out := { path := "talk.txt" }, width := 5 }, none⟩

/-- In a frame of five columns there is room for three characters. -/
theorem printed_lines_fit_iff_three :
    let opened := Outcome.state (openOutput narrowHandout)
    let framed := performed opened [.beginOutput]
    openOutput narrowHandout = .ok () opened ∧ 3 ≤ framed.surface.width ∧
      ∃ u, Surface.perform (.printLine (some "abc")) framed = .ok () u ∧
        u.surface.out.written.toList =
          ([".---------------------------", "| abc"] : List Text) := by
  intro opened framed
  have hwidth : 3 ≤ framed.surface.width := by
    show (3 : Int) ≤ 5
    decide
  obtain ⟨⟨u, hprint, -, hwritten⟩, -⟩ := @printed_lines_fit_iff narrowHandout .left opened framed
    [.beginOutput] rfl rfl hwidth (.inl rfl) "abc"
  have hlines : Layout.wrapText 5 (stripMarkup "abc") = (["abc"] : List Text) := by decide +kernel
  refine ⟨rfl, hwidth, u, hprint, hwritten.trans ?_⟩
  exact congrArg (fun lines => _ ++ lines.map fun line => barred true (placed (lead .left) 5 line))
    hlines

/-- In a frame of five columns, a line of five characters takes seven. -/
theorem printed_line_too_wide :
    let opened := Outcome.state (openOutput narrowHandout)
    let framed := performed opened [.beginOutput]
    framed.surface.width = 5 ∧
      ∃ u, Surface.perform (.printLine (some "abcde")) framed = .ok () u ∧
        u.surface.out.written.toList =
          ([".---------------------------", "| abcde"] : List Text) := by
  intro opened framed
  obtain ⟨place, hopened, -⟩ := openOutput_eq_ok (s := narrowHandout) (t := opened) rfl
  obtain ⟨u, hprint, -, -, hwritten⟩ :=
    printLine_ok "abcde" (performed_writesTo hopened [.beginOutput])
  have hlines : Layout.wrapText 5 (stripMarkup "abcde") = (["abcde"] : List Text) := by
    decide +kernel
  refine ⟨rfl, u, hprint, hwritten.trans ?_⟩
  exact congrArg (fun lines => _ ++ lines.map (barred true)) hlines

end Handout

end SlideDeck
