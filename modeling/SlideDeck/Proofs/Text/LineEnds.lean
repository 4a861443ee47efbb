import Mathlib
import SlideDeck.Text.Lines

/-!
# Lines and their ends

A source is its lines with an end after each: a newline, with or without a carriage return before
it, and after the last line perhaps less than that. The lines can be told from the source, whatever
their ends are, and the source is its lines with some ends (`lines_and_ends`).
-/

namespace SlideDeck.Text

/-- What stands after a line: a return, a newline, both or neither. -/
structure LineEnd where
  hasReturn : Bool
  hasNewline : Bool
deriving DecidableEq, Repr

namespace LineEnd

def text (e : LineEnd) : Text :=
  (if e.hasReturn then ['\r'] else []) ++ if e.hasNewline then ['\n'] else []

end LineEnd

/-- A text that can be a line with any end after it. -/
def IsLine (t : Text) : Prop := '\n' ∉ t ∧ t.getLast? ≠ some '\r'

instance (t : Text) : Decidable (IsLine t) := inferInstanceAs (Decidable (_ ∧ _))

/-- Lines one after the other, each with its end. -/
def written (lines : List (Text × LineEnd)) : Text := lines.flatMap fun l => l.1 ++ l.2.text

theorem written_cons (line : Text) (e : LineEnd) (lines : List (Text × LineEnd)) :
    written ((line, e) :: lines) = line ++ e.text ++ written lines := rfl

/-! ### One line -/

theorem dropReturn_of_getLast?_ne {line : Text} (h : line.getLast? ≠ some '\r') :
    dropReturn line = line := by
  fun_induction dropReturn line with
  | case1 => rfl
  | case2 => exact absurd rfl h
  | case3 => rfl
  | case4 c d t ih => rw [ih (by rwa [List.getLast?_cons_cons] at h)]

theorem dropReturn_append_return (line : Text) : dropReturn (line ++ ['\r']) = line := by
  induction line with
  | nil => rfl
  | cons c line ih =>
    cases line with
    | nil => rfl
    | cons d line => exact congrArg (c :: ·) ih

theorem exists_return (line : Text) :
    ∃ on : Bool, dropReturn line ++ (if on then ['\r'] else []) = line := by
  by_cases h : line.getLast? = some '\r'
  · obtain ⟨init, rfl⟩ := List.getLast?_eq_some_iff.1 h
    exact ⟨true, by rw [dropReturn_append_return]; rfl⟩
  · exact ⟨false, (List.append_nil _).trans (dropReturn_of_getLast?_ne h)⟩

theorem newlineLines_append_newline {line : Text} (h : '\n' ∉ line) (t : Text) :
    newlineLines (line ++ '\n' :: t) = line :: newlineLines t := by
  induction line with
  | nil => rfl
  | cons c line ih =>
    obtain ⟨hc, hline⟩ := not_or.1 (List.mem_cons.not.1 h)
    rw [List.cons_append, newlineLines, if_neg (Ne.symm hc), ih hline]
    rfl

theorem newlineLines_of_not_mem {line : Text} (h : '\n' ∉ line) (hne : line ≠ []) :
    newlineLines line = [line] := by
  induction line with
  | nil => exact absurd rfl hne
  | cons c line ih =>
    obtain ⟨hc, hline⟩ := not_or.1 (List.mem_cons.not.1 h)
    rw [newlineLines, if_neg (Ne.symm hc)]
    by_cases hend : line = []
    · rw [hend]
      rfl
    · rw [ih hline hend]
      rfl

theorem not_mem_append_return {line : Text} (h : '\n' ∉ line) (on : Bool) :
    '\n' ∉ line ++ if on then ['\r'] else [] := by
  cases on <;> simpa using h

theorem dropReturn_append_ite {line : Text} (h : line.getLast? ≠ some '\r') (on : Bool) :
    dropReturn (line ++ if on then ['\r'] else []) = line := by
  cases on with
  | true => exact dropReturn_append_return line
  | false => exact (congrArg dropReturn (List.append_nil line)).trans (dropReturn_of_getLast?_ne h)

/-- A line is read up to its newline, and a return before that is left out. -/
theorem sourceLines_append {line : Text} (hline : IsLine line) {e : LineEnd}
    (he : e.hasNewline = true) (t : Text) :
    sourceLines (line ++ e.text ++ t) = line :: sourceLines t := by
  have hsplit : line ++ e.text ++ t =
      (line ++ if e.hasReturn then ['\r'] else []) ++ '\n' :: t := by
    simp [LineEnd.text, he]
  unfold sourceLines
  rw [hsplit, newlineLines_append_newline (not_mem_append_return hline.1 _), List.map_cons,
    dropReturn_append_ite hline.2]

/-! ### All lines -/

/-- Lines that end in newlines are read before what follows them. -/
theorem sourceLines_written_append {lines : List (Text × LineEnd)}
    (h : ∀ l ∈ lines, IsLine l.1 ∧ l.2.hasNewline = true) (t : Text) :
    sourceLines (written lines ++ t) = lines.map (·.1) ++ sourceLines t := by
  induction lines with
  | nil => rfl
  | cons l lines ih =>
    obtain ⟨⟨line, e⟩, hrest⟩ := l, fun l hl => h l (List.mem_cons_of_mem _ hl)
    obtain ⟨hline, he⟩ := h _ List.mem_cons_self
    rw [written_cons, List.append_assoc, sourceLines_append hline he, ih hrest]
    rfl

theorem sourceLines_of_isLine {line : Text} (h : IsLine line) (hne : line ≠ []) :
    sourceLines line = [line] := by
  unfold sourceLines
  rw [newlineLines_of_not_mem h.1 hne, List.map_singleton, dropReturn_of_getLast?_ne h.2]

theorem mem_of_mem_dropReturn {c : Char} {line : Text} (h : c ∈ dropReturn line) : c ∈ line := by
  obtain ⟨on, heq⟩ := exists_return line
  rw [← heq]
  exact List.mem_append_left _ h

theorem newline_not_mem_sourceLines {t line : Text} (h : line ∈ sourceLines t) : '\n' ∉ line := by
  obtain ⟨raw, hraw, rfl⟩ := List.mem_map.1 h
  exact fun hmem => newline_not_mem hraw (mem_of_mem_dropReturn hmem)

/-- Every text is the lines that are read from it, each with some end, and only the last end can
lack its newline. -/
theorem exists_written (t : Text) :
    ∃ lines : List (Text × LineEnd), lines.map (·.1) = sourceLines t ∧ written lines = t ∧
      ∀ l ∈ lines.dropLast, l.2.hasNewline = true := by
  -- A text is a line up to its first newline and a shorter rest, or it has no newline.
  induction hlength : t.length using Nat.strong_induction_on generalizing t with
  | _ n ih =>
    subst hlength
    by_cases hnewline : '\n' ∈ t
    · obtain ⟨raw, rest, rfl, hraw⟩ := List.eq_append_cons_of_mem hnewline
      obtain ⟨on, hreturn⟩ := exists_return raw
      obtain ⟨lines, hlines, hwritten, hends⟩ := ih rest.length (by simp; omega) rest rfl
      refine ⟨(dropReturn raw, ⟨on, true⟩) :: lines, ?_, ?_, ?_⟩
      · unfold sourceLines at hlines ⊢
        rw [newlineLines_append_newline hraw, List.map_cons, List.map_cons, hlines]
      · rw [written_cons, hwritten]
        conv_rhs => rw [← hreturn]
        simp [LineEnd.text]
      · intro l hl
        rcases lines with - | ⟨next, later⟩
        · cases hl
        · rcases List.mem_cons.1 hl with rfl | hl
          · rfl
          · exact hends l hl
    · by_cases hne : t = []
      · subst hne
        exact ⟨[], rfl, rfl, nofun⟩
      · obtain ⟨on, hreturn⟩ := exists_return t
        refine ⟨[(dropReturn t, ⟨on, false⟩)], ?_, ?_, nofun⟩
        · unfold sourceLines
          rw [newlineLines_of_not_mem hnewline hne]
          rfl
        · conv_rhs => rw [← hreturn]
          simp [written, LineEnd.text]

/-- Lines are read back whatever ends they have, also where the last one has no end but is not
empty; and every text is the lines that are read from it, with some ends, of which only the last can
lack its newline. -/
theorem lines_and_ends :
    (∀ lines : List (Text × LineEnd), (∀ l ∈ lines, IsLine l.1 ∧ l.2.hasNewline = true) →
      sourceLines (written lines) = lines.map (·.1) ∧
        ∀ last, IsLine last → last ≠ [] →
          sourceLines (written lines ++ last) = lines.map (·.1) ++ [last]) ∧
      ∀ t, (∀ line ∈ sourceLines t, '\n' ∉ line) ∧
        ∃ lines : List (Text × LineEnd), lines.map (·.1) = sourceLines t ∧ written lines = t ∧
          ∀ l ∈ lines.dropLast, l.2.hasNewline = true := by
  refine ⟨fun lines h => ⟨?_, fun last hlast hne => ?_⟩, fun t => ⟨fun line hline => ?_, ?_⟩⟩
  · have hread := sourceLines_written_append h []
    rwa [List.append_nil, sourceLines_nil, List.append_nil] at hread
  · rw [sourceLines_written_append h, sourceLines_of_isLine hlast hne]
  · exact newline_not_mem_sourceLines hline
  · exact exists_written t

/-- A line with a return in it, an empty line, and a last line without an end. -/
theorem lines_and_ends_mixed :
    let lines : List (Text × LineEnd) := [("a\rb", ⟨false, true⟩), ([], ⟨true, true⟩)]
    (∀ l ∈ lines, IsLine l.1 ∧ l.2.hasNewline = true) ∧ IsLine "c" ∧
      sourceLines "a\rb\n\r\n" = [("a\rb" : Text), []] ∧
      sourceLines "a\rb\n\r\nc" = [("a\rb" : Text), [], "c"] := by
  intro lines
  have hlines : ∀ l ∈ lines, IsLine l.1 ∧ l.2.hasNewline = true := by decide
  have hlast : IsLine "c" := by decide
  obtain ⟨hread, hshort⟩ := lines_and_ends.1 lines hlines
  exact ⟨hlines, hlast, hread, hshort "c" hlast (List.cons_ne_nil _ _)⟩

end SlideDeck.Text
