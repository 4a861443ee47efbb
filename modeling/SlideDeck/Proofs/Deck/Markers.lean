import SlideDeck.Proofs.Pause
import SlideDeck.Surface.Recorder

/-!
# Markers that stand alone

No line begins with the markers of two directives, so that it is of no account in which order they
are tried (`order_unnoticed`): each marker decides for all its lines, and every line but a comment
and an included file asks a surface for one thing.
-/

namespace SlideDeck.Directive

variable {entries others : List (Text × Directive)} {e : Text × Directive} {line m rest : Text}
  {d : Directive}

/-! ### Tables without ambiguities -/

/-- All entries whose markers a line begins with are the same. -/
def Unambiguous (entries : List (Text × Directive)) : Prop :=
  ∀ e ∈ entries, ∀ e' ∈ entries, ∀ rest rest', e.1 ++ rest = e'.1 ++ rest' → e = e'

theorem find?_eq_none_iff :
    find? entries line = none ↔ ∀ e ∈ entries, line.startsWith e.1 = false := by
  simp [find?, List.findSome?_eq_none_iff, Text.startsWith, Option.isSome_eq_false_iff]

/-- In a table without ambiguities each entry is found by its own lines. -/
theorem Unambiguous.find?_eq_some_iff (h : Unambiguous entries) :
    find? entries line = some (m, d, rest) ↔ (m, d) ∈ entries ∧ line = m ++ rest := by
  refine ⟨find?_eq_some, ?_⟩
  rintro ⟨hmem, rfl⟩
  rcases hfind : find? entries (m ++ rest) with - | ⟨m', d', rest'⟩
  · have hbegins : (m ++ rest).startsWith m = true := Text.startsWith_iff.2 ⟨rest, rfl⟩
    rw [find?_eq_none_iff.1 hfind (m, d) hmem] at hbegins
    cases hbegins
  · obtain ⟨hmem', heq⟩ := find?_eq_some hfind
    cases h _ hmem _ hmem' rest rest' heq
    rw [List.append_cancel_left heq]

theorem Unambiguous.perm (h : Unambiguous others) (hperm : entries.Perm others) :
    Unambiguous entries :=
  fun e he e' he' => h e (hperm.mem_iff.1 he) e' (hperm.mem_iff.1 he')

/-- The order of a table without ambiguities is of no account. -/
theorem Unambiguous.find?_perm (h : Unambiguous others) (hperm : entries.Perm others)
    (line : Text) : find? entries line = find? others line := by
  ext ⟨m, d, rest⟩
  rw [(h.perm hperm).find?_eq_some_iff, h.find?_eq_some_iff, hperm.mem_iff]

/-! ### The table -/

/-- No entry is hidden by an earlier one with another directive. -/
theorem find?_table (he : e ∈ table) (rest : Text) :
    find? table (e.1 ++ rest) = some (e.1, e.2, rest) := by
  revert e
  simp only [table, List.forall_mem_cons]
  -- One entry after the other is looked up by its marker.
  repeat refine ⟨rfl, ?_⟩
  exact List.forall_mem_nil _

theorem table_unambiguous : Unambiguous table := by
  intro e he e' he' rest rest' heq
  have hfound := find?_table he rest
  rw [heq, find?_table he' rest'] at hfound
  obtain ⟨hmarker, hdirective, -⟩ : e'.1 = e.1 ∧ e'.2 = e.2 ∧ rest' = rest := by
    simpa using hfound
  exact (Prod.ext hmarker hdirective).symm

/-- A directive with a marker of its own is found only in lines that begin with it. -/
theorem eq_append_of_find? {own : Text} (hown : ∀ e ∈ table, e.2 = d → e.1 = own)
    (h : find? table line = some (m, d, rest)) : line = own ++ rest := by
  obtain ⟨hmem, rfl⟩ := find?_eq_some h
  rw [← hown (m, d) hmem rfl]

theorem isPause_eq_false (h : ∀ m rest, find? table line ≠ some (m, pause, rest)) :
    isPause line = false := by
  rw [Bool.eq_false_iff]
  intro hpause
  obtain ⟨rest, hfind⟩ := find?_pause hpause
  exact h _ rest hfind

/-! ### Lines -/

section Dispatch

variable {σ : Type} [Surface σ]

/-- Asks for one thing, and answers whether to pause. -/
def askOnce (op : Op) (answer : Bool) : Act σ Bool := do
  Surface.perform op
  return answer

theorem dispatchBy_of_find? (h : find? entries line = some (m, d, rest)) :
    (dispatchBy entries (some line) : Act σ Bool) = d.obey rest := by
  simp only [dispatchBy, h]

theorem dispatchBy_of_none (h : find? entries line = none) :
    (dispatchBy entries (some line) : Act σ Bool) = askOnce (.printLine (some line)) false := by
  simp only [dispatchBy, h]
  rfl

/-- Reads the clock, and asks a surface for the date. -/
def askDate (format : Text) (answer : Bool) : Act σ Bool := do
  let now ← Act.readClock
  askOnce (.date (some (Calendar.dateText now format))) answer

/-- A line asks for one thing, which hangs on the clock if it is the date, unless it is a comment or
includes a file, or is at fault. -/
theorem dispatch_asks_once (hcomment : line.startsWith "--##" = false)
    (hinclude : line.startsWith "--include-file " = false) :
    (∃ op, (dispatch (some line) : Act σ Bool) = askOnce op (isPause line)) ∨
      (∃ format, (dispatch (some line) : Act σ Bool) = askDate format (isPause line)) ∨
      ∃ rest n, line = ("--sleep " : Text) ++ rest ∧ Text.leadingSeconds rest = .error n ∧
        ∀ s : Stage σ, dispatch (some line) s = .error (.numeral n) s := by
  rcases hfind : find? table line with - | ⟨m, d, rest⟩
  · refine .inl ⟨.printLine (some line), ?_⟩
    rw [dispatch, dispatchBy_of_none hfind, isPause_eq_false (by simp [hfind])]
  have hobey : (dispatch (some line) : Act σ Bool) = d.obey rest := dispatchBy_of_find? hfind
  rw [hobey]
  cases d with
  | comment =>
    have hline : line = ("--##" : Text) ++ rest := eq_append_of_find? (by simp [table]) hfind
    rw [Text.startsWith_iff.2 ⟨rest, hline⟩] at hcomment
    cases hcomment
  | includeFile =>
    have hline : line = ("--include-file " : Text) ++ rest :=
      eq_append_of_find? (by simp [table]) hfind
    rw [Text.startsWith_iff.2 ⟨rest, hline⟩] at hinclude
    cases hinclude
  | pause =>
    refine .inl ⟨.wait, ?_⟩
    rw [isPause_of_find? hfind]
    rfl
  | ask op =>
    refine .inl ⟨op rest, ?_⟩
    rw [isPause_eq_false (by simp [hfind])]
    rfl
  | date =>
    refine .inr (.inl ⟨rest, ?_⟩)
    rw [isPause_eq_false (by simp [hfind])]
    rfl
  | sleep =>
    have hline : line = ("--sleep " : Text) ++ rest := eq_append_of_find? (by simp [table]) hfind
    rcases hseconds : Text.leadingSeconds rest with n | n
    · refine .inr (.inr ⟨rest, n, hline, hseconds, fun s => ?_⟩)
      simp only [obey, hseconds]
      rfl
    · refine .inl ⟨.sleep (.whole n), ?_⟩
      rw [isPause_eq_false (by simp [hfind])]
      simp only [obey, hseconds]
      rfl

/-- The directives can be tried in any order. A line that begins with a marker is told by that
marker, and does what its directive says; one that begins with none is printed as it is. The answer
is to pause just for a line that begins with three hyphens, and such a line asks to wait and for
nothing else. Every line but a comment and an included file asks for one thing, after a look at the
clock if that is the date, unless its seconds cannot be read. -/
theorem order_unnoticed (hperm : entries.Perm table) (line : Text) :
    (dispatchBy entries (some line) : Act σ Bool) = dispatch (some line) ∧
      classifyBy entries line = classify line ∧
      (∀ marker d rest, (marker, d) ∈ table → line = marker ++ rest →
        classify line = some marker ∧ (dispatch (some line) : Act σ Bool) = d.obey rest) ∧
      ((∀ entry ∈ table, line.startsWith entry.1 = false) →
        classify line = none ∧
          (dispatch (some line) : Act σ Bool) = askOnce (.printLine (some line)) false) ∧
      (∀ (s t : Stage σ) answer, dispatch (some line) s = .ok answer t →
        answer = line.startsWith "---") ∧
      (line.startsWith "---" = true →
        (dispatch (some line) : Act σ Bool) = askOnce .wait true) ∧
      (line.startsWith "--##" = false → line.startsWith "--include-file " = false →
        (∃ op, (dispatch (some line) : Act σ Bool) = askOnce op (line.startsWith "---")) ∨
          (∃ format, (dispatch (some line) : Act σ Bool) =
            askDate format (line.startsWith "---")) ∨
          ∃ rest n, line = ("--sleep " : Text) ++ rest ∧ Text.leadingSeconds rest = .error n ∧
            ∀ s : Stage σ, dispatch (some line) s = .error (.numeral n) s) := by
  have hsame : find? entries line = find? table line := table_unambiguous.find?_perm hperm line
  refine ⟨?_, ?_, ?_, fun hnone => ?_, ?_, fun hpause => ?_, dispatch_asks_once⟩
  · simp only [dispatch, dispatchBy, hsame]
  · simp only [classify, classifyBy, hsame]
  · rintro marker d rest hmem rfl
    have hfind := find?_table hmem rest
    exact ⟨by rw [classify, classifyBy, hfind]; rfl, dispatchBy_of_find? hfind⟩
  · have hfind := find?_eq_none_iff.2 hnone
    exact ⟨by rw [classify, classifyBy, hfind]; rfl, dispatchBy_of_none hfind⟩
  · exact fun s t answer h => dispatch_answer h
  · obtain ⟨rest, hfind⟩ := find?_pause hpause
    exact dispatchBy_of_find? hfind

/-- A colour that is asked for, of which the table has two entries, and a pause with a hyphen too
many, with the table read from its end. -/
theorem order_unnoticed_reversed :
    table.reverse.Perm table ∧ Text.startsWith "----" "---" = true ∧
      classifyBy table.reverse "--color red" = some "--color " ∧
      ∀ s : Stage Recorder,
        dispatchBy table.reverse (some "--color red") s =
            .ok false { s with journal := { s.journal with
              events := s.journal.events.push (.asked (.color (some "red"))) } } ∧
          dispatchBy table.reverse (some "----") s =
            .ok true { s with journal := { s.journal with
              events := s.journal.events.push (.asked .wait) } } := by
  have hperm : table.reverse.Perm table := List.reverse_perm table
  have hcolor : (("--color " : Text), ask fun rest => .color (some (Text.strip rest))) ∈ table := by
    simp [table]
  have hpause : Text.startsWith "----" "---" = true := by decide
  obtain ⟨hred, hclassify, hmarker, -⟩ :=
    order_unnoticed (σ := Recorder) hperm "--color red"
  obtain ⟨hmarker, hobey⟩ := hmarker _ _ "red" hcolor rfl
  obtain ⟨hpaused, -, -, -, -, hwait, -⟩ := order_unnoticed (σ := Recorder) hperm "----"
  refine ⟨hperm, hpause, hclassify.trans hmarker, fun s => ⟨?_, ?_⟩⟩
  · rw [hred, hobey]
    rfl
  · rw [hpaused, hwait hpause]
    rfl

end Dispatch

end SlideDeck.Directive
