import SlideDeck.Markup.Glyph

/-!
Word wrapping. One rule cuts plain text and styled text alike: a line ends at the last blank inside
the window, that blank is dropped, and without one the line has exactly the width of the window.
The rule is written once, over any kind of item, as `cutLine`; no line is longer than the width
(`length_le_of_mem_wrap`).
-/

namespace SlideDeck.Layout

/-- Cuts one line from the front of items, for a width of at least one: the line and what remains.
Items that are fewer than the width stay together. Otherwise the line ends before the last blank
among the first `width` items, the very first one not counted, or else after `width` items. -/
def cutLine {α : Type} (blank : α → Bool) (width : Nat) (items : List α) : List α × List α :=
  if (items.drop (width - 1)).isEmpty then (items, [])
  else
    match ((items.take width).tail.reverse.dropWhile (!blank ·)).length with
    | 0 => (items.take width, items.drop width)
    | n + 1 => (items.take (n + 1), items.drop (n + 2))

theorem cutLine_length {α : Type} (blank : α → Bool) {width : Nat} (hw : 0 < width) {items : List α}
    (h : items ≠ []) : (cutLine blank width items).2.length < items.length := by
  have hpos := List.length_pos_iff.2 h
  simp only [cutLine]
  split
  · simpa using hpos
  · split <;> simp only [List.length_drop] <;> omega

theorem length_cutLine_le {α : Type} (blank : α → Bool) {width : Nat} (hw : 0 < width)
    (items : List α) : (cutLine blank width items).1.length ≤ width := by
  simp only [cutLine]
  split
  · rename_i h
    have hd := congrArg List.length (List.isEmpty_iff.1 h)
    simp only [List.length_drop, List.length_nil] at hd
    show items.length ≤ width
    omega
  · have htail : ((items.take width).tail.reverse.dropWhile (!blank ·)).length ≤ width - 1 := by
      refine Nat.le_trans (List.dropWhile_suffix _).length_le ?_
      simp only [List.length_reverse, List.length_tail, List.length_take]
      omega
    split
    · exact List.length_take_le _ _
    · rename_i n hn
      refine Nat.le_trans (List.length_take_le _ _) ?_
      omega

def lines {α : Type} (blank : α → Bool) (width : Nat) (hw : 0 < width) (items : List α) :
    List (List α) :=
  if h : items = [] then []
  else
    have := cutLine_length blank hw h
    let cut := cutLine blank width items
    cut.1 :: lines blank width hw cut.2
termination_by items.length

theorem length_le_of_mem_lines {α : Type} (blank : α → Bool) {width : Nat} (hw : 0 < width)
    {items l : List α} (hl : l ∈ lines blank width hw items) : l.length ≤ width := by
  fun_induction lines blank width hw items with
  | case1 => simp at hl
  | case2 items _ _ cut ih =>
    rcases List.mem_cons.1 hl with rfl | hl
    · exact length_cutLine_le blank hw items
    · exact ih hl

def clamp (width : Int) : Nat := (max 1 width).toNat

theorem clamp_pos (width : Int) : 0 < clamp width := by
  simp only [clamp]
  omega

/-- The lines of items at a width of any size; no item gives one empty line. -/
def wrap {α : Type} (blank : α → Bool) (width : Int) : List α → List (List α)
  | [] => [[]]
  | items => lines blank (clamp width) (clamp_pos width) items

theorem length_le_of_mem_wrap {α : Type} (blank : α → Bool) {width : Int} {items l : List α}
    (hl : l ∈ wrap blank width items) : l.length ≤ clamp width := by
  cases items with
  | nil =>
    simp only [wrap, List.mem_singleton] at hl
    subst hl
    exact Nat.zero_le _
  | cons x xs => exact length_le_of_mem_lines blank (clamp_pos width) hl

def wrapText (width : Int) (t : Text) : List Text := wrap (· == ' ') width t

def wrapGlyphs {α : Type} (blank : α → Bool) (width : Int) (gs : List (Glyph α)) :
    List (List (Glyph α)) :=
  wrap (blank ·.symbol) width gs

end SlideDeck.Layout
