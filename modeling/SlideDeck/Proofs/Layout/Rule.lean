import SlideDeck.Proofs.Layout.Lines

/-!
# The rule for lines

What is left of a text begins with its next line: all of it if it is shorter than the width,
otherwise what stands before the last blank among the first `width` characters, the very first one
not counted, and without such a blank the first `width` characters. The rule leaves no choice, so
that it determines the lines and the blanks between them (`lines_by_rule`). A cut by offsets that
reads one character at a time comes to the same lines and reads none that is not there.
-/

namespace SlideDeck.Layout

variable {α : Type} {blank : α → Bool} {width : Nat} {items : List α}

def BlankAt (blank : α → Bool) (items : List α) (k : Nat) : Prop :=
  ∃ b, items[k]? = some b ∧ blank b = true

/-- Where the last blank stands among the first `width` items, the very first one not counted. -/
structure LastBlank (blank : α → Bool) (width : Nat) (items : List α) (k : Nat) : Prop where
  pos : 1 ≤ k
  lt : k < width
  blank_at : BlankAt blank items k
  none_after : ∀ j, k < j → j < width → ¬BlankAt blank items j

theorem LastBlank.unique {j k : Nat} (hj : LastBlank blank width items j)
    (hk : LastBlank blank width items k) : j = k := by
  rcases Nat.lt_trichotomy j k with hlt | heq | hlt
  · exact absurd hk.blank_at (hj.none_after k hlt hk.lt)
  · exact heq
  · exact absurd hj.blank_at (hk.none_after j hlt hj.lt)

/-- A line, what is dropped after it, and what comes then. -/
structure LineRule (blank : α → Bool) (width : Nat) (line gap after : List α) : Prop where
  line_ne_nil : line ≠ []
  line_le : line.length ≤ width
  gap_eq : gap = [] ∨ ∃ b, blank b = true ∧ gap = [b]
  short : (line ++ gap ++ after).length < width → gap = [] ∧ after = []
  broken : width ≤ (line ++ gap ++ after).length →
    ∀ k, LastBlank blank width (line ++ gap ++ after) k → line.length = k ∧ gap ≠ []
  full : width ≤ (line ++ gap ++ after).length →
    (∀ k, ¬LastBlank blank width (line ++ gap ++ after) k) → line.length = width ∧ gap = []

/-- The three ways in which a line ends. -/
theorem LineRule.short_or_broken_or_full {line gap after : List α}
    (h : LineRule blank width line gap after) :
    (line ++ gap ++ after).length < width ∧ gap = [] ∧ after = [] ∨
      (∃ k b, LastBlank blank width (line ++ gap ++ after) k ∧ line.length = k ∧ gap = [b]) ∨
      (∀ k, ¬LastBlank blank width (line ++ gap ++ after) k) ∧ line.length = width ∧ gap = [] := by
  rcases Nat.lt_or_ge (line ++ gap ++ after).length width with hshort | hlong
  · exact .inl ⟨hshort, h.short hshort⟩
  by_cases hblank : ∃ k, LastBlank blank width (line ++ gap ++ after) k
  · obtain ⟨k, hk⟩ := hblank
    obtain ⟨hline, hgap⟩ := h.broken hlong k hk
    obtain ⟨b, -, hb⟩ := h.gap_eq.resolve_left hgap
    exact .inr (.inl ⟨k, b, hk, hline, hb⟩)
  · rw [not_exists] at hblank
    exact .inr (.inr ⟨hblank, h.full hlong hblank⟩)

/-- Lines, each with what is dropped after it, put together. -/
def joined (ps : List (List α × List α)) : List α := ps.flatMap fun p => p.1 ++ p.2

def ByRule (blank : α → Bool) (width : Nat) : List (List α × List α) → Prop
  | [] => True
  | (line, gap) :: rest => LineRule blank width line gap (joined rest) ∧ ByRule blank width rest

/-! ### Where a line ends -/

theorem not_blankAt_of_le {k : Nat} (h : (items.reverse.dropWhile (!blank ·)).length ≤ k) :
    ¬BlankAt blank items k := by
  rintro ⟨b, hb, hblank⟩
  have hsplit : items = (items.reverse.dropWhile (!blank ·)).reverse ++
      (items.reverse.takeWhile (!blank ·)).reverse := by
    rw [← List.reverse_append, List.takeWhile_append_dropWhile, List.reverse_reverse]
  rw [hsplit, List.getElem?_append_right (by rwa [List.length_reverse])] at hb
  have hmem := List.mem_reverse.1 (List.mem_of_getElem? hb)
  have hnot := List.mem_takeWhile_imp hmem
  rw [hblank] at hnot
  cases hnot

theorem blankAt_of_length_eq {k : Nat}
    (h : (items.reverse.dropWhile (!blank ·)).length = k + 1) : BlankAt blank items k := by
  obtain ⟨front, b, back, rfl, rfl, hb⟩ := exists_last_blank h
  exact ⟨b, by simp, hb⟩

theorem blankAt_window {k : Nat} :
    BlankAt blank (items.take width).tail k ↔ k + 1 < width ∧ BlankAt blank items (k + 1) := by
  simp only [BlankAt, List.getElem?_tail, List.getElem?_take]
  by_cases hk : k + 1 < width
  · simp [hk]
  · simp [hk]

theorem cutLine_of_short (h : items.length < width) : cutLine blank width items = (items, []) := by
  have hempty : (items.drop (width - 1)).isEmpty = true := by
    rw [List.isEmpty_iff, List.drop_eq_nil_iff]
    omega
  rw [cutLine, if_pos hempty]

theorem cutLine_of_long (hw : 0 < width) (h : width ≤ items.length) :
    cutLine blank width items =
      match ((items.take width).tail.reverse.dropWhile (!blank ·)).length with
      | 0 => (items.take width, items.drop width)
      | k + 1 => (items.take (k + 1), items.drop (k + 2)) := by
  have hne : ¬(items.drop (width - 1)).isEmpty = true := by
    rw [List.isEmpty_iff, List.drop_eq_nil_iff]
    omega
  rw [cutLine]
  exact if_neg hne

theorem cutLine_of_lastBlank {k : Nat} (h : width ≤ items.length)
    (hk : LastBlank blank width items k) :
    cutLine blank width items = (items.take k, items.drop (k + 1)) := by
  obtain ⟨k, rfl⟩ : ∃ n, k = n + 1 := ⟨k - 1, by have := hk.pos; omega⟩
  rw [cutLine_of_long (Nat.zero_lt_of_lt hk.lt) h]
  have hwindow : ((items.take width).tail.reverse.dropWhile (!blank ·)).length = k + 1 := by
    rcases Nat.lt_trichotomy ((items.take width).tail.reverse.dropWhile (!blank ·)).length (k + 1)
      with hless | heq | hmore
    · exact absurd (blankAt_window.2 ⟨hk.lt, hk.blank_at⟩)
        (not_blankAt_of_le (Nat.le_of_lt_succ hless))
    · exact heq
    · -- A later blank would be the last one.
      obtain ⟨n, hn⟩ := Nat.exists_eq_succ_of_ne_zero (Nat.ne_zero_of_lt hmore)
      obtain ⟨hlt, hblank⟩ := blankAt_window.1 (blankAt_of_length_eq hn)
      exact absurd hblank (hk.none_after (n + 1) (by omega) hlt)
  rw [hwindow]

theorem lastBlank_of_length_eq {k : Nat}
    (h : ((items.take width).tail.reverse.dropWhile (!blank ·)).length = k + 1) :
    LastBlank blank width items (k + 1) := by
  obtain ⟨hlt, hblank⟩ := blankAt_window.1 (blankAt_of_length_eq h)
  refine ⟨Nat.succ_pos k, hlt, hblank, fun j hj hjw hlater => ?_⟩
  obtain ⟨j, rfl⟩ : ∃ n, j = n + 1 := ⟨j - 1, by omega⟩
  exact not_blankAt_of_le (by omega) (blankAt_window.2 ⟨hjw, hlater⟩)

theorem cutLine_of_no_blank (hw : 0 < width) (h : width ≤ items.length)
    (hnone : ∀ k, ¬LastBlank blank width items k) :
    cutLine blank width items = (items.take width, items.drop width) := by
  rw [cutLine_of_long hw h]
  split
  · rfl
  · rename_i k hk
    exact absurd (lastBlank_of_length_eq hk) (hnone _)

theorem LineRule.of_short {line : List α} (hne : line ≠ []) (h : line.length < width) :
    LineRule blank width line [] [] := by
  have hall : line ++ [] ++ [] = line := by simp
  refine ⟨hne, h.le, .inl rfl, fun _ => ⟨rfl, rfl⟩, ?_, ?_⟩
  · rw [hall]
    exact fun hlong => absurd h (Nat.not_lt.2 hlong)
  · rw [hall]
    exact fun hlong => absurd h (Nat.not_lt.2 hlong)

theorem LineRule.of_lastBlank {line after : List α} {b : α} (hb : blank b = true)
    (hlong : width ≤ (line ++ [b] ++ after).length)
    (h : LastBlank blank width (line ++ [b] ++ after) line.length) :
    LineRule blank width line [b] after where
  line_ne_nil := List.length_pos_iff.1 h.pos
  line_le := h.lt.le
  gap_eq := .inr ⟨b, hb, rfl⟩
  short hshort := absurd hshort (Nat.not_lt.2 hlong)
  broken _ _ hk := ⟨h.unique hk, List.cons_ne_nil b []⟩
  full _ hnone := absurd h (hnone line.length)

theorem LineRule.of_no_blank {line after : List α} (hw : 0 < width) (hline : line.length = width)
    (hnone : ∀ k, ¬LastBlank blank width (line ++ [] ++ after) k) :
    LineRule blank width line [] after where
  line_ne_nil := List.length_pos_iff.1 (hline ▸ hw)
  line_le := hline.le
  gap_eq := .inl rfl
  short hshort := by
    simp only [List.length_append] at hshort
    omega
  broken _ k hk := absurd hk (hnone k)
  full _ _ := ⟨hline, rfl⟩

/-- The line that is cut off and what remains, with what is dropped between the two, keep the
rule. -/
theorem cutLine_lineRule (blank : α → Bool) (hw : 0 < width) (h : items ≠ []) :
    ∃ gap, (cutLine blank width items).1 ++ gap ++ (cutLine blank width items).2 = items ∧
      LineRule blank width (cutLine blank width items).1 gap (cutLine blank width items).2 := by
  rcases Nat.lt_or_ge items.length width with hshort | hlong
  · rw [cutLine_of_short hshort]
    exact ⟨[], by simp, .of_short h hshort⟩
  by_cases hblank : ∃ k, LastBlank blank width items k
  · obtain ⟨k, hk⟩ := hblank
    obtain ⟨b, hb, hbblank⟩ := hk.blank_at
    rw [cutLine_of_lastBlank hlong hk]
    have hlt : k < items.length := Nat.lt_of_lt_of_le hk.lt hlong
    have hall : items.take k ++ [b] ++ items.drop (k + 1) = items := by
      rw [List.getElem?_eq_getElem hlt, Option.some.injEq] at hb
      rw [← hb, List.append_assoc, List.singleton_append, List.cons_getElem_drop_succ,
        List.take_append_drop]
    refine ⟨[b], hall, .of_lastBlank hbblank ?_ ?_⟩
    · rwa [hall]
    · rwa [hall, List.length_take_of_le hlt.le]
  · rw [not_exists] at hblank
    rw [cutLine_of_no_blank hw hlong hblank]
    have hall : items.take width ++ [] ++ items.drop width = items := by
      rw [List.append_nil, List.take_append_drop]
    refine ⟨[], hall, .of_no_blank hw (List.length_take_of_le hlong) ?_⟩
    rwa [hall]

/-! ### Every text has one such decomposition -/

theorem LineRule.unique {line gap after line' gap' after' : List α}
    (h : LineRule blank width line gap after) (h' : LineRule blank width line' gap' after')
    (hsame : line ++ gap ++ after = line' ++ gap' ++ after') :
    line = line' ∧ gap = gap' ∧ after = after' := by
  rcases Nat.lt_or_ge (line ++ gap ++ after).length width with hshort | hlong
  · obtain ⟨rfl, rfl⟩ := h.short hshort
    obtain ⟨rfl, rfl⟩ := h'.short (hsame ▸ hshort)
    exact ⟨by simpa using hsame, rfl, rfl⟩
  -- Where the line ends, and whether a blank is dropped there, is read off the whole.
  have hwhere : line.length = line'.length ∧ gap.length = gap'.length := by
    by_cases hblank : ∃ k, LastBlank blank width (line ++ gap ++ after) k
    · obtain ⟨k, hk⟩ := hblank
      obtain ⟨hline, hgap⟩ := h.broken hlong k hk
      obtain ⟨hline', hgap'⟩ := h'.broken (hsame ▸ hlong) k (hsame ▸ hk)
      obtain ⟨b, -, rfl⟩ := h.gap_eq.resolve_left hgap
      obtain ⟨b', -, rfl⟩ := h'.gap_eq.resolve_left hgap'
      exact ⟨hline.trans hline'.symm, rfl⟩
    · rw [not_exists] at hblank
      obtain ⟨hline, rfl⟩ := h.full hlong hblank
      obtain ⟨hline', rfl⟩ := h'.full (hsame ▸ hlong) (hsame ▸ hblank)
      exact ⟨hline.trans hline'.symm, rfl⟩
  rw [List.append_assoc, List.append_assoc] at hsame
  obtain ⟨hline, hrest⟩ := List.append_inj hsame hwhere.1
  obtain ⟨hgap, hafter⟩ := List.append_inj hrest hwhere.2
  exact ⟨hline, hgap, hafter⟩

theorem joined_cons (line gap : List α) (ps : List (List α × List α)) :
    joined ((line, gap) :: ps) = line ++ gap ++ joined ps := by
  rw [joined, List.flatMap_cons, joined]

theorem joined_append (ps qs : List (List α × List α)) :
    joined (ps ++ qs) = joined ps ++ joined qs := List.flatMap_append

theorem ByRule.joined_ne_nil {p : List α × List α} {ps : List (List α × List α)}
    (h : ByRule blank width (p :: ps)) : joined (p :: ps) ≠ [] := by
  obtain ⟨line, gap⟩ := p
  rw [joined_cons]
  exact List.append_ne_nil_of_left_ne_nil (List.append_ne_nil_of_left_ne_nil h.1.line_ne_nil gap) _

theorem ByRule.unique {ps qs : List (List α × List α)} (hp : ByRule blank width ps)
    (hq : ByRule blank width qs) (hsame : joined ps = joined qs) : ps = qs := by
  induction ps generalizing qs with
  | nil =>
    cases qs with
    | nil => rfl
    | cons q qs => exact absurd hsame.symm hq.joined_ne_nil
  | cons p ps ih =>
    cases qs with
    | nil => exact absurd hsame hp.joined_ne_nil
    | cons q qs =>
      obtain ⟨line, gap⟩ := p
      obtain ⟨line', gap'⟩ := q
      rw [joined_cons, joined_cons] at hsame
      obtain ⟨rfl, rfl, hrest⟩ := hp.1.unique hq.1 hsame
      rw [ih hp.2 hq.2 hrest]

/-- The lines of items, each with what is dropped after it. -/
def stretches (blank : α → Bool) (width : Nat) (hw : 0 < width) (items : List α) :
    List (List α × List α) :=
  if h : items = [] then []
  else
    have := cutLine_length blank hw h
    let cut := cutLine blank width items
    let gap := (items.drop cut.1.length).take (items.length - (cut.1.length + cut.2.length))
    (cut.1, gap) :: stretches blank width hw cut.2
termination_by items.length

theorem map_fst_stretches (blank : α → Bool) {width : Nat} (hw : 0 < width) (items : List α) :
    (stretches blank width hw items).map (·.1) = lines blank width hw items := by
  fun_induction stretches blank width hw items with
  | case1 => rw [lines, dif_pos rfl, List.map_nil]
  | case2 items hne _ cut _ ih => rw [lines_of_ne_nil blank hw hne, List.map_cons, ih]

theorem joined_stretches (blank : α → Bool) {width : Nat} (hw : 0 < width) (items : List α) :
    joined (stretches blank width hw items) = items ∧
      ByRule blank width (stretches blank width hw items) := by
  fun_induction stretches blank width hw items with
  | case1 => exact ⟨rfl, trivial⟩
  | case2 items hne _ cut gap ih =>
    obtain ⟨dropped, hall, hrule⟩ := cutLine_lineRule blank hw hne
    have hgap : gap = dropped := by
      have hitems : items = cut.1 ++ (dropped ++ cut.2) := by rw [← List.append_assoc, hall]
      have hcount : items.length - (cut.1.length + cut.2.length) = dropped.length := by
        rw [hitems]
        simp only [List.length_append]
        omega
      simp only [gap]
      rw [hcount, hitems, List.drop_left, List.take_left]
    obtain ⟨hjoined, hrest⟩ := ih
    rw [hgap]
    refine ⟨by rw [joined_cons, hjoined, hall], ?_, hrest⟩
    rwa [hjoined]

theorem wrap_of_ne_nil (blank : α → Bool) (width : Int) (h : items ≠ []) :
    wrap blank width items = lines blank (clamp width) (clamp_pos width) items := by
  obtain ⟨a, rest, rfl⟩ := List.exists_cons_of_ne_nil h
  rfl

/-- The lines at a width of any size, each with what is dropped after it. -/
def wrapStretches (width : Int) : Text → List (Text × Text)
  | [] => [([], [])]
  | text => stretches (· == ' ') (clamp width) (clamp_pos width) text

theorem wrapStretches_of_ne_nil (width : Int) {text : Text} (h : text ≠ []) :
    wrapStretches width text = stretches (· == ' ') (clamp width) (clamp_pos width) text := by
  obtain ⟨c, cs, rfl⟩ := List.exists_cons_of_ne_nil h
  rfl

theorem ByRule.gap_eq {ps : List (Text × Text)} (h : ByRule (· == ' ') width ps) :
    ∀ p ∈ ps, p.2 = [] ∨ p.2 = [' '] := by
  induction ps with
  | nil => exact List.forall_mem_nil _
  | cons p ps ih =>
    refine List.forall_mem_cons.2 ⟨?_, ih h.2⟩
    rcases h.1.gap_eq with hnil | ⟨b, hb, hgap⟩
    · exact .inl hnil
    · exact .inr (by rw [hgap, beq_iff_eq.1 hb])

theorem wrapStretches_spec (width : Int) (text : Text) :
    (wrapStretches width text).map (·.1) = wrapText width text ∧
      joined (wrapStretches width text) = text ∧
      ∀ p ∈ wrapStretches width text, p.2 = [] ∨ p.2 = [' '] := by
  by_cases hne : text = []
  · subst hne
    exact ⟨rfl, rfl, by simp [wrapStretches]⟩
  · obtain ⟨hjoined, hrule⟩ := joined_stretches (· == ' ') (clamp_pos width) text
    rw [wrapStretches_of_ne_nil width hne, wrapText, wrap_of_ne_nil _ width hne]
    exact ⟨map_fst_stretches _ _ _, hjoined, hrule.gap_eq⟩

theorem infix_of_mem_wrapText {width : Int} {text line : Text} (h : line ∈ wrapText width text) :
    line <:+: text := by
  obtain ⟨hlines, hjoined, -⟩ := wrapStretches_spec width text
  rw [← hlines] at h
  obtain ⟨⟨line, gap⟩, hp, rfl⟩ := List.mem_map.1 h
  obtain ⟨before, after, hsplit⟩ := List.append_of_mem hp
  refine ⟨joined before, gap ++ joined after, ?_⟩
  rw [← hjoined, hsplit, joined_append, joined_cons]
  simp

/-! ### The cut by offsets -/

/-- The last blank of the `count` items after `start`, read from the back; no answer at all if an
item is read that is not there. -/
def breakPoint? (blank : α → Bool) (items : List α) (start : Nat) : Nat → Option (Option Nat)
  | 0 => some none
  | count + 1 =>
    match items[start + (count + 1)]? with
    | none => none
    | some b =>
      if blank b then some (some (start + (count + 1))) else breakPoint? blank items start count

theorem lt_of_breakPoint? {start count k : Nat}
    (h : breakPoint? blank items start count = some (some k)) : start < k := by
  fun_induction breakPoint? blank items start count with
  | case1 => cases h
  | case2 => cases h
  | case3 => cases h; omega
  | case4 _ _ _ _ ih => exact ih h

/-- The begin and the end of each line from `start` on. -/
def spansFrom? (blank : α → Bool) (width : Nat) (hw : 0 < width) (items : List α) (start : Nat) :
    Option (List (Nat × Nat)) :=
  if start < items.length then
    if items.length - start < width then some [(start, items.length)]
    else
      match hk : breakPoint? blank items start (width - 1) with
      | none => none
      | some none =>
        (spansFrom? blank width hw items (start + width)).map ((start, start + width) :: ·)
      | some (some k) =>
        have := lt_of_breakPoint? hk
        (spansFrom? blank width hw items (k + 1)).map ((start, k) :: ·)
  else some []
termination_by items.length - start

def spans? (blank : α → Bool) (width : Int) : List α → Option (List (Nat × Nat))
  | [] => some [(0, 0)]
  | items => spansFrom? blank (clamp width) (clamp_pos width) items 0

def slice (items : List α) (span : Nat × Nat) : List α :=
  (items.drop span.1).take (span.2 - span.1)

theorem slice_add (items : List α) (start count : Nat) :
    slice items (start, start + count) = (items.drop start).take count := by
  rw [slice, Nat.add_sub_cancel_left]

theorem breakPoint?_eq (blank : α → Bool) {start : Nat} (count : Nat)
    (h : start + count < items.length) :
    (∃ k, LastBlank blank (count + 1) (items.drop start) k ∧
        breakPoint? blank items start count = some (some (start + k))) ∨
      (∀ k, ¬LastBlank blank (count + 1) (items.drop start) k) ∧
        breakPoint? blank items start count = some none := by
  induction count with
  | zero =>
    refine .inr ⟨fun k hk => ?_, rfl⟩
    have hpos := hk.pos
    have hlt := hk.lt
    omega
  | succ count ih =>
    have hread : (items.drop start)[count + 1]? = some items[start + (count + 1)] := by
      rw [List.getElem?_drop, List.getElem?_eq_getElem h]
    rw [breakPoint?, List.getElem?_eq_getElem h]
    dsimp only
    by_cases hb : blank items[start + (count + 1)] = true
    · rw [if_pos hb]
      refine .inl ⟨count + 1, ⟨by omega, by omega, ⟨_, hread, hb⟩, fun j hj hlt => ?_⟩, rfl⟩
      omega
    · rw [if_neg hb]
      have hnot : ¬BlankAt blank (items.drop start) (count + 1) := by
        rintro ⟨b, hitem, hblank⟩
        rw [hread, Option.some.injEq] at hitem
        exact hb (hitem ▸ hblank)
      -- As no blank stands there, the last blank is the one of the shorter window.
      have hshorter : ∀ k, LastBlank blank (count + 2) (items.drop start) k ↔
          LastBlank blank (count + 1) (items.drop start) k := by
        intro k
        constructor
        · intro hk
          have hne : k ≠ count + 1 := fun heq => hnot (heq ▸ hk.blank_at)
          have hlt := hk.lt
          exact ⟨hk.pos, by omega, hk.blank_at, fun j hj hlt => hk.none_after j hj (by omega)⟩
        · intro hk
          refine ⟨hk.pos, Nat.lt_succ_of_lt hk.lt, hk.blank_at, fun j hj hlt => ?_⟩
          rcases Nat.lt_succ_iff_lt_or_eq.1 hlt with hless | rfl
          · exact hk.none_after j hj hless
          · exact hnot
      simp only [hshorter]
      exact ih (by omega)

theorem breakPoint?_eq_of_long (blank : α → Bool) (hw : 0 < width) {start : Nat}
    (hlong : width ≤ (items.drop start).length) :
    (∃ k, LastBlank blank width (items.drop start) k ∧
        breakPoint? blank items start (width - 1) = some (some (start + k))) ∨
      (∀ k, ¬LastBlank blank width (items.drop start) k) ∧
        breakPoint? blank items start (width - 1) = some none := by
  have hcount : width - 1 + 1 = width := Nat.sub_add_cancel hw
  rw [List.length_drop] at hlong
  have hlast : start + (width - 1) < items.length := by omega
  have hbreak := breakPoint?_eq blank (width - 1) hlast
  rwa [hcount] at hbreak

theorem spansFrom?_eq (blank : α → Bool) {width : Nat} (hw : 0 < width) (items : List α)
    (start : Nat) :
    ∃ spans, spansFrom? blank width hw items start = some spans ∧
      spans.map (slice items) = lines blank width hw (items.drop start) := by
  -- A break is looked for only where a whole width is left, so that every item looked at is there.
  fun_induction spansFrom? blank width hw items start with
  | case1 start hstart hshort =>
    have hne : items.drop start ≠ [] := by simpa using hstart
    rw [← List.length_drop] at hshort
    refine ⟨_, rfl, ?_⟩
    rw [lines_of_ne_nil blank hw hne, cutLine_of_short hshort, lines, dif_pos rfl]
    simp [slice]
  | case2 start hstart hlong hk =>
    rw [← List.length_drop, Nat.not_lt] at hlong
    have hfound := breakPoint?_eq_of_long blank hw hlong
    simp [hk] at hfound
  | case3 start hstart hlong hk ih =>
    have hne : items.drop start ≠ [] := by simpa using hstart
    rw [← List.length_drop, Nat.not_lt] at hlong
    have hnone : ∀ k, ¬LastBlank blank width (items.drop start) k := by
      simpa [hk] using breakPoint?_eq_of_long blank hw hlong
    obtain ⟨spans, hspans, hlines⟩ := ih
    refine ⟨_, by rw [hspans, Option.map_some], ?_⟩
    rw [List.map_cons, slice_add, hlines, lines_of_ne_nil blank hw hne,
      cutLine_of_no_blank hw hlong hnone, List.drop_drop]
  | case4 start hstart hlong k hk _ ih =>
    have hne : items.drop start ≠ [] := by simpa using hstart
    rw [← List.length_drop, Nat.not_lt] at hlong
    obtain ⟨j, hlast, rfl⟩ : ∃ j, LastBlank blank width (items.drop start) j ∧ k = start + j := by
      simpa [hk] using breakPoint?_eq_of_long blank hw hlong
    obtain ⟨spans, hspans, hlines⟩ := ih
    refine ⟨_, by rw [hspans, Option.map_some], ?_⟩
    rw [List.map_cons, slice_add, hlines, lines_of_ne_nil blank hw hne,
      cutLine_of_lastBlank hlong hlast, List.drop_drop, Nat.add_assoc]
  | case5 start hstart =>
    have hnil : items.drop start = [] := by simpa using hstart
    exact ⟨[], rfl, by rw [hnil, lines, dif_pos rfl, List.map_nil]⟩

theorem spans?_eq (blank : α → Bool) (width : Int) (items : List α) :
    ∃ spans, spans? blank width items = some spans ∧
      spans.map (slice items) = wrap blank width items := by
  cases items with
  | nil => exact ⟨[(0, 0)], rfl, rfl⟩
  | cons a items => exact spansFrom?_eq blank (clamp_pos width) (a :: items) 0

/-- At a width of `w`, or of one where `w` is less, a text without characters is one empty line.
Any other text is its lines, each with what is dropped after it, put together by the rule, and in
no other way. The cut by offsets reads no character that is not there and gives the same lines. -/
theorem lines_by_rule (t : Option Text) (w : Int) :
    let text := t.getD []
    let width := clamp w
    (width : Int) = max 1 w ∧
      (text = [] → wrapText w text = [[]]) ∧
      (text ≠ [] → ∃ ps : List (Text × Text), ps.map (·.1) = wrapText w text ∧
        ∀ qs, (joined qs = text ∧ ByRule (· == ' ') width qs) ↔ qs = ps) ∧
      ∃ spans, spans? (· == ' ') w text = some spans ∧
        spans.map (slice text) = wrapText w text := by
  intro text width
  have hwidth : (width : Int) = max 1 w := by
    simp only [width, clamp]
    omega
  refine ⟨hwidth, ?_, ?_, spans?_eq _ w text⟩
  · intro hempty
    rw [hempty]
    rfl
  · intro hne
    obtain ⟨hjoined, hps⟩ := joined_stretches (· == ' ') (clamp_pos w) text
    refine ⟨stretches (· == ' ') width (clamp_pos w) text, ?_, fun qs => ⟨?_, ?_⟩⟩
    · rw [map_fst_stretches, wrapText, wrap_of_ne_nil _ w hne]
    · rintro ⟨hqs, hrule⟩
      exact hrule.unique hps (hqs.trans hjoined.symm)
    · rintro rfl
      exact ⟨hjoined, hps⟩

end SlideDeck.Layout
