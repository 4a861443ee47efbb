import SlideDeck.Proofs.Export.Placement

/-!
# How many title pages a document has

The title page is written as soon as the title, the author and the date have been given, and again
with each of them that is given after that. So a document has no title page before, and then one for
each such operation (`title_pages_counted`).
-/

namespace SlideDeck

namespace Op

variable {ops : List Op} {op : Op}

/-- Some operations give every line of the title page. -/
def GiveTitlePage (ops : List Op) : Prop := ∀ l, ∃ op ∈ ops, op.titleLine? = some l

instance (ops : List Op) : Decidable (GiveTitlePage ops) :=
  decidable_of_iff (∀ l ∈ TitleLine.all, ∃ op ∈ ops, op.titleLine? = some l)
    ⟨fun h l => h l (by cases l <;> decide), fun h l _ => h l⟩

theorem not_giveTitlePage_nil : ¬GiveTitlePage [] := by
  intro h
  obtain ⟨_, hop, -⟩ := h .title
  cases hop

theorem GiveTitlePage.append (h : GiveTitlePage ops) (more : List Op) :
    GiveTitlePage (ops ++ more) := by
  intro l
  obtain ⟨op, hop, hl⟩ := h l
  exact ⟨op, List.mem_append_left more hop, hl⟩

theorem giveTitlePage_other (hline : op.titleLine? = none) :
    GiveTitlePage (ops ++ [op]) ↔ GiveTitlePage ops := by
  simp [GiveTitlePage, hline]

/-- If operations give the title page, one of them is the first to complete it. -/
theorem GiveTitlePage.exists_first (h : GiveTitlePage ops) :
    ∃ earlier op later, ops = earlier ++ op :: later ∧
      ¬GiveTitlePage earlier ∧ GiveTitlePage (earlier ++ [op]) := by
  induction ops using List.reverseRecOn with
  | nil => exact absurd h not_giveTitlePage_nil
  | append_singleton ops op ih =>
    by_cases hbefore : GiveTitlePage ops
    · obtain ⟨earlier, first, later, hops, hfirst⟩ := ih hbefore
      exact ⟨earlier, first, later ++ [op], by rw [hops, List.append_assoc]; rfl, hfirst⟩
    · exact ⟨ops, op, [], rfl, hbefore, h⟩

end Op

namespace Beamer

open Export Op

def Piece.isTitlePage : Piece → Bool
  | titlePage => true
  | _ => false

def titlePages (ps : List Piece) : Nat := ps.countP Piece.isTitlePage

variable {b : Beamer} {ps qs : List Piece} {earlier ops : List Op} {op : Op} {l : TitleLine}

theorem titlePages_append : titlePages (ps ++ qs) = titlePages ps + titlePages qs :=
  List.countP_append

theorem titlePages_brackets (h : ∀ p ∈ ps, p.isBracket = true) : titlePages ps = 0 := by
  refine List.countP_eq_zero.2 fun p hp htitle => ?_
  cases p with
  | titlePage => cases h _ hp
  | _ => cases htitle

/-! ### One operation -/

theorem titlePages_titling (b : Beamer) (l : TitleLine) (t : Option Text) :
    titlePages (titling b l t) =
      if TitleLine.complete (TitleLine.see b.seen l) then 1 else 0 := by
  have hline (ps : List Piece) (u : Text) : titlePages (.titleLine l u :: ps) = titlePages ps :=
    List.countP_cons_of_neg nofun
  rw [titling, hline]
  split_ifs
  · rw [titlePages_append, titlePages_brackets (isBracket_beginning b)]
    rfl
  · rfl

theorem titlePages_other (b : Beamer) (hline : op.titleLine? = none) :
    titlePages (pieces b op) = 0 := by
  have hbody (t : Option Text) : titlePages (body b t) = 0 := by
    rw [body, titlePages_append, titlePages_brackets (isBracket_opening b), Nat.zero_add]
    refine List.countP_eq_zero.2 fun p hp => ?_
    obtain ⟨_, -, rfl⟩ := List.mem_map.1 hp
    exact Bool.false_ne_true
  cases op with
  | newPage => exact titlePages_brackets (isBracket_closing b)
  | printLine t => exact hbody t
  | center t => exact hbody t
  | right t => exact hbody t
  | heading t =>
    rw [pieces, titlePages_append, titlePages_brackets (isBracket_closing b)]
    rfl
  | title t | author t | date t => cases hline
  | _ => rfl

theorem pieces_titleLine (b : Beamer) (hline : op.titleLine? = some l) :
    ∃ t, pieces b op = titling b l t := by
  cases op with
  | title t | author t | date t =>
    cases hline
    exact ⟨t, rfl⟩
  | _ => cases hline

/-- An operation writes a title page if it gives a line of it and no line is missing then. -/
theorem Follows.titlePages_pieces (h : Follows b earlier) (op : Op) :
    titlePages (pieces b op) =
      if op.titleLine?.isSome ∧ GiveTitlePage (earlier ++ [op]) then 1 else 0 := by
  rcases hline : op.titleLine? with - | l
  · rw [titlePages_other b hline, if_neg (by simp)]
  · obtain ⟨t, hpieces⟩ := pieces_titleLine b hline
    have hcomplete : TitleLine.complete (TitleLine.see b.seen l) = true ↔
        GiveTitlePage (earlier ++ [op]) := by
      rw [TitleLine.complete_iff]
      refine forall_congr' fun k => ?_
      rw [TitleLine.mem_see, h.mem_seen]
      simp [or_and_right, exists_or, hline, eq_comm]
    rw [hpieces, titlePages_titling]
    simp only [hcomplete, Option.isSome_some, true_and]

/-! ### Operations one after the other -/

theorem titlePages_cons (b : Beamer) (op : Op) (ops : List Op) :
    titlePages (history b (op :: ops)) =
      titlePages (pieces b op) + titlePages (history ((pieces b op).foldl push b) ops) :=
  titlePages_append

theorem Follows.titlePages_incomplete (h : Follows b earlier)
    (hnot : ¬GiveTitlePage (earlier ++ ops)) : titlePages (history b ops) = 0 := by
  induction ops generalizing b earlier with
  | nil => rfl
  | cons op ops ih =>
    rw [List.append_cons] at hnot
    rw [titlePages_cons, ih (h.perform op) hnot, h.titlePages_pieces,
      if_neg fun hop => hnot (hop.2.append ops)]

theorem Follows.titlePages_complete (h : Follows b earlier) (hall : GiveTitlePage earlier) :
    titlePages (history b ops) = ops.countP (·.titleLine?.isSome) := by
  induction ops generalizing b earlier with
  | nil => rfl
  | cons op ops ih =>
    have hop := hall.append [op]
    rw [titlePages_cons, ih (h.perform op) hop, h.titlePages_pieces, List.countP_cons, Nat.add_comm]
    simp only [hop, and_true]

/-- The operation that completes the title page writes the first one, and every line of it that
comes later another. -/
theorem Follows.titlePages_first (h : Follows b earlier) (front later : List Op)
    (hnot : ¬GiveTitlePage (earlier ++ front)) (hall : GiveTitlePage (earlier ++ front ++ [op])) :
    titlePages (history b (front ++ op :: later)) = 1 + later.countP (·.titleLine?.isSome) := by
  induction front generalizing b earlier with
  | nil =>
    rw [List.append_nil] at hnot hall
    have hline : op.titleLine?.isSome = true := by
      rcases hline : op.titleLine? with - | l
      · exact absurd ((giveTitlePage_other hline).1 hall) hnot
      · rfl
    rw [List.nil_append, titlePages_cons, h.titlePages_pieces, if_pos ⟨hline, hall⟩,
      (h.perform op).titlePages_complete hall]
  | cons first front ih =>
    rw [List.append_cons earlier first front] at hnot hall
    rw [List.cons_append, titlePages_cons, ih (h.perform first) hnot hall, h.titlePages_pieces,
      if_neg fun hfirst => hnot (hfirst.2.append front), Nat.zero_add]

theorem follows_opened {path : Text} {width : Int} {s opened : Stage Beamer}
    (hfresh : s.surface = { out := { path := path }, width := width })
    (hopen : openDocument s = .ok () opened) : Follows opened.surface [] := by
  obtain ⟨_, -, hsurface⟩ := openDocument_eq_ok hopen
  rw [hsurface, hfresh]
  exact ⟨Iff.rfl, iff_of_false nofun Op.not_beginDocument_nil, by simp⟩

/-- A document that was opened once and is closed after some operations has no title page unless
they give the title, the author and the date. If they do, one of them is the first to complete the
three: then the document has one title page for it, and another for each title, author or date that
is given later. -/
theorem title_pages_counted {path : Text} {width : Int} {s opened : Stage Beamer}
    (hfresh : s.surface = { out := { path := path }, width := width })
    (hopen : openDocument s = .ok () opened) (ops : List Op) :
    ∃ t closed,
      ops.forM Surface.perform opened = .ok () t ∧
      closeDocument t = .ok () closed ∧
      let document := history opened.surface ops ++ ending t.surface
      closed.surface.out.written.toList = preamble :: document.map Piece.text ∧
      (¬GiveTitlePage ops → titlePages document = 0) ∧
      (GiveTitlePage ops → ∃ earlier op later, ops = earlier ++ op :: later ∧
        ¬GiveTitlePage earlier ∧ GiveTitlePage (earlier ++ [op])) ∧
      ∀ earlier op later, ops = earlier ++ op :: later →
        ¬GiveTitlePage earlier → GiveTitlePage (earlier ++ [op]) →
          titlePages document = 1 + later.countP (·.titleLine?.isSome) := by
  obtain ⟨t, closed, hrun, hclose, hwritten⟩ := document_ok hopen ops
  have hfollows := follows_opened hfresh hopen
  have hending : titlePages (history opened.surface ops ++ ending t.surface) =
      titlePages (history opened.surface ops) := by
    rw [titlePages_append, titlePages_brackets (isBracket_ending t.surface), Nat.add_zero]
  refine ⟨t, closed, hrun, hclose, hwritten, fun hnot => ?_, fun hall => hall.exists_first, ?_⟩
  · rw [hending]
    exact hfollows.titlePages_incomplete hnot
  · rintro earlier op later rfl hnot hall
    rw [hending]
    exact hfollows.titlePages_first earlier later hnot hall

/-- A heading and text do not bring the title page back. -/
theorem title_pages_counted_once :
    let s : Stage Beamer := ⟨Host.quiet, {}, { out := { path := "talk.tex" } }, none⟩
    let ops : List Op := [.title (some "T"), .author (some "A"), .date (some "D"),
      .heading (some "h"), .printLine (some "x")]
    ∃ opened t, openDocument s = .ok () opened ∧ ops.forM Surface.perform opened = .ok () t ∧
      titlePages (history opened.surface ops ++ ending t.surface) = 1 := by
  intro s ops
  obtain ⟨opened, hopen⟩ := openDocument_quiet
  obtain ⟨t, -, hrun, -, -, -, -, hcounted⟩ := title_pages_counted rfl hopen ops
  exact ⟨opened, t, hopen, hrun, hcounted [.title (some "T"), .author (some "A")]
    (.date (some "D")) [.heading (some "h"), .printLine (some "x")] rfl (by decide) (by decide)⟩

/-- A second author brings a second title page. -/
theorem title_pages_repeated :
    let s : Stage Beamer := ⟨Host.quiet, {}, { out := { path := "talk.tex" } }, none⟩
    let ops : List Op := [.title (some "T"), .author (some "A"), .date (some "D"),
      .author (some "B")]
    ∃ opened t closed, openDocument s = .ok () opened ∧
      ops.forM Surface.perform opened = .ok () t ∧ closeDocument t = .ok () closed ∧
      closed.surface.out.written.toList =
        preamble :: (history opened.surface ops ++ ending t.surface).map Piece.text ∧
      titlePages (history opened.surface ops ++ ending t.surface) = 2 := by
  intro s ops
  obtain ⟨opened, hopen⟩ := openDocument_quiet
  obtain ⟨t, closed, hrun, hclose, hwritten⟩ := document_ok hopen ops
  refine ⟨opened, t, closed, hopen, hrun, hclose, hwritten, ?_⟩
  rw [titlePages_append, titlePages_brackets (isBracket_ending t.surface)]
  exact (follows_opened rfl hopen).titlePages_first [.title (some "T"), .author (some "A")]
    [.author (some "B")] (by decide) (by decide)

end Beamer

end SlideDeck
