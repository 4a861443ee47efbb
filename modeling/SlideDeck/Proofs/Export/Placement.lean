import SlideDeck.Proofs.Export.Environments

/-!
# Commands in the source of slides

Section commands and the title page belong in the document and outside frames, the lines of the
title page outside frames. Text opens a frame, page breaks and headings close it; a heading does not
begin the document and a line of the title page closes no frame, so that not every order of
operations puts the commands in their places. `commands_in_place_iff` says which ones do.
-/

namespace SlideDeck

/-- Each of some elements is as it has to be after the ones in front of it. -/
def EachAfter {α : Type} (Fine : List α → α → Prop) : List α → List α → Prop
  | _, [] => True
  | before, x :: xs => Fine before x ∧ EachAfter Fine (before ++ [x]) xs

section EachAfter

variable {α : Type} {Fine : List α → α → Prop} {before xs ys : List α} {x : α}

theorem eachAfter_append :
    EachAfter Fine before (xs ++ ys) ↔
      EachAfter Fine before xs ∧ EachAfter Fine (before ++ xs) ys := by
  induction xs generalizing before with
  | nil => simp [EachAfter]
  | cons x xs ih => simp [EachAfter, ih, and_assoc]

theorem eachAfter_singleton : EachAfter Fine before [x] ↔ Fine before x := by
  simp [EachAfter]

theorem eachAfter_of_forall (h : ∀ before, ∀ x ∈ xs, Fine before x) :
    EachAfter Fine before xs := by
  induction xs generalizing before with
  | nil => trivial
  | cons x xs ih =>
    exact ⟨h before x List.mem_cons_self, ih fun b y hy => h b y (List.mem_cons_of_mem x hy)⟩

theorem eachAfter_iff :
    EachAfter Fine before xs ↔
      ∀ front x back, xs = front ++ x :: back → Fine (before ++ front) x := by
  induction xs generalizing before with
  | nil => simp [EachAfter]
  | cons y ys ih =>
    rw [EachAfter, ih]
    constructor
    · rintro ⟨hy, hys⟩ (_ | ⟨z, front⟩) x back hsplit
      · cases hsplit
        rwa [List.append_nil]
      · cases hsplit
        rw [List.append_cons]
        exact hys front x back rfl
    · intro h
      refine ⟨?_, fun front x back hsplit => ?_⟩
      · have hy := h [] y ys rfl
        rwa [List.append_nil] at hy
      · have hx := h (y :: front) x back (by rw [hsplit]; rfl)
        rwa [List.append_cons] at hx

theorem eachAfter_nil_iff :
    EachAfter Fine [] xs ↔ ∀ front x back, xs = front ++ x :: back → Fine front x :=
  eachAfter_iff

end EachAfter

namespace TitleLine

theorem mem_see {seen : List TitleLine} {l k : TitleLine} :
    k ∈ see seen l ↔ k ∈ seen ∨ k = l := by
  unfold see
  split_ifs with hl
  · have hmem : l ∈ seen := List.contains_iff_mem.1 hl
    exact ⟨.inl, fun hk => hk.elim id fun heq => heq ▸ hmem⟩
  · rw [List.mem_cons, or_comm]

theorem complete_iff {seen : List TitleLine} : complete seen = true ↔ ∀ l, l ∈ seen := by
  simp only [complete, List.all_eq_true, List.contains_iff_mem]
  exact ⟨fun h l => h l (by cases l <;> decide), fun h l _ => h l⟩

end TitleLine

namespace Op

def isText : Op → Bool
  | printLine _ | center _ | right _ => true
  | _ => false

def titleLine? : Op → Option TitleLine
  | title _ => some .title
  | author _ => some .author
  | date _ => some .date
  | _ => none

/-- Whether a frame is open after an operation. -/
def leavesFrame (frameOpen : Bool) : Op → Bool
  | newPage | heading _ => false
  | op => op.isText || frameOpen

/-- Whether some operations end in a frame: no page break or heading comes after the last text. -/
def EndInFrame (ops : List Op) : Prop := ops.foldl leavesFrame false = true

/-- Whether some operations begin the document: one is text, or the title page is complete. -/
def BeginDocument (ops : List Op) : Prop :=
  (∃ op ∈ ops, op.isText = true) ∨ ∀ l, ∃ op ∈ ops, op.titleLine? = some l

/-- Whether a command of the title page or a heading comes when it should. -/
def Timely (earlier : List Op) : Op → Prop
  | heading _ => BeginDocument earlier
  | title _ | author _ | date _ => ¬EndInFrame earlier
  | _ => True

variable {ops : List Op} {op : Op}

theorem not_beginDocument_nil : ¬BeginDocument [] := by
  rintro (⟨_, hop, -⟩ | hall)
  · cases hop
  · obtain ⟨_, hop, -⟩ := hall .title
    cases hop

theorem beginDocument_text (h : op.isText = true) : BeginDocument (ops ++ [op]) :=
  .inl ⟨op, List.mem_concat_self, h⟩

theorem beginDocument_other (htext : op.isText = false) (hline : op.titleLine? = none) :
    BeginDocument (ops ++ [op]) ↔ BeginDocument ops := by
  simp [BeginDocument, htext, hline]

end Op

namespace Beamer

open Export

/-! ### Where commands belong -/

/-- The environments that are open after a piece, the innermost one first. -/
def Piece.nest (es : List Environment) : Piece → List Environment
  | begins e => e :: es
  | ends e => es.erase e
  | body _ | heading _ | titleLine _ _ | titlePage => es

def openAfter (ps : List Piece) : List Environment := ps.foldl Piece.nest []

/-- Whether a command belongs after some pieces. The title page has its frame in itself. -/
def Piece.InPlace (before : List Piece) : Piece → Prop
  | titleLine _ _ => .frame ∉ openAfter before ∧ .verbatim ∉ openAfter before
  | heading _ | titlePage =>
    .begins .document ∈ before ∧ .frame ∉ openAfter before ∧ .verbatim ∉ openAfter before
  | begins _ | ends _ | body _ => True

/-- The environments that a surface remembers as open. -/
def environments (b : Beamer) : List Environment :=
  (if b.verbatimOpen then [.verbatim] else []) ++ (if b.frameOpen then [.frame] else []) ++
    if b.begun then [.document] else []

variable {b : Beamer} {ps qs : List Piece} {ops : List Op}

/-! ### Open environments and flags -/

theorem foldl_nest_brackets (es : List Environment) (ps : List Piece) :
    (brackets ps).foldl Piece.nest es = ps.foldl Piece.nest es := by
  induction ps generalizing es with
  | nil => rfl
  | cons p ps ih =>
    cases p with
    | begins e => exact ih _
    | ends e => exact ih _
    | _ => exact ih es

theorem openAfter_skeleton (groups : Nat) (frameOpen : Bool) :
    openAfter (skeleton groups frameOpen) =
      (if frameOpen then [.verbatim, .frame] else []) ++ [.document] := by
  have hgroups : (List.replicate groups group).flatten.foldl Piece.nest [.document] =
      [.document] := by
    induction groups with
    | zero => rfl
    | succ groups ih =>
      rw [List.replicate_succ, List.flatten_cons, List.foldl_append]
      exact ih
  rw [openAfter, skeleton, List.foldl_append, List.foldl_cons]
  show List.foldl _ (List.foldl _ [Environment.document] _) _ = _
  rw [hgroups]
  cases frameOpen with
  | false => rfl
  | true => rfl

theorem Nested.openAfter_eq (h : Nested b ps) : openAfter ps = environments b := by
  obtain ⟨groups, hbrackets⟩ := h.brackets_eq
  rw [openAfter, ← foldl_nest_brackets, hbrackets, environments, h.verbatimOpen_eq]
  cases hbegun : b.begun with
  | true =>
    refine (openAfter_skeleton groups b.frameOpen).trans ?_
    cases b.frameOpen with
    | false => rfl
    | true => rfl
  | false =>
    cases hframe : b.frameOpen with
    | false => rfl
    | true => cases hbegun.symm.trans (h.begun_of_frameOpen hframe)

theorem Nested.begun_iff (h : Nested b ps) : b.begun = true ↔ .begins .document ∈ ps := by
  obtain ⟨groups, hbrackets⟩ := h.brackets_eq
  have hmem : Piece.begins .document ∈ ps ↔ .begins .document ∈ brackets ps :=
    ⟨fun hp => List.mem_filter.2 ⟨hp, rfl⟩, fun hp => (List.mem_filter.1 hp).1⟩
  rw [hmem, hbrackets]
  split_ifs with hbegun
  · exact iff_of_true hbegun List.mem_cons_self
  · exact iff_of_false hbegun List.not_mem_nil

/-- Outside frames is where no frame is remembered. -/
theorem Nested.outside_iff (h : Nested b ps) :
    .frame ∉ openAfter ps ∧ .verbatim ∉ openAfter ps ↔ b.frameOpen = false := by
  rw [h.openAfter_eq, environments, h.verbatimOpen_eq]
  cases b.frameOpen with
  | false => cases b.begun <;> decide
  | true => cases b.begun <;> decide

theorem eachAfter_brackets (h : ∀ p ∈ qs, p.isBracket = true) :
    EachAfter Piece.InPlace ps qs := by
  refine eachAfter_of_forall fun _ p hp => ?_
  cases p with
  | begins e => trivial
  | ends e => trivial
  | _ => cases h _ hp

theorem isBracket_beginning (b : Beamer) : ∀ p ∈ beginning b, p.isBracket = true := by
  unfold beginning
  split_ifs <;> simp [Piece.isBracket]

theorem isBracket_closing (b : Beamer) : ∀ p ∈ closing b, p.isBracket = true := by
  unfold closing
  split_ifs <;> simp [Piece.isBracket]

theorem isBracket_opening (b : Beamer) : ∀ p ∈ opening b, p.isBracket = true := by
  unfold opening beginning
  split_ifs <;> simp [Piece.isBracket]

theorem isBracket_ending (b : Beamer) : ∀ p ∈ ending b, p.isBracket = true := by
  intro p hp
  rcases List.mem_append.1 hp with hp | hp
  · rcases List.mem_append.1 hp with hp | hp
    · exact isBracket_closing b p hp
    · exact isBracket_beginning b p hp
  · cases List.mem_singleton.1 hp
    rfl

/-! ### One operation -/

/-- Whether the commands of an operation belong where a surface writes them. -/
def Welcomes (b : Beamer) : Op → Prop
  | .heading _ => b.begun = true
  | .title _ | .author _ | .date _ => b.frameOpen = false
  | _ => True

theorem body_inPlace (b : Beamer) (ps : List Piece) (t : Option Text) :
    EachAfter Piece.InPlace ps (body b t) := by
  refine eachAfter_append.2 ⟨eachAfter_brackets (isBracket_opening b), ?_⟩
  refine eachAfter_of_forall fun _ p hp => ?_
  obtain ⟨_, -, rfl⟩ := List.mem_map.1 hp
  trivial

theorem Nested.titling_inPlace_iff (h : Nested b ps) (l : TitleLine) (t : Option Text) :
    EachAfter Piece.InPlace ps (Beamer.titling b l t) ↔ b.frameOpen = false := by
  let line := Piece.titleLine l (stripMarkup (t.getD []))
  have hline : Nested ([line].foldl push b) (ps ++ [line]) := h.concat rfl
  rw [Beamer.titling, EachAfter]
  constructor
  · rintro ⟨houtside, -⟩
    exact h.outside_iff.1 houtside
  · intro hframe
    refine ⟨h.outside_iff.2 hframe, ?_⟩
    split_ifs
    · refine eachAfter_append.2
        ⟨eachAfter_brackets (isBracket_beginning b), eachAfter_singleton.2 ?_⟩
      refine ⟨hline.begin.begun_iff.1 (begun_beginning _), hline.begin.outside_iff.2 ?_⟩
      exact (frameOpen_beginning _).trans hframe
    · trivial

theorem Nested.heading_inPlace_iff (h : Nested b ps) (t : Text) :
    EachAfter Piece.InPlace ps (closing b ++ [.heading t]) ↔ b.begun = true := by
  obtain ⟨hframe, -, hbegun⟩ := flags_closing b
  rw [eachAfter_append, eachAfter_singleton, ← hbegun, h.close.begun_iff]
  constructor
  · rintro ⟨-, hbegins, -⟩
    exact hbegins
  · intro hbegins
    exact ⟨eachAfter_brackets (isBracket_closing b), hbegins, h.close.outside_iff.2 hframe⟩

theorem Nested.pieces_inPlace_iff (h : Nested b ps) (op : Op) :
    EachAfter Piece.InPlace ps (pieces b op) ↔ Welcomes b op := by
  cases op with
  | newPage => exact iff_of_true (eachAfter_brackets (isBracket_closing b)) trivial
  | printLine t => exact iff_of_true (body_inPlace b ps t) trivial
  | center t => exact iff_of_true (body_inPlace b ps t) trivial
  | right t => exact iff_of_true (body_inPlace b ps t) trivial
  | heading t => exact h.heading_inPlace_iff _
  | title t => exact h.titling_inPlace_iff .title t
  | author t => exact h.titling_inPlace_iff .author t
  | date t => exact h.titling_inPlace_iff .date t
  | _ => exact Iff.rfl

/-! ### What operations leave behind -/

/-- A surface remembers what some operations have come to. -/
structure Follows (b : Beamer) (ops : List Op) : Prop where
  frameOpen_iff : b.frameOpen = true ↔ Op.EndInFrame ops
  begun_iff : b.begun = true ↔ Op.BeginDocument ops
  mem_seen : ∀ l, l ∈ b.seen ↔ ∃ op ∈ ops, op.titleLine? = some l

theorem seen_foldl_push (h : ∀ p ∈ ps, ∀ l t, p ≠ .titleLine l t) :
    (ps.foldl push b).seen = b.seen := by
  induction ps generalizing b with
  | nil => rfl
  | cons p ps ih =>
    rw [List.foldl_cons, ih fun q hq => h q (List.mem_cons_of_mem p hq)]
    rcases p with (_ | _ | _) | (_ | _ | _) | _ | _ | ⟨l, t⟩ | _
    case titleLine => exact absurd rfl (h _ List.mem_cons_self l t)
    all_goals rfl

theorem Follows.text {op : Op} (t : Option Text) (h : Follows b ops) (htext : op.isText = true)
    (hline : op.titleLine? = none) (hframe : ∀ c, op.leavesFrame c = true) :
    Follows ((body b t).foldl push b) (ops ++ [op]) := by
  obtain ⟨hopen, -, hbegun⟩ := flags_opening b
  have hbody : ∀ p ∈ (plainLines b.width t).map Piece.body, p.isBracket = false := by
    intro p hp
    obtain ⟨_, -, rfl⟩ := List.mem_map.1 hp
    rfl
  obtain ⟨hopen', -, hbegun'⟩ := flags_of_not_bracket (b := (opening b).foldl push b) hbody
  have hseen : ((body b t).foldl push b).seen = b.seen := by
    refine seen_foldl_push fun p hp l u => ?_
    rcases List.mem_append.1 hp with hp | hp
    · intro heq
      cases heq ▸ isBracket_opening b p hp
    · obtain ⟨_, -, rfl⟩ := List.mem_map.1 hp
      nofun
  rw [body, List.foldl_append] at hseen ⊢
  refine ⟨?_, ?_, fun l => ?_⟩
  · rw [hopen', hopen, Op.EndInFrame, List.foldl_append]
    exact iff_of_true rfl (hframe _)
  · rw [hbegun', hbegun]
    exact iff_of_true rfl (Op.beginDocument_text htext)
  · rw [hseen, h.mem_seen]
    simp [hline]

theorem Follows.pageBreak {op : Op} (h : Follows b ops) (htext : op.isText = false)
    (hline : op.titleLine? = none) (hframe : ∀ c, op.leavesFrame c = false) :
    Follows ((closing b).foldl push b) (ops ++ [op]) := by
  obtain ⟨hclosed, -, hbegun⟩ := flags_closing b
  have hseen : ((closing b).foldl push b).seen = b.seen :=
    seen_foldl_push fun p hp l t heq => by cases heq ▸ isBracket_closing b p hp
  refine ⟨?_, ?_, fun l => ?_⟩
  · rw [hclosed, Op.EndInFrame, List.foldl_append]
    show false = true ↔ op.leavesFrame _ = true
    rw [hframe]
  · rw [hbegun, Op.beginDocument_other htext hline]
    exact h.begun_iff
  · rw [hseen, h.mem_seen]
    simp [hline]

theorem Follows.other {op : Op} (h : Follows b ops) (htext : op.isText = false)
    (hline : op.titleLine? = none) (hframe : ∀ c, op.leavesFrame c = c) :
    Follows b (ops ++ [op]) := by
  refine ⟨?_, ?_, fun l => ?_⟩
  · rw [Op.EndInFrame, List.foldl_append]
    show _ ↔ op.leavesFrame _ = true
    rw [hframe]
    exact h.frameOpen_iff
  · rw [Op.beginDocument_other htext hline]
    exact h.begun_iff
  · rw [h.mem_seen]
    simp [hline]

/-- What is left of a line of the title page and of the title page after it. -/
theorem flags_titling (b : Beamer) (l : TitleLine) (t : Option Text) :
    let after := (titling b l t).foldl push b
    after.frameOpen = b.frameOpen ∧ after.seen = TitleLine.see b.seen l ∧
      after.begun = (b.begun || TitleLine.complete (TitleLine.see b.seen l)) := by
  rw [titling, List.foldl_cons]
  cases hcomplete : TitleLine.complete (TitleLine.see b.seen l) with
  | false => exact ⟨rfl, rfl, (Bool.or_false b.begun).symm⟩
  | true =>
    cases hbegun : b.begun with
    | false =>
      rw [beginning, hbegun]
      exact ⟨rfl, rfl, rfl⟩
    | true =>
      rw [beginning, hbegun]
      exact ⟨rfl, rfl, hbegun⟩

theorem Follows.titleLine {op : Op} (l : TitleLine) (t : Option Text) (h : Follows b ops)
    (htext : op.isText = false) (hline : op.titleLine? = some l)
    (hframe : ∀ c, op.leavesFrame c = c) :
    Follows ((titling b l t).foldl push b) (ops ++ [op]) := by
  obtain ⟨hopen, hseen, hbegun⟩ := flags_titling b l t
  have hmem (k : TitleLine) :
      k ∈ TitleLine.see b.seen l ↔ ∃ o ∈ ops ++ [op], o.titleLine? = some k := by
    rw [TitleLine.mem_see, h.mem_seen]
    simp [or_and_right, exists_or, hline, eq_comm]
  refine ⟨?_, ?_, fun k => hseen ▸ hmem k⟩
  · rw [hopen, Op.EndInFrame, List.foldl_append]
    show _ ↔ op.leavesFrame _ = true
    rw [hframe]
    exact h.frameOpen_iff
  · rw [hbegun, Bool.or_eq_true, h.begun_iff, TitleLine.complete_iff]
    simp only [hmem, Op.BeginDocument]
    constructor
    · rintro ((⟨o, ho, hotext⟩ | hall) | hall)
      · exact .inl ⟨o, List.mem_append_left _ ho, hotext⟩
      · refine .inr fun k => ?_
        obtain ⟨o, ho, hk⟩ := hall k
        exact ⟨o, List.mem_append_left _ ho, hk⟩
      · exact .inr hall
    · rintro (⟨o, ho, hotext⟩ | hall)
      · rcases List.mem_append.1 ho with ho | ho
        · exact .inl (.inl ⟨o, ho, hotext⟩)
        · cases List.mem_singleton.1 ho
          cases htext.symm.trans hotext
      · exact .inr hall

theorem Follows.perform (h : Follows b ops) (op : Op) :
    Follows ((pieces b op).foldl push b) (ops ++ [op]) := by
  cases op with
  | newPage => exact h.pageBreak rfl rfl fun _ => rfl
  | printLine t => exact h.text t rfl rfl fun _ => rfl
  | center t => exact h.text t rfl rfl fun _ => rfl
  | right t => exact h.text t rfl rfl fun _ => rfl
  | heading t =>
    have hclosed : Follows ((closing b).foldl push b) (ops ++ [.heading t]) :=
      h.pageBreak rfl rfl fun _ => rfl
    rw [pieces, List.foldl_append]
    exact ⟨hclosed.frameOpen_iff, hclosed.begun_iff, hclosed.mem_seen⟩
  | title t => exact h.titleLine .title t rfl rfl fun _ => rfl
  | author t => exact h.titleLine .author t rfl rfl fun _ => rfl
  | date t => exact h.titleLine .date t rfl rfl fun _ => rfl
  | _ => exact h.other rfl rfl fun _ => rfl

theorem Follows.welcomes_iff (h : Follows b ops) (op : Op) :
    Welcomes b op ↔ op.Timely ops := by
  have houtside : b.frameOpen = false ↔ ¬Op.EndInFrame ops := by
    rw [← h.frameOpen_iff, Bool.not_eq_true]
  cases op with
  | heading t => exact h.begun_iff
  | title t => exact houtside
  | author t => exact houtside
  | date t => exact houtside
  | _ => exact Iff.rfl

/-! ### A whole run -/

theorem Nested.history_inPlace_iff (h : Nested b ps) {earlier : List Op}
    (hb : Follows b earlier) (ops : List Op) :
    EachAfter Piece.InPlace ps (Beamer.history b ops) ↔ EachAfter Op.Timely earlier ops := by
  induction ops generalizing b ps earlier with
  | nil => exact Iff.rfl
  | cons op ops ih =>
    rw [Beamer.history, eachAfter_append, h.pieces_inPlace_iff, hb.welcomes_iff,
      ih (h.perform op) (hb.perform op)]
    exact Iff.rfl

theorem openDocument_quiet :
    ∃ opened, openDocument
      (⟨Host.quiet, {}, { out := { path := "talk.tex" } }, none⟩ : Stage Beamer) =
        .ok () opened := by
  have hcreate : ∃ t, openOutput
      (⟨Host.quiet, {}, { out := { path := "talk.tex" } }, none⟩ : Stage Beamer) = .ok () t :=
    ⟨_, rfl⟩
  obtain ⟨t, hcreate⟩ := hcreate
  obtain ⟨place, ht, -⟩ := openOutput_eq_ok hcreate
  obtain ⟨opened, hwrite, -⟩ := write_ok preamble ht
  exact ⟨opened, (Outcome.bind_ok hcreate).trans hwrite⟩

/-- In a document that was opened once and is closed after some operations, section commands and
title pages are in the document and outside frames, and lines of the title page outside frames,
exactly if every heading comes after the document has begun, with text or with the last line of the
title page, and no line of the title page comes after text without a page break or heading between
the two. -/
theorem commands_in_place_iff {path : Text} {width : Int} {s opened : Stage Beamer}
    (hfresh : s.surface = { out := { path := path }, width := width })
    (hopen : openDocument s = .ok () opened) (ops : List Op) :
    ∃ t closed,
      ops.forM Surface.perform opened = .ok () t ∧
      closeDocument t = .ok () closed ∧
      closed.surface.out.written.toList =
        preamble :: (history opened.surface ops ++ ending t.surface).map Piece.text ∧
      ((∀ before p after, history opened.surface ops ++ ending t.surface = before ++ p :: after →
          p.InPlace before) ↔
        ∀ earlier op later, ops = earlier ++ op :: later → op.Timely earlier) := by
  obtain ⟨_, -, hsurface⟩ := openDocument_eq_ok hopen
  obtain ⟨t, closed, hrun, hclose, hwritten⟩ := document_ok hopen ops
  have hnested : Nested opened.surface [] := by
    rw [hsurface, hfresh]
    exact ⟨rfl, nofun, 0, rfl⟩
  have hfollows : Follows opened.surface [] := by
    rw [hsurface, hfresh]
    exact ⟨Iff.rfl, iff_of_false nofun Op.not_beginDocument_nil, by simp⟩
  have hending : EachAfter Piece.InPlace (history opened.surface ops) (ending t.surface) :=
    eachAfter_brackets (isBracket_ending t.surface)
  refine ⟨t, closed, hrun, hclose, hwritten, ?_⟩
  calc (∀ before p after, history opened.surface ops ++ ending t.surface = before ++ p :: after →
        p.InPlace before)
      ↔ EachAfter Piece.InPlace [] (history opened.surface ops ++ ending t.surface) :=
        eachAfter_nil_iff.symm
    _ ↔ EachAfter Piece.InPlace [] (history opened.surface ops) :=
        eachAfter_append.trans (and_iff_left hending)
    _ ↔ EachAfter Op.Timely [] ops := hnested.history_inPlace_iff hfollows ops
    _ ↔ ∀ earlier op later, ops = earlier ++ op :: later → op.Timely earlier :=
      eachAfter_nil_iff

/-- The lines of the title page, then a heading and text. -/
theorem commands_in_place_titles_first :
    let s : Stage Beamer := ⟨Host.quiet, {}, { out := { path := "talk.tex" } }, none⟩
    let ops : List Op := [.title (some "t"), .author (some "a"), .date (some "d"),
      .heading (some "h"), .printLine (some "x")]
    ∃ opened t, openDocument s = .ok () opened ∧ ops.forM Surface.perform opened = .ok () t ∧
      ∀ before p after, history opened.surface ops ++ ending t.surface = before ++ p :: after →
        p.InPlace before := by
  intro s ops
  obtain ⟨opened, hopen⟩ := openDocument_quiet
  obtain ⟨t, _, hrun, -, -, hiff⟩ := commands_in_place_iff rfl hopen ops
  refine ⟨opened, t, hopen, hrun, hiff.2 (eachAfter_nil_iff.1 ?_)⟩
  refine ⟨nofun, nofun, nofun, .inr fun l => ?_, trivial, trivial⟩
  cases l with
  | title => exact ⟨_, .head _, rfl⟩
  | author => exact ⟨_, .tail _ (.head _), rfl⟩
  | date => exact ⟨_, .tail _ (.tail _ (.head _)), rfl⟩

/-- The title of a presentation is written into the frame of the text before it, and a heading that
comes first in front of the document. -/
theorem commands_out_of_place :
    let s : Stage Beamer := ⟨Host.quiet, {}, { out := { path := "talk.tex" } }, none⟩
    ∃ opened titled headed, openDocument s = .ok () opened ∧
      [Op.printLine (some "a"), .title (some "T")].forM Surface.perform opened = .ok () titled ∧
      titled.surface.out.written.toList =
        [preamble, beginLine "document", frameLine, beginLine "verbatim", "a",
          (Piece.titleLine .title "T").text] ∧
      ¬(Piece.titleLine .title "T").InPlace
        [.begins .document, .begins .frame, .begins .verbatim, .body "a"] ∧
      [Op.heading (some "A")].forM Surface.perform opened = .ok () headed ∧
      headed.surface.out.written.toList = [preamble, (Piece.heading "A").text] ∧
      ¬(Piece.heading "A").InPlace [] := by
  intro s
  obtain ⟨opened, hopen⟩ := openDocument_quiet
  obtain ⟨_, hopened, hsurface⟩ := openDocument_eq_ok hopen
  obtain ⟨titled, htitle, -, htitled⟩ :=
    forM_perform_writes [.printLine (some "a"), .title (some "T")] hopened
  obtain ⟨headed, hheading, -, hheaded⟩ := forM_perform_writes [.heading (some "A")] hopened
  have hlines : plainLines opened.surface.width (some "a") = ["a"] := by
    have hfifty : plainLines 50 (some "a") = ["a"] := by decide +kernel
    rw [hsurface]
    exact hfifty
  have htext : stripMarkup "T" = "T" ∧ stripMarkup "A" = "A" := by decide +kernel
  refine ⟨opened, titled, headed, hopen, htitle, ?_, fun houtside => ?_, hheading, ?_,
    fun hin => ?_⟩
  · rw [htitled, written_foldl_push, history, pieces, body, hlines, history, pieces, titling,
      Option.getD_some, htext.1, hsurface]
    rfl
  · exact houtside.1 (by decide)
  · rw [hheaded, written_foldl_push, history, pieces, Option.getD_some, htext.2, hsurface]
    rfl
  · exact List.not_mem_nil hin.1

end Beamer

end SlideDeck
