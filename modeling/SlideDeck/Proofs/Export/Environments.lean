import SlideDeck.Proofs.Export.Pieces

/-!
# Environments of a document of slides

The flags of `Beamer` always agree with the environments that it has begun and not ended: a document
has complete frames, and at the end one that is open when the flags say so. Text goes inside a
frame, headings go between frames, and closing the document ends all that is open.
-/

namespace SlideDeck.Beamer

open Export

def Piece.isBracket : Piece → Bool
  | begins _ | ends _ => true
  | body _ | heading _ | titleLine _ _ | titlePage => false

def brackets (ps : List Piece) : List Piece := ps.filter Piece.isBracket

def group : List Piece := [.begins .frame, .begins .verbatim, .ends .verbatim, .ends .frame]

/-- The environments of a document that has not ended: complete frames, then maybe an open one. -/
def skeleton (groups : Nat) (frameOpen : Bool) : List Piece :=
  .begins .document :: (List.replicate groups group).flatten ++
    if frameOpen then [.begins .frame, .begins .verbatim] else []

/-- Whether a surface is in the state in which a piece belongs. -/
def Piece.Fits (b : Beamer) : Piece → Prop
  | body _ => b.frameOpen = true ∧ b.verbatimOpen = true
  | heading _ => b.frameOpen = false ∧ b.verbatimOpen = false
  | begins _ | ends _ | titleLine _ _ | titlePage => True

def Placed : Beamer → List Piece → Prop
  | _, [] => True
  | b, p :: ps => p.Fits b ∧ Placed (b.push p) ps

/-- The flags of a surface that wrote some pieces agree with these. -/
structure Nested (b : Beamer) (ps : List Piece) : Prop where
  verbatimOpen_eq : b.verbatimOpen = b.frameOpen
  begun_of_frameOpen : b.frameOpen = true → b.begun = true
  brackets_eq : ∃ groups, brackets ps = if b.begun then skeleton groups b.frameOpen else []

variable {b : Beamer} {ps qs : List Piece}

theorem brackets_append (ps qs : List Piece) : brackets (ps ++ qs) = brackets ps ++ brackets qs :=
  List.filter_append ..

theorem skeleton_open (groups : Nat) :
    skeleton groups false ++ [.begins .frame, .begins .verbatim] = skeleton groups true := by
  simp [skeleton]

theorem skeleton_close (groups : Nat) :
    skeleton groups true ++ [.ends .verbatim, .ends .frame] = skeleton (groups + 1) false := by
  simp [skeleton, List.replicate_succ', group]

theorem placed_append : Placed b (ps ++ qs) ↔ Placed b ps ∧ Placed (ps.foldl push b) qs := by
  induction ps generalizing b with
  | nil => simp [Placed]
  | cons p ps ih => simp only [List.cons_append, Placed, ih, List.foldl_cons, and_assoc]

theorem Placed.fits {before after : List Piece} {p : Piece} (h : Placed b (before ++ p :: after)) :
    p.Fits (before.foldl push b) :=
  (placed_append.1 h).2.1

theorem placed_if (c : Bool) {p : Piece} (hp : ∀ b, p.Fits b) :
    Placed b (if c then [p] else []) := by
  cases c with
  | true => exact ⟨hp b, trivial⟩
  | false => trivial

theorem placed_body (texts : List Text) (hframe : b.frameOpen = true)
    (hverbatim : b.verbatimOpen = true) : Placed b (texts.map .body) := by
  induction texts generalizing b with
  | nil => trivial
  | cons t texts ih => exact ⟨⟨hframe, hverbatim⟩, ih hframe hverbatim⟩

theorem placed_beginning (b : Beamer) : Placed b (beginning b) := placed_if _ fun _ => trivial

theorem placed_opening (b : Beamer) : Placed b (opening b) :=
  placed_append.2 ⟨placed_append.2 ⟨placed_beginning b, placed_if _ fun _ => trivial⟩,
    placed_if _ fun _ => trivial⟩

theorem placed_closing (b : Beamer) : Placed b (closing b) :=
  placed_append.2 ⟨placed_if _ fun _ => trivial, placed_if _ fun _ => trivial⟩

/-! ### The flags after some pieces -/

theorem begun_beginning (b : Beamer) : ((beginning b).foldl push b).begun = true := by
  cases hb : b.begun with
  | false =>
    rw [beginning, hb]
    rfl
  | true =>
    rw [beginning, hb]
    exact hb

theorem flags_opening (b : Beamer) :
    let after := (opening b).foldl push b
    after.frameOpen = true ∧ after.verbatimOpen = true ∧ after.begun = true := by
  rcases b with ⟨_, _, _ | _, _ | _, _ | _, _⟩ <;> exact ⟨rfl, rfl, rfl⟩

theorem flags_closing (b : Beamer) :
    let after := (closing b).foldl push b
    after.frameOpen = false ∧ after.verbatimOpen = false ∧ after.begun = b.begun := by
  rcases b with ⟨_, _, _ | _, _ | _, _ | _, _⟩ <;> exact ⟨rfl, rfl, rfl⟩

theorem flags_of_not_bracket (h : ∀ p ∈ ps, p.isBracket = false) :
    let after := ps.foldl push b
    after.frameOpen = b.frameOpen ∧ after.verbatimOpen = b.verbatimOpen ∧
      after.begun = b.begun := by
  induction ps generalizing b with
  | nil => exact ⟨rfl, rfl, rfl⟩
  | cons p ps ih =>
    obtain ⟨hframe, hverbatim, hbegun⟩ := ih fun q hq => h q (List.mem_cons_of_mem p hq)
    have hp := h p List.mem_cons_self
    have hpush : (b.push p).frameOpen = b.frameOpen ∧ (b.push p).verbatimOpen = b.verbatimOpen ∧
        (b.push p).begun = b.begun := by
      cases p with
      | begins e => cases hp
      | ends e => cases hp
      | _ => exact ⟨rfl, rfl, rfl⟩
    exact ⟨hframe.trans hpush.1, hverbatim.trans hpush.2.1, hbegun.trans hpush.2.2⟩

/-! ### One operation -/

theorem Nested.begin (h : Nested b ps) :
    Nested ((beginning b).foldl push b) (ps ++ beginning b) := by
  cases hb : b.begun with
  | true =>
    rw [beginning, hb]
    simpa using h
  | false =>
    obtain ⟨groups, hbrackets⟩ := h.brackets_eq
    have hframe : b.frameOpen = false := by
      rw [Bool.eq_false_iff]
      intro hopen
      cases hb.symm.trans (h.begun_of_frameOpen hopen)
    rw [beginning, hb]
    refine ⟨h.verbatimOpen_eq, fun _ => rfl, 0, ?_⟩
    rw [brackets_append, hbrackets, hb]
    show _ = skeleton 0 b.frameOpen
    rw [hframe]
    rfl

theorem Nested.open (h : Nested b ps) :
    Nested ((opening b).foldl push b) (ps ++ opening b) := by
  obtain ⟨hframe, hverbatim, hbegun⟩ := flags_opening b
  refine ⟨hverbatim.trans hframe.symm, fun _ => hbegun, ?_⟩
  rw [hframe, hbegun]
  cases hopen : b.frameOpen with
  | true =>
    obtain ⟨groups, hbrackets⟩ := h.brackets_eq
    rw [hopen, h.begun_of_frameOpen hopen] at hbrackets
    refine ⟨groups, ?_⟩
    rw [opening, beginning, hopen, h.verbatimOpen_eq.trans hopen, h.begun_of_frameOpen hopen]
    simpa using hbrackets
  | false =>
    obtain ⟨groups, hbrackets⟩ := h.begin.brackets_eq
    rw [begun_beginning, frameOpen_beginning, hopen] at hbrackets
    refine ⟨groups, ?_⟩
    rw [opening, hopen, h.verbatimOpen_eq.trans hopen, List.append_assoc, ← List.append_assoc,
      brackets_append, hbrackets]
    exact skeleton_open groups

theorem Nested.close (h : Nested b ps) :
    Nested ((closing b).foldl push b) (ps ++ closing b) := by
  obtain ⟨hframe, hverbatim, hbegun⟩ := flags_closing b
  obtain ⟨groups, hbrackets⟩ := h.brackets_eq
  refine ⟨hverbatim.trans hframe.symm, fun hopen => ?_, ?_⟩
  · cases hframe.symm.trans hopen
  rw [hframe, hbegun, closing, h.verbatimOpen_eq]
  cases hopen : b.frameOpen with
  | true =>
    rw [hopen, h.begun_of_frameOpen hopen] at hbrackets
    refine ⟨groups + 1, ?_⟩
    rw [brackets_append, hbrackets, h.begun_of_frameOpen hopen]
    exact skeleton_close groups
  | false =>
    rw [hopen] at hbrackets
    refine ⟨groups, ?_⟩
    simpa using hbrackets

theorem Nested.append (h : Nested b ps) (hqs : ∀ p ∈ qs, p.isBracket = false) :
    Nested (qs.foldl push b) (ps ++ qs) := by
  obtain ⟨hframe, hverbatim, hbegun⟩ := flags_of_not_bracket (b := b) hqs
  have hnone : brackets qs = [] := by
    rw [brackets, List.filter_eq_nil_iff]
    exact fun p hp => by rw [hqs p hp]; exact Bool.false_ne_true
  refine ⟨?_, ?_, ?_⟩
  · rw [hframe, hverbatim, h.verbatimOpen_eq]
  · rw [hframe, hbegun]
    exact h.begun_of_frameOpen
  · rw [hframe, hbegun, brackets_append, hnone, List.append_nil]
    exact h.brackets_eq

theorem Nested.concat {p : Piece} (h : Nested b ps) (hp : p.isBracket = false) :
    Nested ([p].foldl push b) (ps ++ [p]) := by
  refine h.append fun q hq => ?_
  rw [List.mem_singleton.1 hq, hp]

theorem Nested.body (h : Nested b ps) (t : Option Text) :
    Nested ((body b t).foldl push b) (ps ++ body b t) := by
  rw [Beamer.body, List.foldl_append, ← List.append_assoc]
  refine h.open.append fun p hp => ?_
  obtain ⟨_, -, rfl⟩ := List.mem_map.1 hp
  rfl

theorem Nested.titling (h : Nested b ps) (l : TitleLine) (t : Option Text) :
    Nested ((titling b l t).foldl push b) (ps ++ titling b l t) := by
  let line := Piece.titleLine l (stripMarkup (t.getD []))
  have hline : Nested ([line].foldl push b) (ps ++ [line]) := h.concat rfl
  rw [Beamer.titling, List.foldl_cons, List.append_cons ps]
  split_ifs with hcomplete
  · rw [List.foldl_append, ← List.append_assoc]
    exact hline.begin.concat (p := .titlePage) rfl
  · rw [List.append_nil]
    exact hline

theorem Nested.perform (h : Nested b ps) (op : Op) :
    Nested ((pieces b op).foldl push b) (ps ++ pieces b op) := by
  cases op with
  | newPage => exact h.close
  | printLine t => exact h.body t
  | center t => exact h.body t
  | right t => exact h.body t
  | heading t =>
    rw [pieces, List.foldl_append, ← List.append_assoc]
    exact h.close.concat (p := .heading _) rfl
  | title t => exact h.titling .title t
  | author t => exact h.titling .author t
  | date t => exact h.titling .date t
  | _ => exact (List.append_nil ps).symm ▸ h

theorem placed_titling (b : Beamer) (l : TitleLine) (t : Option Text) :
    Placed b (titling b l t) := by
  refine ⟨trivial, ?_⟩
  split_ifs
  · exact placed_append.2 ⟨placed_beginning (b.push _), trivial, trivial⟩
  · trivial

theorem placed_pieces (b : Beamer) (op : Op) : Placed b (pieces b op) := by
  obtain ⟨hframe, hverbatim, -⟩ := flags_opening b
  have hbody (t : Option Text) : Placed b (body b t) :=
    placed_append.2 ⟨placed_opening b, placed_body _ hframe hverbatim⟩
  cases op with
  | newPage => exact placed_closing b
  | printLine t => exact hbody t
  | center t => exact hbody t
  | right t => exact hbody t
  | heading t =>
    obtain ⟨hframe, hverbatim, -⟩ := flags_closing b
    exact placed_append.2 ⟨placed_closing b, ⟨hframe, hverbatim⟩, trivial⟩
  | title t => exact placed_titling b .title t
  | author t => exact placed_titling b .author t
  | date t => exact placed_titling b .date t
  | _ => trivial

/-! ### A whole run -/

theorem Nested.history (h : Nested b ps) (ops : List Op) :
    Nested ((history b ops).foldl push b) (ps ++ history b ops) := by
  induction ops generalizing b ps with
  | nil =>
    rw [Beamer.history, List.append_nil]
    exact h
  | cons op ops ih =>
    rw [Beamer.history, List.foldl_append, ← List.append_assoc]
    exact ih (h.perform op)

theorem placed_history (b : Beamer) (ops : List Op) : Placed b (history b ops) := by
  induction ops generalizing b with
  | nil => trivial
  | cons op ops ih => exact placed_append.2 ⟨placed_pieces b op, ih _⟩

theorem Nested.ended (h : Nested b ps) :
    ∃ groups, brackets (ps ++ ending b) = skeleton groups false ++ [.ends .document] := by
  obtain ⟨hframe, -, hbegun⟩ := flags_closing b
  obtain ⟨groups, hbrackets⟩ := h.close.begin.brackets_eq
  have hbeginning : beginning ((closing b).foldl push b) = beginning b := by
    rw [beginning, hbegun]
    rfl
  rw [begun_beginning, frameOpen_beginning, hframe, hbeginning, List.append_assoc] at hbrackets
  refine ⟨groups, ?_⟩
  rw [ending, ← List.append_assoc, brackets_append, hbrackets]
  rfl

/-- Whatever is asked of a document that was opened once: frames come one after the other, each with
one verbatim block, the flags say whether the last one is open, text is inside and headings are
outside. Closing ends what is open and the document, and a second time does nothing. -/
theorem environments_nest {path : Text} {width : Int} {s opened : Stage Beamer}
    (hfresh : s.surface = { out := { path := path }, width := width })
    (hopen : openDocument s = .ok () opened) (ops : List Op) :
    ∃ place t closed groups total,
      opened.surface.out.place = some place ∧
      ops.forM Surface.perform opened = .ok () t ∧
      t.surface = (history opened.surface ops).foldl push opened.surface ∧
      t.surface.out.written.toList =
        preamble :: (history opened.surface ops).map Piece.text ∧
      t.surface.verbatimOpen = t.surface.frameOpen ∧
      (t.surface.frameOpen = true → t.surface.begun = true) ∧
      brackets (history opened.surface ops) =
        (if t.surface.begun then skeleton groups t.surface.frameOpen else []) ∧
      (∀ before p after, history opened.surface ops = before ++ p :: after →
        p.Fits (before.foldl push opened.surface)) ∧
      closeDocument t = .ok () closed ∧
      closed.surface.out.written.toList =
        preamble :: (history opened.surface ops ++ ending t.surface).map Piece.text ∧
      (s.host.files.node? place = some .sink ∨ closed.host.files.node? place =
        some (.file (Text.Utf8.encode (Output.text closed.surface.out.written.toList)))) ∧
      brackets (history opened.surface ops ++ ending t.surface) =
        skeleton total false ++ [.ends .document] ∧
      (ending t.surface).getLast? = some (.ends .document) ∧
      closeDocument closed = .ok () closed := by
  obtain ⟨place, hopened, hsurface⟩ := openDocument_eq_ok hopen
  obtain ⟨t, hrun, ht, hpushed⟩ := forM_perform_writes ops hopened
  obtain ⟨closed, hclose, hshut, hfile⟩ := closeDocument_ok ht
  have hstart : Nested opened.surface [] := by
    rw [hsurface, hfresh]
    exact ⟨rfl, nofun, 0, rfl⟩
  have hnested := hstart.history ops
  rw [← hpushed, List.nil_append] at hnested
  obtain ⟨groups, hbrackets⟩ := hnested.brackets_eq
  obtain ⟨total, htotal⟩ := hnested.ended
  have hwritten : t.surface.out.written.toList =
      preamble :: (history opened.surface ops).map Piece.text := by
    rw [hpushed, written_foldl_push, written_of_openDocument hopen]
    rfl
  have hall : ((ending t.surface).foldl push t.surface).out.written.toList =
      preamble :: (history opened.surface ops ++ ending t.surface).map Piece.text := by
    rw [written_foldl_push, hwritten, List.map_append]
    rfl
  refine ⟨place, t, closed, groups, total, hopened.place_eq, hrun, hpushed, hwritten,
    hnested.verbatimOpen_eq, hnested.begun_of_frameOpen, hbrackets,
    fun before p after hsplit => ?_, hclose, ?_, ?_, htotal, List.getLast?_concat,
    closeDocument_of_closed (hshut ▸ rfl)⟩
  · exact Placed.fits (hsplit ▸ placed_history opened.surface ops)
  · rw [hshut]
    exact hall
  · refine or_iff_not_imp_left.2 fun hkept => ?_
    rw [hshut]
    exact hfile ⟨hfresh ▸ rfl, hkept⟩

/-- A page with a line, and one with a heading and a centred line. -/
theorem environments_nest_two_pages :
    let s : Stage Beamer := ⟨Host.quiet, {}, { out := { path := "talk.tex" } }, none⟩
    let ops : List Op := [.printLine (some "a"), .newPage, .heading (some "b"), .center (some "c")]
    ∃ opened t closed groups total, openDocument s = .ok () opened ∧
      ops.forM Surface.perform opened = .ok () t ∧
      brackets (history opened.surface ops) =
        (if t.surface.begun then skeleton groups t.surface.frameOpen else []) ∧
      closeDocument t = .ok () closed ∧
      brackets (history opened.surface ops ++ ending t.surface) =
        skeleton total false ++ [.ends .document] := by
  intro s ops
  have hfresh : s.surface = { out := { path := "talk.tex" }, width := 50 } := rfl
  have hcreate : ∃ t, openOutput s = .ok () t := ⟨_, rfl⟩
  obtain ⟨t, hcreate⟩ := hcreate
  obtain ⟨place, ht, -⟩ := openOutput_eq_ok hcreate
  obtain ⟨opened, hwrite, -⟩ := write_ok preamble ht
  have hopen : openDocument s = .ok () opened := (Outcome.bind_ok hcreate).trans hwrite
  obtain ⟨_, t, closed, groups, total, -, hrun, -, -, -, -, hbrackets, -, hclose, -, -, htotal,
    -⟩ := environments_nest hfresh hopen ops
  exact ⟨opened, t, closed, groups, total, hopen, hrun, hbrackets, hclose, htotal⟩

end SlideDeck.Beamer
