import SlideDeck.Proofs.Export.Output

/-!
# Pieces of a document of slides

Every write of `Beamer` has one of a few purposes. An action that writes is described by the pieces
that it writes (`Writes`), from which follows all that it does to the surface (`Beamer.push`).
-/

namespace SlideDeck.Beamer

open Export

instance : Lawful Beamer where
  output_setOutput _ _ := rfl

inductive Environment where
  | document
  | frame
  | verbatim
deriving DecidableEq

/-- What a write is for. -/
inductive Piece where
  | begins (e : Environment)
  | ends (e : Environment)
  | body (t : Text)
  | heading (t : Text)
  | titleLine (l : TitleLine) (t : Text)
  | titlePage
deriving DecidableEq

def Environment.name : Environment → Text
  | document => "document"
  | frame => "frame"
  | verbatim => "verbatim"

namespace Piece

def text : Piece → Text
  | begins .frame => frameLine
  | begins e => beginLine e.name
  | ends e => endLine e.name
  | body t => t
  | heading t => command "section" t
  | titleLine .title t => ("\\title[" : Text) ++ t ++ ("]" : Text) ++ braced t
  | titleLine .author t => command "author" t
  | titleLine .date t => command "date" t
  | titlePage => Beamer.titlePage

/-- What a surface remembers of a piece beside the text. -/
def mark : Piece → Beamer → Beamer
  | begins .document, b => { b with begun := true }
  | begins .frame, b => { b with frameOpen := true }
  | begins .verbatim, b => { b with verbatimOpen := true }
  | ends .frame, b => { b with frameOpen := false }
  | ends .verbatim, b => { b with verbatimOpen := false }
  | titleLine l _, b => { b with seen := TitleLine.see b.seen l }
  | ends .document, b | body _, b | heading _, b | titlePage, b => b

end Piece

def push (b : Beamer) (p : Piece) : Beamer := p.mark { b with out := b.out.push p.text }

section Fields

variable (b : Beamer) (p : Piece) (ps : List Piece)

theorem push_out : (b.push p).out = b.out.push p.text := by
  rcases p with (_ | _ | _) | (_ | _ | _) | _ | _ | _ | _ <;> rfl

theorem push_width : (b.push p).width = b.width := by
  rcases p with (_ | _ | _) | (_ | _ | _) | _ | _ | _ | _ <;> rfl

theorem written_foldl_push :
    (ps.foldl push b).out.written.toList = b.out.written.toList ++ ps.map Piece.text := by
  induction ps generalizing b with
  | nil => simp
  | cons p ps ih => simp [ih, push_out, Output.push]

theorem width_foldl_push : (ps.foldl push b).width = b.width := by
  induction ps generalizing b with
  | nil => rfl
  | cons p ps ih => rw [List.foldl_cons, ih, push_width]

end Fields

/-! ### What the operations write -/

def beginning (b : Beamer) : List Piece := if !b.begun then [.begins .document] else []

def opening (b : Beamer) : List Piece :=
  beginning b ++ (if !b.frameOpen then [.begins .frame] else []) ++
    if !b.verbatimOpen then [.begins .verbatim] else []

def closing (b : Beamer) : List Piece :=
  (if b.verbatimOpen then [.ends .verbatim] else []) ++ if b.frameOpen then [.ends .frame] else []

def body (b : Beamer) (t : Option Text) : List Piece :=
  opening b ++ (plainLines b.width t).map .body

def titling (b : Beamer) (l : TitleLine) (t : Option Text) : List Piece :=
  .titleLine l (stripMarkup (t.getD [])) ::
    if TitleLine.complete (TitleLine.see b.seen l) then beginning b ++ [.titlePage] else []

/-- What an operation writes, in the state of a surface. -/
def pieces (b : Beamer) : Op → List Piece
  | .newPage => closing b
  | .printLine t | .center t | .right t => body b t
  | .heading t => closing b ++ [.heading (stripMarkup (t.getD []))]
  | .title t => titling b .title t
  | .author t => titling b .author t
  | .date t => titling b .date t
  | _ => []

/-- What operations write one after the other. -/
def history (b : Beamer) : List Op → List Piece
  | [] => []
  | op :: ops => pieces b op ++ history ((pieces b op).foldl push b) ops

def ending (b : Beamer) : List Piece := closing b ++ beginning b ++ [.ends .document]

/-! ### Actions that write -/

/-- From a stage an action comes to its end, and the surface has the pieces then. -/
def Writes (clean : Prop) (place : Place) (x : Act Beamer Unit) (ps : List Piece)
    (s : Stage Beamer) : Prop :=
  ∃ t, x s = .ok () t ∧ WritesTo clean place t ∧ t.surface = ps.foldl push s.surface

variable {clean : Prop} {place : Place} {s : Stage Beamer} {x y : Act Beamer Unit}
  {ps qs : List Piece}

theorem Writes.nothing (h : WritesTo clean place s) : Writes clean place (pure ()) [] s :=
  ⟨s, rfl, h, rfl⟩

theorem Writes.bind (hx : Writes clean place x ps s)
    (hy : ∀ t, WritesTo clean place t → t.surface = ps.foldl push s.surface →
      Writes clean place y qs t) :
    Writes clean place (x >>= fun _ => y) (ps ++ qs) s := by
  obtain ⟨t, hrun, ht, hsurface⟩ := hx
  obtain ⟨u, hrest, hu, hend⟩ := hy t ht hsurface
  refine ⟨u, (Outcome.bind_ok hrun).trans hrest, hu, ?_⟩
  rw [hend, hsurface, List.foldl_append]

theorem writes_piece (p : Piece) (h : WritesTo clean place s) :
    Writes clean place (write p.text >>= fun _ => Act.modifySurface p.mark) [p] s := by
  obtain ⟨t, hwrite, ht, hsurface⟩ := write_ok p.text h
  refine ⟨{ t with surface := p.mark t.surface }, (Outcome.bind_ok hwrite).trans rfl, ?_, ?_⟩
  · refine ht.of_surface rfl ?_
    rcases p with (_ | _ | _) | (_ | _ | _) | _ | _ | _ | _ <;> rfl
  · exact congrArg p.mark hsurface

theorem writes_text {p : Piece} (hp : p.mark = id) (h : WritesTo clean place s) :
    Writes clean place (write p.text) [p] s := by
  obtain ⟨t, hwrite, ht, hsurface⟩ := write_ok p.text h
  refine ⟨t, hwrite, ht, hsurface.trans ?_⟩
  show _ = p.mark _
  rw [hp]
  rfl

theorem Writes.ite (c : Beamer → Bool) (h : WritesTo clean place s)
    (hx : Writes clean place x ps s) :
    Writes clean place (do if c (← Act.surface) then x) (if c s.surface then ps else []) s := by
  by_cases hc : c s.surface = true
  · obtain ⟨t, hrun, ht⟩ := hx
    rw [if_pos hc]
    refine ⟨t, (Outcome.bind_ok rfl).trans ?_, ht⟩
    rw [if_pos hc]
    exact hrun
  · rw [if_neg hc]
    refine ⟨s, (Outcome.bind_ok rfl).trans ?_, h, rfl⟩
    rw [if_neg hc]
    rfl

theorem writes_if_then (c : Beamer → Bool) (p : Piece) (h : WritesTo clean place s)
    (hy : ∀ t, WritesTo clean place t →
      t.surface = (if c s.surface then [p] else []).foldl push s.surface →
      Writes clean place y qs t) :
    Writes clean place (do
      if c (← Act.surface) then
        write p.text
        Act.modifySurface p.mark
      y) ((if c s.surface then [p] else []) ++ qs) s := by
  have hbind := (Writes.ite c h (writes_piece p h)).bind hy
  rw [bind_assoc] at hbind
  convert hbind using 3 with b
  split
  · rw [bind_assoc]
  · rw [pure_bind]

/-! ### The operations -/

theorem beginDocument_writes (h : WritesTo clean place s) :
    Writes clean place beginDocument (beginning s.surface) s :=
  .ite (fun b => !b.begun) h (writes_piece (.begins .document) h)

theorem frameOpen_beginning (b : Beamer) :
    ((beginning b).foldl push b).frameOpen = b.frameOpen := by
  unfold beginning
  split_ifs <;> rfl

theorem verbatimOpen_beginning (b : Beamer) :
    ((beginning b).foldl push b).verbatimOpen = b.verbatimOpen := by
  unfold beginning
  split_ifs <;> rfl

theorem openFrame_writes (h : WritesTo clean place s) :
    Writes clean place openFrame (opening s.surface) s := by
  rw [opening, List.append_assoc]
  refine (beginDocument_writes h).bind fun t ht hbegun => ?_
  rw [← frameOpen_beginning, ← verbatimOpen_beginning, ← hbegun]
  refine writes_if_then (fun b => !b.frameOpen) (.begins .frame) ht fun u hu hframe => ?_
  have hverbatim : u.surface.verbatimOpen = t.surface.verbatimOpen := by
    rw [hframe]
    split_ifs <;> rfl
  rw [← hverbatim]
  exact .ite (fun b => !b.verbatimOpen) hu (writes_piece (.begins .verbatim) hu)

theorem closeFrame_writes (h : WritesTo clean place s) :
    Writes clean place closeFrame (closing s.surface) s := by
  refine writes_if_then (·.verbatimOpen) (.ends .verbatim) h fun t ht hverbatim => ?_
  have hframe : t.surface.frameOpen = s.surface.frameOpen := by
    rw [hverbatim]
    split_ifs <;> rfl
  rw [← hframe]
  exact .ite (·.frameOpen) ht (writes_piece (.ends .frame) ht)

theorem writeAll_writes (texts : List Text) (h : WritesTo clean place s) :
    Writes clean place (writeAll texts) (texts.map .body) s := by
  induction texts generalizing s with
  | nil => exact .nothing h
  | cons t texts ih => exact (writes_text (p := .body t) rfl h).bind fun _ ht _ => ih ht

theorem writeText_writes (t : Option Text) (h : WritesTo clean place s) :
    Writes clean place (writeText t) (body s.surface t) s := by
  refine (openFrame_writes h).bind fun u hu hopen => ?_
  have hwidth : s.surface.width = u.surface.width := by rw [hopen, width_foldl_push]
  rw [hwidth]
  obtain ⟨v, hv⟩ := writeAll_writes (plainLines u.surface.width t) hu
  exact ⟨v, (Outcome.bind_ok rfl).trans hv.1, hv.2⟩

theorem writeTitleLine_writes (l : TitleLine) (t : Option Text) (h : WritesTo clean place s) :
    Writes clean place (writeTitleLine l (Piece.titleLine l (stripMarkup (t.getD []))).text)
      (titling s.surface l t) s := by
  let line := Piece.titleLine l (stripMarkup (t.getD []))
  have hrest (u : Stage Beamer) (hu : WritesTo clean place u)
      (hline : u.surface = push s.surface line) :
      Writes clean place (do
        if TitleLine.complete (← Act.surface).seen then
          beginDocument
          write titlePage)
        (if TitleLine.complete (TitleLine.see s.surface.seen l) then
          beginning s.surface ++ [.titlePage] else []) u := by
    have hseen : TitleLine.see s.surface.seen l = u.surface.seen := by
      rw [hline]
      rfl
    have hbegun : beginning s.surface = beginning u.surface := by
      rw [hline]
      rfl
    rw [hseen, hbegun]
    exact .ite (fun b => TitleLine.complete b.seen) hu <| (beginDocument_writes hu).bind
      fun _ hv _ => writes_text (p := .titlePage) rfl hv
  have hbind := (writes_piece line h).bind hrest
  rw [bind_assoc] at hbind
  exact hbind

theorem perform_writes (op : Op) (h : WritesTo clean place s) :
    Writes clean place (perform op) (pieces s.surface op) s := by
  cases op with
  | newPage => exact closeFrame_writes h
  | printLine t => exact writeText_writes t h
  | center t => exact writeText_writes t h
  | right t => exact writeText_writes t h
  | heading t =>
    exact (closeFrame_writes h).bind fun _ hu _ =>
      writes_text (p := .heading (stripMarkup (t.getD []))) rfl hu
  | title t => exact writeTitleLine_writes .title t h
  | author t => exact writeTitleLine_writes .author t h
  | date t => exact writeTitleLine_writes .date t h
  | _ => exact .nothing h

theorem forM_perform_writes (ops : List Op) (h : WritesTo clean place s) :
    Writes clean place (ops.forM Surface.perform) (history s.surface ops) s := by
  induction ops generalizing s with
  | nil => exact .nothing h
  | cons op ops ih =>
    refine (perform_writes op h).bind fun t ht hsurface => ?_
    rw [← hsurface]
    exact ih ht

/-! ### The document as a whole -/

theorem openDocument_eq_ok {opened : Stage Beamer} (h : openDocument s = .ok () opened) :
    ∃ place, WritesTo (s.surface.out.place = none ∧ s.host.files.node? place ≠ some .sink) place
        opened ∧
      opened.surface =
        let out : Output := { path := s.surface.out.path, place := some place }
        { s.surface with out := out.push preamble } := by
  obtain ⟨_, t, hopen, hwrite⟩ := Outcome.bind_eq_ok h
  obtain ⟨place, ht, hsurface⟩ := openOutput_eq_ok hopen
  obtain ⟨u, hrun, hu, hpushed⟩ := write_ok preamble ht
  cases hrun.symm.trans hwrite
  refine ⟨place, hu, ?_⟩
  rw [hpushed, hsurface]
  rfl

theorem written_of_openDocument {opened : Stage Beamer} (h : openDocument s = .ok () opened) :
    opened.surface.out.written.toList = [preamble] := by
  obtain ⟨_, -, hsurface⟩ := openDocument_eq_ok h
  rw [hsurface]
  rfl

def shut (b : Beamer) : Beamer := { b with out := { b.out with place := none } }

theorem closeDocument_ok (h : WritesTo clean place s) :
    ∃ t, closeDocument s = .ok () t ∧
      t.surface = shut ((ending s.surface).foldl push s.surface) ∧
      (clean → t.host.files.node? place =
        some (.file (Text.Utf8.encode ((ending s.surface).foldl push s.surface).out.content))) := by
  have hending : Writes clean place (do closeFrame; beginDocument; write (endLine "document"))
      (ending s.surface) s := by
    rw [ending, List.append_assoc]
    refine (closeFrame_writes h).bind fun t ht hclosed => ?_
    have hbegun : beginning s.surface = beginning t.surface := by
      rw [hclosed, closing]
      split_ifs <;> rfl
    rw [hbegun]
    exact (beginDocument_writes ht).bind fun _ hu _ => writes_text (p := .ends .document) rfl hu
  obtain ⟨t, hrun, ht, hsurface⟩ := hending
  obtain ⟨u, hclose, hu, hfile⟩ := closeOutput_ok ht
  refine ⟨u, ?_, ?_, ?_⟩
  · have hopen : (output s.surface).place.isSome = true := by
      rw [h.place_eq]
      rfl
    have hbind := (Outcome.bind_ok (f := fun _ => closeOutput) hrun).trans hclose
    simp only [bind_assoc] at hbind
    refine (Outcome.bind_ok rfl).trans ?_
    rw [if_pos hopen]
    exact hbind
  · rw [hu, hsurface]
    rfl
  · rw [hsurface] at hfile
    exact hfile

/-- A document that is opened, written by some operations, and closed. -/
theorem document_ok {opened : Stage Beamer} (hopen : openDocument s = .ok () opened)
    (ops : List Op) :
    ∃ t closed, ops.forM Surface.perform opened = .ok () t ∧ closeDocument t = .ok () closed ∧
      closed.surface.out.written.toList =
        preamble :: (history opened.surface ops ++ ending t.surface).map Piece.text := by
  obtain ⟨place, hopened, -⟩ := openDocument_eq_ok hopen
  obtain ⟨t, hrun, ht, hpushed⟩ := forM_perform_writes ops hopened
  obtain ⟨closed, hclose, hshut, -⟩ := closeDocument_ok ht
  refine ⟨t, closed, hrun, hclose, ?_⟩
  rw [hshut, shut, written_foldl_push, hpushed, written_foldl_push,
    written_of_openDocument hopen, List.map_append]
  rfl

theorem closeDocument_of_closed (h : s.surface.out.place = none) :
    closeDocument s = .ok () s := by
  have hclosed : (output s.surface).place.isSome = false := congrArg Option.isSome h
  refine (Outcome.bind_ok rfl).trans ?_
  rw [hclosed]
  rfl

end SlideDeck.Beamer
