import SlideDeck.Proofs.Export.Output
import SlideDeck.Proofs.Faults
import SlideDeck.Surface.Handout

/-!
# Lines of handouts

Whatever is asked of a handout, and even if it is broken off, its output stays open. Text printed in
a frame is written line by line behind a bar, without its markers.
-/

namespace SlideDeck.Handout

open Export Outcome

instance : Lawful Handout := ⟨fun _ _ => rfl⟩

variable {clean : Prop} {place : Place} {s : Stage Handout}

/-! ### An open output -/

section Steps

variable {P : Stage Handout → Prop} {E : Fault → Prop}

/-- What an operation asks of letters that a handout of some width may have no room for. -/
inductive OpFault (l : Lettering) (width : Int) : Op → Fault → Prop where
  | huge {t font : Text} {framed : Bool}
      (hroom : l.hasRoom font (max 1 (if framed then width - 2 else width)).toNat t = false) :
      OpFault l width (.huge t) (.refused .letters)

/-- The steps that a handout writes by keep a property and have only some faults. -/
structure Steps (P : Stage Handout → Prop) (E : Fault → Prop) : Prop where
  write : ∀ t, Ends P Any E (write t : Act Handout Unit)
  change : ∀ s t, t.host = s.host → t.surface.out = s.surface.out →
    t.surface.width = s.surface.width → P s → P t
  blanks : ∀ s n, P s → n ≤ max 0 s.surface.width → Ends P Any E (Act.copies (σ := Handout) n ' ')

theorem flushLeft_le (width length : Int) (_ : 0 ≤ length) :
    flushLeft width length ≤ max 0 width := by
  unfold flushLeft
  omega

theorem centered_le (width length : Int) (h : 0 ≤ length) :
    centered width length ≤ max 0 width := by
  unfold centered
  omega

theorem flushRight_le (width length : Int) (h : 0 ≤ length) :
    flushRight width length ≤ max 0 width := by
  unfold flushRight
  omega

namespace Steps

theorem modifySurface (h : Steps P E) {f : Handout → Handout} (hout : ∀ b, (f b).out = b.out)
    (hwidth : ∀ b, (f b).width = b.width) : Ends P Any E (Act.modifySurface f) :=
  .modify fun s hs => h.change s _ rfl (hout _) (hwidth _) hs

theorem emit (h : Steps P E) (line : Text) : Ends P Any E (emit line) :=
  .andThen Act.surface_ends fun _ => h.write _

theorem emitText (h : Steps P E) {lead : Int → Int → Int}
    (hlead : ∀ width length, 0 ≤ length → lead width length ≤ max 0 width) (t : Option Text) :
    Ends P Any E (emitText lead t) := by
  refine .bind Act.surface_ends fun b hb => .forM fun line _ => ?_
  obtain ⟨s, hs, rfl⟩ := hb
  have hblanks := h.blanks s _ hs (hlead s.surface.width line.length (Int.natCast_nonneg _))
  exact .andThen hblanks fun _ => h.emit _

theorem writeTitleLine (h : Steps P E) (l : TitleLine) (label : Text) (t : Option Text) :
    Ends P Any E (writeTitleLine l label t) :=
  .andThen (h.write _) fun _ => .andThen (h.modifySurface (fun _ => rfl) fun _ => rfl) fun _ =>
    .andThen Act.surface_ends fun _ => .ite (fun _ => h.write _) fun _ => .pure trivial

theorem perform (h : Steps P E) {op : Op}
    (hop : ∀ s t e, P s → P t → OpFault t.host.lettering s.surface.width op e → E e) :
    Ends P Any E (perform op) := by
  cases op with
  | newPage | horizontalLine => exact h.write _
  | printLine t => exact h.emitText flushLeft_le t
  | center t => exact h.emitText centered_le t
  | right t => exact h.emitText flushRight_le t
  | heading t =>
    exact .andThen (h.write _) fun _ => .andThen Act.surface_ends fun _ =>
      .andThen (.forM fun _ _ => h.write _) fun _ => h.write _
  | beginOutput | beginShellOutput | endOutput | endShellOutput =>
    exact .andThen (h.write _) fun _ => h.modifySurface (fun _ => rfl) fun _ => rfl
  | setHugeFont name => exact .modify fun s hs => h.change s _ rfl rfl rfl hs
  | huge t =>
    refine .bind Act.surface_ends fun b hb => ?_
    obtain ⟨s, hs, rfl⟩ := hb
    refine .andThen (HugeText.render_ends (fun s _ _ hs => h.change s _ rfl rfl rfl hs) t _ _
      fun u used hu hroom => hop s u _ hs hu (.huge hroom)) fun _ => ?_
    exact .forM fun _ _ => h.emitText flushLeft_le _
  | title t | author t | date t => exact h.writeTitleLine _ _ t
  | _ => exact .pure trivial

end Steps

end Steps

theorem writesTo_steps : Steps (WritesTo clean place) Any where
  write t := by
    intro s hs
    obtain ⟨u, hwrite, hu, -⟩ := write_ok t hs
    rw [hwrite]
    exact ⟨trivial, hu⟩
  change _ _ hhost hout _ hs := hs.of_surface hhost hout
  blanks _ _ _ _ := Act.copies_ends (fun _ => trivial) (fun _ => trivial) ' '

theorem perform_keeps (op : Op) : Keeps (WritesTo clean place) (perform op) :=
  keeps_iff_ends.2 (writesTo_steps.perform fun _ _ _ _ _ _ => trivial)

/-! ### Frames -/

def closingRule : Text := ("`" : Text) ++ Text.rule 27 '-'

theorem openFrame_ok (h : WritesTo clean place s) :
    ∃ u, openFrame s = .ok () u ∧ WritesTo clean place u ∧
      u.surface = { s.surface with
        out := s.surface.out.push (("." : Text) ++ Text.rule 27 '-'), framed := true } := by
  obtain ⟨t, hwrite, ht, hsurface⟩ := write_ok (("." : Text) ++ Text.rule 27 '-') h
  refine ⟨_, (Outcome.bind_ok hwrite).trans rfl, ht.of_surface rfl rfl, ?_⟩
  show { t.surface with framed := true } = _
  rw [hsurface]
  rfl

/-- The end of a frame is written, whether one is open or not. -/
theorem closeFrame_ok (h : WritesTo clean place s) :
    ∃ u, closeFrame s = .ok () u ∧ WritesTo clean place u ∧
      u.surface = { s.surface with out := s.surface.out.push closingRule, framed := false } := by
  obtain ⟨t, hwrite, ht, hsurface⟩ := write_ok closingRule h
  refine ⟨_, (Outcome.bind_ok hwrite).trans rfl, ht.of_surface rfl rfl, ?_⟩
  show { t.surface with framed := false } = _
  rw [hsurface]
  rfl

/-- A line as it is written: behind a bar in a frame. -/
def barred (framed : Bool) (line : Text) : Text := if framed then ("| " : Text) ++ line else line

/-- A line behind the blanks that bring it to its place. -/
def placed (lead : (width length : Int) → Int) (width : Int) (line : Text) : Text :=
  Text.rule (lead width line.length) ' ' ++ line

theorem emitLines_ok (lead : (width length : Int) → Int) (width : Int) (lines : List Text)
    (hlead : ∀ line ∈ lines, lead width line.length ≤ Act.memoryLimit)
    (h : WritesTo clean place s) :
    ∃ u, (lines.forM fun line => do
        let blanks ← Act.copies (lead width line.length) ' '
        emit (blanks ++ line) : Act Handout Unit) s = .ok () u ∧ WritesTo clean place u ∧
      u.surface = { s.surface with out := u.surface.out } ∧
      u.surface.out.written.toList = s.surface.out.written.toList ++
        lines.map fun line => barred s.surface.framed (placed lead width line) := by
  induction lines generalizing s with
  | nil => exact ⟨s, rfl, h, rfl, (List.append_nil _).symm⟩
  | cons line lines ih =>
    let first := barred s.surface.framed (placed lead width line)
    have hcopies := Act.copies_ok (s := s) ' ' (hlead line List.mem_cons_self)
    obtain ⟨t, hwrite, ht, htsurface⟩ := write_ok first h
    have hemit : emit (placed lead width line) s = .ok () t :=
      (Outcome.bind_ok (t := s) rfl).trans hwrite
    obtain ⟨u, hrest, hu, husurface, hwritten⟩ :=
      ih (fun l hl => hlead l (List.mem_cons_of_mem _ hl)) ht
    rw [htsurface] at husurface hwritten
    refine ⟨u, ?_, hu, husurface, ?_⟩
    · exact (Outcome.bind_ok ((Outcome.bind_ok hcopies).trans hemit)).trans hrest
    · have hpushed : ((output s.surface).push first).written.toList =
          s.surface.out.written.toList ++ [first] := Array.toList_push
      rw [hwritten, List.map_cons, List.append_cons, ← hpushed]
      rfl

/-- Printed text goes on in the output without its markers, behind bars in a frame. -/
theorem printLine_ok (t : Text) (h : WritesTo clean place s) :
    ∃ u, perform (.printLine (some t)) s = .ok () u ∧ WritesTo clean place u ∧
      u.surface = { s.surface with out := u.surface.out } ∧
      u.surface.out.written.toList = s.surface.out.written.toList ++
        (Layout.wrapText s.surface.width (stripMarkup t)).map (barred s.surface.framed) := by
  obtain ⟨u, hrun, hu⟩ := emitLines_ok flushLeft s.surface.width
    (plainLines s.surface.width (some t)) (fun _ _ => by rw [flushLeft]; decide) h
  exact ⟨u, (Outcome.bind_ok (t := s) rfl).trans hrun, hu⟩

theorem printLine_framed (t : Text) (h : WritesTo clean place s)
    (hframed : s.surface.framed = true) :
    ∃ u, perform (.printLine (some t)) s = .ok () u ∧ WritesTo clean place u ∧
      u.surface = { s.surface with out := u.surface.out } ∧
      u.surface.out.written.toList = s.surface.out.written.toList ++
        (Layout.wrapText s.surface.width (stripMarkup t)).map (("| " : Text) ++ ·) := by
  have hprint := printLine_ok t h
  rw [hframed] at hprint
  exact hprint

end SlideDeck.Handout
