import SlideDeck.Proofs.Export.Environments
import SlideDeck.Proofs.Export.Faults

/-!
# Requests without an output

An export may be asked for anything at any time. What needs an output is refused while none is open,
and then nothing was changed before: neither the surface nor a file (`Unharmed`). For a document of
slides this hangs on its flags, which are down whenever its output is closed
(`refusals_change_nothing`).
-/

namespace SlideDeck

open Outcome

namespace Export

inductive Request where
  | opening
  | closing
  | write (t : Text)
  | perform (op : Op)
  | drawStatus (number count : Int) (ended : Bool) (title : Option Text)
  | clear

section Requests

variable {σ : Type} [Export σ] [Surface σ]

def Request.act (opening closing : Act σ Unit) : Request → Act σ Unit
  | .opening => opening
  | .closing => closing
  | write t => Export.write t
  | perform op => Surface.perform op
  | drawStatus number count ended title => Surface.drawStatus number count ended title
  | clear => Surface.clear

/-- The stages that requests lead to, whether or not they are refused. In between the host may
change in every way but for its working directory. -/
inductive Reached (opening closing : Act σ Unit) (begun : Stage σ) : Stage σ → Prop
  | begun : Reached opening closing begun begun
  | requested {s : Stage σ} (hs : Reached opening closing begun s) (r : Request) :
      Reached opening closing begun (state (r.act opening closing s))
  | elsewhere {s : Stage σ} (hs : Reached opening closing begun s) {h : Host}
      (hhome : h.files.home = s.host.files.home) :
      Reached opening closing begun { s with host := h }

end Requests

variable {σ : Type} [Export σ] {s : Stage σ} {x : Act σ Unit}

/-- If an action is refused for want of an output, there is none, and all is as it was. -/
def Unharmed (s : Stage σ) (x : Act σ Unit) : Prop :=
  ∀ k t, x s = .error (.notOpen k) t →
    k = kind σ ∧ (output s.surface).place = none ∧ t.surface = s.surface ∧ t.host = s.host

/-- A fault that is no want of an output, or this export's own. -/
def OwnFault (σ : Type) [Export σ] (e : Fault) : Prop := ∀ k, e = .notOpen k → k = kind σ

def OtherFault (e : Fault) : Prop := ∀ k, e ≠ .notOpen k

theorem otherFault_ofOpening (f : PathFault) : OtherFault (Fault.ofOpening f) := by
  cases f <;> exact nofun

/-- A stage with this surface and this host, whatever is in the journal. -/
structure Left (b : σ) (h : Host) (s : Stage σ) : Prop where
  surface : s.surface = b
  host : s.host = h

theorem Unharmed.of_other (h : ∀ e t, x s = .error e t → OtherFault e) : Unharmed s x :=
  fun k t hrun => absurd rfl (h _ t hrun k)

theorem Unharmed.of_ends {P : Stage σ → Prop} {V : Unit → Prop} (hs : P s)
    (h : Ends P V OtherFault x) : Unharmed s x := by
  refine .of_other fun e t hrun => ?_
  have hended := h s hs
  rw [hrun] at hended
  exact hended.1

theorem Unharmed.of_left {V : Unit → Prop} (hclosed : (output s.surface).place = none)
    (h : Ends (Left s.surface s.host) V (OwnFault σ) x) : Unharmed s x := by
  intro k t hrun
  have hended := h s ⟨rfl, rfl⟩
  rw [hrun] at hended
  exact ⟨hended.1 k rfl, hclosed, hended.2.surface, hended.2.host⟩

/-! ### Writing -/

def Opened (s : Stage σ) : Prop := (output s.surface).place.isSome = true

theorem Opened.of_place {t : Stage σ} (hs : Opened s)
    (h : (output t.surface).place = (output s.surface).place) : Opened t :=
  (congrArg Option.isSome h).trans hs

theorem write_closed (t : Text) (h : (output s.surface).place = none) :
    write t s = .error (.notOpen (kind σ)) s := by
  refine (bind_ok rfl).trans ?_
  simp only [h]
  rfl

theorem write_left {b : σ} {h : Host} (hclosed : (output b).place = none) (t : Text) :
    Ends (Left b h) (fun _ => False) (OwnFault σ) (write t) := by
  intro s hs
  rw [write_closed t (hs.surface ▸ hclosed)]
  exact ⟨fun k hk => (Fault.notOpen.inj hk).symm, hs⟩

/-- Nothing comes after a piece that is refused. -/
theorem write_then_left {b : σ} {h : Host} (hclosed : (output b).place = none) (t : Text)
    {rest : Unit → Act σ Unit} {V : Unit → Prop} :
    Ends (Left b h) V (OwnFault σ) (write t >>= rest) :=
  .bind (write_left hclosed t) fun _ hv => hv.elim

theorem write_opened [Lawful σ] (t : Text) :
    Ends Opened Any OtherFault (write t : Act σ Unit) := by
  intro s hs
  obtain ⟨place, hplace⟩ := Option.isSome_iff_exists.1 hs
  have hpushed : Opened
      { s with surface := setOutput ((output s.surface).push t) s.surface } :=
    hs.of_place ((congrArg Output.place (Lawful.output_setOutput _ _)).trans rfl)
  rw [write_eq t rfl rfl hplace]
  split
  · exact ⟨trivial, hpushed⟩
  · exact ⟨trivial, hpushed⟩

theorem write_unharmed [Lawful σ] (s : Stage σ) (t : Text) : Unharmed s (write t) := by
  rcases hplace : (output s.surface).place with - | place
  · exact .of_left hplace (write_left hplace t)
  · exact .of_ends (congrArg Option.isSome hplace) (write_opened t)

theorem openOutput_unharmed (s : Stage σ) : Unharmed s openOutput := by
  refine .of_other fun e t hrun => ?_
  obtain ⟨-, f, -, rfl⟩ := openOutput_error hrun
  exact otherFault_ofOpening f

theorem closeOutput_unharmed (s : Stage σ) : Unharmed s closeOutput :=
  .of_other fun _ _ hrun => nomatch hrun

/-- Where no operation does harm, no request does that opens and closes the output as it is. -/
theorem unharmed_request [Surface σ] [Lawful σ]
    (hperform : ∀ op, Unharmed s (Surface.perform op))
    (hstatus : ∀ number count ended title,
      Surface.drawStatus (σ := σ) number count ended title = pure ())
    (hclear : Surface.clear (σ := σ) = pure ()) (r : Request) :
    Unharmed s (r.act openOutput closeOutput) := by
  cases r with
  | opening => exact openOutput_unharmed s
  | closing => exact closeOutput_unharmed s
  | write t => exact write_unharmed s t
  | perform op => exact hperform op
  | drawStatus number count ended title =>
    rw [Request.act, hstatus]
    exact .of_other fun _ _ hrun => nomatch hrun
  | clear =>
    rw [Request.act, hclear]
    exact .of_other fun _ _ hrun => nomatch hrun

end Export

/-! ### Texts -/

namespace Plain

open Export

instance : Lawful Plain := ⟨fun _ _ => rfl⟩

theorem perform_ends {P : Stage Plain → Prop} {E : Fault → Prop}
    (hwrite : ∀ t, Ends P Any E (write t : Act Plain Unit)) (op : Op) :
    Ends P Any E (perform op) := by
  refine .andThen Act.surface_ends fun b => ?_
  cases op with
  | printLine t | heading t | center t | right t => exact .forM fun _ _ => hwrite _
  | _ => exact .pure trivial

theorem perform_unharmed (s : Stage Plain) (op : Op) : Unharmed s (Surface.perform op) := by
  rcases hplace : (output s.surface).place with - | place
  · exact .of_left hplace (perform_ends (fun t => (write_left hplace t).any) op)
  · exact .of_ends (congrArg Option.isSome hplace) (perform_ends write_opened op)

end Plain

namespace Handout

open Export

theorem opened_steps : Steps Opened OtherFault where
  write := write_opened
  change _ _ _ hout _ hs := hs.of_place (congrArg Output.place hout)
  blanks _ _ _ _ := Act.copies_ends (fun _ => nofun) (fun _ => nofun) ' '

/-- Only taking another font for huge text changes a handout that is not open. -/
theorem perform_left {b : Handout} {h : Host} (hclosed : b.out.place = none) {op : Op}
    (hop : ∀ name, op ≠ .setHugeFont name) :
    Ends (Left b h) Any (OwnFault Handout) (perform op) := by
  have htext (lead : Int → Int → Int) (t : Option Text) :
      Ends (Left b h) Any (OwnFault Handout) (emitText lead t) := by
    refine .andThen Act.surface_ends fun _ => .forM fun _ _ => ?_
    refine .andThen (Act.copies_ends (fun _ => nofun) (fun _ => nofun) ' ') fun _ => ?_
    exact .andThen Act.surface_ends fun _ => (write_left hclosed _).any
  cases op with
  | newPage | horizontalLine => exact (write_left hclosed _).any
  | printLine t | center t | right t => exact htext _ t
  | heading t => exact write_then_left hclosed _
  | beginOutput | beginShellOutput | endOutput | endShellOutput => exact write_then_left hclosed _
  | setHugeFont name => exact absurd rfl (hop name)
  | huge t =>
    have hrender (font : Text) (width : Int) :
        Ends (Left b h) Any (OwnFault Handout) (HugeText.render t font width) :=
      HugeText.render_ends (fun s _ _ hs => ⟨hs.surface, hs.host⟩) t font width
        fun _ _ _ _ => nofun
    exact .andThen Act.surface_ends fun _ => .andThen (hrender _ _) fun _ =>
      .forM fun _ _ => htext _ _
  | title t | author t | date t => exact write_then_left hclosed _
  | _ => exact .pure trivial

theorem perform_unharmed (s : Stage Handout) (op : Op) : Unharmed s (Surface.perform op) := by
  rcases hplace : (output s.surface).place with - | place
  · by_cases hop : ∀ name, op ≠ .setHugeFont name
    · exact .of_left hplace (perform_left hplace hop)
    · obtain ⟨name, rfl⟩ := by simpa using hop
      exact .of_other fun _ _ hrun => nomatch hrun
  · refine .of_ends (congrArg Option.isSome hplace) (opened_steps.perform fun _ _ _ _ _ he => ?_)
    cases he
    exact nofun

end Handout

/-! ### Slides -/

namespace Beamer

open Export

variable {s : Stage Beamer} {b : Beamer} {h : Host}

/-- No frame is open, and no verbatim text. -/
def Flat (b : Beamer) : Prop := b.frameOpen = false ∧ b.verbatimOpen = false

theorem closeFrame_of_flat (hflat : Flat s.surface) : closeFrame s = .ok () s := by
  refine (bind_ok (t := s) rfl).trans ?_
  rw [if_neg (by rw [hflat.2]; nofun)]
  refine (bind_ok (t := s) rfl).trans ?_
  rw [if_neg (by rw [hflat.1]; nofun)]
  rfl

theorem closeFrame_left (hflat : Flat b) : Ends (Left b h) Any (OwnFault Beamer) closeFrame := by
  intro s hs
  rw [closeFrame_of_flat (hs.surface ▸ hflat)]
  exact ⟨trivial, hs⟩

/-- A frame cannot be begun without an output. -/
theorem openFrame_left (hclosed : b.out.place = none) (hflat : Flat b) :
    Ends (Left b h) (fun _ => False) (OwnFault Beamer) openFrame := by
  have hbegin : Ends (Left b h) Any (OwnFault Beamer) beginDocument :=
    .andThen Act.surface_ends fun _ =>
      .ite (fun _ => write_then_left hclosed _) fun _ => .pure trivial
  refine .andThen hbegin fun _ => .bind Act.surface_ends fun c hc => ?_
  obtain ⟨s, hs, rfl⟩ := hc
  rw [if_pos (by rw [hs.surface, hflat.1]; rfl)]
  exact write_then_left hclosed _

theorem perform_left (hclosed : b.out.place = none) (hflat : Flat b) (op : Op) :
    Ends (Left b h) Any (OwnFault Beamer) (perform op) := by
  cases op with
  | newPage => exact closeFrame_left hflat
  | printLine t | center t | right t =>
    exact .bind (openFrame_left hclosed hflat) fun _ hv => hv.elim
  | heading t => exact .andThen (closeFrame_left hflat) fun _ => (write_left hclosed _).any
  | title t | author t | date t => exact write_then_left hclosed _
  | _ => exact .pure trivial

theorem flat_ending (b : Beamer) : Flat ((ending b).foldl push b) := by
  rw [ending, List.foldl_append, List.foldl_append]
  obtain ⟨hframe, hverbatim, hbegun⟩ := flags_closing b
  have hbeginning : beginning b = beginning ((closing b).foldl push b) := by
    rw [beginning, beginning, hbegun]
  rw [hbeginning]
  exact ⟨(frameOpen_beginning _).trans hframe, (verbatimOpen_beginning _).trans hverbatim⟩

/-- What holds between requests: the output is open and can be written to, or there is none, and
nothing is begun. -/
def Sound (s : Stage Beamer) : Prop :=
  (∃ place, WritesTo False place s) ∨ s.surface.out.place = none ∧ Flat s.surface

theorem Sound.flat (hs : Sound s) (hclosed : s.surface.out.place = none) : Flat s.surface := by
  obtain ⟨place, hopen⟩ | ⟨-, hflat⟩ := hs
  · cases hclosed.symm.trans hopen.place_eq
  · exact hflat

theorem Sound.elsewhere (hs : Sound s) {h : Host} (hhome : h.files.home = s.host.files.home) :
    Sound { s with host := h } := by
  obtain ⟨place, hopen⟩ | hclosed := hs
  · refine .inl ⟨place, hopen.place_eq, ?_, hopen.ordered, nofun⟩
    show place.isPrefixOf h.files.home = false
    rw [hhome]
    exact hopen.outside
  · exact .inr hclosed

theorem Sound.opened (hs : Sound s) : Sound (state (openDocument s)) := by
  rcases hopen : openDocument s with ⟨⟨⟩, t⟩ | ⟨e, t⟩
  · obtain ⟨place, ht, -⟩ := openDocument_eq_ok hopen
    exact .inl ⟨place, ht.weaken nofun⟩
  · obtain ⟨rfl, -⟩ := openDocument_error hopen
    exact hs

theorem Sound.closed (hs : Sound s) : ∃ t, closeDocument s = .ok () t ∧ Sound t := by
  obtain ⟨place, hopen⟩ | ⟨hclosed, hflat⟩ := hs
  · obtain ⟨t, hclose, ht, -⟩ := closeDocument_ok hopen
    refine ⟨t, hclose, .inr ?_⟩
    rw [ht]
    exact ⟨rfl, flat_ending s.surface⟩
  · exact ⟨s, closeDocument_of_closed hclosed, .inr ⟨hclosed, hflat⟩⟩

theorem Sound.written (hs : Sound s) (t : Text) : Sound (state (write t s)) := by
  obtain ⟨place, hopen⟩ | hclosed := hs
  · obtain ⟨u, hwrite, hu, -⟩ := write_ok t hopen
    rw [hwrite]
    exact .inl ⟨place, hu⟩
  · rw [write_closed t hclosed.1]
    exact .inr hclosed

theorem Sound.performed (hs : Sound s) (op : Op) : Sound (state (perform op s)) := by
  obtain ⟨place, hopen⟩ | ⟨hclosed, hflat⟩ := hs
  · obtain ⟨u, hrun, hu, -⟩ := perform_writes op hopen
    rw [hrun]
    exact .inl ⟨place, hu⟩
  · -- Without an output nothing gets as far as to change a flag.
    have hkept : Left s.surface s.host (state (perform op s)) :=
      keeps_iff_ends.2 ((perform_left hclosed hflat op).mono (fun _ _ => trivial)
        fun _ _ => trivial) s ⟨rfl, rfl⟩
    refine .inr ?_
    rw [hkept.surface]
    exact ⟨hclosed, hflat⟩

theorem Sound.perform_unharmed (hs : Sound s) (op : Op) : Unharmed s (Surface.perform op) := by
  obtain ⟨place, hopen⟩ | ⟨hclosed, hflat⟩ := hs
  · obtain ⟨u, hrun, -⟩ := perform_writes op hopen
    exact .of_other fun _ _ hfault => nomatch hrun.symm.trans hfault
  · exact .of_left hclosed (perform_left hclosed hflat op)

theorem Sound.request (hs : Sound s) (r : Request) :
    Sound (state (r.act openDocument closeDocument s)) ∧
      Unharmed s (r.act openDocument closeDocument) := by
  cases r with
  | opening =>
    refine ⟨hs.opened, .of_other fun _ _ hrun => ?_⟩
    obtain ⟨-, f, -, rfl⟩ := openDocument_error hrun
    exact otherFault_ofOpening f
  | closing =>
    obtain ⟨t, hclose, ht⟩ := hs.closed
    refine ⟨?_, .of_other fun _ _ hrun => nomatch hclose.symm.trans hrun⟩
    rw [Request.act, hclose]
    exact ht
  | write t => exact ⟨hs.written t, write_unharmed s t⟩
  | perform op => exact ⟨hs.performed op, hs.perform_unharmed op⟩
  | drawStatus | clear => exact ⟨hs, .of_other fun _ _ hrun => nomatch hrun⟩

theorem Sound.of_reached {begun : Stage Beamer} (hbegun : Sound begun)
    (hs : Export.Reached openDocument closeDocument begun s) : Sound s := by
  induction hs with
  | begun => exact hbegun
  | requested _ r ih => exact (ih.request r).1
  | elsewhere _ hhome ih => exact ih.elsewhere hhome

end Beamer

namespace Export

/-- A request that is refused because no output is open changes nothing, neither a surface nor a
file, whatever was asked of the export before. While no document of slides is open, no frame of it
is, and no verbatim text. -/
theorem refusals_change_nothing :
    (∀ (s : Stage Plain) (r : Request), Unharmed s (r.act openOutput closeOutput)) ∧
      (∀ (s : Stage Handout) (r : Request), Unharmed s (r.act openOutput closeOutput)) ∧
      ∀ (path : Text) (width : Int) (begun s : Stage Beamer),
        begun.surface = { out := { path := path }, width := width } →
        Reached Beamer.openDocument Beamer.closeDocument begun s →
        (∀ r : Request, Unharmed s (r.act Beamer.openDocument Beamer.closeDocument)) ∧
          (s.surface.out.place = none →
            s.surface.frameOpen = false ∧ s.surface.verbatimOpen = false) := by
  -- A text and a handout write before they change anything, in whatever state they are.
  refine ⟨fun s r => ?_, fun s r => ?_, fun path width begun s hbegun hs => ?_⟩
  · exact unharmed_request (Plain.perform_unharmed s) (fun _ _ _ _ => rfl) rfl r
  · exact unharmed_request (Handout.perform_unharmed s) (fun _ _ _ _ => rfl) rfl r
  · have hsound : Beamer.Sound s := .of_reached (.inr (hbegun ▸ ⟨rfl, rfl, rfl⟩)) hs
    exact ⟨fun r => (hsound.request r).2, hsound.flat⟩

/-- A heading that comes after the end: slides were opened, printed to and closed. -/
theorem refusals_change_nothing_heading :
    let begun : Stage Beamer := ⟨Host.quiet, {}, { out := { path := "o" } }, none⟩
    let opening : Act Beamer Unit := Beamer.openDocument
    let closing : Act Beamer Unit := Beamer.closeDocument
    let opened := state (Request.opening.act opening closing begun)
    let printed := state ((Request.perform (.printLine (some "a"))).act opening closing opened)
    let closed := state (Request.closing.act opening closing printed)
    let heading := (Request.perform (.heading (some "b"))).act opening closing
    begun.surface = { out := { path := "o" }, width := 50 } ∧
      Reached opening closing begun closed ∧ printed.surface.frameOpen = true ∧
      closed.surface.frameOpen = false ∧
      ∃ t, heading closed = .error (.notOpen .beamer) t ∧ t.surface = closed.surface ∧
        t.host = closed.host := by
  intro begun opening closing opened printed closed heading
  have hreached : Reached opening closing begun closed :=
    .requested (.requested (.requested .begun .opening) (.perform (.printLine (some "a")))) .closing
  have hframe : printed.surface.frameOpen = true := by decide +kernel
  have hplace : closed.surface.out.place = none := by decide +kernel
  clear_value closed
  obtain ⟨hunharmed, hflat⟩ := refusals_change_nothing.2.2 "o" 50 begun closed rfl hreached
  have hrefused : heading closed = .error (.notOpen .beamer) closed :=
    (bind_ok (Beamer.closeFrame_of_flat (hflat hplace))).trans (write_closed _ hplace)
  obtain ⟨-, -, hsame, hhost⟩ := hunharmed _ _ _ hrefused
  exact ⟨rfl, hreached, hframe, (hflat hplace).1, closed, hrefused, hsame, hhost⟩

end Export

end SlideDeck
