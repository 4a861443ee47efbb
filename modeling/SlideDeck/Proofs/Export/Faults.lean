import SlideDeck.Program.Run
import SlideDeck.Proofs.Deck.Faults
import SlideDeck.Proofs.Export.Handout
import SlideDeck.Proofs.Export.Pieces

/-!
# Faults of exports

Little that is asked of an export can fail while its output is open, and its output is closed
without a fault (`Serving`). A conversion fails only where the deck cannot be read, where its output
cannot be opened, or in a line of the deck that is at fault itself (`convert_fault`).
-/

namespace SlideDeck

open Outcome

namespace Export

variable {σ : Type} [Export σ] {clean : Prop} {place : Place}

theorem writesTo_undisturbed : Undisturbed (WritesTo (σ := σ) clean place) :=
  ⟨fun _ _ h => h.of_surface rfl rfl, fun _ _ h => h.of_surface rfl rfl,
    fun _ _ h => h.of_surface rfl rfl⟩

/-- An output that cannot be opened is refused for its path, and nothing changes. -/
theorem openOutput_error {s t : Stage σ} {fault : Fault} (h : openOutput s = .error fault t) :
    t = s ∧
      ∃ f, s.host.files.create (output s.surface).path = .error f ∧ fault = Fault.ofOpening f := by
  unfold openOutput at h
  replace h := (bind_ok rfl).symm.trans h
  dsimp only at h
  rcases hcreate : s.host.files.create (output s.surface).path with f | ⟨place, files⟩
  · rw [hcreate] at h
    cases h
    exact ⟨rfl, f, rfl, rfl⟩
  · rw [hcreate] at h
    cases h

variable [Surface σ]

/-- Stages where what is asked of an export has only the faults that operations have by `F`, and
closing it has none. -/
structure Serving (F : Op → Fault → Prop) (closing : Act σ Unit) (P : Stage σ → Prop) : Prop
    extends Undisturbed P where
  included : ∀ s path, P s → P { s with included := some path }
  perform : ∀ op, Ends P Any (fun e => op.isExposed ∧ F op e) (Surface.perform (σ := σ) op)
  closing : Succeeds P closing

end Export

namespace Handout

open Export

variable {place : Place} {l : Lettering} {width : Int}

/-- A handout of some width that is open, on a host with a lettering. -/
structure Ready (l : Lettering) (width : Int) (place : Place) (s : Stage Handout) : Prop where
  opened : WritesTo False place s
  lettering : s.host.lettering = l
  width : s.surface.width = width

theorem ready_steps {E : Fault → Prop} (hwidth : width ≤ Act.memoryLimit) :
    Steps (Ready l width place) E where
  write t := by
    intro s hs
    obtain ⟨u, hwrite, hu, hsurface⟩ := write_ok t hs.opened
    have hlettering := lettering_of_write hs.opened hwrite
    rw [hwrite]
    refine ⟨trivial, hu, hlettering.trans hs.lettering, ?_⟩
    rw [hsurface]
    exact hs.width
  change _ _ hhost hout hwidth hs :=
    ⟨hs.opened.of_surface hhost hout, (congrArg Host.lettering hhost).trans hs.lettering,
      hwidth.trans hs.width⟩
  blanks s n hs hn := by
    rw [hs.width] at hn
    have hmemory : ¬Act.memoryLimit < n := by
      simp only [Act.memoryLimit] at hwidth ⊢
      omega
    have hcount : ¬Act.countLimit < n := by
      simp only [Act.memoryLimit, Act.countLimit] at hmemory ⊢
      omega
    exact Act.copies_ends (absurd · hcount) (absurd · hmemory) ' '

theorem ready_serving (hwidth : width ≤ Act.memoryLimit) :
    Serving (OpFault l width) closeOutput (Ready l width place) where
  captured _ _ hs := ⟨hs.opened.of_surface rfl rfl, hs.lettering, hs.width⟩
  warned _ _ hs := ⟨hs.opened.of_surface rfl rfl, hs.lettering, hs.width⟩
  timed _ _ hs := ⟨hs.opened.of_surface rfl rfl, hs.lettering, hs.width⟩
  included _ _ hs := ⟨hs.opened.of_surface rfl rfl, hs.lettering, hs.width⟩
  perform op := by
    refine (ready_steps hwidth).perform fun s t e hs ht he => ?_
    rw [ht.lettering, hs.width] at he
    cases he with
    | huge hroom => exact ⟨rfl, .huge hroom⟩
  closing _ hs := by
    obtain ⟨t, hclose, -⟩ := closeOutput_ok hs.opened
    exact ⟨(), t, hclose⟩

theorem exists_serving {s t : Stage Handout} (hwidth : s.surface.width ≤ Act.memoryLimit)
    (h : openOutput s = .ok () t) :
    ∃ P, Serving (OpFault s.host.lettering s.surface.width) closeOutput P ∧ P t := by
  obtain ⟨place, ht, hsurface⟩ := openOutput_eq_ok h
  refine ⟨Ready s.host.lettering s.surface.width place, ready_serving hwidth, ht.weaken nofun,
    lettering_of_openOutput h, ?_⟩
  rw [hsurface]
  rfl

end Handout

namespace Beamer

open Export

variable {clean : Prop} {place : Place}

theorem writesTo_serving :
    Serving (fun _ _ => False) closeDocument (WritesTo (σ := Beamer) clean place) where
  toUndisturbed := writesTo_undisturbed
  included _ _ hs := hs.of_surface rfl rfl
  perform op s hs := by
    obtain ⟨t, hrun, ht, -⟩ := perform_writes op hs
    have hperform : Surface.perform op s = .ok () t := hrun
    rw [hperform]
    exact ⟨trivial, ht⟩
  closing _ hs := by
    obtain ⟨t, hclose, -⟩ := closeDocument_ok hs
    exact ⟨(), t, hclose⟩

theorem exists_serving {s t : Stage Beamer} (h : openDocument s = .ok () t) :
    ∃ P, Serving (fun _ _ => False) closeDocument P ∧ P t := by
  obtain ⟨place, ht, -⟩ := openDocument_eq_ok h
  exact ⟨_, writesTo_serving, ht⟩

theorem openDocument_error {s t : Stage Beamer} {e : Fault} (h : openDocument s = .error e t) :
    t = s ∧ ∃ f, s.host.files.create s.surface.out.path = .error f ∧ e = Fault.ofOpening f := by
  unfold openDocument at h
  rcases hopen : (openOutput : Act Beamer Unit) s with ⟨⟨⟩, u⟩ | ⟨fault, u⟩
  · obtain ⟨place, hu, -⟩ := openOutput_eq_ok hopen
    obtain ⟨v, hwrite, -⟩ := write_ok preamble hu
    rw [bind_ok hopen, hwrite] at h
    cases h
  · rw [bind_error hopen] at h
    cases h
    exact openOutput_error hopen

end Beamer

namespace Conversion

variable {σ : Type} [Surface σ] {P : Stage σ → Prop} {E : Fault → Prop} {F : Op → Fault → Prop}

section Lines

variable (hP : Undisturbed P) (hincluded : ∀ s path, P s → P { s with included := some path })
  (hperform : ∀ op, (op.isExposed → ∀ e, F op e → E e) →
    Ends P Any E (Surface.perform (σ := σ) op))
include hP hincluded hperform

theorem dispatchLines_ends {lines : List Text}
    (hlines : ∀ line ∈ lines, ∀ e, Directive.LineFault F line e → E e) :
    Ends P Any E (dispatchLines (σ := σ) lines) := by
  induction lines with
  | nil => exact .pure trivial
  | cons line rest ih =>
    refine .andThen (Directive.dispatch_ends hP (fun s path _ => hincluded s path) hperform
      (hlines line List.mem_cons_self)) fun _ => ?_
    exact ih fun l hl => hlines l (List.mem_cons_of_mem line hl)

theorem run_ends {deck : Deck} (hdeck : ∀ e, deck.LineFault F e → E e) :
    Ends P Any E (run (σ := σ) deck) := by
  have hpage (page : Page) (hpage : page ∈ deck) :
      Ends P Any E (dispatchLines (σ := σ) page.lines) :=
    dispatchLines_ends hP hincluded hperform fun line hline e he =>
      hdeck e ⟨page, hpage, line, hline, he⟩
  have hlater (pages : List Page) (hpages : ∀ page ∈ pages, page ∈ deck) :
      Ends P Any E (laterPages (σ := σ) pages) := by
    induction pages with
    | nil => exact .pure trivial
    | cons page rest ih =>
      refine .andThen (hperform .newPage nofun) fun _ => ?_
      refine .andThen (hpage page (hpages page List.mem_cons_self)) fun _ => ?_
      exact ih fun p hp => hpages p (List.mem_cons_of_mem page hp)
  cases deck with
  | nil => exact .pure trivial
  | cons page rest =>
    refine .andThen (hpage page List.mem_cons_self) fun _ => ?_
    exact hlater rest fun p hp => List.mem_cons_of_mem page hp

end Lines

end Conversion

namespace Run

variable {σ : Type} [Surface σ] {h : Host} {a : σ} {F : Op → Fault → Prop}

/-- What a fault of a conversion comes from, where the output that was opened serves every
operation. -/
theorem convert_fault {O : Fault → Prop} {opening closing : Act σ Unit} {path : Text}
    {s t : Stage σ} {fault : Fault}
    (hopened : ∀ s t, s.host = h → s.surface = a → opening s = .ok () t →
      ∃ P, Export.Serving F closing P ∧ P t)
    (hrefused : ∀ s t e, s.host = h → s.surface = a → opening s = .error e t → O e)
    (hhost : s.host = h) (hsurface : s.surface = a)
    (hfault : convert path opening closing s = .error fault t) :
    Deck.ofHost h path = .error fault ∨ O fault ∨
      ∃ deck, Deck.ofHost h path = .ok deck ∧ deck.LineFault F fault := by
  unfold convert at hfault
  have hloaded := Deck.load_ends (P := fun s : Stage σ => s.host = h ∧ s.surface = a) (h := h)
    ⟨fun _ _ h => h, fun _ _ h => h, fun _ _ h => h⟩
    ⟨fun s hs => by rw [hs.1], fun s hs => by rw [hs.1], fun s hs => by rw [hs.1]⟩
    path s ⟨hhost, hsurface⟩
  rcases hload : Deck.load Command.capture path s with ⟨deck, u⟩ | ⟨e, u⟩
  · rw [hload] at hloaded
    rw [bind_ok hload] at hfault
    obtain ⟨hdeck, huhost, husurface⟩ := hloaded
    rcases hopen : opening u with ⟨⟨⟩, v⟩ | ⟨e, v⟩
    · rw [bind_ok hopen] at hfault
      obtain ⟨P, hserving, hready⟩ := hopened u v huhost husurface hopen
      have hrun : Ends P Any (deck.LineFault F) (Conversion.run (σ := σ) deck) :=
        Conversion.run_ends hserving.toUndisturbed hserving.included
          (fun op hop => (hserving.perform op).mono (fun _ => id) fun e he => hop he.1 e he.2)
          fun _ => id
      exact .inr (.inr ⟨deck, hdeck, fault_of_tryFinally hrun hserving.closing hready hfault⟩)
    · rw [bind_error hopen] at hfault
      cases hfault
      exact .inr (.inl (hrefused u t _ huhost husurface hopen))
  · rw [hload] at hloaded
    rw [bind_error hload] at hfault
    cases hfault
    exact .inl hloaded.1

end Run

end SlideDeck
