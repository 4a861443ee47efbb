import SlideDeck.Proofs.Markup.Scan
import SlideDeck.Proofs.Screen.Ink

/-!
# Attributes in step

A screen sends only the differences between the attributes it believes to be on and those that it
wants. It may: what it believes is what the terminal has (`Ink.Tracked`), and after every operation
it is the style to draw in (`Ink.InStep`).
-/

namespace SlideDeck

theorem Color.name_of_named? {name : Text} {c : Color} (h : Color.named? name = some c) :
    c.name = name := by
  have hname := List.find?_some h
  exact of_decide_eq_true hname

/-- A style in a colour that has a pair. -/
def Style.Known (s : Style) : Prop := ∃ c, Color.named? c.name = some c ∧ s.color = some c.name

theorem Style.known_withColor {s : Style} {name : Text} (h : Color.isKnown name = true) :
    (s.withColor (some name)).Known := by
  obtain ⟨c, hc⟩ := Option.isSome_iff_exists.1 h
  have hname : c.name = name := Color.name_of_named? hc
  rw [← hname] at hc ⊢
  exact ⟨c, hc, rfl⟩

theorem Style.Known.withFlag {s : Style} (h : s.Known) (f : Flag) (on : Bool) :
    (s.withFlag f on).Known := by
  obtain ⟨c, hc, hcolor⟩ := h
  exact ⟨c, hc, (s.color_withFlag f on).trans hcolor⟩

theorem Style.withFlag_flag (s : Style) (f : Flag) : s.withFlag f (s.flag f) = s := by
  cases f <;> rfl

theorem Pen.withFlag_flag (p : Pen) (f : Flag) : p.withFlag f (p.flag f) = p := by
  cases f <;> rfl

/-- Nothing but drawing and moving is refused, and no text for the characters in it. -/
def Patient (refuses : TerminalFunction → Bool) : Prop :=
  ∀ f, refuses f = true → f = .drawText ∨ f = .moveTo

theorem Patient.accepts {refuses : TerminalFunction → Bool} (h : Patient refuses)
    {f : TerminalFunction} (hdraw : f ≠ .drawText) (hmove : f ≠ .moveTo) : refuses f = false := by
  rw [Bool.eq_false_iff]
  intro hrefuses
  rcases h f hrefuses with rfl | rfl
  · exact hdraw rfl
  · exact hmove rfl

theorem Patient.takesAnyText {h : Host} (hpatient : Patient h.refuses) : h.TakesAnyText :=
  hpatient.accepts nofun nofun

namespace Ink

/-- What the screen believes of the terminal holds. -/
structure Tracked (i : Ink) : Prop where
  patient : Patient i.refuses
  flags : ∀ f, i.pen.flag f = i.active.flag f
  pair : ∀ c, Color.named? c.name = some c → i.active.color = some c.name → i.pen.pair = c.pair
  known : i.style.Known

structure InStep (i : Ink) : Prop extends Tracked i where
  synced : i.active = i.style

def setFlag (i : Ink) (f : Flag) (on : Bool) : Ink :=
  { i with pen := i.pen.withFlag f on, active := i.active.withFlag f on }

def setColor (i : Ink) (c : Color) : Ink :=
  { i with pen := { i.pen with pair := c.pair }, active := i.active.withColor (some c.name) }

variable {i : Ink}

theorem Tracked.setFlag (h : i.Tracked) (f : Flag) (on : Bool) : (i.setFlag f on).Tracked where
  patient := h.patient
  flags g := by
    show (i.pen.withFlag f on).flag g = (i.active.withFlag f on).flag g
    rw [Pen.flag_withFlag, Style.flag_withFlag, h.flags g]
  pair c hc hactive := by
    show (i.pen.withFlag f on).pair = c.pair
    rw [Pen.pair_withFlag]
    exact h.pair c hc ((i.active.color_withFlag f on).symm.trans hactive)
  known := h.known

theorem Tracked.setColor (h : i.Tracked) {c : Color} (hc : Color.named? c.name = some c) :
    (i.setColor c).Tracked where
  patient := h.patient
  flags f := by
    have hpen : ({ i.pen with pair := c.pair } : Pen).flag f = i.pen.flag f := by cases f <;> rfl
    have hactive : (i.active.withColor (some c.name)).flag f = i.active.flag f := by
      cases f <;> rfl
    exact hpen.trans ((h.flags f).trans hactive.symm)
  pair d hd hactive := by
    have hname : c.name = d.name := Option.some.inj hactive
    rw [← hname, hc] at hd
    obtain rfl := Option.some.inj hd
    rfl
  known := h.known

theorem Tracked.setFlag_eq (h : i.Tracked) {f : Flag} {on : Bool} (hon : on = i.active.flag f) :
    i.setFlag f on = i := by
  have hpen : i.pen.withFlag f on = i.pen := by rw [hon, ← h.flags f, Pen.withFlag_flag]
  have hactive : i.active.withFlag f on = i.active := by rw [hon, Style.withFlag_flag]
  rw [Ink.setFlag, hpen, hactive]

theorem Tracked.setColor_eq (h : i.Tracked) {c : Color} (hc : Color.named? c.name = some c)
    (hactive : some c.name = i.active.color) : i.setColor c = i := by
  have hpen : ({ i.pen with pair := c.pair } : Pen) = i.pen := by rw [← h.pair c hc hactive.symm]
  have hcolor : i.active.withColor (some c.name) = i.active := by rw [hactive]; rfl
  rw [Ink.setColor, hpen, hcolor]

end Ink

namespace Screen

open Act

variable {s : Stage Screen}

def noted (s : Stage Screen) (e : Event) : Stage Screen :=
  { s with journal := { s.journal with events := s.journal.events.push e } }

theorem ink_noted (c : TerminalCall) :
    ink (noted s (.terminal c)) = { ink s with pen := (ink s).pen.apply c } := by
  simp only [ink, noted, Journal.pen_push]
  rfl

theorem call_eq (c : TerminalCall) (s : Stage Screen) :
    call c s = (match s.host.rejection? c with
      | some r => throw (.refused r)
      | none => pure () : Act Screen Unit) (noted s (.terminal c)) := rfl

theorem call_ok {c : TerminalCall} (h : s.host.rejection? c = none) :
    call c s = .ok () (noted s (.terminal c)) := by
  rw [call_eq, h]
  rfl

/-- What no function of the terminal can refuse is made. -/
theorem certain_call_ok {c : TerminalCall} (hc : c.function? = none) :
    call c s = .ok () (noted s (.terminal c)) := by
  have htext : c.text = [] := by
    cases c with
    | drawText => cases hc
    | _ => rfl
  refine call_ok ((Host.rejection?_eq ?_).trans ?_)
  · rw [htext]
    exact Host.takes_nil
  · rw [hc]

theorem accepted_call_ok {c : TerminalCall} (h : Patient s.host.refuses)
    (hdraw : c.function? ≠ some .drawText) (hmove : c.function? ≠ some .moveTo) :
    call c s = .ok () (noted s (.terminal c)) := by
  have hoff : s.host.offScreen c = false := by
    cases c with
    | drawText => exact absurd rfl hdraw
    | moveTo => exact absurd rfl hmove
    | _ => rfl
  refine call_ok (Host.rejection?_eq_none (h.takesAnyText.takes _) hoff fun f hf => h.accepts ?_ ?_)
  · rintro rfl
    exact hdraw hf
  · rintro rfl
    exact hmove hf

theorem call_refused {c : TerminalCall} {r : Rejection} (h : s.host.rejection? c = some r) :
    call c s = .error (.refused r) (noted s (.terminal c)) := by
  rw [call_eq, h]
  rfl

theorem tolerant_of_ok {x : Act Screen Unit} {t : Stage Screen} (h : x s = .ok () t) :
    tolerant x s = .ok () t := by
  show EStateM.tryCatch x _ s = _
  simp only [EStateM.tryCatch, h]

theorem tolerant_of_refused {x : Act Screen Unit} {f : TerminalFunction} {t : Stage Screen}
    (h : x s = .error (.refused (.terminal f)) t) : tolerant x s = .ok () t := by
  show EStateM.tryCatch x _ s = _
  simp only [EStateM.tryCatch, h]
  rfl

/-- A call that may be refused is made, and that is all. -/
theorem tolerant_call {c : TerminalCall} (htakes : s.host.Takes c.text) :
    tolerant (call c) s = .ok () (noted s (.terminal c)) := by
  have heq := Host.rejection?_eq htakes
  split at heq
  · split_ifs at heq
    · exact tolerant_of_refused (call_refused heq)
    · exact tolerant_of_ok (call_ok heq)
  · exact tolerant_of_ok (call_ok heq)

theorem tolerant_call_of_not_takes {c : TerminalCall} (htakes : ¬s.host.Takes c.text) :
    tolerant (call c) s = .error (.refused .text) (noted s (.terminal c)) := by
  have hcall := call_refused (Host.rejection?_of_not_takes htakes)
  show EStateM.tryCatch (call c) _ s = _
  simp only [EStateM.tryCatch, hcall]
  rfl

theorem drawAt_eq (y x : Int) (t : Text) (s : Stage Screen) :
    drawAt y x t s = (if t = [] ∨ y < 0 ∨ s.surface.rows ≤ y then pure () else
      if s.surface.columns - max 0 x ≤ 0 then pure () else
        tolerant (call (.drawText y (max 0 x) ((if x < 0 then t.drop (-x).toNat else t).take
          (s.surface.columns - max 0 x).toNat))) : Act Screen Unit) s := rfl

/-- Of a text that is drawn, no more than a part is shown. -/
theorem takes_shown {h : Host} {t : Text} (htakes : h.Takes t) (x : Int) (n : Nat) :
    h.Takes ((if x < 0 then t.drop (-x).toNat else t).take n) := by
  refine htakes.of_subset (List.Subset.trans (List.take_subset n _) ?_)
  split
  · exact List.drop_subset _ _
  · exact List.Subset.refl t

/-- Drawing makes one call at most, and it is of no account whether the terminal refuses that for
the place. -/
theorem drawAt_noted {t : Text} (htakes : s.host.Takes t) (y x : Int) :
    ∃ u, drawAt y x t s = .ok () u ∧
      (u = s ∨ ∃ row column shown, u = noted s (.terminal (.drawText row column shown))) := by
  rw [drawAt_eq]
  split
  · exact ⟨s, rfl, .inl rfl⟩
  · split
    · exact ⟨s, rfl, .inl rfl⟩
    · exact ⟨_, tolerant_call (takes_shown htakes _ _), .inr ⟨_, _, _, rfl⟩⟩

theorem drawAt_ok {t : Text} (htakes : s.host.Takes t) (y x : Int) :
    ∃ u, drawAt y x t s = .ok () u ∧ ink u = ink s := by
  obtain ⟨u, hdraw, rfl | ⟨row, column, shown, rfl⟩⟩ := drawAt_noted htakes y x
  · exact ⟨_, hdraw, rfl⟩
  · exact ⟨_, hdraw, ink_noted _⟩

theorem applyFlag_ok (style : Style) (f : Flag) (h : (ink s).Tracked) :
    ∃ t, applyFlag style f s = .ok () t ∧ ink t = (ink s).setFlag f (style.flag f) := by
  let c : TerminalCall :=
    if style.flag f then .attributeOn (.flag f) else .attributeOff (.flag f)
  have hread : applyFlag style f s = (if style.flag f ≠ s.surface.active.flag f then do
      tolerant (call c)
      modifySurface fun s => { s with active := s.active.withFlag f (style.flag f) }
    else pure () : Act Screen Unit) s := rfl
  rw [hread]
  by_cases hsame : style.flag f = s.surface.active.flag f
  · rw [if_neg (not_not_intro hsame)]
    exact ⟨s, rfl, (h.setFlag_eq hsame).symm⟩
  · rw [if_pos hsame]
    have hc : c.function? = some .attributeOn ∨ c.function? = some .attributeOff := by
      rcases hflag : style.flag f with - | -
      · exact .inr (by simp only [c, hflag]; rfl)
      · exact .inl (by simp only [c, hflag]; rfl)
    have hpen : ∀ p : Pen, p.apply c = p.withFlag f (style.flag f) := by
      intro p
      rcases hflag : style.flag f with - | -
      · simp only [c, hflag]
        rfl
      · simp only [c, hflag]
        rfl
    have hcall : call c s = .ok () (noted s (.terminal c)) := by
      refine accepted_call_ok h.patient ?_ ?_
      · rcases hc with hc | hc <;> simp [hc]
      · rcases hc with hc | hc <;> simp [hc]
    refine ⟨_, Outcome.bind_ok (tolerant_of_ok hcall), ?_⟩
    have hnoted := ink_noted (s := s) c
    rw [hpen] at hnoted
    show { ink (noted s (.terminal c)) with
      active := (ink s).active.withFlag f (style.flag f) } = _
    rw [hnoted]
    rfl

theorem applyColor_ok {style : Style} {c : Color} (hc : Color.named? c.name = some c)
    (hcolor : style.color = some c.name) (h : (ink s).Tracked) :
    ∃ t, applyColor style s = .ok () t ∧ ink t = (ink s).setColor c := by
  have hne : c.name ≠ [] := Token.ne_nil_of_isKnown (by rw [Color.isKnown, hc]; rfl)
  have hread : applyColor style s = (if c.name ≠ [] ∧ some c.name ≠ s.surface.active.color then do
      call (.attributeOff .anyColor)
      call (.attributeOn (.pair c.pair))
      modifySurface fun s => { s with active := s.active.withColor (some c.name) }
    else pure () : Act Screen Unit) s := by
    simp only [applyColor, hcolor, hc]
    rfl
  rw [hread]
  by_cases hsame : some c.name = s.surface.active.color
  · rw [if_neg fun hboth => hboth.2 hsame]
    exact ⟨s, rfl, (h.setColor_eq hc hsame).symm⟩
  · rw [if_pos ⟨hne, hsame⟩]
    let off : Stage Screen := noted s (.terminal (.attributeOff .anyColor))
    let on : Stage Screen := noted off (.terminal (.attributeOn (.pair c.pair)))
    have hoff : call (.attributeOff .anyColor) s = .ok () off :=
      accepted_call_ok h.patient (by decide) (by decide)
    have hon : call (.attributeOn (.pair c.pair)) off = .ok () on :=
      accepted_call_ok h.patient (by simp [TerminalCall.function?]) (by simp [TerminalCall.function?])
    refine ⟨{ on with surface :=
      { on.surface with active := on.surface.active.withColor (some c.name) } }, ?_, ?_⟩
    · exact (Outcome.bind_ok hoff).trans (Outcome.bind_ok hon)
    · show { ink on with active := (ink s).active.withColor (some c.name) } = _
      rw [ink_noted, ink_noted]
      rfl

theorem applyStyle_ok {style : Style} (hstyle : style.Known) (h : (ink s).Tracked) :
    ∃ t, applyStyle style s = .ok () t ∧ (ink t).Tracked ∧ (ink t).active = style ∧
      (ink t).style = (ink s).style := by
  obtain ⟨c, hc, hcolor⟩ := hstyle
  obtain ⟨t, hbold, ht⟩ := applyFlag_ok style .bold h
  have htracked : (ink t).Tracked := by
    rw [ht]
    exact h.setFlag .bold style.bold
  obtain ⟨u, hunderline, hu⟩ := applyFlag_ok style .underline htracked
  have hutracked : (ink u).Tracked := by
    rw [hu]
    exact htracked.setFlag .underline style.underline
  obtain ⟨v, hreverse, hv⟩ := applyFlag_ok style .reverse hutracked
  have hvtracked : (ink v).Tracked := by
    rw [hv]
    exact hutracked.setFlag .reverse style.reverse
  obtain ⟨w, hcolored, hw⟩ := applyColor_ok hc hcolor hvtracked
  refine ⟨w, ?_, ?_, ?_, ?_⟩
  · exact (Outcome.bind_ok hbold).trans
      ((Outcome.bind_ok hunderline).trans ((Outcome.bind_ok hreverse).trans hcolored))
  · rw [hw]
    exact hvtracked.setColor hc
  · rw [hw, hv, hu, ht]
    obtain ⟨bold, underline, reverse, color⟩ := style
    obtain rfl : color = some c.name := hcolor
    rfl
  · rw [hw, hv, hu, ht]
    rfl

end Screen

end SlideDeck
