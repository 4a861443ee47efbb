import SlideDeck.Proofs.Screen.Steps

/-!
# Operations of a screen

Once the terminal is taken over, every operation leaves the terminal, the screen's belief and the
style to draw in in step, whatever it draws and even if it is broken off.
-/

namespace SlideDeck.Screen

open Act Outcome

variable {s : Stage Screen}

theorem setStyle_ok {style : Style} (hstyle : style.Known) (h : (ink s).Tracked) :
    ∃ t, setStyle style s = .ok () t ∧ (ink t).InStep ∧ (ink t).style = style := by
  let taken : Stage Screen := { s with surface := { s.surface with style := style } }
  have htaken : (ink taken).Tracked := ⟨h.patient, h.flags, h.pair, hstyle⟩
  obtain ⟨t, happly, ht, hactive, hkept⟩ := applyStyle_ok hstyle htaken
  exact ⟨t, (Outcome.bind_ok (t := taken) rfl).trans happly, ⟨ht, hactive.trans hkept.symm⟩, hkept⟩

theorem setStyle_inStep {style : Style} (hstyle : style.Known) :
    Preserves Ink.InStep (setStyle style) := by
  intro s hs
  obtain ⟨t, hset, ht, -⟩ := setStyle_ok hstyle hs.toTracked
  rw [hset]
  exact ht

theorem calls_ok (colors : List Color) (c : Color → TerminalCall) (h : Patient s.host.refuses)
    (hc : ∀ color, (c color).function? ≠ some .drawText ∧ (c color).function? ≠ some .moveTo)
    (hpen : ∀ color, ∀ p : Pen, p.apply (c color) = p) :
    ∃ t, colors.forM (fun color => call (c color)) s = .ok () t ∧ ink t = ink s := by
  induction colors generalizing s with
  | nil => exact ⟨s, rfl, rfl⟩
  | cons color rest ih =>
    have hcall : call (c color) s = .ok () (noted s (.terminal (c color))) :=
      accepted_call_ok h (hc color).1 (hc color).2
    obtain ⟨t, hrest, ht⟩ := ih (s := noted s (.terminal (c color))) h
    refine ⟨t, (Outcome.bind_ok hcall).trans hrest, ?_⟩
    rw [ht, ink_noted, hpen]

/-- The pair is sent again after the colours of all pairs changed. -/
theorem setBackground_ok (name : Option Text) (h : (ink s).Tracked) :
    ∃ t, setBackground name s = .ok () t ∧ (ink t).InStep := by
  let number : Int := ((name.bind Color.named?).map (·.number)).getD 0
  obtain ⟨t, hpairs, ht⟩ := calls_ok (Color.all.filter (·.pair ≠ 0))
    (fun color => .definePair color.pair color.number number) h.patient
    (fun _ => ⟨nofun, nofun⟩) (fun _ _ => rfl)
  have htracked : (ink t).Tracked := by
    rw [ht]
    exact h
  let pair : Nat := ((Color.named? t.surface.foreground).map (·.pair)).getD 1
  let u : Stage Screen := noted t (.terminal (.background ' ' (.pair pair)))
  have hground : call (.background ' ' (.pair pair)) t = .ok () u :=
    accepted_call_ok htracked.patient nofun nofun
  have hu : ink u = ink t := ink_noted _
  have hutracked : (ink u).Tracked := by
    rw [hu]
    exact htracked
  let v : Stage Screen :=
    { u with surface := { u.surface with active := u.surface.active.withColor none } }
  have hvtracked : (ink v).Tracked :=
    ⟨hutracked.patient, hutracked.flags, nofun, hutracked.known⟩
  obtain ⟨w, happly, hw, hactive, hstyle⟩ := applyStyle_ok hutracked.known hvtracked
  refine ⟨w, ?_, hw, hactive.trans hstyle.symm⟩
  refine (Outcome.bind_ok hpairs).trans ((Outcome.bind_ok (t := t) rfl).trans ?_)
  exact (Outcome.bind_ok hground).trans happly

theorem setBackground_inStep (name : Option Text) : Preserves Ink.InStep (setBackground name) := by
  intro s hs
  obtain ⟨t, hset, ht⟩ := setBackground_ok name hs.toTracked
  rw [hset]
  exact ht

/-- Every step leaves the attributes in step, so that every operation does. -/
theorem operating_inStep :
    Operating (fun s => (ink s).InStep) (fun e => ∀ name, e ≠ .noColorPair name) where
  toDrawing := drawing_ink Ink.InStep
  nextRow := nextRow_preserves.ends
  styledLine _ hs _ _ hline := (drawStyledLine_inStep (hline hs.known)).ends
  fonts s j hevents hs := by
    have hpen : j.pen = s.journal.pen := by simp only [Journal.pen, hevents]
    rwa [ink_journal hpen]
  change hf := (preserves_modifySurface fun b => ⟨hf.active b, hf.style b⟩).ends
  turn := (preserves_modifySurface fun _ => ⟨rfl, rfl⟩).ends
  learnSize := .modify fun _ hs => hs
  setStyle _ hs _ hstyle := (setStyle_inStep (hstyle hs.known)).ends
  setBackground name := (setBackground_inStep name).ends

/-- Taking the terminal over is never refused, and sends the first style. -/
theorem openTerminal_ok (h : (ink s).Tracked) :
    ∃ t, openTerminal s = .ok () t ∧ (ink t).InStep := by
  have hcall {s : Stage Screen} (c : TerminalCall) (h : (ink s).Tracked)
      (hdraw : c.function? ≠ some .drawText) (hmove : c.function? ≠ some .moveTo)
      (hpen : ∀ p : Pen, p.apply c = p) :
      ∃ t, call c s = .ok () t ∧ (ink t).Tracked := by
    have hink : ink (noted s (.terminal c)) = ink s := by rw [ink_noted, hpen]
    exact ⟨_, accepted_call_ok h.patient hdraw hmove, hink ▸ h⟩
  obtain ⟨t₁, hcursor, h₁⟩ := hcall (.showCursor 0) h nofun nofun fun _ => rfl
  obtain ⟨t₂, hcolor, h₂⟩ := hcall .startColor h₁ nofun nofun fun _ => rfl
  obtain ⟨t₃, hdefault, h₃⟩ := hcall .useDefaultColors h₂ nofun nofun fun _ => rfl
  obtain ⟨t₄, hkeys, h₄⟩ := hcall (.functionKeys true) h₃ nofun nofun fun _ => rfl
  obtain ⟨t₅, hground, h₅⟩ := setBackground_ok (some "black") h₄
  obtain ⟨t, happly, ht, hactive, hstyle⟩ := applyStyle_ok h₅.known h₅.toTracked
  refine ⟨t, ?_, ht, hactive.trans hstyle.symm⟩
  refine (Outcome.bind_ok (tolerant_of_ok hcursor)).trans ((Outcome.bind_ok hcolor).trans ?_)
  refine (Outcome.bind_ok hdefault).trans ((Outcome.bind_ok hkeys).trans ?_)
  exact (Outcome.bind_ok hground).trans happly

theorem openTerminal_inStep : Preserves Ink.InStep openTerminal := by
  intro s hs
  obtain ⟨t, hopen, ht⟩ := openTerminal_ok hs.toTracked
  rw [hopen]
  exact ht

inductive Operation where
  | perform (op : Op)
  | drawStatus (number count : Int) (ended : Bool) (title : Option Text)
  | clear
  | showHelp
  | askPageNumber (titles : List Text) (current : Int)
  | storeScreen
  | restoreScreen (saved : Window)
  | updateSize
  /-- Taking the terminal over once more. -/
  | reopen

def Operation.run : Operation → Act Screen Unit
  | perform op => Surface.perform op
  | drawStatus number count ended title => Surface.drawStatus number count ended title
  | clear => Surface.clear
  | showHelp => Console.showHelp
  | askPageNumber titles current => do
    let _ ← Console.askPageNumber titles current
  | storeScreen => do
    let _ ← Console.storeScreen
  | restoreScreen saved => Console.restoreScreen saved
  | updateSize => Console.updateSize
  | reopen => openTerminal

/-- Operations have the faults of their steps, and besides those of the prompt and of taking the
terminal over. -/
theorem Operating.run {P : Stage Screen → Prop} {E : Fault → Prop} (h : Operating P E)
    (hop : ∀ op s t e, P s → P t → OpFault t.host s.surface.columns op e → E e)
    (hprompt : ∀ titles current, Ends P Any E (askPageNumber titles current))
    (hopen : Ends P Any E Screen.openTerminal) (o : Operation) : Ends P Any E o.run := by
  cases o with
  | perform op => exact h.perform (hop op)
  | drawStatus number count ended title => exact h.drawStatus number count ended title
  | clear => exact h.clear
  | showHelp => exact h.showHelp
  | askPageNumber titles current => exact .andThen (hprompt _ _) fun _ => .pure trivial
  | storeScreen => exact .andThen h.store fun _ => .pure trivial
  | restoreScreen saved => exact h.restore saved
  | updateSize => exact h.learnSize
  | reopen => exact hopen

theorem askPageNumber_inStep (titles : List Text) (current : Int) :
    Preserves Ink.InStep (askPageNumber titles current) := by
  have hread (y x : Int) : Ends (fun s => (ink s).InStep) Any (fun e => ∀ name, e ≠ .noColorPair name)
      (readTyped y x 6) := operating_inStep.readTyped (fun _ _ hs => hs) y x 6
  exact preserves_iff_ends.2
    (operating_inStep.askPageNumber trivial hread (fun _ _ _ _ _ _ => nofun) titles current)

theorem Operation.run_inStep (o : Operation) : Preserves Ink.InStep o.run :=
  preserves_iff_ends.2 (operating_inStep.run (fun _ _ _ _ _ _ => OpFault.ne_noColorPair)
    (fun titles current => (askPageNumber_inStep titles current).ends) openTerminal_inStep.ends o)

/-- The stages that operations lead to once the terminal was taken over. An operation may end in a
fault, and in between the terminal may change its size and the files may change. -/
inductive Reached (begun : Stage Screen) : Stage Screen → Prop where
  | opened : Reached begun (Outcome.state (openTerminal begun))
  | operated {s : Stage Screen} (reached : Reached begun s) (o : Operation) :
      Reached begun (Outcome.state (o.run s))
  | elsewhere {s : Stage Screen} (reached : Reached begun s) (h : Host)
      (patient : Patient h.refuses) : Reached begun { s with host := h }

theorem Reached.inStep {begun : Stage Screen} (hbegun : (ink begun).Tracked)
    (h : Reached begun s) : (ink s).InStep := by
  induction h with
  | opened =>
    obtain ⟨t, hopen, ht⟩ := openTerminal_ok hbegun
    rw [hopen]
    exact ht
  | @operated s reached o ih =>
    have hleaves := o.run_inStep s ih
    rcases hrun : o.run s with ⟨⟨⟩, t⟩ | ⟨fault, t⟩
    · rw [hrun] at hleaves
      exact hleaves
    · rw [hrun] at hleaves
      exact hleaves.1
  | elsewhere reached h patient ih =>
    exact ⟨⟨patient, ih.flags, ih.pair, ih.known⟩, ih.synced⟩

theorem tracked_start {h : Host} {typeDelay slideDelay : Delay} {font : Text}
    (hstart : s.surface = start h typeDelay slideDelay font) (hpen : s.journal.pen = {})
    (hpatient : Patient s.host.refuses) : (ink s).Tracked := by
  have hink : ink s = ⟨{}, {}, { color := some "white" }, s.host.refuses⟩ := by
    rw [ink, hpen, hstart]
    rfl
  rw [hink]
  exact {
    patient := hpatient
    flags := fun f => by cases f <;> rfl
    pair := fun c hc hactive => by cases hactive
    known := Style.known_withColor (s := {}) rfl }

/-- After every operation on an opened screen the terminal has just the attributes that the screen
believes to be on, these are the style to draw in, and that style is in a colour with a pair. No
operation looks a colour up in vain. -/
theorem attributes_in_step {begun : Stage Screen} {h : Host} {typeDelay slideDelay : Delay}
    {font : Text} (hstart : begun.surface = start h typeDelay slideDelay font)
    (hpen : begun.journal.pen = {}) (hpatient : Patient begun.host.refuses) :
    (∃ opened, openTerminal begun = .ok () opened) ∧
      ∀ s, Reached begun s →
        (∀ f, s.journal.pen.flag f = s.surface.active.flag f) ∧
        (∃ color ∈ Color.all, s.surface.active.color = some color.name ∧
          s.journal.pen.pair = color.pair) ∧
        s.surface.active = s.surface.style ∧
        (∃ name ∈ Color.names, s.surface.style.color = some name) ∧
        ∀ (o : Operation) fault t, o.run s = .error fault t →
          ∀ name, fault ≠ .noColorPair name := by
  have hbegun : (ink begun).Tracked := tracked_start hstart hpen hpatient
  obtain ⟨opened, hopen, -⟩ := openTerminal_ok hbegun
  refine ⟨⟨opened, hopen⟩, fun s hreached => ?_⟩
  have hstep : (ink s).InStep := Reached.inStep hbegun hreached
  obtain ⟨c, hc, hcolor⟩ := hstep.known
  have hall : c ∈ Color.all := List.mem_of_find?_eq_some hc
  have hactive : s.surface.active.color = some c.name :=
    (congrArg Style.color hstep.synced).trans hcolor
  refine ⟨hstep.flags, ⟨c, hall, hactive, hstep.pair c hc hactive⟩, hstep.synced,
    ⟨c.name, List.mem_map_of_mem hall, hcolor⟩, ?_⟩
  intro o fault t hrun
  have hleaves := o.run_inStep s hstep
  rw [hrun] at hleaves
  exact hleaves.2

/-- On a terminal that draws nothing, after bold was switched on and a line was drawn in red. -/
theorem attributes_in_step_bold_line :
    let host : Host := { Host.quiet with refuses := fun f => f = .drawText }
    let begun : Stage Screen := ⟨host, {}, start host (.whole 0) (.whole 0) "standard", none⟩
    let opened := Outcome.state (openTerminal begun)
    let bold := Outcome.state ((Operation.perform .boldOn).run opened)
    let drawn := Outcome.state ((Operation.perform (.printLine (some "--c red a--/b b"))).run bold)
    Patient host.refuses ∧ bold.journal.pen.flag .bold = true ∧
      drawn.surface.active = drawn.surface.style ∧
      drawn.journal.pen.flag .bold = drawn.surface.active.flag .bold := by
  intro host begun opened bold drawn
  have hpatient : Patient host.refuses := fun f hf => .inl (of_decide_eq_true hf)
  obtain ⟨-, hall⟩ := @attributes_in_step begun host _ _ _ rfl rfl hpatient
  have hbold : Reached begun bold := .operated .opened (.perform .boldOn)
  obtain ⟨hflags, -⟩ := hall bold hbold
  obtain ⟨hdrawn, -, hsynced, -⟩ := hall drawn (.operated hbold _)
  exact ⟨hpatient, (hflags .bold).trans rfl, hsynced, hdrawn .bold⟩

end SlideDeck.Screen
