import SlideDeck.Proofs.Screen.Operations

/-!
# Styles that are kept

A heading, a line of text, a rule, the header, the footer, huge text and the status line are drawn
in styles of their own, and leave the screen in the style that it had, and the terminal with its
attributes. So does a title, but that bold is off after it, whatever it was before.
-/

namespace SlideDeck

namespace Screen

open Act Outcome

/-- A screen that draws in a style, on a terminal that has just the attributes of it. -/
structure InStyle (style : Style) (s : Stage Screen) : Prop extends (ink s).InStep where
  style_eq : s.surface.style = style

variable {style : Style} {s t : Stage Screen}

theorem InStyle.of_ink (h : InStyle style s) (hink : ink t = ink s) : InStyle style t where
  toInStep := hink.symm ▸ h.toInStep
  style_eq := (congrArg Ink.style hink).trans h.style_eq

theorem InStyle.style_known (h : InStyle style s) : style.Known := by
  have hknown : s.surface.style.Known := h.known
  rwa [h.style_eq] at hknown

theorem setStyle_inStyle (hstyle : style.Known) (h : (ink s).Tracked) :
    ∃ t, setStyle style s = .ok () t ∧ InStyle style t := by
  obtain ⟨t, hset, ht, hkept⟩ := setStyle_ok hstyle h
  exact ⟨t, hset, ht, hkept⟩

/-! ### Text -/

theorem drawAt_inStyle (y x : Int) (t : Text) :
    Ends (InStyle style) Any (fun _ => False) (drawAt y x t) := by
  intro s hs
  have htakes : s.host.TakesAnyText := Patient.takesAnyText hs.patient
  obtain ⟨u, hdraw, hink⟩ := drawAt_ok (htakes.takes t) y x
  rw [hdraw]
  exact ⟨trivial, hs.of_ink hink⟩

theorem nextRow_inStyle : Ends (InStyle style) Any (fun _ => False) nextRow :=
  .modify fun _ hs => hs.of_ink rfl

theorem drawStyledLine_inStyle {align : Alignment} {line : List (Glyph Char)}
    (hline : style.Known → ∀ g ∈ line, g.style.Known) :
    Ends (InStyle style) Any (fun _ => False) (drawStyledLine align line) := by
  intro s hs
  obtain ⟨t, hdraw, ht, hkept⟩ :=
    drawStyledLine_ok align (hline hs.style_known) hs.toInStep
  rw [hdraw]
  exact ⟨trivial, ht, hkept.trans hs.style_eq⟩

/-- Whatever text is drawn, every line of it ends in the style that it began in. -/
theorem writing_inStyle : Writing (InStyle style) Any where
  journal _ _ hj _ _ hs := hs.of_ink (ink_journal hj)
  fault _ _ _ _ _ _ := trivial
  nextRow := nextRow_inStyle.mono (fun _ => id) fun _ => False.elim
  styledLine _ hs _ _ hline :=
    (drawStyledLine_inStyle fun _ => hline hs.known).mono (fun _ => id) fun _ => False.elim

/-- Centred text is neither typed nor slid in, so that it is never broken off. -/
theorem drawText_center_inStyle (t : Option Text) :
    Ends (InStyle style) Any (fun _ => False) (drawText .center t) := by
  have hplain (typed slides : Bool) (line : Text) :
      Ends (InStyle style) Any (fun _ => False)
        (drawPlainLine .center typed slides line) := by
    refine .andThen surface_ends fun s => .iteThen (fun _ => drawAt_inStyle _ _ _) ?_
    refine .ite (fun _ => ?_) fun hleft => absurd nofun hleft
    exact .andThen (drawAt_inStyle _ _ _) fun _ =>
      .iteThen (fun _ => drawAt_inStyle _ _ _) nextRow_inStyle
  cases t with
  | none => exact .pure trivial
  | some t =>
    refine .bind surface_ends fun b hb => ?_
    obtain ⟨s, hs, rfl⟩ := hb
    refine .ite (fun _ => .forM fun _ _ => hplain _ _ _) fun _ => ?_
    refine .ite (fun _ => .forM fun _ _ => hplain _ _ _) fun _ => .forM fun line hline => ?_
    refine drawStyledLine_inStyle fun _ g hg => ?_
    exact Glyph.known_ofText hs.known (some t) g (Layout.subset_of_mem_wrap hline hg)

/-! ### Styles for a while -/

/-- Where a style is taken on for a while, the one before comes back, even if what is drawn in it is
broken off. -/
theorem withStyle_inStyle {f : Style → Style} (hf : style.Known → (f style).Known)
    {act : Act Screen Unit} (hact : Ends (InStyle (f style)) Any Any act) :
    Ends (InStyle style) Any Any (withStyle f act) := by
  intro s hs
  have hknown : style.Known := hs.style_known
  obtain ⟨t, hset, ht⟩ := setStyle_inStyle (hf hknown) hs.toTracked
  have hrun : withStyle f act s = tryFinally act (setStyle style) t := by
    refine (Outcome.bind_ok (t := s) rfl).trans ?_
    rw [hs.style_eq]
    exact Outcome.bind_ok hset
  have hback (u : Stage Screen) (hu : InStyle (f style) u) :
      Ended (InStyle style) Any Any (setStyle style u) := by
    obtain ⟨v, hset, hv⟩ := setStyle_inStyle hknown hu.toTracked
    rw [hset]
    exact ⟨trivial, hv⟩
  rw [hrun]
  exact ended_tryFinally (hact t ht) hback

/-- A title is bold, and nothing is bold after it. -/
theorem title_inStyle (t : Option Text) (h : InStyle style s) :
    ∃ u, perform (.title t) s = .ok () u ∧ InStyle (style.withFlag .bold false) u := by
  have hknown : style.Known := h.style_known
  have hdrawn (style : Style) (t : Option Text) (s : Stage Screen) (hs : InStyle style s) :
      ∃ u, drawText .center t s = .ok () u ∧ InStyle style u := by
    obtain ⟨⟨⟩, u, hdraw, -, hu⟩ := (drawText_center_inStyle t).ok hs
    exact ⟨u, hdraw, hu⟩
  -- Bold is switched, not taken on for a while: the style of the text is not given back.
  obtain ⟨t₁, hbold, h₁⟩ := setStyle_inStyle (hknown.withFlag .bold true) h.toTracked
  obtain ⟨t₂, hdraw, h₂⟩ := hdrawn _ t t₁ h₁
  obtain ⟨t₃, hplain, h₃⟩ := setStyle_inStyle (hknown.withFlag .bold false) h₂.toTracked
  obtain ⟨t₄, hempty, h₄⟩ := hdrawn _ (some []) t₃ h₃
  have hon : restyle (·.withFlag .bold true) s = .ok () t₁ := by
    refine (Outcome.bind_ok (t := s) rfl).trans ?_
    rw [h.style_eq]
    exact hbold
  have hoff : restyle (·.withFlag .bold false) t₂ = .ok () t₃ := by
    refine (Outcome.bind_ok (t := t₂) rfl).trans ?_
    rw [h₂.style_eq]
    exact hplain
  exact ⟨t₄, (Outcome.bind_ok hon).trans ((Outcome.bind_ok hdraw).trans
    ((Outcome.bind_ok hoff).trans hempty)), h₄⟩

/-! ### Items -/

namespace Operation

/-- The operations that draw an item: something of the page, its header or footer, or the status
line. -/
def drawsItem : Operation → Bool
  | perform (.heading _) | perform (.title _) | perform (.author _) | perform (.date _)
  | perform (.center _) | perform (.right _) | perform (.printLine _) | perform .horizontalLine
  | perform (.header _) | perform (.footer _) | perform (.huge _) | drawStatus .. => true
  | _ => false

def isTitle : Operation → Bool
  | perform (.title _) => true
  | _ => false

/-- Every item but a title leaves the style that it found. -/
theorem run_inStyle {o : Operation} (ho : o.drawsItem = true) (htitle : o.isTitle = false) :
    Ends (InStyle style) Any Any o.run := by
  -- Headings, rules and the star are drawn in bold and the status line without it, all of them for
  -- a while; the rest is drawn in the style as it is.
  have hwriting (style : Style) : Writing (InStyle style) Any := writing_inStyle
  have hbold (on : Bool) {act : Act Screen Unit}
      (hact : Ends (InStyle (style.withFlag .bold on)) Any Any act) :
      Ends (InStyle style) Any Any (withStyle (·.withFlag .bold on) act) :=
    withStyle_inStyle (fun hknown => hknown.withFlag .bold on) hact
  have hcentered (f : Screen → Screen) (y : Screen → Int) (t : Text)
      (hf : ∀ b, (f b).active = b.active ∧ (f b).style = b.style) :
      Ends (InStyle style) Any Any
        (do modifySurface f; drawCentered (y (← surface)) t) :=
    .andThen (.modify fun s hs => hs.of_ink (by simp only [ink, hf])) fun _ =>
      .andThen surface_ends fun _ => (hwriting style).drawCentered _ t
  have hfooter (t : Text) : Ends (InStyle style) Any Any (setFooter t) :=
    hcentered _ (·.rows - 3) t fun _ => ⟨rfl, rfl⟩
  have hheader (t : Text) : Ends (InStyle style) Any Any (setHeader t) :=
    hcentered _ (fun _ => 1) t fun _ => ⟨rfl, rfl⟩
  cases o with
  | drawStatus number count ended title =>
    refine .andThen (hbold false ?_) fun _ => .andThen surface_ends fun b => ?_
    · exact .andThen surface_ends fun _ => .andThen (.modify fun _ hs => hs.of_ink rfl) fun _ =>
        (hwriting _).drawAt _ _ _
    · refine .iteThen (fun _ => hfooter _) (.iteThen (fun _ => hheader _) ?_)
      refine .ite (fun _ => hbold true ?_) fun _ => .pure trivial
      exact .andThen surface_ends fun _ => (hwriting _).drawAt _ _ _
  | perform op =>
    cases op with
    | printLine t | center t | right t => exact (hwriting style).drawText _ t
    | heading t => exact hbold true ((hwriting _).drawText .center t)
    | horizontalLine =>
      refine hbold true (.andThen surface_ends fun _ => ?_)
      exact .andThen (copies_ends (fun _ => trivial) (fun _ => trivial) _) fun _ =>
        (hwriting _).drawAt _ _ _
    | huge t =>
      have hrender (font : Text) (width : Int) :
          Ends (InStyle style) Any Any (HugeText.render t font width) :=
        HugeText.render_ends (fun s j hevents hs =>
          hs.of_ink (ink_journal (by simp only [Journal.pen, hevents]))) t font width
          fun _ _ _ _ => trivial
      have hhuge : Ends (InStyle style) Any Any (drawHuge t) :=
        .andThen surface_ends fun _ => .andThen (hrender _ _) fun _ =>
          .forM fun _ _ => (hwriting style).drawText _ _
      exact hhuge
    | footer t => exact hfooter t
    | header t => exact hheader t
    | author t | date t => exact (hwriting style).drawTitleLine t
    | title t => cases htitle
    | _ => cases ho
  | _ => cases ho

/-- The style that an item leaves. -/
theorem state_run_inStyle {o : Operation} (ho : o.drawsItem = true) (h : InStyle style s) :
    InStyle (if o.isTitle then style.withFlag .bold false else style) (state (o.run s)) := by
  rcases htitle : o.isTitle with - | -
  · rw [if_neg Bool.false_ne_true]
    exact keeps_iff_ends.2 (run_inStyle ho htitle) s h
  · rw [if_pos rfl]
    cases o with
    | perform op =>
      cases op with
      | title t =>
        obtain ⟨u, hrun, hu⟩ := title_inStyle t h
        have htitle : (perform (.title t)).run s = .ok () u := hrun
        rw [htitle]
        exact hu
      | _ => cases htitle
    | _ => cases htitle

end Operation

theorem withFlag_bold_eq_self_iff : style.withFlag .bold false = style ↔ style.bold = false := by
  obtain ⟨bold, underline, reverse, color⟩ := style
  simp [Style.withFlag, eq_comm]

/-- An item drawn on an opened screen leaves the style to draw in as it was, even if it is broken
off, except that a title switches bold off where it was on. The terminal has just the attributes of
the style that is left. -/
theorem style_kept_iff {begun : Stage Screen} {h : Host} {typeDelay slideDelay : Delay}
    {font : Text} (hstart : begun.surface = start h typeDelay slideDelay font)
    (hpen : begun.journal.pen = {}) (hpatient : Patient begun.host.refuses)
    (hs : Reached begun s) {o : Operation} (ho : o.drawsItem = true) :
    let t := state (o.run s)
    (t.surface.style = s.surface.style ↔ ¬(o.isTitle = true ∧ s.surface.style.bold = true)) ∧
      t.surface.style =
        (if o.isTitle then s.surface.style.withFlag .bold false else s.surface.style) ∧
      t.surface.active = t.surface.style ∧
      (∀ f, t.journal.pen.flag f = t.surface.style.flag f) ∧
      ∃ color ∈ Color.all, t.surface.style.color = some color.name ∧
        t.journal.pen.pair = color.pair := by
  intro t
  have hstep : (ink s).InStep := Reached.inStep (tracked_start hstart hpen hpatient) hs
  have hbefore : InStyle s.surface.style s := ⟨hstep, rfl⟩
  have hleft := Operation.state_run_inStyle ho hbefore
  have hstyle : t.surface.style =
      (if o.isTitle then s.surface.style.withFlag .bold false else s.surface.style) :=
    hleft.style_eq
  have hactive : t.surface.active = t.surface.style := hleft.synced
  obtain ⟨c, hc, hcolor⟩ := hleft.known
  refine ⟨?_, hstyle, hactive, fun f => (hleft.flags f).trans (congrArg (·.flag f) hactive), c,
    List.mem_of_find?_eq_some hc, hcolor, hleft.pair c hc ((congrArg Style.color hactive).trans
      hcolor)⟩
  rw [hstyle]
  rcases o.isTitle with - | -
  · simp
  · simp [withFlag_bold_eq_self_iff]

/-- A heading in a frame, on a screen that draws in bold red. -/
theorem style_kept_iff_heading :
    let begun : Stage Screen :=
      ⟨Host.quiet, {}, start Host.quiet (.whole 0) (.whole 0) "standard", none⟩
    let opened := state (openTerminal begun)
    let bold := state ((Operation.perform .boldOn).run opened)
    let red := state ((Operation.perform (.color (some "red"))).run bold)
    let framed := state ((Operation.perform .beginOutput).run red)
    let drawn := state ((Operation.perform (.heading (some "a"))).run framed)
    Patient Host.quiet.refuses ∧ framed.surface.style = { bold := true, color := some "red" } ∧
      drawn.surface.style = framed.surface.style ∧ drawn.journal.pen.flag .bold = true := by
  intro begun opened bold red framed drawn
  have hpatient : Patient Host.quiet.refuses := nofun
  have hstyle : framed.surface.style = { bold := true, color := some "red" } := by decide +kernel
  have hframed : Reached begun framed :=
    .operated (.operated (.operated .opened (.perform .boldOn)) (.perform (.color (some "red"))))
      (.perform .beginOutput)
  clear_value framed
  have hall := @style_kept_iff framed begun Host.quiet (.whole 0) (.whole 0) "standard" rfl rfl
    hpatient hframed (.perform (.heading (some "a"))) rfl
  obtain ⟨hiff, -, -, hflags, -⟩ := hall
  have hsame : drawn.surface.style = framed.surface.style :=
    hiff.2 fun h => Bool.false_ne_true h.1
  have hbold : drawn.surface.style.flag .bold = true :=
    congrArg (·.flag .bold) (hsame.trans hstyle)
  exact ⟨hpatient, hstyle, hsame, (hflags .bold).trans hbold⟩

/-- After a title, text that was bold before it is bold no more. -/
theorem title_ends_bold :
    let begun : Stage Screen :=
      ⟨Host.quiet, {}, start Host.quiet (.whole 0) (.whole 0) "standard", none⟩
    let opened := state (openTerminal begun)
    let bold := state ((Operation.perform .boldOn).run opened)
    let drawn := state ((Operation.perform (.title (some "T"))).run bold)
    Reached begun bold ∧ bold.surface.style.bold = true ∧ drawn.surface.style.bold = false ∧
      drawn.journal.pen.bold = false := by
  intro begun opened bold drawn
  have hbold : Reached begun bold := .operated .opened (.perform .boldOn)
  exact ⟨hbold, by decide +kernel, by decide +kernel, by decide +kernel⟩

end Screen

end SlideDeck
