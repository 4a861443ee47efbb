import SlideDeck.Proofs.Screen.Strokes
import SlideDeck.Proofs.Screen.Writing

/-!
# Steps

Text is drawn with strokes, a row at a time, in styles that the screen takes on and gives back
(`Writing`), and every operation of a screen writes such text or changes the screen a little
(`Operating`). What holds of these few steps holds of every operation.
-/

namespace SlideDeck.Screen

open Act Outcome

/-- Strokes, the way to the next row, and lines in the style of the screen and those that markers
lead to from it. -/
structure Writing (P : Stage Screen → Prop) (E : Fault → Prop) : Prop extends Drawing P E where
  nextRow : Ends P Any E nextRow
  styledLine : ∀ s, P s → ∀ align line, (s.surface.style.Known → ∀ g ∈ line, g.style.Known) →
    Ends P Any E (drawStyledLine align line)

/-- A change that leaves the styles of a screen, its delays, its row and its width. -/
structure Mild (f : Screen → Screen) : Prop where
  style : ∀ b, (f b).style = b.style := by exact fun _ => rfl
  active : ∀ b, (f b).active = b.active := by exact fun _ => rfl
  typeDelay : ∀ b, (f b).typeDelay = b.typeDelay := by exact fun _ => rfl
  slideDelay : ∀ b, (f b).slideDelay = b.slideDelay := by exact fun _ => rfl
  row : ∀ b, (f b).row = b.row := by exact fun _ => rfl
  columns : ∀ b, (f b).columns = b.columns := by exact fun _ => rfl

/-- What operations come down to besides writing. -/
structure Operating (P : Stage Screen → Prop) (E : Fault → Prop) : Prop extends Writing P E where
  fonts : ∀ s j, j.events = s.journal.events → P s → P { s with journal := j }
  change : ∀ {f}, Mild f → Ends P Any E (modifySurface f)
  turn : Ends P Any E
    (modifySurface fun s => { s with row := topRow, output := false, shellOutput := false })
  learnSize : Ends P Any E learnSize
  setStyle : ∀ s, P s → ∀ style, (s.surface.style.Known → style.Known) →
    Ends P Any E (setStyle style)
  setBackground : ∀ name, Ends P Any E (setBackground name)

variable {P : Stage Screen → Prop} {E : Fault → Prop}

/-! ### Taking on a style -/

/-- What a property must allow for a style to be taken on: attributes that are switched, and that
are believed to be on. -/
theorem applyStyle_ends (hrefused : ∀ f, E (.refused (.terminal f)))
    (hcolor : ∀ name, E (.noColorPair name))
    (hcall : ∀ s a, P s → P (noted s (.terminal (.attributeOn a))) ∧
      P (noted s (.terminal (.attributeOff a))))
    (hactive : ∀ s a, P s → P { s with surface := { s.surface with active := a } })
    (style : Style) : Ends P Any E (applyStyle style) := by
  have hmade {c : TerminalCall} (hc : ∀ s, P s → P (noted s (.terminal c)))
      (hempty : c.text = []) : Ends P Any E (call c) := by
    refine call_ends hc fun s r _ hr => ?_
    rcases Host.rejection?_cases hr with ⟨-, -, hnul⟩ | ⟨f, rfl, -⟩
    · rw [hempty] at hnul
      cases hnul
    · exact hrefused f
  have hon (a : Attribute) : Ends P Any E (call (.attributeOn a)) :=
    hmade (fun s hs => (hcall s a hs).1) rfl
  have hoff (a : Attribute) : Ends P Any E (call (.attributeOff a)) :=
    hmade (fun s hs => (hcall s a hs).2) rfl
  have hflag (f : Flag) : Ends P Any E (applyFlag style f) := by
    refine .andThen surface_ends fun _ => .ite (fun _ => ?_) fun _ => .pure trivial
    refine .andThen (tolerant_ends ?_) fun _ => .modify fun s hs => hactive s _ hs
    split
    · exact hon _
    · exact hoff _
  have hcolored : Ends P Any E (applyColor style) := by
    unfold applyColor
    rcases style.color with - | name
    · exact .pure trivial
    refine .andThen surface_ends fun _ => .ite (fun _ => ?_) fun _ => .pure trivial
    refine .andThen (hoff _) fun _ => ?_
    rcases Color.named? name with - | color
    · exact .andThen (.throw (V := Any) (hcolor name)) fun _ =>
        .modify fun s hs => hactive s _ hs
    · exact .andThen (hon _) fun _ => .modify fun s hs => hactive s _ hs
  exact .andThen (hflag .bold) fun _ => .andThen (hflag .underline) fun _ =>
    .andThen (hflag .reverse) fun _ => hcolored

theorem Drawing.styledLine (h : Drawing P E) (hrow : Ends P Any E Screen.nextRow)
    (hstyle : ∀ style, Ends P Any E (applyStyle style)) (align : Alignment)
    (line : List (Glyph Char)) : Ends P Any E (drawStyledLine align line) := by
  have hsegments (x : Int) (segs : List (Layout.Segment Char)) :
      Ends P Any E (drawSegments x segs) := by
    induction segs generalizing x with
    | nil => exact .pure trivial
    | cons seg rest ih =>
      exact .andThen (hstyle _) fun _ => .andThen surface_ends fun _ =>
        .andThen (h.drawAt _ _ _) fun _ => ih _
  exact .andThen surface_ends fun _ => .ite
    (fun _ => .andThen (hsegments _ _) fun _ => .andThen (hstyle _) fun _ => hrow) fun _ => hrow

/-- Strokes on which any style may be taken on are enough for text. -/
theorem Drawing.writing (h : Drawing P E) (hrow : Ends P Any E Screen.nextRow)
    (hstyle : ∀ style, Ends P Any E (applyStyle style)) : Writing P E where
  toDrawing := h
  nextRow := hrow
  styledLine _ _ align line _ := h.styledLine hrow hstyle align line

/-! ### Text -/

namespace Writing

theorem drawPlainLine (h : Writing P E) (align : Alignment) (typed slides : Bool) (line : Text) :
    Ends P Any E (drawPlainLine align typed slides line) := by
  refine .andThen surface_ends fun s => .iteThen (fun _ => h.drawAt _ _ _) ?_
  have hend : Ends P Any E (do
      if s.framed && !s.sliding then Screen.drawAt s.row (s.columns - indent - 2) " |"
      Screen.nextRow) := .iteThen (fun _ => h.drawAt _ _ _) h.nextRow
  refine .ite (fun _ => .andThen (h.drawAt _ _ _) fun _ => hend) fun _ => ?_
  refine .ite (fun _ => .andThen (h.typeText _ _) fun _ => hend) fun _ => ?_
  exact .ite (fun _ => .andThen (h.slideText _) fun _ => hend) fun _ =>
    .andThen (h.drawAt _ _ _) fun _ => hend

theorem drawText (h : Writing P E) (align : Alignment) (t : Option Text) :
    Ends P Any E (drawText align t) := by
  cases t with
  | none => exact .pure trivial
  | some t =>
    refine .bind surface_ends fun b hb => ?_
    obtain ⟨s, hs, rfl⟩ := hb
    refine .ite (fun _ => .forM fun _ _ => h.drawPlainLine _ _ _ _) fun _ => ?_
    refine .ite (fun _ => .forM fun _ _ => h.drawPlainLine _ _ _ _) fun _ => ?_
    refine .forM fun line hline => h.styledLine s hs align line fun hknown g hg => ?_
    exact Glyph.known_ofText hknown (some t) g (Layout.subset_of_mem_wrap hline hg)

theorem drawTitleLine (h : Writing P E) (t : Option Text) : Ends P Any E (drawTitleLine t) :=
  .andThen (h.drawText _ _) fun _ => h.drawText _ _

theorem drawRule (h : Writing P E) (left right : Text) : Ends P Any E (drawRule left right) := by
  refine .bind surface_ends fun b hb => ?_
  obtain ⟨s, hs, rfl⟩ := hb
  have hwidth : s.surface.columns - indent * 2 - 2 ≤ s.surface.columns := by
    simp only [indent]
    omega
  exact .andThen (h.copies hs hwidth _) fun _ => .andThen (h.drawAt _ _ _) fun _ => h.nextRow

end Writing

/-! ### Operations -/

namespace Operating

theorem restyle (h : Operating P E) {f : Style → Style}
    (hf : ∀ style : Style, style.Known → (f style).Known) : Ends P Any E (restyle f) := by
  refine .bind surface_ends fun b hb => ?_
  obtain ⟨s, hs, rfl⟩ := hb
  exact h.setStyle s hs _ (hf _)

theorem withStyle (h : Operating P E) {f : Style → Style}
    (hf : ∀ style : Style, style.Known → (f style).Known) {act : Act Screen Unit}
    (hact : Ends P Any E act) : Ends P Any E (withStyle f act) := by
  refine .bind surface_ends fun b hb => ?_
  obtain ⟨s, hs, rfl⟩ := hb
  exact .andThen (h.setStyle s hs _ (hf _)) fun _ => .tryFinally hact (h.setStyle s hs _ id)

theorem restyle_flag (h : Operating P E) (f : Flag) (on : Bool) :
    Ends P Any E (Screen.restyle (·.withFlag f on)) :=
  h.restyle fun _ hknown => hknown.withFlag f on

theorem withStyle_flag (h : Operating P E) (f : Flag) (on : Bool) {act : Act Screen Unit}
    (hact : Ends P Any E act) : Ends P Any E (Screen.withStyle (·.withFlag f on) act) :=
  h.withStyle (fun _ hknown => hknown.withFlag f on) hact

theorem setFooter (h : Operating P E) (t : Text) : Ends P Any E (setFooter t) :=
  .andThen (h.change {}) fun _ => .andThen surface_ends fun _ => h.drawCentered _ t

theorem setHeader (h : Operating P E) (t : Text) : Ends P Any E (setHeader t) :=
  .andThen (h.change {}) fun _ => h.drawCentered 1 t

theorem setColor (h : Operating P E) (name : Option Text) : Ends P Any E (setColor name) := by
  rcases name with - | color
  · exact h.warn _
  · exact .ite (fun hcolor => h.restyle fun _ _ => Style.known_withColor hcolor) fun _ => h.warn _

theorem setForeground (h : Operating P E) (name : Option Text) :
    Ends P Any E (setForeground name) := by
  rcases name with - | color
  · exact h.warn _
  · exact .ite (fun hcolor => .andThen (h.change {}) fun _ =>
      h.restyle fun _ _ => Style.known_withColor hcolor) fun _ => h.warn _

theorem drawHuge (h : Operating P E) {t : Text}
    (ht : ∀ s u e, P s → P u → OpFault u.host s.surface.columns (.huge t) e → E e) :
    Ends P Any E (drawHuge t) := by
  refine .bind surface_ends fun b hb => ?_
  obtain ⟨s, hs, rfl⟩ := hb
  exact .andThen (HugeText.render_ends h.fonts _ _ _ fun u _ hu hroom =>
    ht s u _ hs hu (.huge hroom)) fun _ => .forM fun _ _ => h.drawText _ _

theorem perform (h : Operating P E) {op : Op}
    (hop : ∀ s t e, P s → P t → OpFault t.host s.surface.columns op e → E e) :
    Ends P Any E (perform op) := by
  cases op with
  | newPage =>
    exact .andThen h.turn fun _ => .andThen h.learnSize fun _ => h.call fun _ => rfl
  | refresh => exact h.call fun _ => rfl
  | printLine t | center t | right t => exact h.drawText _ _
  | heading t => exact h.withStyle_flag .bold true (h.drawText _ _)
  | withBorder => exact h.drawBorder
  | horizontalLine =>
    refine h.withStyle_flag .bold true (.bind surface_ends fun b hb => ?_)
    obtain ⟨s, hs, rfl⟩ := hb
    exact .andThen (h.copies hs (Int.le_refl _) _) fun _ => h.drawAt _ _ _
  | color name => exact h.setColor name
  | exec command => exact h.exec command fun s hs hrefused => hop s s _ hs hs (.exec hrefused)
  | wait => exact .pure trivial
  | beginOutput | beginShellOutput => exact .andThen (h.drawRule _ _) fun _ => h.change {}
  | endOutput | endShellOutput =>
    exact .andThen surface_ends fun _ =>
      .ite (fun _ => .andThen (h.drawRule _ _) fun _ => h.change {}) fun _ => .pure trivial
  | sleep d =>
    exact .andThen (h.call fun _ => rfl) fun _ =>
      h.pause _ fun s e hs he => hop s s e hs hs (.sleep he)
  | boldOn | boldOff | reverseOn | reverseOff | underlineOn | underlineOff =>
    exact h.restyle_flag _ _
  | beginSlide | endSlide | setHugeFont =>
    unfold Screen.perform
    exact h.change {}
  | huge t => exact h.drawHuge hop
  | footer t => exact h.setFooter t
  | header t => exact h.setHeader t
  | title t =>
    exact .andThen (h.restyle_flag .bold true) fun _ => .andThen (h.drawText _ _) fun _ =>
      .andThen (h.restyle_flag .bold false) fun _ => h.drawText _ _
  | author t | date t => exact h.drawTitleLine t
  | background name => exact h.setBackground name
  | foreground name => exact h.setForeground name

theorem drawStatus (h : Operating P E) (number count : Int) (ended : Bool) (title : Option Text) :
    Ends P Any E (drawStatus number count ended title) := by
  refine .andThen (h.withStyle_flag .bold false ?_) fun _ => .andThen surface_ends fun s => ?_
  · exact .andThen surface_ends fun _ => .andThen (h.change {}) fun _ => h.drawAt _ _ _
  · refine .iteThen (fun _ => h.setFooter _) (.iteThen (fun _ => h.setHeader _) ?_)
    refine .ite (fun _ => h.withStyle_flag .bold true ?_) fun _ => .pure trivial
    exact .andThen surface_ends fun _ => h.drawAt _ _ _

theorem openTerminal (h : Operating P E) (hstyle : ∀ style, Ends P Any E (applyStyle style)) :
    Ends P Any E openTerminal :=
  .andThen (tolerant_ends (h.call fun _ => rfl)) fun _ => .andThen (h.call fun _ => rfl) fun _ =>
    .andThen (h.call fun _ => rfl) fun _ => .andThen (h.call fun _ => rfl) fun _ =>
      .andThen (h.setBackground _) fun _ => .andThen surface_ends fun _ => hstyle _

theorem mono {F : Fault → Prop} (h : Operating P E) (hE : ∀ e, E e → F e) : Operating P F where
  toDrawing := h.toDrawing.mono hE
  nextRow := h.nextRow.mono (fun _ => id) hE
  styledLine s hs align line hline := (h.styledLine s hs align line hline).mono (fun _ => id) hE
  fonts := h.fonts
  change hf := (h.change hf).mono (fun _ => id) hE
  turn := h.turn.mono (fun _ => id) hE
  learnSize := h.learnSize.mono (fun _ => id) hE
  setStyle s hs style hknown := (h.setStyle s hs style hknown).mono (fun _ => id) hE
  setBackground name := (h.setBackground name).mono (fun _ => id) hE

theorem both {Q : Stage Screen → Prop} {F : Fault → Prop} (h : Operating P E)
    (h' : Operating Q F) : Operating (fun s => P s ∧ Q s) (fun e => E e ∧ F e) where
  journal s j hpen hfonts hreadings hs :=
    ⟨h.journal s j hpen hfonts hreadings hs.1, h'.journal s j hpen hfonts hreadings hs.2⟩
  fault s t e hs ht he := ⟨h.fault s t e hs.1 ht.1 he, h'.fault s t e hs.2 ht.2 he⟩
  nextRow := (h.nextRow.both h'.nextRow).any
  styledLine s hs align line hline :=
    ((h.styledLine s hs.1 align line hline).both (h'.styledLine s hs.2 align line hline)).any
  fonts s j hevents hs := ⟨h.fonts s j hevents hs.1, h'.fonts s j hevents hs.2⟩
  change hf := ((h.change hf).both (h'.change hf)).any
  turn := (h.turn.both h'.turn).any
  learnSize := (h.learnSize.both h'.learnSize).any
  setStyle s hs style hknown :=
    ((h.setStyle s hs.1 style hknown).both (h'.setStyle s hs.2 style hknown)).any
  setBackground name := ((h.setBackground name).both (h'.setBackground name)).any

/-- Where any style may be taken on, and the styles of the screen may be any, it is enough to look
at the other changes. -/
theorem ofStyles (h : Drawing P E)
    (hpaint : ∀ s style active, P s →
      P { s with surface := { s.surface with style := style, active := active } })
    (hstyle : ∀ style, Ends P Any E (applyStyle style)) (hrow : Ends P Any E Screen.nextRow)
    (hfonts : ∀ s j, j.events = s.journal.events → P s → P { s with journal := j })
    (hchange : ∀ {f}, Mild f → Ends P Any E (modifySurface f))
    (hturn : Ends P Any E
      (modifySurface fun s => { s with row := topRow, output := false, shellOutput := false }))
    (hsize : Ends P Any E Screen.learnSize) : Operating P E where
  toWriting := h.writing hrow hstyle
  fonts := hfonts
  change := hchange
  turn := hturn
  learnSize := hsize
  setStyle _ _ style _ := .andThen (.modify fun s hs => hpaint s style _ hs) fun _ => hstyle style
  setBackground _ :=
    .andThen (.forM fun _ _ => h.call fun _ => rfl) fun _ => .andThen surface_ends fun _ =>
      .andThen (h.call fun _ => rfl) fun _ =>
        .andThen (.modify fun s hs => hpaint s _ _ hs) fun _ =>
          .andThen surface_ends fun _ => hstyle _

end Operating

end SlideDeck.Screen
