import SlideDeck.Proofs.Screen.Picture

/-!
# Text that moves

A line that slides in from a side, or is typed, is drawn over and over. In the end the screen shows
what drawing the line once would show: each picture of a line covers the one before it, or is drawn
on a copy of the screen from before the first. A line from the right clears its row on the way, so
that there the row has to be blank (`animations_end_still`).
-/

namespace SlideDeck

namespace Grid

theorem clearFrom_clearFrom (g : Grid) (y : Int) {x x' : Int} (hx : x ≤ x') :
    (g.clearFrom y x').clearFrom y x = g.clearFrom y x := by
  funext row column
  simp only [clearFrom]
  split_ifs with hnear hfar
  · rfl
  · omega
  · rfl

end Grid

namespace Screen

open Act

variable {b : Screen} {g h : Grid} {p : Pen} {y x x' row column : Int} {t u : Text}

/-! ### Pictures over pictures -/

theorem clearFrom_drawn (t : Text) (hx : x ≤ x') :
    (b.drawn g p y x' t).clearFrom y x = g.clearFrom y x := by
  funext row column
  simp only [Grid.clearFrom]
  split_ifs with hcleared
  · rfl
  · apply drawn_off
    omega

/-- A text covers one that is no longer and begins at the same place. -/
theorem drawn_drawn (hlength : t.length ≤ u.length) :
    b.drawn (b.drawn g p y x t) p y x u = b.drawn g p y x u := by
  funext row column
  by_cases hcovered : row = y ∧ x ≤ column ∧ column < x + t.length
  · obtain ⟨rfl, hleft, hright⟩ := hcovered
    have hplace : (column - x).toNat < u.length := by omega
    simp only [drawn, Grid.draw, List.getElem?_eq_getElem hplace, hleft, true_and, if_true]
    split
    · rfl
    · rfl
  · refine drawn_congr u (drawn_off t ?_)
    omega

/-- What a line leaves on its row when it has slid in. -/
def slid (b : Screen) (p : Pen) (g : Grid) (row : Int) (line : Text) : Grid :=
  b.drawn (if b.side = .right ∧ line ≠ [] ∧ row < b.rows then g.clearFrom row indent else g)
    p row indent line

/-- The same characters everywhere on a screen. -/
def SameText (b : Screen) (g h : Grid) : Prop :=
  ∀ row column, 0 ≤ row → row < b.rows → 0 ≤ column → column < b.columns →
    (g row column).symbol = (h row column).symbol

def BlankRow (b : Screen) (g : Grid) (row : Int) : Prop :=
  ∀ column, indent ≤ column → column < b.columns → (g row column).symbol = ' '

theorem SameText.drawn (hsame : b.SameText g h) (p : Pen) (y x : Int) (t : Text) :
    b.SameText (b.drawn g p y x t) (b.drawn h p y x t) := by
  intro row column htop hbottom hleft hright
  rw [drawn_within t ⟨htop, hbottom⟩ ⟨hleft, hright⟩,
    drawn_within t ⟨htop, hbottom⟩ ⟨hleft, hright⟩]
  unfold Grid.draw
  split
  · split
    · rfl
    · exact hsame row column htop hbottom hleft hright
  · exact hsame row column htop hbottom hleft hright

theorem SameText.clearFrom (hsame : b.SameText g h) (hblank : b.BlankRow g row) :
    b.SameText (g.clearFrom row indent) h := by
  intro r column htop hbottom hleft hright
  rw [← hsame r column htop hbottom hleft hright]
  unfold Grid.clearFrom
  split
  · rename_i hcleared
    obtain ⟨rfl, hfrom⟩ := hcleared
    exact (hblank column hfrom hright).symm
  · rfl

/-- On a blank row, it is not seen from where a line came. -/
theorem SameText.slid (hsame : b.SameText g h)
    (hblank : b.side = .right → row < b.rows → b.BlankRow g row) (line : Text) :
    b.SameText (b.slid p g row line) (b.drawn h p row indent line) := by
  unfold Screen.slid
  split
  · rename_i hcleared
    exact (hsame.clearFrom (hblank hcleared.1 hcleared.2.2)).drawn p row indent line
  · exact hsame.drawn p row indent line

theorem slid_other_row {other : Int} (hrow : other ≠ row) (line : Text) :
    b.slid p g row line other column = g other column := by
  unfold slid
  rw [drawn_off line (.inl hrow)]
  split
  · exact if_neg fun hcleared => hrow hcleared.1
  · rfl

/-! ### Frames of an animation -/

variable {s v : Stage Screen} {through : Prop} {w : Window}

theorem Paints.frame {draw : Act Screen Unit} {d : Delay} (hdraw : Paints through draw v b g)
    (hd : through → v.host.Waits d ∧ v.host.interruptAt = none) :
    Paints through (frame draw d) v b g := by
  refine hdraw.bind fun a ha => ?_
  refine ha.refresh.bind fun c hc => ?_
  have hac := ha.trans hc
  exact hac.pause fun h => hac.host ▸ hd h

/-- What an action keeps may be used after it. -/
theorem Paints.bindKeeping {act rest : Act Screen Unit} {c : Screen} {P : Stage Screen → Prop}
    (hact : Paints through act v b g) (hkeeps : Keeps P act) (hP : P v)
    (hrest : ∀ u, Painted v b g u → P u → Paints through rest u c h) :
    Paints through (act >>= fun _ => rest) v c h := by
  have hkept := hkeeps v hP
  unfold Paints at hact
  rcases hrun : act v with ⟨⟨⟩, u⟩ | ⟨e, u⟩
  · rw [hrun] at hact hkept
    exact .after (Outcome.bind_ok hrun) hact (hrest u hact hkept)
  · rw [hrun] at hact
    unfold Paints
    rw [Outcome.bind_error hrun]
    exact hact

/-- Where each turn of a loop makes one picture of another, the loop makes the last of the first. -/
theorem Painted.ofLoop {count : Nat} {f : (n : Nat) → n < count → Act Screen Unit}
    {loop : (i : Nat) → i ≤ count → Act Screen Unit} {P : Stage Screen → Prop}
    (pictures : Nat → Grid) (hzero : ∀ h, loop 0 h = pure ())
    (hsucc : ∀ i h, loop (i + 1) h = (do f (count - i - 1) (by omega); loop i (by omega)))
    (hframe : ∀ n hn v, Painted s b (pictures n) v → P v →
      Paints through (f n hn) v b (pictures (n + 1)))
    (hkeeps : ∀ n hn, Keeps P (f n hn)) (i : Nat) (hi : i ≤ count)
    (hv : Painted s b (pictures (count - i)) v) (hP : P v) :
    Paints through (loop i hi) v b (pictures count) := by
  induction i generalizing v with
  | zero =>
    rw [hzero]
    exact hv.stays
  | succ i ih =>
    have hnow : count - (i + 1) = count - i - 1 := by omega
    have hnext : count - i - 1 + 1 = count - i := by omega
    rw [hnow] at hv
    have hpaints := hframe (count - i - 1) (by omega) v hv hP
    rw [hnext] at hpaints
    rw [hsucc]
    exact hpaints.bindKeeping (hkeeps _ _) hP fun u hu => ih (by omega) (hv.trans hu)

theorem Painted.loop {count : Nat} {f : (n : Nat) → n < count → Act Screen Unit}
    {P : Stage Screen → Prop} (pictures : Nat → Grid) (hv : Painted s b (pictures 0) v) (hP : P v)
    (hframe : ∀ n hn u, Painted s b (pictures n) u → P u →
      Paints through (f n hn) u b (pictures (n + 1)))
    (hkeeps : ∀ n hn, Keeps P (f n hn)) :
    Paints through (count.forM f) v b (pictures count) := by
  unfold Nat.forM
  rw [← Nat.sub_self count] at hv
  exact Painted.ofLoop pictures (fun _ => rfl) (fun _ _ => rfl) hframe hkeeps count _ hv hP

/-- The pictures of a loop: one from before it, and one after each turn. -/
def turns (g : Grid) (picture : Nat → Grid) (n : Nat) : Grid := n.casesOn g picture

/-! ### From each side -/

/-- A line slides in as far as its place: the terminal has a window to keep the screen in, the user
breaks no pause off, and the host waits for every pause. -/
structure SlidesThrough (s : Stage Screen) : Prop where
  uninterrupted : s.host.interruptAt = none
  window : s.host.refuses .newWindow = false
  pause : s.host.Waits s.surface.slideDelay
  pauseTwice : s.host.Waits s.surface.slideDelay.twice

section Sides

variable {d : Delay} {line : Text}

/-- From the left come the ends of the line, each one character longer than the one before. -/
theorem Painted.slideFromLeft (hv : Painted s b g v) (line : Text)
    (hd : through → v.host.Waits d ∧ v.host.interruptAt = none) :
    Paints through (slideFromLeft line d) v b (b.drawn g s.journal.pen b.row indent line) := by
  have hstarts (n : Nat) (u : Stage Screen) (hu : Painted v b
      (b.drawn g s.journal.pen b.row indent (line.drop n)) u) :
      Paints through ((List.range n).reverse.forM fun start =>
        frame (Screen.drawAt b.row indent (line.drop start)) d) u b
          (b.drawn g s.journal.pen b.row indent line) := by
    induction n generalizing u with
    | zero =>
      rw [List.drop_zero] at hu
      exact hu.stays
    | succ n ih =>
      rw [List.range_succ, List.reverse_append, List.reverse_singleton, List.singleton_append]
      have hcover : (line.drop (n + 1)).length ≤ (line.drop n).length := by
        simp only [List.length_drop]
        omega
      have hdraw : Paints through (Screen.drawAt b.row indent (line.drop n)) u b _ :=
        hu.drawAt b.row indent (line.drop n)
      rw [hv.pen, drawn_drawn hcover] at hdraw
      have hframe := hdraw.frame fun h => hu.host ▸ hd h
      exact hframe.bind fun a ha => ih a (hu.trans ha)
  refine hv.read (hstarts line.length v ?_)
  rw [List.drop_length, drawn_nil]
  exact ⟨rfl, rfl, hv.surface, hv.shown⟩

/-- The row from a column on is cleared by going there first. -/
theorem Painted.clearRow {rest : Act Screen Unit} (hv : Painted s b g v)
    (hrow : 0 ≤ row ∧ row < b.rows) (hcolumn : 0 ≤ column ∧ column < b.columns)
    (hrest : ∀ u, Painted v b (g.clearFrom row column) u → Paints through rest u b h) :
    Paints through (do moveTo row column; call .clearToEndOfLine; rest) v b h := by
  let moved := noted v (.terminal (.moveTo row column))
  let cleared := noted moved (.terminal .clearToEndOfLine)
  have hmove : moveTo row column v = .ok () moved := by
    have hplace : min (max row 0) (v.surface.rows - 1) = row ∧
        min (max column 0) (v.surface.columns - 1) = column := by
      rw [hv.surface]
      omega
    refine (Outcome.bind_ok (t := v) rfl).trans ?_
    rw [hplace.1, hplace.2]
    exact tolerant_call Host.takes_nil
  have hcleared : Painted v b (g.clearFrom row column) cleared := by
    refine ⟨rfl, ?_, hv.surface, ?_⟩
    · exact (Journal.pen_push _ _).trans (Journal.pen_push _ _)
    · have hdisplay : moved.journal.display =
          v.journal.display.after (.terminal (.moveTo row column)) := Journal.display_push _ _
      rw [picture_noted, hdisplay, ← hv.shown]
      rfl
  refine .after (t := cleared) ?_ hcleared (hrest cleared hcleared)
  exact (Outcome.bind_ok hmove).trans (Outcome.bind_ok (certain_call_ok rfl))

/-- From the right comes the line as far as it has room, behind what it clears. -/
theorem Painted.slideFromRight (hv : Painted s b g v) (hrow : 0 ≤ b.row ∧ b.row < b.rows)
    (hline : line.length ≤ b.columns - indent) (hwidth : indent < b.columns)
    (hd : through → v.host.Waits d ∧ v.host.interruptAt = none) :
    Paints through (slideFromRight line d) v b
      (b.drawn (g.clearFrom b.row indent) s.journal.pen b.row indent line) := by
  let pictures : Nat → Grid := turns g fun n =>
    b.drawn (g.clearFrom b.row (b.columns - n - 1)) s.journal.pen b.row (b.columns - n - 1)
      (line.take (n + 1))
  have hclear (n : Nat) : (pictures n).clearFrom b.row (b.columns - n - 1) =
      g.clearFrom b.row (b.columns - n - 1) := by
    cases n with
    | zero => rfl
    | succ n => exact (clearFrom_drawn _ (by omega)).trans (Grid.clearFrom_clearFrom g _ (by omega))
  have hlast : pictures (b.columns - indent).toNat =
      b.drawn (g.clearFrom b.row indent) s.journal.pen b.row indent line := by
    obtain ⟨n, hn⟩ : ∃ n, (b.columns - indent).toNat = n + 1 :=
      ⟨(b.columns - indent).toNat - 1, by omega⟩
    have hplace : b.columns - n - 1 = indent := by omega
    rw [hn]
    simp only [pictures, turns, hplace]
    rw [List.take_of_length_le (by omega)]
  rw [← hlast]
  refine hv.read (Painted.loop (P := fun _ => True) pictures hv trivial ?_ fun _ _ _ _ => trivial)
  intro n hn u hu _
  have hhost : u.host = v.host := hu.host.trans hv.host.symm
  refine Paints.frame ?_ fun h => hhost ▸ hd h
  refine hu.clearRow hrow (by unfold indent at hn; omega) fun a ha => ?_
  have hdraw : Paints through (Screen.drawAt b.row (b.columns - n - 1) (line.take (n + 1))) a b _ :=
    ha.drawAt b.row (b.columns - n - 1) (line.take (n + 1))
  rw [hclear, hu.pen] at hdraw
  exact hdraw

/-! A line from above or below is drawn on the same screen each time, kept in a window. -/

def Remembers (w : Window) (g : Grid) (s : Stage Screen) : Prop := s.journal.display.window w = g

theorem noted_remembers {e : Event} (hw : w ≠ 0)
    (he : ∀ source, e ≠ .terminal (.copyWindow source w)) (hv : Remembers w g v) :
    Remembers w g (noted v e) := by
  have hafter : (v.journal.display.after e).window w = v.journal.display.window w := by
    cases e with
    | terminal c =>
      cases c with
      | copyWindow source target =>
        have hne : w ≠ target := fun heq => he source (by rw [heq])
        exact (Display.window_setWindow ..).trans (if_neg hne)
      | background c a => cases a <;> simp [Display.after, Display.apply, Display.window, hw]
      | _ => simp [Display.after, Display.apply, Display.window, hw]
    | _ => rfl
  unfold Remembers
  rw [noted, Journal.display_push, hafter]
  exact hv

theorem drawOver_keeps (hw : w ≠ 0) (y : Int) (t : Text) (d : Delay) :
    Keeps (Remembers w g) (frame (do restore w; drawAt y indent t) d) := by
  have hcall {c : TerminalCall} (hc : ∀ source, c ≠ .copyWindow source w) :
      Outcome.Ends (Remembers w g) Outcome.Any Outcome.Any (call (σ := Screen) c) := by
    refine call_ends (fun v hv => noted_remembers hw (fun source heq => ?_) hv)
      fun _ _ _ _ => trivial
    exact hc source (Event.terminal.inj heq)
  have hdraw : Outcome.Ends (Remembers w g) Outcome.Any Outcome.Any (drawAt y indent t) :=
    .andThen surface_ends fun _ => .ite (fun _ => .pure trivial) fun _ =>
      .ite (fun _ => .pure trivial) fun _ => tolerant_ends (hcall nofun)
  have hpause : Outcome.Ends (Remembers w g) Outcome.Any Outcome.Any (pause (σ := Screen) d) :=
    pause_ends (fun v hv => noted_remembers (e := .pause d) hw nofun hv)
      (fun v hv => noted_remembers (e := .pause d) hw nofun hv) (fun _ _ _ _ => trivial)
      fun _ _ => trivial
  have hrestore : Outcome.Ends (Remembers w g) Outcome.Any Outcome.Any (restore w) := by
    refine .andThen (hcall fun source heq => ?_) fun _ => hcall nofun
    exact hw (TerminalCall.copyWindow.inj heq).2.symm
  exact Outcome.keeps_iff_ends.2 (.andThen (.andThen hrestore fun _ => hdraw) fun _ =>
    .andThen (hcall nofun) fun _ => hpause)

/-- The window that the screen is copied to remembers what the screen shows, which stays. -/
theorem Painted.store_ok (hv : Painted s b g v) (h : v.host.refuses .newWindow = false) :
    ∃ w kept, Screen.store v = .ok w kept ∧ w ≠ 0 ∧ Painted v b g kept ∧ Remembers w g kept := by
  let asked := noted v (.terminal (.newWindow v.surface.rows v.surface.columns 0 0))
  let w := v.journal.windows + 1
  let counted : Stage Screen := { asked with journal := { asked.journal with windows := w } }
  let kept := noted counted (.terminal (.copyWindow 0 w))
  have hstore : Screen.store v = .ok w kept := by
    have hasked : call (.newWindow v.surface.rows v.surface.columns 0 0) v = .ok () asked := by
      refine call_ok (Host.rejection?_eq_none Host.takes_nil rfl fun f hf => ?_)
      cases hf
      exact h
    have hcopied : call (.copyWindow 0 w) counted = .ok () kept := certain_call_ok rfl
    refine (Outcome.bind_ok (t := v) rfl).trans ((Outcome.bind_ok hasked).trans ?_)
    refine (Outcome.bind_ok (t := asked) rfl).trans ((Outcome.bind_ok (t := counted) rfl).trans ?_)
    exact (Outcome.bind_ok hcopied).trans rfl
  have hdisplay : kept.journal.display =
      v.journal.display.setWindow w v.journal.display.screen := by
    refine (Journal.display_push ..).trans ?_
    have hasked : asked.journal.display = v.journal.display := Journal.display_push ..
    show asked.journal.display.after _ = _
    rw [hasked]
    rfl
  refine ⟨w, kept, hstore, Nat.succ_ne_zero _, ⟨rfl, ?_, hv.surface, ?_⟩, ?_⟩
  · exact (Journal.pen_push _ _).trans (Journal.pen_push _ _)
  · rw [picture, hdisplay, ← hv.shown]
    rfl
  · rw [Remembers, hdisplay, Display.window_setWindow, if_pos rfl]
    exact hv.shown

theorem store_error (h : v.host.refuses .newWindow = true) :
    ∃ u, Screen.store v = .error (.refused (.terminal .newWindow)) u := by
  let asked := noted v (.terminal (.newWindow v.surface.rows v.surface.columns 0 0))
  have hasked : call (.newWindow v.surface.rows v.surface.columns 0 0) v =
      .error (.refused (.terminal .newWindow)) asked := by
    refine call_refused ((Host.rejection?_eq Host.takes_nil).trans ?_)
    simp only [TerminalCall.function?, h, Bool.true_or]
    rfl
  exact ⟨asked, (Outcome.bind_ok (t := v) rfl).trans (Outcome.bind_error hasked)⟩

theorem Painted.store {f : Window → Act Screen Unit} (hv : Painted s b g v)
    (hwindow : through → v.host.refuses .newWindow = false)
    (hrest : ∀ w u, w ≠ 0 → Painted v b g u → Remembers w g u → Paints through (f w) u b h) :
    Paints through (store >>= f) v b h := by
  rcases hrefused : v.host.refuses .newWindow with - | -
  · obtain ⟨w, kept, hstore, hw, hkept, hremembers⟩ := hv.store_ok hrefused
    exact .after (Outcome.bind_ok hstore) hkept (hrest w kept hw hkept hremembers)
  · obtain ⟨u, hstore⟩ := store_error hrefused
    unfold Paints
    rw [Outcome.bind_error hstore]
    intro _ h
    cases (hwindow h).symm.trans hrefused

theorem Painted.restore (hv : Painted s b h v) (hremembers : Remembers w g v) :
    Paints through (restore w) v b g := by
  let copied := noted v (.terminal (.copyWindow w 0))
  have hcopied : Painted v b g copied := by
    refine ⟨rfl, Journal.pen_push _ _, hv.surface, ?_⟩
    rw [picture_noted, ← hremembers]
    rfl
  exact .after (Outcome.bind_ok (certain_call_ok rfl)) hcopied hcopied.refresh

/-- The last of the rows that a line slides over is where it stays. -/
theorem Painted.slideOverRows {count : Int} {rows : Nat → Int} (hv : Painted s b g v)
    (hcount : 1 ≤ count) (hlast : rows (count.toNat - 1) = row)
    (hd : through → v.host.Waits d.twice ∧ v.host.interruptAt = none ∧
      v.host.refuses .newWindow = false) :
    Paints through (slideOverRows line count rows d) v b
      (b.drawn g s.journal.pen row indent line) := by
  let pictures : Nat → Grid := turns g fun n => b.drawn g s.journal.pen (rows n) indent line
  have hend : pictures count.toNat = b.drawn g s.journal.pen row indent line := by
    obtain ⟨n, hn⟩ : ∃ n, count.toNat = n + 1 := ⟨count.toNat - 1, by omega⟩
    rw [hn, Nat.add_sub_cancel] at hlast
    simp only [pictures, turns, hn, hlast]
  rw [← hend]
  refine hv.store (fun h => (hd h).2.2) fun w u hw hvu hremembers => ?_
  refine Painted.loop (P := Remembers w g) pictures (hv.trans hvu) hremembers ?_ fun n _ =>
    drawOver_keeps hw (rows n) line d.twice
  intro n hn a ha hkept
  have hhost : a.host = v.host := ha.host.trans hv.host.symm
  refine Paints.frame ?_ fun h => hhost ▸ ⟨(hd h).1, (hd h).2.1⟩
  refine (ha.restore hkept).bind fun c hc => ?_
  have hdraw : Paints through (Screen.drawAt (rows n) indent line) c b _ :=
    hc.drawAt (rows n) indent line
  rw [ha.pen] at hdraw
  exact hdraw

theorem Painted.slideText (hv : Painted s b g v) (hside : ∀ name, b.side ≠ .other name)
    (hrow : 1 ≤ b.row) (hline : line.length ≤ b.columns - indent)
    (hthrough : through → SlidesThrough v) :
    Paints through (slideText line) v b (b.slid s.journal.pen g b.row line) := by
  have hdelay (h : through) : v.host.Waits b.slideDelay ∧ v.host.interruptAt = none := by
    rw [← hv.surface]
    exact ⟨(hthrough h).pause, (hthrough h).uninterrupted⟩
  have hwindow (h : through) : v.host.Waits b.slideDelay.twice ∧
      v.host.interruptAt = none ∧ v.host.refuses .newWindow = false := by
    rw [← hv.surface]
    exact ⟨(hthrough h).pauseTwice, (hthrough h).uninterrupted, (hthrough h).window⟩
  refine hv.read ?_
  -- An empty line, or one below the screen, is not drawn, and it would show nothing either.
  by_cases hnothing : line = [] ∨ b.rows ≤ b.row
  · have hnone : b.slid s.journal.pen g b.row line = g := by
      unfold slid
      rw [if_neg (by rintro ⟨-, hne, hlt⟩; rcases hnothing with h | h; exact hne h; omega)]
      rcases hnothing with rfl | hoff
      · exact drawn_nil
      · funext row column
        by_cases hat : row = b.row
        · exact if_neg (by omega)
        · exact drawn_off line (.inl hat)
    rw [if_pos hnothing, hnone]
    exact hv.stays
  · rw [if_neg hnothing]
    rw [not_or, not_le] at hnothing
    obtain ⟨hne, hrows⟩ := hnothing
    have hwidth : indent < b.columns := by
      have := List.length_pos_iff.2 hne
      omega
    unfold slid
    rcases hfrom : b.side with - | - | - | - | name
    · rw [if_neg (by simp)]
      exact hv.slideFromLeft line hdelay
    · rw [if_pos ⟨rfl, hne, hrows⟩]
      exact hv.slideFromRight ⟨by omega, hrows⟩ hline hwidth hdelay
    · rw [if_neg (by simp)]
      exact hv.slideOverRows hrow (by omega) hwindow
    · rw [if_neg (by simp)]
      exact hv.slideOverRows (by omega) (by omega) hwindow
    · exact absurd hfrom (hside name)

end Sides

end Screen

end SlideDeck
