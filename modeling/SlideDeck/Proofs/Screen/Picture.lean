import SlideDeck.Proofs.Screen.Clipping
import SlideDeck.Proofs.Screen.Twins

/-!
# What a screen shows

The calls of a journal leave a picture on the screen. A text that is drawn, or typed character by
character, changes the cells that it has between the edges, and no others (`Screen.drawn`). An
action that can be broken off is described by the picture at its end and by what it takes to come
there (`Paints`).
-/

namespace SlideDeck

def Display.after (d : Display) : Event → Display
  | .terminal c => d.apply c
  | _ => d

/-- The display of a terminal that starts blank, after the calls in a journal. -/
def Journal.display (j : Journal) : Display := j.events.toList.foldl Display.after {}

theorem Journal.display_push (j : Journal) (e : Event) :
    ({ j with events := j.events.push e } : Journal).display = j.display.after e := by
  unfold Journal.display
  rw [Array.toList_push, List.foldl_append]
  rfl

theorem Journal.pen_display (j : Journal) : j.display.pen = j.pen := by
  have hfold (d : Display) (es : List Event) :
      (es.foldl Display.after d).pen = es.foldl Pen.after d.pen := by
    induction es generalizing d with
    | nil => rfl
    | cons e es ih =>
      have hstep : (d.after e).pen = d.pen.after e := by
        cases e with
        | terminal c => exact d.pen_apply c
        | _ => rfl
      rw [List.foldl_cons, ih, hstep]
      rfl
  exact hfold {} j.events.toList

/-! ### Texts on a grid -/

namespace Grid

variable {g h : Grid} {y x row column : Int} {p : Pen} {t : Text}

theorem draw_at {i : Nat} {c : Char} (hc : t[i]? = some c) : g.draw y x p t y (x + i) = ⟨c, p⟩ := by
  have hplace : (x + i - x).toNat = i := by omega
  simp only [draw, hplace, hc, true_and]
  rw [if_pos (by omega)]

theorem draw_off (hoff : column < x ∨ x + t.length ≤ column) :
    g.draw y x p t row column = g row column := by
  unfold draw
  split_ifs with hplace
  · rw [List.getElem?_eq_none (by omega)]
  · rfl

/-- What a text leaves in a cell depends on that cell alone. -/
theorem draw_congr (hcell : g row column = h row column) :
    g.draw y x p t row column = h.draw y x p t row column := by
  simp only [draw, hcell]

theorem draw_cons (c : Char) :
    g.draw y x p (c :: t) = (g.draw y x p [c]).draw y (x + 1) p t := by
  funext row column
  by_cases hrow : row = y
  · subst hrow
    rcases lt_trichotomy column x with hleft | hfirst | hright
    · rw [draw_off (.inl hleft), draw_off (.inl (by omega)), draw_off (.inl hleft)]
    · rw [draw_off (x := x + 1) (.inl (by omega))]
      simp [draw, hfirst]
    · have hplace : (column - x).toNat = (column - (x + 1)).toNat + 1 := by omega
      have hnext : x + 1 ≤ column := hright
      simp [draw, hplace, hright.le, hnext]
  · rw [draw_other_row _ _ _ _ _ hrow, draw_other_row _ _ _ _ _ hrow,
      draw_other_row _ _ _ _ _ hrow]

end Grid

namespace Screen

open Act

variable {b c : Screen} {g h : Grid} {p : Pen} {y x row column : Int}

/-- A grid with a text on it, as far as the text is between the edges of a screen. -/
def drawn (b : Screen) (g : Grid) (p : Pen) (y x : Int) (t : Text) : Grid := fun row column =>
  if 0 ≤ row ∧ row < b.rows ∧ 0 ≤ column ∧ column < b.columns then g.draw y x p t row column
  else g row column

theorem drawn_within (t : Text) (hrow : 0 ≤ row ∧ row < b.rows)
    (hcolumn : 0 ≤ column ∧ column < b.columns) :
    b.drawn g p y x t row column = g.draw y x p t row column :=
  if_pos ⟨hrow.1, hrow.2, hcolumn⟩

theorem drawn_off (t : Text) (h : row ≠ y ∨ column < x ∨ x + t.length ≤ column) :
    b.drawn g p y x t row column = g row column := by
  unfold drawn
  split_ifs
  · rcases h with hrow | hcolumn
    · exact g.draw_other_row _ _ _ _ hrow
    · exact Grid.draw_off hcolumn
  · rfl

theorem drawn_nil : b.drawn g p y x [] = g := by
  funext row column
  simp only [drawn, Grid.draw_nil, ite_self]

theorem drawn_congr (t : Text) (hcell : g row column = h row column) :
    b.drawn g p y x t row column = b.drawn h p y x t row column := by
  simp only [drawn, Grid.draw_congr hcell, hcell]

theorem drawn_cons (c : Char) (t : Text) :
    b.drawn (b.drawn g p y x [c]) p y (x + 1) t = b.drawn g p y x (c :: t) := by
  funext row column
  by_cases hin : 0 ≤ row ∧ row < b.rows ∧ 0 ≤ column ∧ column < b.columns
  · have hfirst : b.drawn g p y x [c] row column = g.draw y x p [c] row column := if_pos hin
    have hrest (g : Grid) (x : Int) (t : Text) :
        b.drawn g p y x t row column = g.draw y x p t row column := if_pos hin
    rw [hrest, hrest, Grid.draw_cons]
    exact Grid.draw_congr (hrest g x [c])
  · simp only [drawn, if_neg hin]

/-- What is drawn of a text that is cut at the edges. -/
theorem drawn_eq_draw (t : Text) (hy : 0 ≤ y ∧ y < b.rows) :
    b.drawn g p y x t = g.draw y (max 0 x) p
      ((if x < 0 then t.drop (-x).toNat else t).take (b.columns - max 0 x).toNat) := by
  funext row column
  by_cases hrow : row = y
  · subst hrow
    by_cases hcolumn : 0 ≤ column ∧ column < b.columns
    · rw [drawn_within t hy hcolumn]
      by_cases hx : x < 0
      · -- What is left of the first column is dropped, and the rest is counted from there.
        have hplace : (-x).toNat + column.toNat = (column - x).toNat := by omega
        simp only [Grid.draw, hx, if_true, max_eq_left hx.le, Int.sub_zero, true_and]
        rw [if_pos (by omega), if_pos hcolumn.1, List.getElem?_take_of_lt (by omega),
          List.getElem?_drop, hplace]
      · rw [if_neg hx, max_eq_right (not_lt.1 hx)]
        by_cases hleft : column < x
        · rw [Grid.draw_off (.inl hleft), Grid.draw_off (.inl hleft)]
        · simp only [Grid.draw]
          rw [List.getElem?_take_of_lt (by omega)]
    · -- A cell beyond the edges keeps its character, because the text is cut before it.
      have hbeyond : b.drawn g p row x t row column = g row column :=
        if_neg fun hin => hcolumn hin.2.2
      rw [hbeyond, Grid.draw_off]
      rw [List.length_take]
      omega
  · rw [drawn_off t (.inl hrow), g.draw_other_row _ _ _ _ hrow]

/-! ### Actions and their pictures -/

def picture (s : Stage Screen) : Grid := s.journal.display.screen

/-- One stage follows another with the same pen and host, a surface, and a picture. -/
structure Painted (s : Stage Screen) (b : Screen) (g : Grid) (t : Stage Screen) : Prop where
  host : t.host = s.host
  pen : t.journal.pen = s.journal.pen
  surface : t.surface = b
  shown : picture t = g

/-- From a stage an action comes to its end, with a surface and a picture; on a terminal that takes
every text it does so at least if `through`. -/
def Paints (through : Prop) (x : Act Screen Unit) (s : Stage Screen) (b : Screen) (g : Grid) :
    Prop :=
  match x s with
  | .ok _ t => Painted s b g t
  | .error _ _ => s.host.TakesAnyText → ¬ through

variable {s t u : Stage Screen} {through : Prop} {act rest : Act Screen Unit}

theorem Painted.refl : Painted s s.surface (picture s) s := ⟨rfl, rfl, rfl, rfl⟩

theorem Painted.trans (hfirst : Painted s b g t) (hsecond : Painted t c h u) : Painted s c h u where
  host := hsecond.host.trans hfirst.host
  pen := hsecond.pen.trans hfirst.pen
  surface := hsecond.surface
  shown := hsecond.shown

theorem Paints.after (hstep : act s = rest t) (ht : Painted s b g t)
    (hrest : Paints through rest t c h) : Paints through act s c h := by
  unfold Paints at hrest ⊢
  rw [hstep]
  rcases hend : rest t with ⟨⟨⟩, u⟩ | ⟨e, u⟩
  · rw [hend] at hrest
    exact ht.trans hrest
  · rw [hend] at hrest
    rw [← ht.host]
    exact hrest

theorem Paints.bind (hact : Paints through act s b g)
    (hrest : ∀ t, Painted s b g t → Paints through rest t c h) :
    Paints through (act >>= fun _ => rest) s c h := by
  unfold Paints at hact
  rcases hrun : act s with ⟨⟨⟩, t⟩ | ⟨e, t⟩
  · rw [hrun] at hact
    exact .after (Outcome.bind_ok hrun) hact (hrest t hact)
  · rw [hrun] at hact
    unfold Paints
    rw [Outcome.bind_error hrun]
    exact hact

theorem Paints.of_ok (hrun : act s = .ok () t) (ht : Painted s b g t) :
    Paints through act s b g := by
  unfold Paints
  rw [hrun]
  exact ht

theorem Paints.exists_ok (hact : Paints through act s b g) (htakes : s.host.TakesAnyText)
    (hthrough : through) : ∃ t, act s = .ok () t ∧ Painted s b g t := by
  unfold Paints at hact
  rcases hrun : act s with ⟨⟨⟩, t⟩ | ⟨e, t⟩
  · rw [hrun] at hact
    exact ⟨t, rfl, hact⟩
  · rw [hrun] at hact
    exact absurd hthrough (hact htakes)

theorem Paints.ends_or_not (hact : Paints through act s b g) (htakes : s.host.TakesAnyText) :
    (∃ t, act s = .ok () t) ∨ ¬ through := by
  by_cases hthrough : through
  · obtain ⟨t, ht, -⟩ := hact.exists_ok htakes hthrough
    exact .inl ⟨t, ht⟩
  · exact .inr hthrough

theorem Paints.painted (hact : Paints through act s b g) (hrun : act s = .ok () t) :
    Painted s b g t := by
  unfold Paints at hact
  rw [hrun] at hact
  exact hact

theorem Painted.stays (ht : Painted s b g t) : Paints through (pure ()) t b g :=
  .of_ok rfl ⟨rfl, rfl, ht.surface, ht.shown⟩

theorem Painted.read {f : Screen → Act Screen Unit} (ht : Painted s b g t)
    (hf : Paints through (f b) t c h) : Paints through (Act.surface >>= f) t c h := by
  rw [← ht.surface] at hf
  exact .after rfl .refl hf

theorem Painted.modifySurface (ht : Painted s b g t) (f : Screen → Screen) :
    Paints through (modifySurface f) t (f b) g :=
  .of_ok rfl ⟨rfl, rfl, congrArg f ht.surface, ht.shown⟩

theorem picture_noted (e : Event) : picture (noted s e) = (s.journal.display.after e).screen :=
  congrArg Display.screen (Journal.display_push _ e)

theorem call_drawText_paints (y x : Int) (t : Text) :
    Paints through (tolerant (call (.drawText y x t))) s s.surface
      ((picture s).draw y x s.journal.pen t) := by
  unfold Paints
  by_cases htakes : s.host.Takes t
  · rw [tolerant_call htakes]
    refine ⟨rfl, congrArg Ink.pen (ink_noted _), rfl, ?_⟩
    rw [picture_noted, ← s.journal.pen_display]
    rfl
  · rw [tolerant_call_of_not_takes htakes]
    exact fun hany => absurd (hany.takes t) htakes

theorem drawAt_paints (y x : Int) (t : Text) :
    Paints through (drawAt y x t) s s.surface
      (s.surface.drawn (picture s) s.journal.pen y x t) := by
  rw [Paints, drawAt_eq]
  by_cases hoff : t = [] ∨ y < 0 ∨ s.surface.rows ≤ y
  · have hnone : s.surface.drawn (picture s) s.journal.pen y x t = picture s := by
      rcases hoff with rfl | hoff
      · exact drawn_nil
      · funext row column
        by_cases hrow : row = y
        · exact if_neg (by omega)
        · exact drawn_off t (.inl hrow)
    rw [if_pos hoff, hnone]
    exact .refl
  · have hy : 0 ≤ y ∧ y < s.surface.rows := by omega
    rw [if_neg hoff, drawn_eq_draw t hy]
    by_cases hroom : s.surface.columns - max 0 x ≤ 0
    · rw [if_pos hroom, Int.toNat_of_nonpos hroom, List.take_zero, Grid.draw_nil]
      exact .refl
    · rw [if_neg hroom]
      exact call_drawText_paints _ _ _

theorem Painted.drawAt (ht : Painted s b g t) (y x : Int) (text : Text) :
    Paints through (drawAt y x text) t b (b.drawn g s.journal.pen y x text) := by
  rw [← ht.surface, ← ht.shown, ← ht.pen]
  exact drawAt_paints y x text

/-! ### Typing -/

theorem Painted.refresh (ht : Painted s b g t) : Paints through (call .refresh) t b g :=
  .of_ok (certain_call_ok rfl)
    ⟨rfl, Journal.pen_push _ _, ht.surface, (picture_noted _).trans ht.shown⟩

theorem Painted.pause (ht : Painted s b g t) {d : Delay}
    (hthrough : through → t.host.Waits d ∧ t.host.interruptAt = none) :
    Paints through (pause d) t b g := by
  unfold Paints
  rw [pause_eq]
  rcases hrefused : t.host.pauseFault? t.journal.pauses d with - | fault
  · by_cases hinterrupt : t.host.interruptAt = some (t.journal.pauses + 1)
    · rw [if_pos hinterrupt]
      intro _ h
      cases (hthrough h).2.symm.trans hinterrupt
    · rw [if_neg hinterrupt]
      exact ⟨rfl, Journal.pen_push _ _, ht.surface, (picture_noted (.pause d)).trans ht.shown⟩
  · intro _ h
    cases ((hthrough h).1 _).symm.trans hrefused

theorem Painted.typePause (ht : Painted s b g t) (htyped : through → TypesThrough t) :
    Paints through (typePause b.typeDelay) t b g := by
  let u : Stage Screen := { t with journal := { t.journal with draws := t.journal.draws + 1 } }
  have hu : Painted t b g u := ⟨rfl, rfl, ht.surface, ht.shown⟩
  have hread : Screen.typePause b.typeDelay t =
      pauseOf (b.typeDelay.typing? (t.host.draw t.journal.draws 20)) u := rfl
  refine .after hread hu ?_
  rcases hdelay : b.typeDelay.typing? (t.host.draw t.journal.draws 20) with - | d
  · show _ → ¬ through
    intro _ h
    obtain ⟨d, hd, -⟩ := (htyped h).typing t.journal.draws
    rw [ht.surface, hdelay] at hd
    cases hd
  · refine hu.pause fun h => ?_
    obtain ⟨d', hd', hwaits⟩ := (htyped h).typing t.journal.draws
    rw [ht.surface, hdelay] at hd'
    cases hd'
    exact ⟨hwaits, (htyped h).uninterrupted⟩

/-- A text that is typed has in the end been drawn as a whole. -/
theorem Painted.typeText (ht : Painted s b g t) (x : Int) (text : Text)
    (htyped : through → TypesThrough t) :
    Paints through (typeText x text) t b (b.drawn g s.journal.pen b.row x text) := by
  induction text generalizing t g x with
  | nil =>
    rw [drawn_nil]
    exact ht.stays
  | cons c rest ih =>
    rw [← drawn_cons, Twins.typeText_cons]
    have hgoes {u : Stage Screen} {g' : Grid} (hu : Painted s b g' u) : through → TypesThrough u :=
      fun h => (htyped h).of_eq (hu.host.trans ht.host.symm)
        (congrArg typeDelay (hu.surface.trans ht.surface.symm))
    refine ht.read ?_
    refine (ht.drawAt b.row x [c]).bind fun u htu => ?_
    have hu := ht.trans htu
    refine hu.refresh.bind fun v huv => ?_
    have hv := hu.trans huv
    refine (hv.typePause (hgoes hv)).bind fun w hvw => ?_
    have hw := hv.trans hvw
    exact ih hw (x + 1) (hgoes hw)

end Screen

end SlideDeck
