import SlideDeck.Proofs.Screen.Marks

/-!
# Clipped text

A text that is drawn or typed from any place on leaves the marks that it would leave on an endless
screen, without those beyond the edges (`Screen.clip`). An action that comes to its end and leaves
the terminal's attributes alone is described by its marks and the surface after it (`Draws`).
-/

namespace SlideDeck

def Mark.Within (rows columns : Int) (m : Mark) : Prop :=
  0 ≤ m.row ∧ m.row < rows ∧ 0 ≤ m.column ∧ m.column < columns

instance (rows columns : Int) : DecidablePred (Mark.Within rows columns) := fun m =>
  inferInstanceAs (Decidable (0 ≤ m.row ∧ m.row < rows ∧ 0 ≤ m.column ∧ m.column < columns))

/-- The marks of a text from a place on, with one pen, however far it goes. -/
def Pen.textMarks (p : Pen) (row x : Int) (t : Text) : List Mark :=
  t.mapIdx fun i c => ⟨row, x + i, c, p⟩

theorem Pen.textMarks_cons (p : Pen) (row x : Int) (c : Char) (t : Text) :
    p.textMarks row x (c :: t) = ⟨row, x, c, p⟩ :: p.textMarks row (x + 1) t := by
  unfold textMarks
  rw [List.mapIdx_cons, Nat.cast_zero, Int.add_zero]
  congr 2
  funext i d
  rw [Nat.cast_add, Nat.cast_one, Int.add_comm (i : Int), ← Int.add_assoc]

theorem Pen.mem_textMarks {p : Pen} {row x : Int} {t : Text} {m : Mark}
    (h : m ∈ p.textMarks row x t) :
    m.row = row ∧ x ≤ m.column ∧ m.column < x + t.length := by
  obtain ⟨i, hi, rfl⟩ := List.mem_mapIdx.1 h
  dsimp only
  omega

namespace Screen

open Act

def clip (b : Screen) (ms : List Mark) : List Mark := ms.filter (Mark.Within b.rows b.columns)

variable {b : Screen}

theorem clip_append (ms ns : List Mark) : b.clip (ms ++ ns) = b.clip ms ++ b.clip ns :=
  List.filter_append ..

theorem clip_eq_self {ms : List Mark} (h : ∀ m ∈ ms, m.Within b.rows b.columns) :
    b.clip ms = ms := List.filter_eq_self.2 fun m hm => decide_eq_true (h m hm)

theorem clip_cons_within {m : Mark} {ms : List Mark} (h : m.Within b.rows b.columns) :
    b.clip (m :: ms) = m :: b.clip ms := List.filter_cons_of_pos (decide_eq_true h)

theorem clip_cons_beyond {m : Mark} {ms : List Mark} (h : ¬ m.Within b.rows b.columns) :
    b.clip (m :: ms) = b.clip ms := List.filter_cons_of_neg (by simpa using h)

theorem clip_textMarks_off {y : Int} (p : Pen) (x : Int) (t : Text) (hy : y < 0 ∨ b.rows ≤ y) :
    b.clip (p.textMarks y x t) = [] := by
  refine List.filter_eq_nil_iff.2 fun m hm => ?_
  rw [decide_eq_true_iff]
  rintro ⟨htop, hbottom, -⟩
  rw [(Pen.mem_textMarks hm).1] at htop hbottom
  omega

/-- Right of the left edge, a clipped text is the beginning of the text. -/
theorem clip_textMarks_take {y x : Int} (p : Pen) (t : Text) (hy : 0 ≤ y ∧ y < b.rows)
    (hx : 0 ≤ x) :
    b.clip (p.textMarks y x t) = p.textMarks y x (t.take (b.columns - x).toNat) := by
  induction t generalizing x with
  | nil =>
    rw [List.take_nil]
    rfl
  | cons c t ih =>
    rw [Pen.textMarks_cons]
    by_cases hcolumn : x < b.columns
    · have hcount : (b.columns - x).toNat = (b.columns - (x + 1)).toNat + 1 := by omega
      rw [clip_cons_within ⟨hy.1, hy.2, hx, hcolumn⟩, ih (Int.le_add_one hx), hcount,
        List.take_succ_cons, Pen.textMarks_cons]
    · have hcount : (b.columns - x).toNat = 0 ∧ (b.columns - (x + 1)).toNat = 0 := by omega
      rw [clip_cons_beyond fun h => hcolumn h.2.2.2, ih (Int.le_add_one hx), hcount.1, hcount.2,
        List.take_zero, List.take_zero]
      rfl

theorem clip_textMarks_drop {y x : Int} (p : Pen) (t : Text) (hx : x < 0) :
    b.clip (p.textMarks y x t) = b.clip (p.textMarks y 0 (t.drop (-x).toNat)) := by
  induction t generalizing x with
  | nil => rw [List.drop_nil]; rfl
  | cons c t ih =>
    rw [Pen.textMarks_cons, clip_cons_beyond fun h => absurd h.2.2.1 (by dsimp only; omega)]
    by_cases hnext : x + 1 < 0
    · have hcount : (-x).toNat = (-(x + 1)).toNat + 1 := by omega
      rw [ih hnext, hcount, List.drop_succ_cons]
    · obtain rfl : x = -1 := by omega
      rfl

theorem clip_textMarks {y : Int} (p : Pen) (x : Int) (t : Text) (hy : 0 ≤ y ∧ y < b.rows) :
    b.clip (p.textMarks y x t) = p.textMarks y (max 0 x)
      ((if x < 0 then t.drop (-x).toNat else t).take (b.columns - max 0 x).toNat) := by
  by_cases hx : x < 0
  · rw [if_pos hx, max_eq_left hx.le, clip_textMarks_drop p t hx,
      clip_textMarks_take p _ hy (Int.le_refl 0)]
  · rw [if_neg hx, max_eq_right (not_lt.1 hx), clip_textMarks_take p t hy (not_lt.1 hx)]

/-! ### Actions that draw -/

/-- One stage follows another with the same pen and host, a surface, and more marks. -/
structure Drawn (s : Stage Screen) (b : Screen) (ms : List Mark) (t : Stage Screen) : Prop where
  host : t.host = s.host
  pen : t.journal.pen = s.journal.pen
  surface : t.surface = b
  marks : t.journal.marks = s.journal.marks ++ ms

/-- From a stage an action comes to its end, with a surface and more marks. -/
def Draws (x : Act Screen Unit) (s : Stage Screen) (b : Screen) (ms : List Mark) : Prop :=
  ∃ t, x s = .ok () t ∧ Drawn s b ms t

variable {s t u : Stage Screen} {x y : Act Screen Unit} {c : Screen} {ms ns : List Mark}

theorem Drawn.refl : Drawn s s.surface [] s := ⟨rfl, rfl, rfl, (List.append_nil _).symm⟩

theorem Drawn.trans (h : Drawn s b ms t) (h' : Drawn t c ns u) : Drawn s c (ms ++ ns) u where
  host := h'.host.trans h.host
  pen := h'.pen.trans h.pen
  surface := h'.surface
  marks := by rw [h'.marks, h.marks, List.append_assoc]

theorem Draws.bind (hx : Draws x s b ms) (hy : ∀ t, Drawn s b ms t → Draws y t c ns) :
    Draws (x >>= fun _ => y) s c (ms ++ ns) := by
  obtain ⟨t, hrun, ht⟩ := hx
  obtain ⟨u, hrest, hu⟩ := hy t ht
  exact ⟨u, (Outcome.bind_ok hrun).trans hrest, ht.trans hu⟩

theorem draws_nothing : Draws (pure ()) s s.surface [] := ⟨s, rfl, .refl⟩

theorem draws_modifySurface (f : Screen → Screen) :
    Draws (modifySurface f) s (f s.surface) [] :=
  ⟨_, rfl, rfl, rfl, rfl, (List.append_nil _).symm⟩

theorem drawAt_clips {t : Text} (htakes : s.host.Takes t) (y x : Int) :
    Draws (drawAt y x t) s s.surface (s.surface.clip (s.journal.pen.textMarks y x t)) := by
  rw [Draws, drawAt_eq]
  by_cases hoff : t = [] ∨ y < 0 ∨ s.surface.rows ≤ y
  · have hnone : s.surface.clip (s.journal.pen.textMarks y x t) = [] := by
      rcases hoff with rfl | hoff
      · rfl
      · exact clip_textMarks_off _ _ _ hoff
    rw [if_pos hoff, hnone]
    exact draws_nothing
  · have hy : 0 ≤ y ∧ y < s.surface.rows := by omega
    rw [if_neg hoff, clip_textMarks _ _ _ hy]
    by_cases hroom : s.surface.columns - max 0 x ≤ 0
    · rw [if_pos hroom, Int.toNat_of_nonpos hroom, List.take_zero]
      exact draws_nothing
    · rw [if_neg hroom]
      refine ⟨_, tolerant_call (takes_shown htakes _ _), rfl, congrArg Ink.pen (ink_noted _), rfl, ?_⟩
      exact Journal.marks_push _ _

/-! ### Typing -/

/-- Typing goes through: the user breaks no pause off, and the host waits for the pause after a
character, whatever is drawn for it. -/
structure TypesThrough (s : Stage Screen) : Prop where
  uninterrupted : s.host.interruptAt = none
  typing : ∀ k, ∃ d, s.surface.typeDelay.typing? (s.host.draw k 20) = some d ∧ s.host.Waits d

theorem TypesThrough.of_eq (h : TypesThrough s) (hhost : t.host = s.host)
    (hdelay : t.surface.typeDelay = s.surface.typeDelay) : TypesThrough t where
  uninterrupted := by
    rw [hhost]
    exact h.uninterrupted
  typing := by
    rw [hhost, hdelay]
    exact h.typing

theorem refresh_draws : Draws (call .refresh) s s.surface [] :=
  ⟨_, certain_call_ok rfl, rfl, Journal.pen_push _ _, rfl, Journal.marks_push _ _⟩

theorem pause_draws {d : Delay} (hd : s.host.Waits d) (h : s.host.interruptAt = none) :
    Draws (pause d) s s.surface [] :=
  ⟨paused d s, pause_ok hd h, rfl, Journal.pen_push _ _, rfl, Journal.marks_push _ _⟩

theorem draws_of_drawBelow {n : Nat} {f : Nat → Act Screen Unit}
    (h : Draws (f (s.host.draw s.journal.draws n))
      { s with journal := { s.journal with draws := s.journal.draws + 1 } } b ms) :
    Draws (Act.drawBelow n >>= f) s b ms := by
  obtain ⟨t, hrun, ht⟩ := h
  exact ⟨t, (Outcome.bind_ok rfl).trans hrun, ht.host, ht.pen, ht.surface, ht.marks⟩

/-- A text that is typed has in the end been drawn as a whole. -/
theorem typeText_clips {t : Text} (htakes : s.host.Takes t) (x : Int) (h : TypesThrough s) :
    Draws (typeText x t) s s.surface
      (s.surface.clip (s.journal.pen.textMarks s.surface.row x t)) := by
  induction t generalizing x s with
  | nil => exact draws_nothing
  | cons c rest ih =>
    have hcons : s.surface.clip (s.journal.pen.textMarks s.surface.row x (c :: rest)) =
        s.surface.clip (s.journal.pen.textMarks s.surface.row x [c]) ++ ([] ++ ([] ++
          s.surface.clip (s.journal.pen.textMarks s.surface.row (x + 1) rest))) := by
      rw [List.nil_append, List.nil_append, ← clip_append, Pen.textMarks_cons, Pen.textMarks_cons]
      rfl
    rw [hcons]
    have hfirst : s.host.Takes [c] := htakes.of_subset (List.take_subset 1 (c :: rest))
    have hothers : s.host.Takes rest := htakes.of_subset (List.subset_cons_self c rest)
    refine (drawAt_clips hfirst s.surface.row x).bind fun t ht => ?_
    have hrefresh : Draws (call .refresh) t s.surface [] := ht.surface ▸ refresh_draws
    refine hrefresh.bind fun u hu => draws_of_drawBelow ?_
    have hdrawn := ht.trans hu
    obtain ⟨d, hd, hwaits⟩ := h.typing u.journal.draws
    rw [← hdrawn.host] at hd
    rw [hd]
    have hpause : Draws (pause d) { u with
        journal := { u.journal with draws := u.journal.draws + 1 } } s.surface [] := by
      rw [← hdrawn.surface]
      exact pause_draws (hdrawn.host ▸ hwaits) (hdrawn.host ▸ h.uninterrupted)
    refine hpause.bind fun v hv => ?_
    have hend : Drawn s s.surface _ v :=
      hdrawn.trans ⟨hv.host, hv.pen, hv.surface, hv.marks⟩
    have hrest := ih (hend.host ▸ hothers) (x + 1)
      (h.of_eq hend.host (congrArg typeDelay hend.surface))
    rwa [hend.surface, hend.pen] at hrest

end Screen

end SlideDeck
