import SlideDeck.Proofs.Screen.Animations
import SlideDeck.Proofs.Screen.KeptStyle

/-!
# The status line

The status of a page is drawn over the one before it, with blanks after it for as long as any status
was until then. So its row shows the last status and nothing of an earlier one, whatever header and
footer are drawn in between (`last_status_shown`).
-/

namespace SlideDeck.Screen

open Act Outcome

/-! ### The text of a status -/

/-- What is to be shown of a page: its place among the pages, and its title if it has one. -/
def statusOf (number count : Int) (title : Option Text) : Text :=
  Text.concat ["[slide ", Text.ofInt number, "/", Text.ofInt count, "]"] ++
    match title with
    | some t => if t = [] then [] else ' ' :: t
    | none => []

/-- The text that is drawn agrees with the status as far as there is room. A blank before a title
for which there is no room is left out. -/
theorem statusText_getElem? (number count : Int) (title : Option Text) {width : Int} {i : Nat}
    (hi : (i : Int) < width) :
    (statusText number count title width)[i]?.getD ' ' =
      (statusOf number count title)[i]?.getD ' ' := by
  have hwidth : (0 : Int) ≤ width := by omega
  have hcut : i < width.toNat := by omega
  unfold statusText statusOf
  generalize Text.concat ["[slide ", Text.ofInt number, "/", Text.ofInt count, "]"] = place
  simp only [Text.upTo, if_pos hwidth, List.getElem?_take_of_lt hcut]
  rcases title with - | t
  · rw [List.append_nil]
  by_cases ht : t = []
  · simp [ht]
  simp only [ht, not_false_eq_true, true_and, if_false, ne_eq]
  split_ifs with hroom
  · rcases Nat.lt_trichotomy i place.length with hplace | hplace | hplace
    · rw [List.getElem?_append_left hplace, List.getElem?_append_left hplace]
    · subst hplace
      simp
    · rw [List.getElem?_append_right hplace.le, List.getElem?_append_right hplace.le]
      obtain ⟨k, hk⟩ : ∃ k, i - place.length = k + 1 := ⟨i - place.length - 1, by omega⟩
      rw [hk, List.getElem?_cons_succ, List.getElem?_cons_succ,
        List.getElem?_take_of_lt (by omega)]
  · rcases Nat.lt_or_eq_of_le (show i ≤ place.length by omega) with hplace | rfl
    · rw [List.getElem?_append_left hplace]
    · simp

/-! ### The row of the status -/

section Rows

variable {b : Screen} {g : Grid} {p : Pen} {row columns x y : Int} {old text t : Text}

/-- From the margin on a row shows a text and then blanks, as far as the screen is wide. -/
def Reads (row columns : Int) (text : Text) (g : Grid) : Prop :=
  ∀ i : Nat, indent + i < columns → (g row (indent + i)).symbol = text[i]?.getD ' '

theorem Reads.drawn_elsewhere (h : Reads row columns text g)
    (hoff : y ≠ row ∨ x + t.length ≤ indent) : Reads row columns text (b.drawn g p y x t) := by
  intro i hi
  rw [drawn_off t (by omega)]
  exact h i hi

/-- A text that is drawn over one that is no longer is all that is seen. -/
theorem Reads.drawn_over (h : Reads row b.columns old g) (hrow : 0 ≤ row ∧ row < b.rows)
    (hlength : old.length ≤ text.length) :
    Reads row b.columns text (b.drawn g p row indent text) := by
  intro i hi
  rcases htext : text[i]? with - | c
  · have hend : text.length ≤ i := List.getElem?_eq_none_iff.1 htext
    rw [drawn_off text (.inr (.inr (by omega))), h i hi,
      List.getElem?_eq_none (hlength.trans hend)]
  · have hcolumn : 0 ≤ indent + i ∧ indent + i < b.columns := ⟨by unfold indent; omega, hi⟩
    rw [drawn_within text hrow hcolumn, Grid.draw_at htext]
    rfl

theorem Reads.congr (h : Reads row columns old g)
    (heq : ∀ i : Nat, indent + i < columns → old[i]?.getD ' ' = text[i]?.getD ' ') :
    Reads row columns text g :=
  fun i hi => (h i hi).trans (heq i hi)

theorem getElem?_append_rule (text : Text) (n : Int) (i : Nat) :
    (text ++ Text.rule n ' ')[i]?.getD ' ' = text[i]?.getD ' ' := by
  rcases Nat.lt_or_ge i text.length with hi | hi
  · rw [List.getElem?_append_left hi]
  · rw [List.getElem?_append_right hi, List.getElem?_eq_none hi, Text.rule, List.getElem?_replicate]
    split <;> rfl

end Rows

/-! ### Actions that leave a status in its row -/

/-- A screen of some size that draws in some style, with some length of a status remembered, and
with a picture of some kind. -/
structure Board (rows columns : Int) (style : Style) (length : Nat) (Q : Grid → Prop)
    (s : Stage Screen) : Prop where
  tracked : (ink s).Tracked
  style_eq : s.surface.style = style
  rows_eq : s.surface.rows = rows
  columns_eq : s.surface.columns = columns
  length_eq : s.surface.statusLength = length
  shown : Q (picture s)

section Board

variable {rows columns : Int} {style : Style} {length : Nat} {Q R : Grid → Prop} {s : Stage Screen}

theorem Board.style_known (h : Board rows columns style length Q s) : style.Known := by
  have hknown : s.surface.style.Known := h.tracked.known
  rwa [h.style_eq] at hknown

theorem Board.mono (h : Board rows columns style length Q s) (hQR : ∀ g, Q g → R g) :
    Board rows columns style length R s :=
  { h with shown := hQR _ h.shown }

theorem Board.of_surface (h : Board rows columns style length Q s) {f : Screen → Screen}
    (hstyle : (f s.surface).style = s.surface.style)
    (hactive : (f s.surface).active = s.surface.active)
    (hrows : (f s.surface).rows = s.surface.rows)
    (hcolumns : (f s.surface).columns = s.surface.columns) :
    Board rows columns style (f s.surface).statusLength Q { s with surface := f s.surface } where
  tracked := by
    have hink : ink { s with surface := f s.surface } = ink s := by
      simp only [ink, hstyle, hactive]
    exact hink.symm ▸ h.tracked
  style_eq := hstyle.trans h.style_eq
  rows_eq := hrows.trans h.rows_eq
  columns_eq := hcolumns.trans h.columns_eq
  length_eq := rfl
  shown := h.shown

theorem drawAt_board (y x : Int) (t : Text) (h : Board rows columns style length Q s)
    (hR : ∀ b p g, b.rows = rows → b.columns = columns → Q g → R (drawn b g p y x t)) :
    ComesTo (drawAt y x t) () (Board rows columns style length R) s := by
  have htakes : s.host.TakesAnyText := h.tracked.patient.takesAnyText
  have hpaints : Paints True (drawAt y x t) s _ _ := drawAt_paints y x t
  obtain ⟨u, hdraw, hu⟩ := hpaints.exists_ok htakes trivial
  have hsurface : u.surface = s.surface := hu.surface
  have hink : ink u = ink s := by simp only [ink, hu.pen, hsurface, hu.host]
  exact ⟨u, hdraw, {
    tracked := hink.symm ▸ h.tracked
    style_eq := hsurface ▸ h.style_eq
    rows_eq := hsurface ▸ h.rows_eq
    columns_eq := hsurface ▸ h.columns_eq
    length_eq := hsurface ▸ h.length_eq
    shown := hu.shown ▸ hR _ _ _ h.rows_eq h.columns_eq h.shown }⟩

/-- Taking on a style draws nothing. -/
theorem setStyle_board {other : Style} (hother : other.Known)
    (h : Board rows columns style length Q s) :
    ComesTo (setStyle other) () (Board rows columns other length Q) s := by
  obtain ⟨t, hset, ht⟩ := setStyle_inStyle hother h.tracked
  let Kept (t : Stage Screen) : Prop :=
    t.surface.rows = rows ∧ t.surface.columns = columns ∧ t.surface.statusLength = length ∧
      Q (picture t)
  have happly : Keeps Kept (applyStyle other) := by
    refine applyStyle_keeps other (fun s a hs => ?_) fun s a hs => hs
    have hpicture (c : TerminalCall) (hc : ∀ d : Display, (d.apply c).screen = d.screen) :
        picture (noted s (.terminal c)) = picture s := (picture_noted _).trans (hc _)
    refine ⟨⟨hs.1, hs.2.1, hs.2.2.1, ?_⟩, hs.1, hs.2.1, hs.2.2.1, ?_⟩
    · rw [hpicture _ fun _ => rfl]
      exact hs.2.2.2
    · rw [hpicture _ fun _ => rfl]
      exact hs.2.2.2
  have hkept : Kept (state (setStyle other s)) :=
    happly { s with surface := { s.surface with style := other } }
      ⟨h.rows_eq, h.columns_eq, h.length_eq, h.shown⟩
  rw [hset] at hkept
  obtain ⟨hrows, hcolumns, hlength, hshown⟩ := hkept
  exact ⟨t, hset, ⟨ht.toTracked, ht.style_eq, hrows, hcolumns, hlength, hshown⟩⟩

theorem withStyle_board {f : Style → Style} (hf : style.Known → (f style).Known) {length' : Nat}
    {act : Act Screen Unit} (h : Board rows columns style length Q s)
    (hact : ∀ t, Board rows columns (f style) length Q t →
      ComesTo act () (Board rows columns (f style) length' R) t) :
    ComesTo (withStyle f act) () (Board rows columns style length' R) s := by
  have hknown : style.Known := h.style_known
  obtain ⟨t, hset, ht⟩ := setStyle_board (hf hknown) h
  obtain ⟨u, hact, hu⟩ := hact t ht
  obtain ⟨v, hback, hv⟩ := setStyle_board hknown hu
  refine ⟨v, ?_, hv⟩
  refine (bind_ok (t := s) rfl).trans ?_
  rw [h.style_eq]
  exact (bind_ok hset).trans (tryFinally_ok hact hback)

end Board

/-! ### The status, the footer and the header -/

section Status

variable {rows columns : Int} {style : Style} {length : Nat} {old : Text} {s : Stage Screen}

/-- A text in the middle of another row than that of the status leaves what is shown there. -/
theorem drawCentered_board {y : Int} (t : Text) (hy : y ≠ rows - 2)
    (h : Board rows columns style length (Reads (rows - 2) columns old) s) :
    ComesTo (drawCentered y t) () (Board rows columns style length (Reads (rows - 2) columns old))
      s := by
  unfold drawCentered
  exact .after rfl (drawAt_board _ _ _ h fun b p g _ _ hg => hg.drawn_elsewhere (.inl hy))

theorem setFooter_board (t : Text)
    (h : Board rows columns style length (Reads (rows - 2) columns old) s) :
    ComesTo (setFooter t) () (Board rows columns style length (Reads (rows - 2) columns old)) s := by
  have hset := h.of_surface (f := fun b => { b with footer := t }) rfl rfl rfl rfl
  have hrow : s.surface.rows - 3 ≠ rows - 2 := by
    rw [h.rows_eq]
    omega
  obtain ⟨u, hdraw, hu⟩ := drawCentered_board t hrow hset
  exact ⟨u, hdraw, h.length_eq ▸ hu⟩

theorem setHeader_board (t : Text) (hrows : 4 ≤ rows)
    (h : Board rows columns style length (Reads (rows - 2) columns old) s) :
    ComesTo (setHeader t) () (Board rows columns style length (Reads (rows - 2) columns old)) s := by
  have hset := h.of_surface (f := fun b => { b with header := t }) rfl rfl rfl rfl
  obtain ⟨u, hdraw, hu⟩ := drawCentered_board t (show (1 : Int) ≠ rows - 2 by omega) hset
  exact ⟨u, hdraw, h.length_eq ▸ hu⟩

/-- With blanks after it, for as long as any text was before, a status is all that its row shows. It
is remembered with these blanks. -/
theorem padStatus_board (number count : Int) (title : Option Text)
    (h : Board rows columns style length (Reads (rows - 2) columns old) s)
    (hold : old.length ≤ length) (hrows : 4 ≤ rows) :
    let status := statusText number count title (columns - indent)
    ComesTo
      (withStyle (·.withFlag .bold false) do
        let s ← surface
        let status := statusText number count title (s.columns - indent)
        let padded := status ++ Text.rule ((s.statusLength : Int) - status.length) ' '
        modifySurface fun s => { s with statusLength := padded.length }
        drawAt (s.rows - 2) indent padded) ()
      (Board rows columns style (max status.length length) (Reads (rows - 2) columns status))
      s := by
  intro status
  let padded : Text := status ++ Text.rule ((length : Int) - status.length) ' '
  -- The number of blanks is negative after a shorter status, and then there are none.
  have hpadded : padded.length = max status.length length := by
    simp only [padded, Text.rule, List.length_append, List.length_replicate]
    omega
  rw [← hpadded]
  refine withStyle_board (fun hknown => hknown.withFlag .bold false) h fun t ht => ?_
  have hset := ht.of_surface (f := fun b => { b with statusLength := padded.length })
    rfl rfl rfl rfl
  obtain ⟨u, hdraw, hu⟩ := drawAt_board (R := Reads (rows - 2) columns status) (rows - 2) indent
    padded hset fun b p g hb hcolumns hg => by
      subst hcolumns
      have hover : Reads (rows - 2) b.columns padded (drawn b g p (rows - 2) indent padded) :=
        hg.drawn_over (by omega) (by omega)
      exact hover.congr fun i _ => getElem?_append_rule _ _ i
  refine ⟨u, ?_, hu⟩
  refine (bind_ok (t := t) rfl).trans ?_
  rw [ht.columns_eq, ht.rows_eq, ht.length_eq]
  exact (bind_ok rfl).trans hdraw

/-- The star stands before the margin, where no status is. -/
theorem drawStar_board (h : Board rows columns style length (Reads (rows - 2) columns old) s)
    (hrows : 4 ≤ rows) (hcolumns : indent < columns) :
    ComesTo
      (withStyle (·.withFlag .bold true) do
        drawAt ((← surface).rows - 2) (indent - 1) "*") ()
      (Board rows columns style length fun g =>
        Reads (rows - 2) columns old g ∧ (g (rows - 2) (indent - 1)).symbol = '*') s := by
  refine withStyle_board (fun hknown => hknown.withFlag .bold true) h fun t ht => .after rfl ?_
  rw [ht.rows_eq]
  refine drawAt_board _ _ _ ht fun b p g hb hc hg => ⟨hg.drawn_elsewhere (.inr (by decide)), ?_⟩
  rw [drawn_within _ (by omega) (by unfold indent at *; omega)]
  exact congrArg Cell.symbol (Grid.draw_at (i := 0) rfl)

/-- What is remembered of a status that is drawn is at least as long as any was before. -/
theorem drawStatus_board (number count : Int) (ended : Bool) (title : Option Text)
    (h : Board rows columns style length (Reads (rows - 2) columns old) s)
    (hold : old.length ≤ length) (hrows : 4 ≤ rows) (hcolumns : indent < columns) :
    let status := statusText number count title (columns - indent)
    ComesTo (drawStatus number count ended title) ()
      (Board rows columns style (max status.length length) fun g =>
        Reads (rows - 2) columns status g ∧
          (ended = true → (g (rows - 2) (indent - 1)).symbol = '*')) s := by
  intro status
  let Shown : Stage Screen → Prop :=
    Board rows columns style (max status.length length) (Reads (rows - 2) columns status)
  refine (padStatus_board number count title h hold hrows).bind fun t (ht : Shown t) => .after rfl ?_
  refine .iteThen (P := Shown) (fun _ => setFooter_board _ ht) ht fun u hu => ?_
  refine .iteThen (P := Shown) (fun _ => setHeader_board _ hrows hu) hu fun v hv => ?_
  rcases hended : ended with - | -
  · exact ⟨v, rfl, hv.mono fun g hg => ⟨hg, nofun⟩⟩
  · rw [if_pos rfl]
    have hstar := drawStar_board hv hrows hcolumns
    exact hstar.mono fun w hw => hw.mono fun g hg => ⟨hg.1, fun _ => hg.2⟩

/-- A screen whose row of the status shows a text that is no longer than what is remembered. -/
def StatusRemembered (rows columns : Int) (style : Style) (s : Stage Screen) : Prop :=
  ∃ length text, List.length text ≤ length ∧
    Board rows columns style length (Reads (rows - 2) columns text) s

/-- The operations that draw around a page: the status line, the footer and the header. -/
def Operation.drawsAround : Operation → Bool
  | drawStatus .. | perform (.footer _) | perform (.header _) => true
  | _ => false

theorem Operation.run_statusRemembered {o : Operation} (ho : o.drawsAround = true)
    (hrows : 4 ≤ rows) (hcolumns : indent < columns) (h : StatusRemembered rows columns style s) :
    ComesTo o.run () (StatusRemembered rows columns style) s := by
  obtain ⟨length, text, hlength, hboard⟩ := h
  have hkept {act : Act Screen Unit} (hact : ComesTo act ()
      (Board rows columns style length (Reads (rows - 2) columns text)) s) :
      ComesTo act () (StatusRemembered rows columns style) s :=
    hact.mono fun t ht => ⟨length, text, hlength, ht⟩
  cases o with
  | drawStatus number count ended title =>
    have hdraw := drawStatus_board number count ended title hboard hlength hrows hcolumns
    exact hdraw.mono fun t ht => ⟨_, _, le_max_left _ _, ht.mono fun g hg => hg.1⟩
  | perform op =>
    cases op with
    | footer t => exact hkept (setFooter_board t hboard)
    | header t => exact hkept (setHeader_board t hrows hboard)
    | _ => cases ho
  | _ => cases ho

theorem run_all_statusRemembered {os : List Operation} (hos : ∀ o ∈ os, o.drawsAround = true)
    (hrows : 4 ≤ rows) (hcolumns : indent < columns) (h : StatusRemembered rows columns style s) :
    ComesTo (os.forM Operation.run) () (StatusRemembered rows columns style) s := by
  induction os generalizing s with
  | nil => exact ⟨s, rfl, h⟩
  | cons o os ih =>
    have hfirst := Operation.run_statusRemembered (hos o List.mem_cons_self) hrows hcolumns h
    exact hfirst.bind fun t ht => ih (fun o ho => hos o (List.mem_cons_of_mem _ ho)) ht

end Status

/-- On a screen of at least four rows, opened or not, whose row of the status is blank from the
margin on, the status line, the footer and the header may be drawn as often as is wanted, with any
texts. A status that is drawn then is all that its row shows from the margin on, as far as the
screen is wide; and there is a star before it if the page is finished. -/
theorem last_status_shown {begun s : Stage Screen} {h : Host} {typeDelay slideDelay : Delay}
    {font : Text} (hstart : begun.surface = start h typeDelay slideDelay font)
    (hpen : begun.journal.pen = {}) (hpatient : Patient begun.host.refuses)
    (hs : s = begun ∨ Reached begun s) (hrows : 4 ≤ s.surface.rows)
    (hcolumns : indent < s.surface.columns)
    (hblank : ∀ column, indent ≤ column → column < s.surface.columns →
      (picture s (s.surface.rows - 2) column).symbol = ' ')
    {earlier : List Operation} (hearlier : ∀ o ∈ earlier, o.drawsAround = true)
    (number count : Int) (ended : Bool) (title : Option Text) :
    ∃ t u, earlier.forM Operation.run s = .ok () t ∧
      (Operation.drawStatus number count ended title).run t = .ok () u ∧
      (∀ column, indent ≤ column → column < s.surface.columns →
        (picture u (s.surface.rows - 2) column).symbol =
          ((statusOf number count title).take (s.surface.columns - indent).toNat)[
            (column - indent).toNat]?.getD ' ') ∧
      (ended = true → (picture u (s.surface.rows - 2) (indent - 1)).symbol = '*') := by
  have hstarted : (ink begun).Tracked := tracked_start hstart hpen hpatient
  have htracked : (ink s).Tracked := by
    rcases hs with rfl | hreached
    · exact hstarted
    · exact (Reached.inStep hstarted hreached).toTracked
  -- A blank row reads as the empty text, whatever length is remembered.
  have hbegun : StatusRemembered s.surface.rows s.surface.columns s.surface.style s :=
    ⟨s.surface.statusLength, [], Nat.zero_le _, htracked, rfl, rfl, rfl, rfl,
      fun i hi => hblank _ (by omega) hi⟩
  obtain ⟨t, hrun, length, text, hlength, ht⟩ :=
    run_all_statusRemembered hearlier hrows hcolumns hbegun
  obtain ⟨u, hdraw, hu⟩ :=
    drawStatus_board number count ended title ht hlength hrows hcolumns
  refine ⟨t, u, hrun, hdraw, fun column hleft hright => ?_, hu.shown.2⟩
  obtain ⟨i, rfl⟩ := Int.le.dest hleft
  have hplace : (indent + i - indent).toNat = i := by omega
  rw [hplace, List.getElem?_take_of_lt (by omega), hu.shown.1 i hright]
  exact statusText_getElem? number count title (by omega)

/-- A short status over a long one, with a footer drawn in between. -/
theorem last_status_shown_shorter :
    let begun : Stage Screen :=
      ⟨Host.quiet, {}, start Host.quiet (.whole 0) (.whole 0) "standard", none⟩
    let earlier : List Operation :=
      [.drawStatus 10 12 true (some "a title"), .perform (.footer "a footer")]
    Patient Host.quiet.refuses ∧ Reached begun emptyPage ∧ 4 ≤ emptyPage.surface.rows ∧
      indent < emptyPage.surface.columns ∧
      (∀ column, (picture emptyPage (emptyPage.surface.rows - 2) column).symbol = ' ') ∧
      (∀ o ∈ earlier, o.drawsAround = true) ∧
      ∃ t u, earlier.forM Operation.run emptyPage = .ok () t ∧
        (Operation.drawStatus 1 1 true none).run t = .ok () u ∧
        (picture u 22 2).symbol = '*' ∧ (picture u 22 9).symbol = ' ' ∧
        (picture u 22 13).symbol = ']' ∧ (picture u 22 17).symbol = ' ' := by
  intro begun earlier
  have hpatient : Patient Host.quiet.refuses := nofun
  have hreached : Reached begun emptyPage := .operated .opened (.perform (.beginSlide .right))
  have hrows : emptyPage.surface.rows = 24 := rfl
  have hcolumns : emptyPage.surface.columns = 80 := rfl
  have htall : 4 ≤ emptyPage.surface.rows := by omega
  have hwide : indent < emptyPage.surface.columns := by
    unfold indent
    omega
  have hblank (column : Int) :
      (picture emptyPage (emptyPage.surface.rows - 2) column).symbol = ' ' := by
    rw [picture_emptyPage]
    rfl
  have hearlier : ∀ o ∈ earlier, o.drawsAround = true := by simp [earlier, Operation.drawsAround]
  have hstart : begun.surface = start Host.quiet (.whole 0) (.whole 0) "standard" := rfl
  obtain ⟨t, u, hrun, hdraw, hshown, hstar⟩ := last_status_shown hstart rfl hpatient
    (.inr hreached) htall hwide (fun column _ _ => hblank column) hearlier 1 1 true none
  have hrow : emptyPage.surface.rows - 2 = 22 := by omega
  rw [hrow, hcolumns] at hshown
  rw [hrow] at hstar
  refine ⟨hpatient, hreached, htall, hwide, hblank, hearlier, t, u, hrun, hdraw, hstar rfl, ?_, ?_,
    ?_⟩
  · exact (hshown 9 (by decide) (by decide)).trans (by decide +kernel)
  · exact (hshown 13 (by decide) (by decide)).trans (by decide +kernel)
  · exact (hshown 17 (by decide) (by decide)).trans (by decide +kernel)

end SlideDeck.Screen
