import SlideDeck.Proofs.Faults
import SlideDeck.Proofs.Layout.Unbroken

/-!
# Rows of huge text

A huge text is a picture in rows, which are printed as if they were text: each is cut into lines
where that is due, and its markers are interpreted. So all rows stay as they are just if none is
broken and none has a marker (`printed_eq_iff`).
-/

namespace SlideDeck

/-- A lettering gives no row that is longer than the width it was asked for. -/
def Lettering.Fits (l : Lettering) : Prop :=
  ∀ (font : Text) (width : Nat) (t : Text), 0 < width →
    ∀ row ∈ HugeText.rowsOf (l.render font width t), row.length ≤ width

/-- In every font the letters of a text have room within a width. -/
def Lettering.Holds (l : Lettering) (width : Int) (t : Text) : Prop :=
  ∀ font, l.hasRoom font (max 1 width).toNat t = true

theorem Text.length_le_of_mem_boundaryLines {t line : Text} (h : line ∈ boundaryLines t) :
    line.length ≤ t.length := by
  fun_induction boundaryLines t generalizing line with
  | case1 => cases h
  | case2 t ih =>
    rcases List.mem_cons.1 h with rfl | h
    · exact Nat.zero_le _
    · exact (ih h).trans (by simp only [List.length_cons]; omega)
  | case3 c t _ hboundary ih =>
    rcases List.mem_cons.1 h with rfl | h
    · exact Nat.zero_le _
    · exact (ih h).trans (Nat.le_succ _)
  | case4 c t _ hboundary ih =>
    rcases hrest : boundaryLines t with - | ⟨first, rest⟩
    · rw [hrest] at h
      rw [List.mem_singleton.1 h]
      exact Nat.succ_le_succ (Nat.zero_le _)
    · rw [hrest] at h ih
      rcases List.mem_cons.1 h with rfl | h
      · exact Nat.succ_le_succ (ih List.mem_cons_self)
      · exact (ih (List.mem_cons_of_mem _ h)).trans (Nat.le_succ _)

/-- Letters in their own size, as many as there is room for. -/
def Lettering.cropped : Lettering where
  hasFont _ := true
  render _ width t := t.take width

theorem Lettering.cropped_holds (width : Int) (t : Text) : cropped.Holds width t := fun _ => rfl

theorem Lettering.cropped_fits : cropped.Fits := by
  intro font width t _ row hrow
  have hcropped := (List.dropWhile_suffix (· == '\n') (l := (t.take width).reverse)).length_le
  have hrow := Text.length_le_of_mem_boundaryLines hrow
  simp only [List.length_reverse, List.length_take, cropped] at hcropped hrow
  omega

namespace HugeText

variable {σ : Type} {s t : Stage σ}

/-- Looking up a font changes nothing but the warnings and the fonts that were looked up. -/
structure Asked (s t : Stage σ) : Prop where
  host : t.host = s.host
  surface : t.surface = s.surface
  events : t.journal.events = s.journal.events

theorem chooseFont_ok (font : Text) (width : Nat) (s : Stage σ) :
    ∃ used t, chooseFont font width s = .ok used t ∧ Asked s t := by
  have hended := chooseFont_ends (P := Asked s) (E := fun _ => False)
    (fun u j hj hu => ⟨hu.host, hu.surface, hj.trans hu.events⟩) font width s ⟨rfl, rfl, rfl⟩
  rcases hrun : chooseFont font width s with ⟨used, t⟩ | ⟨e, t⟩
  · rw [hrun] at hended
    exact ⟨used, t, rfl, hended.2⟩
  · rw [hrun] at hended
    exact hended.1.elim

theorem render_ok {t : Text} {width : Int} (hroom : s.host.lettering.Holds width t) (font : Text) :
    ∃ used u, render t font width s =
      .ok (rowsOf (s.host.lettering.render used (max 1 width).toNat t)) u ∧ Asked s u := by
  obtain ⟨used, u, hchoose, hu⟩ := chooseFont_ok font (max 1 width).toNat s
  refine ⟨used, u, (Outcome.bind_ok hchoose).trans ((Outcome.bind_ok (t := u) rfl).trans ?_), hu⟩
  simp only [hu.host, hroom used]
  rfl

/-! ### Rows that are printed -/

/-- The lines that rows are printed in at some width, with their markers interpreted or as they
stand. -/
def printed (interpreted : Bool) (width : Int) (rows : List Text) : List Text :=
  rows.flatMap fun row => Layout.wrapText width (if interpreted then stripMarkup row else row)

theorem printed_eq_iff (interpreted : Bool) (width : Int) (rows : List Text) :
    printed interpreted width rows = rows ↔ ∀ row ∈ rows,
      Layout.Unbroken (· == ' ') width row ∧ (interpreted = true → Unmarked row) := by
  refine (Layout.flatMap_eq_self_iff (fun row => Layout.wrapText_ne_nil _ _) rows).trans ?_
  refine forall₂_congr fun row _ => ?_
  rcases interpreted with - | -
  · rw [if_neg Bool.false_ne_true]
    refine Layout.wrap_eq_singleton_iff.trans ?_
    simp
  · rw [if_pos rfl, Layout.wrapText_stripMarkup_eq_singleton_iff]
    simp [and_comm]

end HugeText

end SlideDeck
