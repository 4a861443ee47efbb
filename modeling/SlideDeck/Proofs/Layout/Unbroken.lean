import SlideDeck.Proofs.Layout.Rule
import SlideDeck.Proofs.Markup.Unmarked

/-!
# Rows that stay as they are

A row of characters is cut into itself alone just when it is shorter than the width, or has exactly
the width and no blank behind its first character (`wrap_eq_singleton_iff`): such a blank ends the
line, though the row would fit. Where markers are interpreted, the row must have none as well.
-/

namespace SlideDeck.Layout

variable {α : Type} {blank : α → Bool} {width : Int} {items : List α}

def Unbroken (blank : α → Bool) (width : Int) (items : List α) : Prop :=
  items.length < clamp width ∨ items.length = clamp width ∧ ∀ a ∈ items.tail, blank a = false

instance (blank : α → Bool) (width : Int) (items : List α) :
    Decidable (Unbroken blank width items) :=
  inferInstanceAs (Decidable (_ ∨ _ ∧ _))

/-- Items that have exactly the width are a line if none of them but the first is a blank. -/
theorem cutLine_eq_self_iff {w : Nat} (hw : 0 < w) (hlength : items.length = w) :
    (cutLine blank w items).1 = items ↔ ∀ a ∈ items.tail, blank a = false := by
  rw [cutLine_of_long hw hlength.ge, List.take_of_length_le hlength.le]
  split
  · rename_i hnone
    rw [List.length_eq_zero_iff, List.dropWhile_eq_nil_iff] at hnone
    refine iff_of_true rfl fun a ha => ?_
    simpa using hnone a (List.mem_reverse.2 ha)
  · rename_i n hn
    have hle := (List.dropWhile_suffix (!blank ·) (l := items.tail.reverse)).length_le
    rw [hn, List.length_reverse, List.length_tail] at hle
    refine iff_of_false (fun heq => ?_) fun hnone => ?_
    · have hcut := congrArg List.length heq
      rw [List.length_take] at hcut
      omega
    · rw [List.dropWhile_eq_nil_iff.2 fun a ha => ?_] at hn
      · cases hn
      · simp [hnone a (List.mem_reverse.1 ha)]

theorem lines_eq_singleton_iff {w : Nat} (hw : 0 < w) (h : items ≠ []) :
    lines blank w hw items = [items] ↔ (cutLine blank w items).1 = items := by
  rw [lines_of_ne_nil blank hw h, List.cons.injEq]
  refine ⟨And.left, fun hfirst => ⟨hfirst, ?_⟩⟩
  -- What is cut off behind a line that has everything is nothing.
  have hnone : (cutLine blank w items).2 = [] := by
    have hshorter := cutLine_append blank w items
    rw [hfirst] at hshorter
    rcases hshorter with hall | ⟨b, -, hall⟩
    · exact List.self_eq_append_right.1 hall
    · exact absurd hall (by simp)
  rw [hnone, lines, dif_pos rfl]

theorem wrap_eq_singleton_iff : wrap blank width items = [items] ↔ Unbroken blank width items := by
  rcases items with - | ⟨a, rest⟩
  · exact iff_of_true rfl (.inl (clamp_pos width))
  have hw := clamp_pos width
  refine (lines_eq_singleton_iff hw (List.cons_ne_nil a rest)).trans ?_
  rcases Nat.lt_trichotomy (a :: rest).length (clamp width) with hlt | heq | hgt
  · rw [cutLine_of_short hlt]
    exact iff_of_true rfl (.inl hlt)
  · rw [cutLine_eq_self_iff hw heq]
    exact ⟨fun hnone => .inr ⟨heq, hnone⟩, fun h => (h.resolve_left heq.not_lt).2⟩
  · refine iff_of_false (fun hall => ?_) fun h => ?_
    · have hle := length_cutLine_le blank hw (a :: rest)
      rw [hall] at hle
      omega
    · rcases h with hlt | ⟨heq, -⟩ <;> omega

/-- With its markers interpreted, a row stays as it is if it has none, and as it stands there. -/
theorem wrapText_stripMarkup_eq_singleton_iff (width : Int) (row : Text) :
    wrapText width (stripMarkup row) = [row] ↔ Unmarked row ∧ Unbroken (· == ' ') width row := by
  constructor
  · intro hrow
    have hcut : Cut (· == ' ') row [row] := by
      have hline : Cut (· == ' ') (row ++ []) [row] := .line row .nil
      rwa [List.append_nil] at hline
    rw [← hrow, cut_stripMarkup_iff] at hcut
    rw [hcut.stripMarkup_eq] at hrow
    exact ⟨hcut, wrap_eq_singleton_iff.1 hrow⟩
  · rintro ⟨hplain, hfits⟩
    rw [hplain.stripMarkup_eq]
    exact wrap_eq_singleton_iff.2 hfits

/-! ### Rows one after the other -/

theorem length_le_length_flatMap {f : α → List α} (hne : ∀ a, f a ≠ []) (l : List α) :
    l.length ≤ (l.flatMap f).length := by
  induction l with
  | nil => exact Nat.zero_le _
  | cons a l ih =>
    have hpiece := List.length_pos_iff.2 (hne a)
    rw [List.flatMap_cons, List.length_append, List.length_cons]
    omega

/-- What is put together from at least one piece for each element is the list itself only if each
element is its own only piece. -/
theorem flatMap_eq_self_iff {f : α → List α} (hne : ∀ a, f a ≠ []) (l : List α) :
    l.flatMap f = l ↔ ∀ a ∈ l, f a = [a] := by
  induction l with
  | nil => simp
  | cons a l ih =>
    rw [List.flatMap_cons, List.forall_mem_cons, ← ih]
    refine ⟨fun h => ?_, fun h => by rw [h.1, h.2]; rfl⟩
    -- There is room for one piece of the first element only.
    have hlength := congrArg List.length h
    have hpiece := List.length_pos_iff.2 (hne a)
    have hrest := length_le_length_flatMap hne l
    rw [List.length_append, List.length_cons] at hlength
    exact List.append_inj (h.trans (List.singleton_append (l := l)).symm)
      (by rw [List.length_singleton]; omega)

theorem wrapText_ne_nil (width : Int) (t : Text) : wrapText width t ≠ [] := by
  unfold wrapText wrap
  split
  · exact List.cons_ne_nil _ _
  · rename_i hne
    rw [lines_of_ne_nil _ _ hne]
    exact List.cons_ne_nil _ _

end SlideDeck.Layout
