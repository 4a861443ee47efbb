/-!
Text as a list of code points, with the operations that every other module needs: what follows a
leading marker, cuts counted from either end, and numbers written in decimal. The main statement
is `after?_eq_some_iff`: a text starts with a marker exactly when it is the marker and a rest.
-/

namespace SlideDeck

/-- A text is its list of code points, so lengths, widths and cuts all count code points. -/
abbrev Text := List Char

instance : Coe String Text := ⟨String.toList⟩

namespace Text

def after? : (lead t : Text) → Option Text
  | [], t => some t
  | _ :: _, [] => none
  | a :: lead, b :: t => if a = b then after? lead t else none

def startsWith (t lead : Text) : Bool := (after? lead t).isSome

theorem after?_append (lead rest : Text) : after? lead (lead ++ rest) = some rest := by
  induction lead with
  | nil => rfl
  | cons a lead ih => simp [after?, ih]

theorem after?_eq_some_iff {lead t rest : Text} : after? lead t = some rest ↔ t = lead ++ rest := by
  constructor
  · intro h
    induction lead generalizing t with
    | nil => simpa [after?] using h
    | cons a lead ih =>
      cases t with
      | nil => simp [after?] at h
      | cons b t =>
        by_cases hab : a = b
        · subst hab
          simpa [after?] using ih (by simpa [after?] using h)
        · simp [after?, hab] at h
  · rintro rfl
    exact after?_append lead rest

theorem startsWith_iff {t lead : Text} : t.startsWith lead = true ↔ ∃ rest, t = lead ++ rest := by
  simp only [startsWith, Option.isSome_iff_exists, after?_eq_some_iff]

def upTo (n : Int) (t : Text) : Text :=
  if 0 ≤ n then t.take n.toNat else t.take (t.length - (-n).toNat)

def rule (n : Int) (c : Char) : Text := List.replicate n.toNat c

def ofNat (n : Nat) : Text := Nat.toDigits 10 n

def ofInt : Int → Text
  | .ofNat n => ofNat n
  | .negSucc n => '-' :: ofNat (n + 1)

def concat (ts : List Text) : Text := ts.flatten

def join (sep : Text) : List Text → Text
  | [] => []
  | [t] => t
  | t :: ts => t ++ sep ++ join sep ts

end Text

end SlideDeck
