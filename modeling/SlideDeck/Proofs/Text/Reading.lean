import Mathlib
import SlideDeck.Text.Numeral
import SlideDeck.Text.Utf8

/-!
# Reading text

Text that is read from bytes is no longer than they are, and stripping it takes away white space
only. A decimal numeral stands for a number, in digits of any script (`Numeral`); a text of digits
is read as a number just if it is a numeral (`readNumeral_eq_ok_iff`), and what keeps it from being
one is a digit that has no place in a numeral (`numeral_iff_not_ornamental`).
-/

namespace SlideDeck.Text

/-! ### White space around a text -/

theorem length_trim_le (p : Char → Bool) (t : Text) : (trim p t).length ≤ t.length := by
  unfold trim
  rw [List.length_reverse]
  calc ((t.dropWhile p).reverse.dropWhile p).length
      ≤ (t.dropWhile p).reverse.length := (List.dropWhile_suffix p).length_le
    _ = (t.dropWhile p).length := List.length_reverse
    _ ≤ t.length := (List.dropWhile_suffix p).length_le

theorem mem_dropWhile_iff {p : Char → Bool} {c : Char} (hc : p c = false) (t : Text) :
    c ∈ t.dropWhile p ↔ c ∈ t := by
  refine ⟨(List.dropWhile_suffix p).mem, fun h => ?_⟩
  rw [← List.takeWhile_append_dropWhile (p := p) (l := t)] at h
  refine (List.mem_append.1 h).resolve_left fun htaken => ?_
  exact Bool.false_ne_true (hc.symm.trans (List.mem_takeWhile_imp htaken))

theorem mem_strip_iff {c : Char} (hc : isBlank c = false) (t : Text) : c ∈ strip t ↔ c ∈ t := by
  unfold strip trim
  rw [List.mem_reverse, mem_dropWhile_iff hc, List.mem_reverse, mem_dropWhile_iff hc]

/-! ### Text read from bytes -/

namespace Utf8

/-- How many characters a pending sequence can still be taken for. -/
def Pending.length : Pending → Nat
  | .none => 0
  | .some _ => 1

theorem length_decodeFrom_le (p : Pending) (bytes : List UInt8) :
    (decodeFrom p bytes).length ≤ p.length + bytes.length := by
  -- A byte that breaks a sequence off is read afresh; the character that the sequence turns into is
  -- the one that was counted while it was pending.
  induction bytes generalizing p with
  | nil => cases p <;> simp [decodeFrom, Pending.length]
  | cons byte rest ih =>
    have hnone := ih .none
    have hsome (l : Lead) := ih (.some l)
    simp only [Pending.length] at hnone hsome
    cases p with
    | none =>
      simp only [decodeFrom, Pending.length]
      split
      · grind
      · split <;> grind
    | some l =>
      simp only [decodeFrom, Pending.length]
      split
      · split <;> grind
      · split
        · grind
        · split <;> grind

theorem length_decode_le (bytes : List UInt8) : (decode bytes).length ≤ bytes.length := by
  have h := length_decodeFrom_le .none bytes
  rwa [Pending.length, Nat.zero_add] at h

end Utf8

/-! ### Decimal numerals -/

/-- A decimal numeral, with digits of any script, and the number that it stands for. -/
inductive Numeral : Text → Nat → Prop where
  | digit {c : Char} {d : Nat} (hd : digitValue? c = some d) : Numeral [c] d
  | next {t : Text} {n : Nat} {c : Char} {d : Nat} (ht : Numeral t n)
      (hd : digitValue? c = some d) : Numeral (t ++ [c]) (10 * n + d)

theorem digitsValue_append (t : Text) (c : Char) :
    digitsValue (t ++ [c]) = 10 * digitsValue t + (digitValue? c).getD 0 := by
  simp [digitsValue]

theorem isDecimalDigit_of_value {c : Char} {d : Nat} (hd : digitValue? c = some d) :
    isDecimalDigit c = true := Option.isSome_of_mem hd

theorem Numeral.all_digits {t : Text} {n : Nat} (h : Numeral t n) :
    t ≠ [] ∧ t.all isDecimalDigit = true ∧ digitsValue t = n := by
  induction h with
  | digit hd => simp [isDecimalDigit_of_value hd, digitsValue, hd]
  | next ht hd ih =>
    refine ⟨by simp, ?_, ?_⟩
    · simp [ih.2.1, isDecimalDigit_of_value hd]
    · rw [digitsValue_append, ih.2.2, hd, Option.getD_some]

theorem numeral_digitsValue {t : Text} (hne : t ≠ []) (h : t.all isDecimalDigit = true) :
    Numeral t (digitsValue t) := by
  induction t using List.reverseRecOn with
  | nil => exact absurd rfl hne
  | append_singleton t c ih =>
    rw [List.all_append, Bool.and_eq_true] at h
    have hc : isDecimalDigit c = true := by simpa using h.2
    obtain ⟨d, hd⟩ := Option.isSome_iff_exists.1 hc
    rw [digitsValue_append, hd, Option.getD_some]
    rcases eq_or_ne t [] with rfl | ht
    · simpa [digitsValue] using Numeral.digit hd
    · exact .next (ih ht h.1) hd

/-- A numeral is a text of decimal digits, and the number is the value of them. -/
theorem numeral_iff {t : Text} {n : Nat} :
    Numeral t n ↔ t ≠ [] ∧ t.all isDecimalDigit = true ∧ digitsValue t = n := by
  refine ⟨Numeral.all_digits, ?_⟩
  rintro ⟨hne, hall, rfl⟩
  exact numeral_digitsValue hne hall

/-- A text that is not too long is read as a number just if it is a numeral, unless it is empty. -/
theorem readNumeral_eq_ok_iff {t : Text} {n : Nat} (hne : t ≠ [])
    (hlength : t.length ≤ digitLimit) : readNumeral t = .ok n ↔ Numeral t n := by
  rw [numeral_iff]
  unfold readNumeral readDigits
  rw [if_neg (Nat.not_lt.2 hlength)]
  split
  · rename_i hall
    simp [hne, hall]
  · rename_i hall
    simp [hall]

theorem Numeral.unique {t : Text} {m n : Nat} (hm : Numeral t m) (hn : Numeral t n) : m = n :=
  hm.all_digits.2.2.symm.trans hn.all_digits.2.2

/-- A text of digits one of which has no place in a numeral. -/
def Ornamental (t : Text) : Prop := t.all isDigit = true ∧ ∃ c ∈ t, isDecimalDigit c = false

theorem ornamental_iff {t : Text} :
    Ornamental t ↔ t.all isDigit = true ∧ t.all isDecimalDigit = false := by
  simp [Ornamental]

theorem readNumeral_ornamental {t : Text} (h : Ornamental t) :
    readNumeral t = .error (.notDecimal t) :=
  if_neg (by rw [(ornamental_iff.1 h).2]; nofun)

/-- Digits make up a numeral, unless one of them has no place there. -/
theorem numeral_iff_not_ornamental {t : Text} (hne : t ≠ []) (hdigits : t.all isDigit = true) :
    (∃ n, Numeral t n) ↔ ¬ Ornamental t := by
  rw [ornamental_iff, not_and, Bool.not_eq_false]
  refine ⟨fun ⟨n, hn⟩ _ => hn.all_digits.2.1, fun h => ⟨_, numeral_digitsValue hne (h hdigits)⟩⟩

theorem Numeral.all_isDigit {t : Text} {n : Nat} (h : Numeral t n) : t.all isDigit = true :=
  List.all_eq_true.2 fun c hc =>
    isDigit_of_isDecimalDigit (List.all_eq_true.1 h.all_digits.2.1 c hc)

/-- Without digits, or with anything else, a text is neither a numeral nor one in ornament. -/
theorem not_numeral_of_not_digits {t : Text} (h : t = [] ∨ !t.all isDigit) :
    (∀ n, ¬ Numeral t n) ∧ ¬ Ornamental t := by
  constructor
  · intro n hn
    simp [hn.all_digits.1, hn.all_isDigit] at h
  · rintro ⟨hdigits, c, hc, -⟩
    simp [List.ne_nil_of_mem hc, hdigits] at h

end SlideDeck.Text
