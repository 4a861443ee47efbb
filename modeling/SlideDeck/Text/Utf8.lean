import SlideDeck.Text.Basic

/-!
UTF-8. Every text can be written; reading replaces each maximal invalid stretch by the replacement
character, so that any bytes can be read.
-/

namespace SlideDeck.Text.Utf8

def encodeChar (c : Char) : List UInt8 :=
  let n := c.toNat
  if n < 0x80 then [n.toUInt8]
  else if n < 0x800 then [(0xC0 + n / 0x40).toUInt8, (0x80 + n % 0x40).toUInt8]
  else if n < 0x10000 then
    [(0xE0 + n / 0x1000).toUInt8, (0x80 + n / 0x40 % 0x40).toUInt8, (0x80 + n % 0x40).toUInt8]
  else
    [(0xF0 + n / 0x40000).toUInt8, (0x80 + n / 0x1000 % 0x40).toUInt8,
      (0x80 + n / 0x40 % 0x40).toUInt8, (0x80 + n % 0x40).toUInt8]

def encode (t : Text) : List UInt8 := t.flatMap encodeChar

def replacement : Char := '\uFFFD'

/-- What a lead byte announces: the bits it carries, the range its next byte must lie in, and how
many plain continuation bytes follow that one. The narrower ranges keep out overlong forms,
surrogates and numbers past the last code point. -/
structure Lead where
  bits : Nat
  low : Nat
  high : Nat
  more : Nat

def lead? (b : Nat) : Option Lead :=
  if 0xC2 ≤ b ∧ b ≤ 0xDF then some ⟨b - 0xC0, 0x80, 0xBF, 0⟩
  else if b = 0xE0 then some ⟨0, 0xA0, 0xBF, 1⟩
  else if b = 0xED then some ⟨0xD, 0x80, 0x9F, 1⟩
  else if 0xE1 ≤ b ∧ b ≤ 0xEF then some ⟨b - 0xE0, 0x80, 0xBF, 1⟩
  else if b = 0xF0 then some ⟨0, 0x90, 0xBF, 2⟩
  else if 0xF1 ≤ b ∧ b ≤ 0xF3 then some ⟨b - 0xF0, 0x80, 0xBF, 2⟩
  else if b = 0xF4 then some ⟨4, 0x80, 0x8F, 2⟩
  else none

inductive Pending
  | none
  | some (l : Lead)

/-- Reads on from a pending sequence. A byte that cannot continue it turns what was read of it
into one replacement character and is then read afresh. -/
def decodeFrom : Pending → List UInt8 → Text
  | .none, [] => []
  | .some _, [] => [replacement]
  | p, byte :: rest =>
    let b := byte.toNat
    let fresh (before : Text) : Text :=
      if b < 0x80 then before ++ Char.ofNat b :: decodeFrom .none rest
      else match lead? b with
        | some l => before ++ decodeFrom (.some l) rest
        | none => before ++ replacement :: decodeFrom .none rest
    match p with
    | .none => fresh []
    | .some l =>
      if l.low ≤ b ∧ b ≤ l.high then
        let bits := l.bits * 0x40 + (b - 0x80)
        match l.more with
        | 0 => Char.ofNat bits :: decodeFrom .none rest
        | more + 1 => decodeFrom (.some ⟨bits, 0x80, 0xBF, more⟩) rest
      else fresh [replacement]

/-- The text that bytes spell, with a replacement character for each maximal stretch that is not
UTF-8. A byte order mark is kept. -/
def decode (bytes : List UInt8) : Text := decodeFrom .none bytes

end SlideDeck.Text.Utf8
