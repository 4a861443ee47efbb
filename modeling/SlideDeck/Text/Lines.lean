import SlideDeck.Text.Basic

/-!
Two ways to cut a text into lines. A deck is cut at newlines only (`sourceLines`); the output of a
command is cut at every character that Unicode counts as a line boundary (`boundaryLines`). No line
of a deck holds a newline (`newline_not_mem`).
-/

namespace SlideDeck.Text

def consLine (c : Char) : List Text → List Text
  | [] => [[c]]
  | l :: ls => (c :: l) :: ls

def newlineLines : Text → List Text
  | [] => []
  | c :: t => if c = '\n' then [] :: newlineLines t else consLine c (newlineLines t)

def dropReturn : Text → Text
  | [] => []
  | [c] => if c = '\r' then [] else [c]
  | c :: d :: t => c :: dropReturn (d :: t)

/-- The lines of a source: cut at newlines only, each without one trailing carriage return. Form
feeds and other boundaries stay inside the line. -/
def sourceLines (t : Text) : List Text := (newlineLines t).map dropReturn

def isBoundary (c : Char) : Bool :=
  let n := c.toNat
  (0x0A ≤ n && n ≤ 0x0D) || (0x1C ≤ n && n ≤ 0x1E) || n == 0x85 || n == 0x2028 || n == 0x2029

/-- The lines of command output; a return and the newline after it are one boundary. -/
def boundaryLines : Text → List Text
  | [] => []
  | '\r' :: '\n' :: t => [] :: boundaryLines t
  | c :: t => if isBoundary c then [] :: boundaryLines t else consLine c (boundaryLines t)

theorem mem_consLine {c d : Char} {ls : List Text} {l : Text} (hl : l ∈ consLine c ls)
    (hd : d ∈ l) : d = c ∨ ∃ l' ∈ ls, d ∈ l' := by
  cases ls with
  | nil =>
    simp only [consLine, List.mem_singleton] at hl
    subst hl
    exact Or.inl (List.mem_singleton.1 hd)
  | cons l' ls =>
    rcases List.mem_cons.1 hl with rfl | hl
    · rcases List.mem_cons.1 hd with rfl | hd
      · exact Or.inl rfl
      · exact Or.inr ⟨l', List.mem_cons_self, hd⟩
    · exact Or.inr ⟨l, List.mem_cons_of_mem _ hl, hd⟩

theorem newline_not_mem {t l : Text} (hl : l ∈ newlineLines t) : '\n' ∉ l := by
  induction t generalizing l with
  | nil => simp [newlineLines] at hl
  | cons c t ih =>
    simp only [newlineLines] at hl
    split at hl
    · rcases List.mem_cons.1 hl with rfl | hl
      · simp
      · exact ih hl
    · rename_i hc
      intro hmem
      rcases mem_consLine hl hmem with h | ⟨l', hl', h⟩
      · exact hc h.symm
      · exact ih hl' h

theorem sourceLines_nil : sourceLines [] = [] := rfl

end SlideDeck.Text
