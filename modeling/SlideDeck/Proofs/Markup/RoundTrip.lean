import SlideDeck.Proofs.Markup.Canonical

/-!
# Scanning inverts writing

`scan` reads back what `write` writes, for the canonical token lists and only for these: every scan
is one of them. The proof goes along the characters of a literal; what stands after it matters at
its last two characters only.
-/

namespace SlideDeck.Token

/-! ### Literals as they are written -/

theorem consLiteral_ite {u t : Text} {ks : List Token} (hks : ∀ v vs, ks ≠ literal v :: vs) :
    consLiteral u (if t = [] then ks else literal t :: ks) = literal (u ++ t) :: ks := by
  by_cases ht : t = []
  · rw [if_pos ht, consLiteral_of_ne hks, ht, List.append_nil]
  · rw [if_neg ht]
    rfl

theorem hyphen_of_writeLiteral {t r : Text} (h : writeLiteral t = '-' :: r) :
    ∃ v, t = '-' :: v ∧ r = writeLiteral v ∧ ∀ w, v ≠ '-' :: w := by
  cases t using writeLiteral.fun_cases with
  | case1 => cases h
  | case2 t =>
    simp only [writeLiteral, List.cons.injEq] at h
    exact absurd h.1 (by decide)
  | case3 c t hc =>
    rw [writeLiteral.eq_3 c t hc, List.cons.injEq] at h
    obtain ⟨rfl, rfl⟩ := h
    exact ⟨t, rfl, rfl, fun w hw => hc w rfl hw⟩

theorem writeLiteral_ne_nil {t : Text} (ht : t ≠ []) : writeLiteral t ≠ [] := by
  cases t using writeLiteral.fun_cases with
  | case1 => exact absurd rfl ht
  | case2 t => simp [writeLiteral]
  | case3 c t hc => simp [writeLiteral.eq_3 c t hc]

/-- Two hyphens after the backslash of a literal come from outside, and then the literal ends in an
escape. -/
theorem no_escape_of_write {t rest : Text} (hrest : rest ≠ [] → ¬ EndsInEscape ('\\' :: t))
    (r : Text) : writeLiteral t ++ rest ≠ '-' :: '-' :: r := by
  intro h
  rcases hwrite : writeLiteral t with - | ⟨d, w⟩
  · have ht : t = [] := by
      by_contra ht
      exact writeLiteral_ne_nil ht hwrite
    rw [hwrite, List.nil_append] at h
    refine hrest (by simp [h]) ?_
    rw [ht]
    decide
  · rw [hwrite, List.cons_append, List.cons.injEq] at h
    obtain ⟨rfl, h⟩ := h
    obtain ⟨v, rfl, rfl, hv⟩ := hyphen_of_writeLiteral hwrite
    rcases hw : writeLiteral v with - | ⟨e, x⟩
    · have hnil : v = [] := by
        by_contra hnil
        exact writeLiteral_ne_nil hnil hw
      rw [hw, List.nil_append] at h
      refine hrest (by simp [h]) ?_
      rw [hnil]
      decide
    · rw [hw, List.cons_append, List.cons.injEq] at h
      obtain ⟨u, hu, -, -⟩ := hyphen_of_writeLiteral (hw.trans (by rw [h.1]))
      exact hv u hu

/-- A hyphen of a literal that is not escaped begins no marker, since three hyphens do not. -/
theorem no_marker_of_write {c : Char} {t rest : Text} (hc : c = '-' → ∀ w, t ≠ '-' :: w)
    (hrest : rest ≠ [] → ∃ r, rest = '-' :: '-' :: r) :
    marker? (c :: (writeLiteral t ++ rest)) = none := by
  by_cases hhyphen : c = '-'
  · subst hhyphen
    rcases hwrite : writeLiteral t with - | ⟨d, w⟩
    · rw [List.nil_append]
      rcases rest with - | ⟨e, x⟩
      · exact marker?_of_second_ne (by simp)
      · obtain ⟨r, hr⟩ := hrest (by simp)
        rw [hr]
        exact marker?_three_hyphens r
    · refine marker?_of_second_ne (fun r hr => ?_)
      rw [List.cons_append, List.cons.injEq] at hr
      obtain ⟨v, hv, -, -⟩ := hyphen_of_writeLiteral (hwrite.trans (by rw [hr.1]))
      exact hc rfl v hv
  · exact marker?_of_head_ne hhyphen

theorem scan_writeLiteral_append {t rest : Text} (hks : ∀ v vs, scan rest ≠ literal v :: vs)
    (hrest : rest ≠ [] → ∃ r, rest = '-' :: '-' :: r) (hend : rest ≠ [] → ¬ EndsInEscape t) :
    scan (writeLiteral t ++ rest) = if t = [] then scan rest else literal t :: scan rest := by
  induction t using writeLiteral.induct with
  | case1 => rfl
  | case2 t ih =>
    have hend' : rest ≠ [] → ¬ EndsInEscape t := fun hne h =>
      hend hne (h.append_left ['-', '-'])
    have hwrite : writeLiteral ('-' :: '-' :: t) ++ rest
        = '\\' :: '-' :: '-' :: (writeLiteral t ++ rest) := rfl
    rw [hwrite, scan_escape, ih hend', consLiteral_ite hks]
    rfl
  | case3 c t hc ih =>
    have hend' : rest ≠ [] → ¬ EndsInEscape t := fun hne h => hend hne (h.append_left [c])
    have hescape : c = '\\' → ∀ r, writeLiteral t ++ rest ≠ '-' :: '-' :: r := by
      rintro rfl
      exact no_escape_of_write hend
    have hmarker := no_marker_of_write (fun h w hw => hc w h hw) hrest
    rw [writeLiteral.eq_3 c t hc, List.cons_append, scan_of_no_marker hescape hmarker, ih hend',
      consLiteral_ite hks]
    rfl

/-! ### Token lists as they are written -/

theorem write_cons (token : Token) (ts : List Token) :
    write (token :: ts) = writeToken token ++ write ts := List.flatMap_cons

theorem startsWithLetter_of_write {ts : List Token} (hts : ∀ token ∈ ts, token.Proper)
    (h : StartsWithLetter (write ts)) : ∃ t ks, ts = literal t :: ks ∧ StartsWithLetter t := by
  obtain ⟨c, hc, hletter⟩ := h
  rcases ts with - | ⟨token, ks⟩
  · cases hc
  · rw [write_cons] at hc
    cases token with
    | literal t =>
      refine ⟨t, ks, rfl, ?_⟩
      have ht : t ≠ [] := hts (literal t) List.mem_cons_self
      cases t using writeLiteral.fun_cases with
      | case1 => exact absurd rfl ht
      | case2 t =>
        cases hc
        exact absurd hletter (by decide)
      | case3 d t hd =>
        have hwrite : writeToken (literal (d :: t)) = d :: writeLiteral t := writeLiteral.eq_3 d t hd
        rw [hwrite, List.cons_append] at hc
        obtain rfl : d = c := Option.some.inj hc
        exact ⟨d, rfl, hletter⟩
    | toggle f on =>
      cases f <;> cases on <;> (cases hc; exact absurd hletter (by decide))
    | push name =>
      cases hc
      exact absurd hletter (by decide)
    | pop =>
      cases hc
      exact absurd hletter (by decide)

theorem scan_write {ts : List Token} (h : Canonical ts) : scan (write ts) = ts := by
  induction ts with
  | nil => exact scan.eq_1
  | cons token ts ih =>
    -- The tail is read back already, so its first token says what its text begins with.
    have hts := ih h.tail
    rw [write_cons]
    by_cases hliteral : ∃ t, token = literal t
    · obtain ⟨t, rfl⟩ := hliteral
      have ht : t ≠ [] := h.proper (literal t) List.mem_cons_self
      have hnext : ∀ k ks, ts = k :: ks → (∀ v, k ≠ literal v) ∧ ¬ EndsInEscape t := by
        rintro k ks rfl
        exact mayPrecede_literal_iff.1 (List.isChain_cons_cons.1 h.chain).1
      have hfirst : write ts ≠ [] → ∃ k ks, ts = k :: ks := by
        intro hne
        exact List.exists_cons_of_ne_nil (fun hnil => hne (by rw [hnil]; rfl))
      have hscan : scan (writeLiteral t ++ write ts)
          = if t = [] then scan (write ts) else literal t :: scan (write ts) := by
        refine scan_writeLiteral_append ?_ ?_ ?_
        · intro v vs hv
          rw [hts] at hv
          exact (hnext _ _ hv).1 v rfl
        · intro hne
          obtain ⟨k, ks, hk⟩ := hfirst hne
          exact hyphens_of_scan (hts.trans hk) (hnext k ks hk).1
        · intro hne
          obtain ⟨k, ks, hk⟩ := hfirst hne
          exact (hnext k ks hk).2
      have hwrite : writeToken (literal t) = writeLiteral t := rfl
      rw [hwrite, hscan, if_neg ht, hts]
    · have hname : ∀ name, token = push name →
          Color.isKnown name = true ∧ ¬ StartsWithLetter (write ts) := by
        rintro name rfl
        refine ⟨Color.isKnown_iff.2 (h.proper (push name) List.mem_cons_self), fun hletter => ?_⟩
        obtain ⟨t, ks, rfl, ht⟩ := startsWithLetter_of_write h.tail.proper hletter
        exact (List.isChain_cons_cons.1 h.chain).1 ht
      rw [scan_of_marker (marker?_writeToken (fun t ht => hliteral ⟨t, ht⟩) hname), hts]

theorem canonical_literal {t : Text} (ht : t ≠ []) : Canonical [literal t] :=
  .cons ht .nil (by simp)

/-- Scanning inverts writing on the canonical token lists, which are those that scans have; so a
scan is read back from its own text, and every literal text can be written. -/
theorem scan_inverts_write :
    (∀ ts, Canonical ts → scan (write ts) = ts) ∧
      (∀ s, Canonical (scan s)) ∧
      (∀ s, scan (write (scan s)) = scan s) ∧
      ∀ t, t ≠ [] → scan (write [literal t]) = [literal t] :=
  ⟨fun _ h => scan_write h, canonical_of_scan, fun s => scan_write (canonical_of_scan s),
    fun _ ht => scan_write (canonical_literal ht)⟩

/-- Hyphens on both sides of markers, and a digit after a colour. -/
theorem scan_inverts_write_hyphens :
    Canonical [literal "a\\---", toggle .bold true, push "red", literal "1--", pop, literal "-"] ∧
      scan (write
          [literal "a\\---", toggle .bold true, push "red", literal "1--", pop, literal "-"])
        = [literal "a\\---", toggle .bold true, push "red", literal "1--", pop, literal "-"] ∧
      ("--b" : Text) ≠ [] ∧ scan (write [literal "--b"]) = [literal "--b"] :=
  ⟨by decide, scan_inverts_write.1 _ (by decide), List.cons_ne_nil _ _,
    scan_inverts_write.2.2.2 _ (List.cons_ne_nil _ _)⟩

end SlideDeck.Token
