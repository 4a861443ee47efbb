import SlideDeck.Proofs.Markup.Scan

/-!
# Canonical token lists

The token lists that scans have. A literal is never empty and never touches another literal; after
a colour it cannot begin with a letter, which would belong to the name; and before a marker it
cannot end in a backslash, or in a backslash and one hyphen, which would make the marker literal.
-/

namespace SlideDeck.Token

/-- Whether a token alone can come from a scan. -/
def Proper : Token → Prop
  | literal t => t ≠ []
  | push name => name ∈ Color.names
  | _ => True

/-- Whether a text ends in a backslash or in a backslash and one hyphen, so that two hyphens after
it would be read as an escape. -/
def EndsInEscape (t : Text) : Prop := ['\\'] <:+ t ∨ ['\\', '-'] <:+ t

/-- Whether the second token can stand right after the first. -/
def MayPrecede : Token → Token → Prop
  | literal _, literal _ => False
  | literal t, _ => ¬ EndsInEscape t
  | push _, literal t => ¬ StartsWithLetter t
  | _, _ => True

/-- Token lists that some text has. -/
structure Canonical (ts : List Token) : Prop where
  proper : ∀ token ∈ ts, token.Proper
  chain : ts.IsChain MayPrecede

instance (t : Text) : Decidable (EndsInEscape t) :=
  inferInstanceAs (Decidable (['\\'] <:+ t ∨ ['\\', '-'] <:+ t))

instance : DecidablePred Proper
  | literal t => inferInstanceAs (Decidable (t ≠ []))
  | push name => inferInstanceAs (Decidable (name ∈ Color.names))
  | toggle _ _ | pop => .isTrue trivial

instance : DecidableRel MayPrecede
  | literal _, literal _ => .isFalse id
  | literal t, toggle _ _ | literal t, push _ | literal t, pop =>
    inferInstanceAs (Decidable (¬ EndsInEscape t))
  | push _, literal t => inferInstanceAs (Decidable (¬ StartsWithLetter t))
  | toggle _ _, _ | pop, _ | push _, toggle _ _ | push _, push _ | push _, pop => .isTrue trivial

instance (ts : List Token) : Decidable (Canonical ts) :=
  decidable_of_iff ((∀ token ∈ ts, token.Proper) ∧ ts.IsChain MayPrecede)
    ⟨fun h => ⟨h.1, h.2⟩, fun h => ⟨h.proper, h.chain⟩⟩

theorem Canonical.nil : Canonical [] := ⟨by simp, .nil⟩

theorem Canonical.tail {token : Token} {ts : List Token} (h : Canonical (token :: ts)) :
    Canonical ts :=
  ⟨fun k hk => h.proper k (List.mem_cons_of_mem _ hk), h.chain.tail⟩

theorem Canonical.cons {token : Token} {ts : List Token} (htoken : token.Proper)
    (hts : Canonical ts) (hnext : ∀ k ks, ts = k :: ks → MayPrecede token k) :
    Canonical (token :: ts) := by
  refine ⟨?_, ?_⟩
  · intro k hk
    rcases List.mem_cons.1 hk with rfl | hk
    · exact htoken
    · exact hts.proper k hk
  · cases ts with
    | nil => exact .singleton _
    | cons k ks => exact .cons_cons (hnext k ks rfl) hts.chain

theorem mayPrecede_literal_iff {t : Text} {token : Token} :
    MayPrecede (literal t) token ↔ (∀ v, token ≠ literal v) ∧ ¬ EndsInEscape t := by
  cases token with
  | literal v => exact ⟨False.elim, fun h => h.1 v rfl⟩
  | toggle f on => exact ⟨fun h => ⟨by simp, h⟩, fun h => h.2⟩
  | push name => exact ⟨fun h => ⟨by simp, h⟩, fun h => h.2⟩
  | pop => exact ⟨fun h => ⟨by simp, h⟩, fun h => h.2⟩

/-! ### What ends and begins a literal -/

theorem EndsInEscape.append_left {t : Text} (h : EndsInEscape t) (u : Text) :
    EndsInEscape (u ++ t) :=
  h.imp List.suffix_append_of_suffix List.suffix_append_of_suffix

theorem EndsInEscape.of_append {u t : Text} (ht : t ≠ []) (h : EndsInEscape (u ++ t)) :
    EndsInEscape t ∨ t = ['-'] ∧ ['\\'] <:+ u := by
  have hpos := List.length_pos_iff.2 ht
  rcases h with h | h
  · exact Or.inl (Or.inl (List.suffix_of_suffix_length_le h (List.suffix_append u t) hpos))
  · by_cases hlen : 2 ≤ t.length
    · exact Or.inl (Or.inr (List.suffix_of_suffix_length_le h (List.suffix_append u t) hlen))
    · obtain ⟨c, rfl⟩ := List.length_eq_one_iff.1 (show t.length = 1 by omega)
      rcases List.suffix_concat_iff.1 h with h | ⟨v, hv, hsuffix⟩
      · cases h
      · have hc : '-' = c := by simpa using congrArg List.getLast? hv
        subst hc
        have hbackslash : ['\\'] = v := by simpa using congrArg List.dropLast hv
        exact Or.inr ⟨rfl, hbackslash ▸ hsuffix⟩

theorem consLiteral_of_ne {u : Text} {ts : List Token} (h : ∀ t ks, ts ≠ literal t :: ks) :
    consLiteral u ts = literal u :: ts := by
  rcases ts with - | ⟨token, ks⟩
  · rfl
  · cases token with
    | literal t => exact absurd rfl (h t ks)
    | _ => rfl

/-- Literal characters before tokens join a literal at their head or make one. -/
theorem consLiteral_eq_cons {u : Text} {ts ks : List Token} {token : Token}
    (h : consLiteral u ts = token :: ks) :
    ∃ t, token = literal (u ++ t) ∧
      (ts = literal t :: ks ∨ t = [] ∧ ts = ks ∧ ∀ v vs, ts ≠ literal v :: vs) := by
  by_cases hts : ∃ t vs, ts = literal t :: vs
  · obtain ⟨t, vs, rfl⟩ := hts
    simp only [consLiteral, List.cons.injEq] at h
    exact ⟨t, h.1.symm, Or.inl (by rw [h.2])⟩
  · have hne : ∀ t vs, ts ≠ literal t :: vs := fun t vs ht => hts ⟨t, vs, ht⟩
    rw [consLiteral_of_ne hne, List.cons.injEq] at h
    exact ⟨[], by simp [h.1], Or.inr ⟨rfl, h.2, hne⟩⟩

/-! ### Scans are canonical -/

theorem marker?_of_scan {s : Text} {token : Token} {ks : List Token} (h : scan s = token :: ks)
    (hliteral : ∀ t, token ≠ literal t) : ∃ rest, marker? s = some (token, rest) := by
  rcases scan_cases s with hs | ⟨k, rest, hk, hs⟩ | ⟨t, -, hs⟩ | ⟨c, t, -, -, hs⟩
  · rw [hs] at h
    cases h
  · rw [hs, List.cons.injEq] at h
    exact ⟨rest, h.1 ▸ hk⟩
  · obtain ⟨v, hv, -⟩ := consLiteral_eq_cons (hs.symm.trans h)
    exact absurd hv (hliteral _)
  · obtain ⟨v, hv, -⟩ := consLiteral_eq_cons (hs.symm.trans h)
    exact absurd hv (hliteral _)

theorem hyphens_of_scan {s : Text} {token : Token} {ks : List Token} (h : scan s = token :: ks)
    (hliteral : ∀ t, token ≠ literal t) : ∃ r, s = '-' :: '-' :: r := by
  obtain ⟨rest, hmarker⟩ := marker?_of_scan h hliteral
  obtain ⟨c, t, hs, -⟩ := marker?_shape hmarker
  exact ⟨c :: t, hs⟩

/-- A literal begins with the first character of the text, or with an escaped hyphen. -/
theorem startsWithLetter_of_scan {s t : Text} {ks : List Token} (h : scan s = literal t :: ks)
    (ht : StartsWithLetter t) : StartsWithLetter s := by
  obtain ⟨c, hc, hletter⟩ := ht
  rcases scan_cases s with hs | ⟨k, rest, hk, hs⟩ | ⟨v, -, hs⟩ | ⟨d, v, rfl, -, hs⟩
  · rw [hs] at h
    cases h
  · rw [hs, List.cons.injEq] at h
    exact absurd h.1 (marker?_ne_literal hk t)
  · obtain ⟨w, hw, -⟩ := consLiteral_eq_cons (hs.symm.trans h)
    cases hw
    cases hc
    exact absurd hletter (by decide)
  · obtain ⟨w, hw, -⟩ := consLiteral_eq_cons (hs.symm.trans h)
    cases hw
    exact ⟨c, hc, hletter⟩

theorem proper_consLiteral {u : Text} {ts : List Token} (hu : u ≠ [])
    (hts : ∀ token ∈ ts, token.Proper) : ∀ token ∈ consLiteral u ts, token.Proper := by
  intro token htoken
  rcases hc : consLiteral u ts with - | ⟨k, ks⟩
  · rw [hc] at htoken
    cases htoken
  · obtain ⟨t, rfl, hcases⟩ := consLiteral_eq_cons hc
    rw [hc] at htoken
    rcases List.mem_cons.1 htoken with rfl | htoken
    · exact List.append_ne_nil_of_left_ne_nil hu t
    · rcases hcases with rfl | ⟨-, rfl, -⟩
      · exact hts token (List.mem_cons_of_mem _ htoken)
      · exact hts token htoken

theorem proper_scan (s : Text) : ∀ token ∈ scan s, token.Proper := by
  induction s using scan.induct with
  | case1 => simp [scan.eq_1]
  | case2 t ih =>
    rw [scan_escape]
    exact proper_consLiteral (by simp) ih
  | case3 c t hescape token rest h ih =>
    rw [scan_of_marker h]
    intro k hk
    rcases List.mem_cons.1 hk with rfl | hk
    · rcases marker?_cases h with ⟨m, hm, -⟩ | ⟨name, -, rfl, hname, -⟩
      · simp only [fixedMarkers, List.mem_cons, Prod.mk.injEq, List.not_mem_nil, or_false] at hm
        rcases hm with hm | hm | hm | hm | hm | hm | hm <;> (rw [hm.2]; trivial)
      · exact Color.isKnown_iff.1 hname
    · exact ih k hk
  | case4 c t hescape h ih =>
    rw [scan_of_no_marker (fun hc r ht => hescape r hc ht) h]
    exact proper_consLiteral (by simp) ih

/-- When one hyphen stands before a marker, at least two more follow in the text. -/
theorem hyphens_of_scan_hyphen {s : Text} {token : Token} {ks : List Token}
    (h : scan s = literal ['-'] :: token :: ks) (hliteral : ∀ t, token ≠ literal t) :
    ∃ r, s = '-' :: '-' :: r := by
  rcases scan_cases s with hs | ⟨k, rest, hk, hs⟩ | ⟨t, -, hs⟩ | ⟨c, t, rfl, -, hs⟩
  · rw [hs] at h
    cases h
  · rw [hs, List.cons.injEq] at h
    exact absurd h.1 (marker?_ne_literal hk _)
  · obtain ⟨v, hv, -⟩ := consLiteral_eq_cons (hs.symm.trans h)
    simp at hv
  · obtain ⟨v, hv, hcases⟩ := consLiteral_eq_cons (hs.symm.trans h)
    simp only [literal.injEq, List.singleton_append, List.cons.injEq] at hv
    obtain ⟨rfl, rfl⟩ := hv
    rcases hcases with ht | ⟨-, ht, -⟩
    · have hproper := proper_scan t (literal []) (by rw [ht]; exact List.mem_cons_self)
      exact absurd rfl hproper
    · obtain ⟨r, rfl⟩ := hyphens_of_scan ht hliteral
      exact ⟨_, rfl⟩

theorem canonical_consLiteral {u : Text} {ts : List Token} (hu : u ≠ []) (hts : Canonical ts)
    (hend : ∀ token ks, ts = token :: ks → (∀ t, token ≠ literal t) → ¬ EndsInEscape u)
    (hhyphen : ∀ token ks, ts = literal ['-'] :: token :: ks → (∀ t, token ≠ literal t) →
      ¬ ['\\'] <:+ u) : Canonical (consLiteral u ts) := by
  refine ⟨proper_consLiteral hu hts.proper, ?_⟩
  by_cases hhead : ∃ t ks, ts = literal t :: ks
  · obtain ⟨t, ks, rfl⟩ := hhead
    have ht : t ≠ [] := hts.proper (literal t) List.mem_cons_self
    rcases ks with - | ⟨k, ks⟩
    · exact .singleton _
    · obtain ⟨hk, hks⟩ := List.isChain_cons_cons.1 hts.chain
      obtain ⟨hliteral, hopen⟩ := mayPrecede_literal_iff.1 hk
      refine .cons_cons (mayPrecede_literal_iff.2 ⟨hliteral, fun hescape => ?_⟩) hks
      rcases hescape.of_append ht with hescape | ⟨rfl, hu'⟩
      · exact hopen hescape
      · exact hhyphen k ks rfl hliteral hu'
  · have hne : ∀ t ks, ts ≠ literal t :: ks := fun t ks ht => hhead ⟨t, ks, ht⟩
    rw [consLiteral_of_ne hne]
    rcases ts with - | ⟨k, ks⟩
    · exact .singleton _
    · have hliteral : ∀ t, k ≠ literal t := fun t hk => hne t ks (by rw [hk])
      exact .cons_cons (mayPrecede_literal_iff.2 ⟨hliteral, hend k ks rfl hliteral⟩) hts.chain

theorem mayPrecede_of_marker {s rest : Text} {token k : Token} {ks : List Token}
    (h : marker? s = some (token, rest)) (hk : scan rest = k :: ks) : MayPrecede token k := by
  rcases marker?_cases h with ⟨m, hm, -⟩ | ⟨name, -, rfl, -, hrest, -⟩
  · simp only [fixedMarkers, List.mem_cons, Prod.mk.injEq, List.not_mem_nil, or_false] at hm
    rcases hm with hm | hm | hm | hm | hm | hm | hm <;> (rw [hm.2]; trivial)
  · cases k with
    | literal t => exact fun ht => hrest (startsWithLetter_of_scan hk ht)
    | _ => trivial

theorem canonical_of_scan (s : Text) : Canonical (scan s) := by
  -- Along the scanner: what stands before the rest decides what the rest may begin with.
  induction s using scan.induct with
  | case1 => exact scan.eq_1 ▸ Canonical.nil
  | case2 t ih =>
    rw [scan_escape]
    exact canonical_consLiteral (by simp) ih (fun _ _ _ _ => by decide) (fun _ _ _ _ => by decide)
  | case3 c t hescape token rest h ih =>
    rw [scan_of_marker h]
    have hproper := proper_scan (c :: t) token (by rw [scan_of_marker h]; exact List.mem_cons_self)
    exact .cons hproper ih (fun k ks hk => mayPrecede_of_marker h hk)
  | case4 c t hescape h ih =>
    rw [scan_of_no_marker (fun hc r ht => hescape r hc ht) h]
    have hbackslash : (∃ r, t = '-' :: '-' :: r) → c ≠ '\\' := by
      rintro ⟨r, hr⟩ hc
      exact hescape r hc hr
    refine canonical_consLiteral (by simp) ih ?_ ?_
    · intro token ks hts hliteral hend
      refine hbackslash (hyphens_of_scan hts hliteral) ?_
      rcases hend with hend | hend
      · simpa [List.suffix_cons_iff, eq_comm] using hend
      · simp [List.suffix_cons_iff] at hend
    · intro token ks hts hliteral hend
      refine hbackslash (hyphens_of_scan_hyphen hts hliteral) ?_
      simpa [List.suffix_cons_iff, eq_comm] using hend

end SlideDeck.Token
