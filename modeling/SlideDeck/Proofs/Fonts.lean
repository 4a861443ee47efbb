import SlideDeck.Proofs.HugeText

/-!
# Fonts that were looked up before

Huge text is drawn with the font that is remembered from an earlier text, if there was one in the
same font and width. No text shows that (`lookup_unnoticed`): each is what it is when nothing is
remembered, or has no room for its letters as it has none then, and a font that is not there is
warned of at its first use in each width.
-/

namespace SlideDeck.HugeText

open Outcome

variable {σ : Type} {l : Lettering} {s t : Stage σ} {keys : List (Text × Nat)} {k : Text × Nat}

/-- A text to be drawn in large letters, in a font and at most so wide. -/
structure Request where
  text : Text
  font : Text
  width : Int
deriving DecidableEq, Repr

namespace Request

def render (r : Request) : Act σ (List Text) := HugeText.render r.text r.font r.width

/-- The rows of the text, or why it is not drawn. -/
def answer (r : Request) : Act σ (Except Fault (List Text)) :=
  tryCatch (do return .ok (← r.render)) fun fault => pure (.error fault)

/-- What a font is looked up by: no text is less than one character wide. -/
def key (r : Request) : Text × Nat := (r.font, (max 1 r.width).toNat)

/-- What the lettering alone makes of a request. -/
def outcome (l : Lettering) (r : Request) : Except Fault (List Text) :=
  if l.hasRoom (usedFont l r.font) r.key.2 r.text then
    .ok (rowsOf (l.render (usedFont l r.font) r.key.2 r.text))
  else .error (.refused .letters)

end Request

/-- The fonts that are remembered are those that were looked up, each as it is used. -/
structure Recalls (l : Lettering) (keys : List (Text × Nat)) (s : Stage σ) : Prop where
  lettering : s.host.lettering = l
  fonts : ∀ k, s.journal.fonts.find? (·.1 = k) =
    if k ∈ keys then some (k, usedFont l k.1) else none

theorem recalls_nil (h : s.journal.fonts = []) : Recalls s.host.lettering [] s where
  lettering := rfl
  fonts k := by rw [h]; rfl

/-- The warnings for fonts that are looked up one after the other. -/
def missing (l : Lettering) (keys : List (Text × Nat)) : List Warning :=
  (keys.eraseDups.filter fun k => !l.hasFont k.1).map fun k => .unknownFont k.1 standardFont

theorem missing_append_of_mem (h : k ∈ keys) : missing l (keys ++ [k]) = missing l keys := by
  simp [missing, List.eraseDups_append, List.removeAll, h]

theorem missing_append_of_not_mem (h : k ∉ keys) :
    missing l (keys ++ [k]) =
      missing l keys ++ if l.hasFont k.1 then [] else [.unknownFont k.1 standardFont] := by
  have hlast : (keys ++ [k]).eraseDups = keys.eraseDups ++ [k] := by
    simp [List.eraseDups_append, List.eraseDups_cons, List.removeAll, h]
  rw [missing, hlast, List.filter_append, List.map_append]
  cases hfont : l.hasFont k.1 <;> simp [missing, hfont]

theorem chooseFont_of_found {font used : Text} {width : Nat} {key : Text × Nat}
    (h : s.journal.fonts.find? (·.1 = (font, width)) = some (key, used)) :
    chooseFont font width s = .ok used s := by
  refine (bind_ok (t := s) rfl).trans ?_
  rw [h]
  rfl

/-- The stage after a font was looked up for the first time. -/
def looked (l : Lettering) (k : Text × Nat) (s : Stage σ) : Stage σ :=
  { s with journal := { s.journal with
      warnings := s.journal.warnings ++
        if l.hasFont k.1 then #[] else #[.unknownFont k.1 standardFont]
      fonts := (k, usedFont l k.1) :: s.journal.fonts } }

theorem chooseFont_of_not_found {font : Text} {width : Nat}
    (h : s.journal.fonts.find? (·.1 = (font, width)) = none) :
    chooseFont font width s =
      .ok (usedFont s.host.lettering font) (looked s.host.lettering (font, width) s) := by
  refine (bind_ok (t := s) rfl).trans ?_
  rw [h]
  cases hfont : s.host.lettering.hasFont font <;> simp only [looked, hfont] <;> rfl

/-- Looking up a font gives the one that is used for it, and warns where it is not there and was not
looked up before. -/
theorem chooseFont_recalls (h : Recalls l keys s) :
    ∃ t, chooseFont k.1 k.2 s = .ok (usedFont l k.1) t ∧ Recalls l (keys ++ [k]) t ∧
      t.journal.warnings.toList = s.journal.warnings.toList ++
        if k ∈ keys then [] else if l.hasFont k.1 then [] else [.unknownFont k.1 standardFont] := by
  have hfound := h.fonts k
  by_cases hk : k ∈ keys
  · rw [if_pos hk] at hfound ⊢
    refine ⟨s, chooseFont_of_found hfound, ⟨h.lettering, fun k' => ?_⟩, (List.append_nil _).symm⟩
    have hsame : k' ∈ keys ++ [k] ↔ k' ∈ keys := by
      rw [List.mem_append, List.mem_singleton]
      exact or_iff_left_of_imp fun heq => heq ▸ hk
    rw [h.fonts k']
    simp only [hsame]
  · rw [if_neg hk] at hfound ⊢
    obtain rfl := h.lettering
    refine ⟨looked s.host.lettering k s, chooseFont_of_not_found hfound, ⟨rfl, fun k' => ?_⟩, ?_⟩
    · show List.find? _ ((k, usedFont s.host.lettering k.1) :: s.journal.fonts) = _
      rw [List.find?_cons]
      by_cases hsame : k = k'
      · subst hsame
        simp
      · simp [hsame, Ne.symm hsame, h.fonts k']
    · cases hfont : s.host.lettering.hasFont k.1 <;> simp [looked, hfont]

/-- Once its font is looked up, a text is drawn just if there is room for its letters. -/
theorem render_of_chosen {r : Request}
    (hchoose : chooseFont r.font r.key.2 s = .ok (usedFont t.host.lettering r.font) t) :
    r.render s = match r.outcome t.host.lettering with
      | .ok rows => .ok rows t
      | .error fault => .error fault t := by
  refine (bind_ok hchoose).trans ((bind_ok (t := t) rfl).trans ?_)
  rcases hroom : t.host.lettering.hasRoom (usedFont t.host.lettering r.font)
      (max 1 r.width).toNat r.text with - | -
  · simp only [Request.outcome, Request.key, hroom]
    rfl
  · simp only [Request.outcome, Request.key, hroom]
    rfl

theorem answer_of_chosen {r : Request}
    (hchoose : chooseFont r.font r.key.2 s = .ok (usedFont t.host.lettering r.font) t) :
    r.answer s = .ok (r.outcome t.host.lettering) t := by
  have hrender := render_of_chosen hchoose
  show EStateM.tryCatch _ _ s = _
  unfold EStateM.tryCatch
  rcases houtcome : r.outcome t.host.lettering with fault | rows
  · rw [houtcome] at hrender
    rw [bind_error hrender]
    rfl
  · rw [houtcome] at hrender
    rw [bind_ok hrender]
    rfl

theorem answer_recalls (h : Recalls l keys s) (r : Request) :
    ∃ t, r.answer s = .ok (r.outcome l) t ∧ Recalls l (keys ++ [r.key]) t ∧
      t.journal.warnings.toList = s.journal.warnings.toList ++
        if r.key ∈ keys then []
        else if l.hasFont r.font then [] else [.unknownFont r.font standardFont] := by
  obtain ⟨t, hchoose, ht, hwarned⟩ := chooseFont_recalls (k := r.key) h
  rw [← ht.lettering] at hchoose
  refine ⟨t, ?_, ht, hwarned⟩
  rw [← ht.lettering]
  exact answer_of_chosen hchoose

/-! ### One text after the other -/

/-- Whatever was asked for before, each text is what it is by itself. -/
theorem mapM_answer (hempty : s.journal.fonts = []) (requests : List Request) :
    ∃ t, requests.mapM Request.answer s =
        .ok (requests.map (Request.outcome s.host.lettering)) t ∧
      Recalls s.host.lettering (requests.map Request.key) t ∧
      t.journal.warnings.toList = s.journal.warnings.toList ++
        missing s.host.lettering (requests.map Request.key) := by
  induction requests using List.reverseRecOn with
  | nil => exact ⟨s, rfl, recalls_nil hempty, (List.append_nil _).symm⟩
  | append_singleton earlier r ih =>
    obtain ⟨t, hrun, ht, hwarned⟩ := ih
    obtain ⟨u, hanswer, hu, hlast⟩ := answer_recalls ht r
    refine ⟨u, ?_, ?_, ?_⟩
    · rw [List.map_append]
      exact mapM_append_singleton hrun hanswer
    · rwa [List.map_append]
    · rw [hlast, hwarned, List.map_append, List.append_assoc]
      by_cases hkey : r.key ∈ earlier.map Request.key
      · rw [if_pos hkey, List.append_nil, List.map_singleton, missing_append_of_mem hkey]
      · rw [if_neg hkey, List.map_singleton, missing_append_of_not_mem hkey]
        rfl

/-- The stage when nothing is remembered of fonts. -/
def forgetting (s : Stage σ) : Stage σ := { s with journal := { s.journal with fonts := [] } }

/-- Asked for one after the other, texts of any fonts and widths come out, or are refused, as each
is when nothing is remembered, and there is one warning for every font that is not there and every
width that it is asked for in. The next text is again what it is when nothing is remembered, and is
warned of just if its font is not there and was not asked for in its width before. -/
theorem lookup_unnoticed (hempty : s.journal.fonts = []) (requests : List Request) :
    ∃ answers t, requests.mapM Request.answer s = .ok answers t ∧
      List.Forall₂ (fun r answer => ∃ u, r.answer s = .ok answer u) requests answers ∧
      t.journal.warnings.toList = s.journal.warnings.toList ++
        missing s.host.lettering (requests.map Request.key) ∧
      ∀ r : Request, ∃ answer u, r.answer t = .ok answer u ∧
        (∃ v, r.answer (forgetting t) = .ok answer v) ∧
        u.journal.warnings.toList = t.journal.warnings.toList ++
          if s.host.lettering.hasFont r.font = false ∧ r.key ∉ requests.map Request.key then
            [.unknownFont r.font standardFont]
          else [] := by
  obtain ⟨t, hrun, ht, hwarned⟩ := mapM_answer hempty requests
  have halone {t : Stage σ} (ht : t.journal.fonts = []) (r : Request) :
      ∃ u, r.answer t = .ok (r.outcome t.host.lettering) u := by
    obtain ⟨u, hanswer, -⟩ := answer_recalls (recalls_nil ht) r
    exact ⟨u, hanswer⟩
  refine ⟨_, t, hrun, ?_, hwarned, fun r => ?_⟩
  · rw [List.forall₂_map_right_iff]
    exact List.forall₂_same.2 fun r _ => halone hempty r
  · obtain ⟨u, hanswer, -, hlast⟩ := answer_recalls ht r
    obtain ⟨v, hforgotten⟩ := halone (t := forgetting t) rfl r
    refine ⟨_, u, hanswer, ⟨v, ?_⟩, hlast.trans (congrArg _ ?_)⟩
    · rw [hforgotten, ← ht.lettering]
      rfl
    · by_cases hkey : r.key ∈ requests.map Request.key
      · rw [if_pos hkey, if_neg fun h => h.2 hkey]
      · cases hfont : s.host.lettering.hasFont r.font <;> simp [hkey]

/-- A font that is not there is asked for in a width of no characters, of one and of five: there are
two warnings, for no text is less than one character wide, and only the widest has room. -/
theorem lookup_unnoticed_narrow :
    let plain : Lettering := { Lettering.cropped with
      hasFont := fun font => font = standardFont
      hasRoom := fun _ width _ => decide (5 ≤ width) }
    let s : Stage Unit := { host := { Host.quiet with lettering := plain }, surface := () }
    let requests : List Request := [⟨"ab", "no", 0⟩, ⟨"ab", "no", 1⟩, ⟨"ab", "no", 5⟩]
    s.journal.fonts = [] ∧ ∃ answers t, requests.mapM Request.answer s = .ok answers t ∧
      t.journal.warnings.toList =
        [.unknownFont "no" standardFont, .unknownFont "no" standardFont] := by
  intro plain s requests
  obtain ⟨answers, t, hrun, -, hwarned, -⟩ := lookup_unnoticed (s := s) rfl requests
  refine ⟨rfl, answers, t, hrun, hwarned.trans ?_⟩
  decide +kernel

end SlideDeck.HugeText
