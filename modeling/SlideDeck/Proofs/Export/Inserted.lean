import SlideDeck.Proofs.Export.Arguments
import SlideDeck.Proofs.Export.Placement
import SlideDeck.Proofs.Layout.Rule

/-!
# Deck text in the source of slides

The text of a deck goes into the source as it is, but for its markers. A line of text is a part of
the text that it comes from, so that a verbatim block ends at its own end unless a text says so; and
a heading or a line of the title page ends where it is written to end exactly if its text is
balanced (`inserted_text_iff`).
-/

namespace SlideDeck

/-- The text of an operation that a document shows, without its markers. -/
def Op.shown : Op → Text
  | printLine t | center t | right t | heading t | title t | author t | date t =>
    stripMarkup (t.getD [])
  | _ => []

namespace Beamer

open Export

/-- An argument of a command: the character that ends it, its text, and what is written then. -/
structure Argument where
  close : Char
  text : Text
  rest : Text

namespace Piece

/-- The text of a deck that is in a piece. -/
def inserted? : Piece → Option Text
  | body t | heading t | titleLine _ t => some t
  | begins _ | ends _ | titlePage => none

/-- The arguments that hold the text of a deck. -/
def arguments : Piece → List Argument
  | titleLine .title t => [⟨']', t, braced t⟩, ⟨'\x7d', t, []⟩]
  | heading t | titleLine .author t | titleLine .date t => [⟨'\x7d', t, []⟩]
  | begins _ | ends _ | body _ | titlePage => []

end Piece

/-- The pieces with the text of an operation. -/
def insertions (width : Int) (op : Op) : List Piece :=
  match op with
  | .printLine t | .center t | .right t => (plainLines width t).map .body
  | .heading _ => [.heading op.shown]
  | .title _ => [.titleLine .title op.shown]
  | .author _ => [.titleLine .author op.shown]
  | .date _ => [.titleLine .date op.shown]
  | _ => []

variable {b : Beamer} {p : Piece} {ps : List Piece} {op : Op} {ops : List Op} {t u w : Text}

/-! ### Where text comes from -/

theorem inserted?_of_isBracket (h : p.isBracket = true) : p.inserted? = none := by
  cases p with
  | begins e => rfl
  | ends e => rfl
  | _ => cases h

theorem mem_pieces_iff (hp : p.inserted? = some t) :
    p ∈ pieces b op ↔ p ∈ insertions b.width op := by
  have hbrackets : ∀ qs : List Piece, (∀ q ∈ qs, q.isBracket = true) → p ∉ qs := by
    intro qs hqs hmem
    rw [inserted?_of_isBracket (hqs p hmem)] at hp
    cases hp
  have hbody (t : Option Text) :
      p ∈ body b t ↔ p ∈ (plainLines b.width t).map .body := by
    rw [body, List.mem_append, or_iff_right (hbrackets _ (isBracket_opening b))]
  have htitling (l : TitleLine) (t : Option Text) :
      p ∈ titling b l t ↔ p ∈ [Piece.titleLine l (stripMarkup (t.getD []))] := by
    rw [titling, List.mem_cons, List.mem_singleton, or_iff_left]
    split_ifs
    · rw [List.mem_append, List.mem_singleton, not_or]
      refine ⟨hbrackets _ (isBracket_beginning b), ?_⟩
      rintro rfl
      cases hp
    · exact List.not_mem_nil
  cases op with
  | newPage => exact iff_of_false (hbrackets _ (isBracket_closing b)) List.not_mem_nil
  | printLine t => exact hbody t
  | center t => exact hbody t
  | right t => exact hbody t
  | heading t => rw [pieces, List.mem_append, or_iff_right (hbrackets _ (isBracket_closing b))]; rfl
  | title t => exact htitling .title t
  | author t => exact htitling .author t
  | date t => exact htitling .date t
  | _ => exact Iff.rfl

theorem mem_history_iff (hp : p.inserted? = some t) :
    p ∈ history b ops ↔ ∃ op ∈ ops, p ∈ insertions b.width op := by
  induction ops generalizing b with
  | nil => simp [history]
  | cons op ops ih =>
    rw [history, List.mem_append, mem_pieces_iff hp, ih, width_foldl_push]
    simp

theorem mem_document_iff (hp : p.inserted? = some t) (after : Beamer) :
    p ∈ history b ops ++ ending after ↔ ∃ op ∈ ops, p ∈ insertions b.width op := by
  rw [List.mem_append, mem_history_iff hp, or_iff_left]
  intro hending
  rw [inserted?_of_isBracket (isBracket_ending after p hending)] at hp
  cases hp

theorem infix_of_mem_insertions {width : Int} (h : p ∈ insertions width op)
    (hp : p.inserted? = some t) : t <:+: op.shown := by
  have hline (u : Option Text) (h : p ∈ (plainLines width u).map Piece.body) :
      t <:+: stripMarkup (u.getD []) := by
    obtain ⟨line, hline, rfl⟩ := List.mem_map.1 h
    cases hp
    exact Layout.infix_of_mem_wrapText hline
  cases op with
  | printLine u => exact hline u h
  | center u => exact hline u h
  | right u => exact hline u h
  | heading u | title u | author u | date u =>
    cases List.mem_singleton.1 h
    cases hp
    exact List.infix_refl _
  | _ => exact absurd h List.not_mem_nil

/-- The pieces of an operation are lines of what it shows, or one command with all of it. -/
theorem kind_of_mem_insertions {width : Int} (h : p ∈ insertions width op) :
    op.isText = true ∧ (∃ line, p = .body line) ∨
      op.isText = false ∧ p.inserted? = some op.shown ∧ ∀ line, p ≠ .body line := by
  have hline (u : Option Text) (h : p ∈ (plainLines width u).map Piece.body) :
      ∃ line, p = .body line := by
    obtain ⟨line, -, rfl⟩ := List.mem_map.1 h
    exact ⟨line, rfl⟩
  cases op with
  | printLine u => exact .inl ⟨rfl, hline u h⟩
  | center u => exact .inl ⟨rfl, hline u h⟩
  | right u => exact .inl ⟨rfl, hline u h⟩
  | heading u | title u | author u | date u =>
    cases List.mem_singleton.1 h
    exact .inr ⟨rfl, rfl, nofun⟩
  | _ => exact absurd h List.not_mem_nil

/-- An argument stands in its command as the text that it holds. -/
theorem text_of_mem_arguments {a : Argument} (h : a ∈ p.arguments) :
    p.inserted? = some a.text ∧ (a.close = '\x7d' ∨ a.close = ']') ∧
      ∃ lead, p.text = lead ++ (a.text ++ a.close :: a.rest) := by
  have hcommand (name : Text) (t : Text) :
      command name t = ('\\' :: name ++ ['\x7b']) ++ (t ++ '\x7d' :: []) := by
    simp [command, braced]
  rcases p with _ | _ | _ | t | ⟨l, t⟩ | _
  case heading =>
    cases List.mem_singleton.1 h
    exact ⟨rfl, .inl rfl, _, hcommand "section" t⟩
  case titleLine =>
    cases l with
    | title =>
      have htitle : (Piece.titleLine .title t).text =
          ("\\title[" : Text) ++ t ++ ("]" : Text) ++ braced t := rfl
      have hshut : ("]" : Text) = [']'] := by decide
      rw [htitle, hshut]
      rcases List.mem_pair.1 h with rfl | rfl
      · exact ⟨rfl, .inr rfl, "\\title[", by simp⟩
      · exact ⟨rfl, .inl rfl, ("\\title[" : Text) ++ t ++ [']', '\x7b'], by simp [braced]⟩
    | author =>
      cases List.mem_singleton.1 h
      exact ⟨rfl, .inl rfl, _, hcommand "author" t⟩
    | date =>
      cases List.mem_singleton.1 h
      exact ⟨rfl, .inl rfl, _, hcommand "date" t⟩
  all_goals exact absurd h List.not_mem_nil

/-! ### Where a verbatim block can end -/

theorem infix_append_cons {x : Char} (hx : x ∉ w) (h : w <:+: t ++ x :: u) :
    w <:+: t ∨ w <:+: u := by
  obtain ⟨front, back, hsplit⟩ := h
  rcases List.append_eq_append_iff.1 hsplit with ⟨more, rfl, -⟩ | ⟨more, hfront, hback⟩
  · exact .inl ⟨front, more, rfl⟩
  rcases more with _ | ⟨y, more⟩
  · rw [List.append_nil] at hfront
    exact .inl ⟨front, [], by rw [List.append_nil, hfront]⟩
  obtain ⟨rfl, rfl⟩ := List.cons.inj hback
  rcases List.append_eq_append_iff.1 hfront with ⟨within, -, hw⟩ | ⟨within, -, hw⟩
  · exact absurd (hw ▸ List.mem_append_right within List.mem_cons_self) hx
  rcases within with _ | ⟨y, within⟩
  · rw [List.nil_append] at hw
    exact absurd (hw ▸ List.mem_cons_self) hx
  · obtain ⟨-, rfl⟩ := List.cons.inj hw
    exact .inr ⟨within, back, by simp⟩

/-- What a verbatim block ends with, without the brace. -/
def verbatimEnd : Text := "\\end\x7bverbatim"

theorem endLine_verbatim : endLine "verbatim" = verbatimEnd ++ ['\x7d'] := rfl

theorem infix_of_closed (h : endLine "verbatim" <:+: t ++ ['\x7d']) : verbatimEnd <:+: t := by
  rw [endLine_verbatim] at h
  rcases List.infix_concat_iff.1 h with hend | hin
  · obtain ⟨front, hsplit⟩ := hend
    rw [← List.append_assoc] at hsplit
    exact ⟨front, [], by rw [List.append_nil, List.append_cancel_right hsplit]⟩
  · exact (List.prefix_append _ _).isInfix.trans hin

theorem infix_of_lead (lead : Text) (hlead : '\\' ∉ lead)
    (h : endLine "verbatim" <:+: lead ++ t) : endLine "verbatim" <:+: t := by
  induction lead with
  | nil => exact h
  | cons c lead ih =>
    rw [List.mem_cons, not_or] at hlead
    rcases List.infix_cons_iff.1 h with hhere | hlater
    · exact absurd (List.cons_prefix_cons.1 hhere).1 hlead.1
    · exact ih hlead.2 hlater

/-- The name of a command ends no verbatim block. -/
theorem infix_of_name (c : Char) (name : Text) (hc : c ≠ 'e') (hname : '\\' ∉ c :: name)
    (h : endLine "verbatim" <:+: '\\' :: c :: name ++ t) : endLine "verbatim" <:+: t := by
  rcases List.infix_cons_iff.1 h with hhere | hlater
  · exact absurd (List.cons_prefix_cons.1 (List.cons_prefix_cons.1 hhere).2).1 (Ne.symm hc)
  · exact infix_of_lead _ hname hlater

theorem infix_of_infix_command (c : Char) (name : Text) (hc : c ≠ 'e') (hname : '\\' ∉ c :: name)
    (h : endLine "verbatim" <:+: command (c :: name) t) : verbatimEnd <:+: t := by
  refine infix_of_closed (infix_of_lead ['\x7b'] (by decide) ?_)
  exact infix_of_name c name hc hname h

/-- A piece that ends a verbatim block is the end of one, or it has that from a text, of which a
command can supply the brace. -/
theorem inserted_of_infix (h : endLine "verbatim" <:+: p.text) :
    p = .ends .verbatim ∨ (∃ line, p = .body line ∧ endLine "verbatim" <:+: line) ∨
      ∃ t, p.inserted? = some t ∧ (∀ line, p ≠ .body line) ∧ verbatimEnd <:+: t := by
  cases p with
  | begins e =>
    cases e with
    | document => exact absurd h (by decide)
    | frame => exact absurd h (by decide)
    | verbatim => exact absurd h (by decide)
  | ends e =>
    cases e with
    | document => exact absurd h (by decide)
    | frame => exact absurd h (by decide)
    | verbatim => exact .inl rfl
  | body t => exact .inr (.inl ⟨t, rfl, h⟩)
  | heading t =>
    have hname : (Piece.heading t).text = command ('s' :: "ection") t := rfl
    exact .inr (.inr ⟨t, rfl, nofun,
      infix_of_infix_command _ _ (by decide) (by decide) (hname ▸ h)⟩)
  | titleLine l t =>
    refine .inr (.inr ⟨t, rfl, nofun, ?_⟩)
    cases l with
    | title =>
      have hname : (Piece.titleLine .title t).text =
          ("\\title[" : Text) ++ t ++ ("]" : Text) ++ braced t := rfl
      have hlead : ("\\title[" : Text) = '\\' :: 't' :: "itle[" := by decide
      have hshut : ("]" : Text) = [']'] := by decide
      rw [hname, hlead, hshut, List.append_assoc, List.append_assoc, List.singleton_append] at h
      have hrest := infix_of_name 't' "itle[" (by decide) (by decide) h
      rcases infix_append_cons (by decide) hrest with hshort | hlong
      · exact (List.prefix_append _ _).isInfix.trans hshort
      · exact infix_of_closed (infix_of_lead ['\x7b'] (by decide) hlong)
    | author => exact infix_of_infix_command 'a' "uthor" (by decide) (by decide) h
    | date => exact infix_of_infix_command 'd' "ate" (by decide) (by decide) h
  | titlePage => exact absurd h (by decide)

/-- In a document that was opened once and is closed after some operations, the pieces with text
are those of the operations, and a line of text is a part of what one of them shows. A verbatim
block ends where its end is written, or where a text says that it ends. Each argument of a command
holds the whole of a text, and it ends at its own last character exactly if that text is
balanced. -/
theorem inserted_text_iff {path : Text} {width : Int} {s opened : Stage Beamer}
    (hfresh : s.surface = { out := { path := path }, width := width })
    (hopen : openDocument s = .ok () opened) (ops : List Op) :
    ∃ t closed document,
      ops.forM Surface.perform opened = .ok () t ∧
      closeDocument t = .ok () closed ∧
      document = history opened.surface ops ++ ending t.surface ∧
      closed.surface.out.written.toList = preamble :: document.map Piece.text ∧
      (∀ p u, p.inserted? = some u → (p ∈ document ↔ ∃ op ∈ ops, p ∈ insertions width op)) ∧
      (∀ line, .body line ∈ document → ∃ op ∈ ops, op.isText = true ∧ line <:+: op.shown) ∧
      (∀ p ∈ document, endLine "verbatim" <:+: p.text → p = .ends .verbatim ∨
        ∃ op ∈ ops, op.isText = true ∧ endLine "verbatim" <:+: op.shown ∨
          op.isText = false ∧ verbatimEnd <:+: op.shown) ∧
      ∀ p ∈ document, ∀ a ∈ p.arguments,
        (∃ lead, p.text = lead ++ (a.text ++ a.close :: a.rest)) ∧
        (∃ op ∈ ops, op.isText = false ∧ a.text = op.shown) ∧
        (EndsAtOwn a.close a.text a.rest ↔ Balanced a.close a.text) := by
  obtain ⟨_, -, hsurface⟩ := openDocument_eq_ok hopen
  obtain ⟨t, closed, hrun, hclose, hwritten⟩ := document_ok hopen ops
  have hwidth : opened.surface.width = width := by rw [hsurface, hfresh]
  have hfrom (p : Piece) (u : Text) (hu : p.inserted? = some u) :
      p ∈ history opened.surface ops ++ ending t.surface ↔
        ∃ op ∈ ops, p ∈ insertions width op := by
    rw [← hwidth]
    exact mem_document_iff hu t.surface
  -- A piece that is inserted comes of one kind of operation, which rules out half of each case.
  refine ⟨t, closed, _, hrun, hclose, rfl, hwritten, hfrom, fun line hline => ?_,
    fun p hp hends => ?_, fun p hp a ha => ?_⟩
  · obtain ⟨op, hop, hmem⟩ := (hfrom _ line rfl).1 hline
    refine ⟨op, hop, ?_, infix_of_mem_insertions hmem rfl⟩
    rcases kind_of_mem_insertions hmem with ⟨htext, -⟩ | ⟨-, -, hnot⟩
    · exact htext
    · exact absurd rfl (hnot line)
  · rcases inserted_of_infix hends with hend | ⟨line, rfl, hin⟩ | ⟨u, hu, hnot, hin⟩
    · exact .inl hend
    · obtain ⟨op, hop, hmem⟩ := (hfrom _ line rfl).1 hp
      rcases kind_of_mem_insertions hmem with ⟨htext, -⟩ | ⟨-, -, hnot⟩
      · exact .inr ⟨op, hop, .inl ⟨htext, hin.trans (infix_of_mem_insertions hmem rfl)⟩⟩
      · exact absurd rfl (hnot line)
    · obtain ⟨op, hop, hmem⟩ := (hfrom p u hu).1 hp
      rcases kind_of_mem_insertions hmem with ⟨-, line, hline⟩ | ⟨hcommand, -, -⟩
      · exact absurd hline (hnot line)
      · exact .inr ⟨op, hop, .inr ⟨hcommand, hin.trans (infix_of_mem_insertions hmem hu)⟩⟩
  · obtain ⟨hinserted, hclose, hlead⟩ := text_of_mem_arguments ha
    obtain ⟨op, hop, hmem⟩ := (hfrom p a.text hinserted).1 hp
    refine ⟨hlead, ⟨op, hop, ?_⟩, endsAtOwn_iff hclose a.text a.rest⟩
    rcases kind_of_mem_insertions hmem with ⟨-, line, rfl⟩ | ⟨hcommand, hshown, -⟩
    · exact absurd ha List.not_mem_nil
    · exact ⟨hcommand, Option.some.inj (hinserted.symm.trans hshown)⟩

theorem inserted_text_iff_group :
    let s : Stage Beamer := ⟨Host.quiet, {}, { out := { path := "talk.tex" } }, none⟩
    let ops : List Op := [.heading (some "a \x7bb\x7d")]
    ∃ opened t closed, openDocument s = .ok () opened ∧
      ops.forM Surface.perform opened = .ok () t ∧
      closeDocument t = .ok () closed ∧
      (∀ p ∈ history opened.surface ops ++ ending t.surface,
        endLine "verbatim" <:+: p.text → p = .ends .verbatim) ∧
      ∀ p ∈ history opened.surface ops ++ ending t.surface, ∀ a ∈ p.arguments,
        EndsAtOwn a.close a.text a.rest := by
  intro s ops
  obtain ⟨opened, hopen⟩ := openDocument_quiet
  obtain ⟨t, closed, _, hrun, hclose, rfl, -, -, -, hends, harguments⟩ :=
    inserted_text_iff rfl hopen ops
  have hshown : (Op.heading (some "a \x7bb\x7d")).shown = "a \x7bb\x7d" := by decide +kernel
  refine ⟨opened, t, closed, hopen, hrun, hclose, fun p hp hin => ?_, fun p hp a ha => ?_⟩
  · refine (hends p hp hin).resolve_right ?_
    rintro ⟨op, hop, ⟨htext, -⟩ | ⟨-, hin⟩⟩
    · cases List.mem_singleton.1 hop
      cases htext
    · cases List.mem_singleton.1 hop
      rw [hshown] at hin
      exact absurd hin (by decide)
  · obtain ⟨-, ⟨op, hop, -, htext⟩, hiff⟩ := harguments p hp a ha
    cases List.mem_singleton.1 hop
    rw [hshown] at htext
    refine hiff.2 ?_
    rw [htext]
    rcases (text_of_mem_arguments ha).2.1 with hclose | hclose
    · rw [hclose]
      exact (endsAtOwn_iff (.inl rfl) _ []).1 (by decide)
    · rw [hclose]
      exact (endsAtOwn_iff (.inr rfl) _ []).1 (by decide)

/-- A brace in a heading ends its section command, a percent sign hides the end of another, and a
line of text ends the verbatim block that it is in. -/
theorem inserted_text_ends_early :
    let s : Stage Beamer := ⟨Host.quiet, {}, { out := { path := "talk.tex" } }, none⟩
    let ops : List Op := [.heading (some "a\x7db"), .heading (some "50% off"),
      .printLine (some "\\end\x7bverbatim\x7d")]
    ∃ opened t, openDocument s = .ok () opened ∧ ops.forM Surface.perform opened = .ok () t ∧
      t.surface.out.written.toList =
        [preamble, command "section" "a\x7db", command "section" "50% off",
          beginLine "document", frameLine, beginLine "verbatim", endLine "verbatim"] ∧
      afterClosers ['\x7d'] .plain "a\x7db\x7d" = some "b\x7d" ∧
      ¬EndsAtOwn '\x7d' "50% off" [] := by
  intro s ops
  obtain ⟨opened, hopen⟩ := openDocument_quiet
  obtain ⟨_, hopened, hsurface⟩ := openDocument_eq_ok hopen
  obtain ⟨t, hrun, -, ht⟩ := forM_perform_writes ops hopened
  have hlines : plainLines 50 (some "\\end\x7bverbatim\x7d") = [endLine "verbatim"] := by
    decide +kernel
  have hshown : stripMarkup "a\x7db" = "a\x7db" ∧ stripMarkup "50% off" = "50% off" := by
    decide +kernel
  refine ⟨opened, t, hopen, hrun, ?_, by decide, by decide⟩
  have hhistory : history opened.surface ops =
      [.heading "a\x7db", .heading "50% off", .begins .document, .begins .frame, .begins .verbatim,
        .body (endLine "verbatim")] := by
    rw [hsurface]
    simp only [ops, history, pieces, body, width_foldl_push, Option.getD_some, hshown.1, hshown.2,
      hlines]
    rfl
  rw [ht, written_foldl_push, hhistory, hsurface]
  rfl

end Beamer

end SlideDeck
