import SlideDeck.Proofs.Navigation.Move
import SlideDeck.Proofs.Screen.Faults
import SlideDeck.Proofs.Text.Reading

/-!
# The prompt for a page

Whatever is typed at the prompt, the terminal shows what is typed just while the line is read. A
numeral of any script is answered by the page of that number, and anything else by none, but for
digits that have no place in a numeral: on these the prompt fails (`page_answered_iff`).
-/

namespace SlideDeck

/-- What the terminal is told, where it is told whether to show what is typed. -/
def Event.echoes? : Event → Option Bool
  | .terminal .echo => some true
  | .terminal .noEcho => some false
  | _ => none

def Journal.echoes (j : Journal) : List Bool := j.events.toList.filterMap Event.echoes?

theorem Journal.echoes_push (j : Journal) (e : Event) :
    ({ j with events := j.events.push e } : Journal).echoes = j.echoes ++ e.echoes?.toList := by
  unfold Journal.echoes
  rw [Array.toList_push, List.filterMap_append]
  cases h : e.echoes? <;> simp [h]

/-- The line that is typed next, as bytes. It is empty if none can be read. -/
def Host.line (h : Host) : List UInt8 := if h.refuses .readText then [] else h.typed.headD []

namespace Screen

open Act Outcome

variable {s : Stage Screen}

/-- The text that the next line comes to. -/
def answer (s : Stage Screen) : Text := answerOf s.host.line

theorem length_answer_le (s : Stage Screen) : (answer s).length ≤ Text.digitLimit :=
  calc (answer s).length
      ≤ (Text.Utf8.decode (s.host.line.take 6)).length := Text.length_trim_le _ _
    _ ≤ (s.host.line.take 6).length := Text.Utf8.length_decode_le _
    _ ≤ 6 := List.length_take_le _ _
    _ ≤ Text.digitLimit := by decide

/-! ### The prompt -/

/-- A stage of a host on which the terminal was told so much about showing what is typed. -/
structure Told (h : Host) (echoes : List Bool) (s : Stage Screen) : Prop where
  host : s.host = h
  echoes_eq : s.journal.echoes = echoes

variable {h : Host} {echoes : List Bool}

theorem Told.noted (hs : Told h echoes s) {e : Event} (he : e.echoes? = none) :
    Told h echoes (noted s e) := by
  refine ⟨hs.host, (Journal.echoes_push _ _).trans ?_⟩
  rw [he, hs.echoes_eq]
  exact List.append_nil _

theorem drawAt_told (htakes : h.TakesAnyText) (y x : Int) (t : Text) :
    Ends (Told h echoes) Any (fun _ => False) (drawAt y x t) := by
  intro s hs
  have ht : s.host.Takes t := hs.host ▸ htakes.takes t
  obtain ⟨u, hdraw, rfl | ⟨row, column, shown, rfl⟩⟩ := drawAt_noted ht y x
  · rw [hdraw]
    exact ⟨trivial, hs⟩
  · rw [hdraw]
    exact ⟨trivial, hs.noted rfl⟩

theorem drawEntries_told (htakes : h.TakesAnyText) (current : Int) (number : Nat)
    (column row : Int) (titles : List Text) :
    Ends (Told h echoes) Any (fun _ => False) (drawEntries current number column row titles) := by
  induction titles generalizing number column row with
  | nil => exact .pure trivial
  | cons title rest ih =>
    exact .andThen (drawAt_told htakes _ _ _) fun _ => .andThen surface_ends fun _ =>
      .ite (fun _ => ih _ _ _) fun _ => ih _ _ _

theorem readTyped_refused (y x : Int) (n : Nat) (hrefuses : s.host.refuses .readText = true) :
    readTyped y x n s =
      .error (.refused (.terminal .readText)) (noted s (.terminal (.readText y x n))) := by
  refine bind_error (call_refused ((Host.rejection?_eq Host.takes_nil).trans ?_))
  simp only [TerminalCall.function?, hrefuses, Bool.true_or]
  rfl

theorem readTyped_ok (y x : Int) (n : Nat) (hrefuses : s.host.refuses .readText = false) :
    ∃ t, readTyped y x n s = .ok ((s.host.typed.headD []).take n) t ∧
      t.host.refuses = s.host.refuses ∧
      t.journal = (noted s (.terminal (.readText y x n))).journal := by
  have hcall : call (.readText y x n) s = .ok () (noted s (.terminal (.readText y x n))) :=
    call_ok (Host.rejection?_eq_none Host.takes_nil rfl fun f hf => by
      cases hf
      exact hrefuses)
  have hread : readTyped y x n s = _ := bind_ok hcall
  rw [hread]
  rcases htyped : s.host.typed with - | ⟨line, rest⟩
  · refine ⟨noted s _, ?_, rfl, rfl⟩
    rw [List.headD_nil, List.take_nil]
    show EStateM.Result.ok _ _ = _
    simp only [noted, htyped]
  · refine ⟨{ noted s _ with host := { s.host with typed := rest } }, ?_, rfl, rfl⟩
    show EStateM.Result.ok _ _ = _
    simp only [noted, htyped]
    rfl

/-- Where the terminal does not let the line be read, and that is forgiven, it is taken to be
empty. -/
theorem readLine_ok (y x : Int) :
    ∃ t, (∀ handler : Fault → Act Screen (List UInt8),
          handler (.refused (.terminal .readText)) = pure [] →
        tryCatch (readTyped y x 6) handler s = .ok (s.host.line.take 6) t) ∧
      t.host.refuses = s.host.refuses ∧
      t.journal = (noted s (.terminal (.readText y x 6))).journal := by
  rcases hrefuses : s.host.refuses .readText with - | -
  · obtain ⟨t, hread, ht, hjournal⟩ := readTyped_ok y x 6 hrefuses
    have hline : s.host.line = s.host.typed.headD [] := if_neg (by rw [hrefuses]; nofun)
    refine ⟨t, fun handler _ => ?_, ht, hjournal⟩
    show EStateM.tryCatch _ _ s = _
    simp only [EStateM.tryCatch, hread, hline]
  · have hline : s.host.line = [] := if_pos hrefuses
    refine ⟨noted s (.terminal (.readText y x 6)), fun handler hhandler => ?_, rfl, rfl⟩
    show EStateM.tryCatch _ _ s = _
    simp only [EStateM.tryCatch, readTyped_refused y x 6 hrefuses, hhandler, hline]
    rfl

/-- The terminal shows what is typed just while the line is read. -/
theorem readAnswer_ok (hecho : s.host.refuses .echo = false)
    (hnoEcho : s.host.refuses .noEcho = false) :
    ∃ t, readAnswer s = .ok (answer s) t ∧ t.host.refuses = s.host.refuses ∧
      t.journal.echoes = s.journal.echoes ++ [true, false] := by
  have hshown : call .echo s = .ok () (noted s (.terminal .echo)) :=
    call_ok (Host.rejection?_eq_none Host.takes_nil rfl fun f hf => by
      cases hf
      exact hecho)
  obtain ⟨t, hread, hrefuses, hjournal⟩ := readLine_ok (s := noted s (.terminal .echo))
    (s.surface.rows - 2) (promptColumn + prompt.length)
  have hhidden : call .noEcho t = .ok () (noted t (.terminal .noEcho)) :=
    call_ok (Host.rejection?_eq_none Host.takes_nil rfl fun f hf => by
      cases hf
      rw [hrefuses]
      exact hnoEcho)
  refine ⟨noted t (.terminal .noEcho), ?_, hrefuses, ?_⟩
  · exact (bind_ok (t := s) rfl).trans ((bind_ok hshown).trans
      (bind_ok (tryFinally_ok (hread _ rfl) hhidden)))
  · rw [noted, Journal.echoes_push, hjournal, noted, Journal.echoes_push, noted,
      Journal.echoes_push]
    simp [Event.echoes?]

/-- What the prompt comes to, for every answer. -/
theorem askPageNumber_eq (htakes : s.host.TakesAnyText) (hecho : s.host.refuses .echo = false)
    (hnoEcho : s.host.refuses .noEcho = false) (titles : List Text) (current : Int) :
    ∃ t : Stage Screen, t.journal.echoes = s.journal.echoes ++ [true, false] ∧
      askPageNumber titles current s =
        if answer s = [] ∨ !(answer s).all Text.isDigit then .ok none t
        else match Text.readNumeral (answer s) with
          | .ok n => .ok (some ((n : Int) - 1)) t
          | .error fault => .error (.numeral fault) t := by
  have hclear : call .clear s = .ok () (noted s (.terminal .clear)) := certain_call_ok rfl
  have hcleared : Told s.host s.journal.echoes (noted s (.terminal .clear)) :=
    Told.noted ⟨rfl, rfl⟩ rfl
  obtain ⟨⟨⟩, t₁, hentries, -, h₁⟩ := (drawEntries_told htakes current 0 0 2 titles).ok hcleared
  obtain ⟨⟨⟩, t₂, hprompt, -, h₂⟩ :=
    (drawAt_told htakes (t₁.surface.rows - 2) promptColumn prompt).ok h₁
  obtain ⟨t₃, hanswer, hrefuses, h₃⟩ := readAnswer_ok (s := t₂) (h₂.host ▸ hecho) (h₂.host ▸ hnoEcho)
  have hsame : answer t₂ = answer s := congrArg (fun h : Host => answerOf h.line) h₂.host
  rw [hsame] at hanswer
  rw [h₂.echoes_eq] at h₃
  have htakes₃ : t₃.host.TakesAnyText := by
    rw [Host.TakesAnyText, hrefuses, h₂.host]
    exact htakes
  obtain ⟨⟨⟩, t, hcover, -, ht⟩ := (drawAt_told htakes₃ (t₁.surface.rows - 2) promptColumn
    (Text.rule (prompt.length + (answer s).length) ' ')).ok ⟨rfl, h₃⟩
  refine ⟨t, ht.echoes_eq, ?_⟩
  refine (bind_ok hclear).trans ((bind_ok hentries).trans ((bind_ok (t := t₁) rfl).trans
    ((bind_ok hprompt).trans ((bind_ok hanswer).trans ((bind_ok hcover).trans ?_)))))
  split
  · rfl
  · cases Text.readNumeral (answer s) <;> rfl

/-! ### Pages -/

/-- The answer to a text that was typed: the page of the number that it stands for, if it is a
numeral. A presentation turns to that page where its deck has it, and else stays as it is. -/
structure PageAnswer (typed : Text) (page : Option Int) (t : Stage Screen) : Prop where
  eq_some_iff : ∀ i, page = some i ↔ ∃ n : Nat, Text.Numeral typed n ∧ i = n - 1
  turns : ∀ (n : Navigator) (i : Nat) (p : Page), Text.Numeral typed (i + 1) →
    n.pages[i]? = some p → ∃ u, Present.jump page ⟨t, n⟩ =
      .ok true ⟨u, { n with index := i, reader := .start p, finished := false }⟩
  stays : ∀ n : Navigator, (∀ i, Text.Numeral typed (i + 1) → n.pages.length ≤ i) →
    Present.jump page ⟨t, n⟩ = .ok false ⟨t, n⟩

theorem showPage_ok {n : Navigator} {i : Nat} (hi : i < n.pages.length) (t : Stage Screen) :
    ∃ u, Present.showPage i ⟨t, n⟩ = .ok () ⟨u, n.turnTo i⟩ := by
  obtain ⟨u, hpage⟩ : ∃ u, Surface.perform (σ := Screen) .newPage t = .ok () u :=
    ⟨_, (bind_ok rfl).trans ((bind_ok rfl).trans (certain_call_ok rfl))⟩
  refine ⟨u, ?_⟩
  rw [Present.showPage_eq hi]
  exact Present.lift_ok hpage

/-- Which pages are numbered so decides where a presentation turns. -/
theorem PageAnswer.of_page {typed : Text} {page : Option Int} (t : Stage Screen)
    (hpage : ∀ i, page = some i ↔ ∃ n : Nat, Text.Numeral typed n ∧ i = n - 1) :
    PageAnswer typed page t where
  eq_some_iff := hpage
  turns n i p hnumeral hp := by
    have hi : page = some (i : Int) := (hpage i).2 ⟨i + 1, hnumeral, by simp⟩
    have hlt : i < n.pages.length := (List.getElem?_eq_some_iff.1 hp).1
    have hturn : (Move.jump page).turn? n = some i := by
      simp [Move.turn?, hi, hlt]
    have hnext : n.turnTo i = { n with index := i, reader := .start p, finished := false } := by
      simp [Navigator.turnTo, hp]
    obtain ⟨u, hshow⟩ := showPage_ok hlt t
    refine ⟨u, ?_⟩
    rw [Present.jump_eq, hturn, ← hnext]
    exact bind_ok hshow
  stays n hnone := by
    have hturn : (Move.jump page).turn? n = none := by
      refine Option.bind_eq_none_iff.2 fun i hi => if_neg fun hin => ?_
      obtain ⟨m, hnumeral, rfl⟩ := (hpage i).1 hi
      obtain ⟨k, rfl⟩ : ∃ k, m = k + 1 := ⟨m - 1, by omega⟩
      have hpast := hnone k hnumeral
      omega
    rw [Present.jump_eq, hturn]
    rfl

/-- On a terminal that takes every text, the prompt answers whatever is typed, unless it is a text of
digits one of which has no place in a numeral. On such a text it fails. The terminal has stopped
showing what is typed either way. -/
theorem page_answered_iff (htakes : s.host.TakesAnyText) (hecho : s.host.refuses .echo = false)
    (hnoEcho : s.host.refuses .noEcho = false) (titles : List Text) (current : Int) :
    ∃ t : Stage Screen, t.journal.echoes = s.journal.echoes ++ [true, false] ∧
      ((∃ page, askPageNumber titles current s = .ok page t ∧ PageAnswer (answer s) page t) ↔
        ¬ (answer s).Ornamental) ∧
      ((answer s).Ornamental →
        askPageNumber titles current s = .error (.numeral (.notDecimal (answer s))) t) := by
  obtain ⟨t, hechoes, hask⟩ := askPageNumber_eq htakes hecho hnoEcho titles current
  have hlength := length_answer_le s
  generalize answer s = typed at hask hlength ⊢
  refine ⟨t, hechoes, ?_⟩
  -- The prompt asks for digits first, and only then reads a number, which is where it can fail.
  by_cases hnone : typed = [] ∨ !typed.all Text.isDigit
  · rw [if_pos hnone] at hask
    obtain ⟨hnumeral, hplain⟩ := Text.not_numeral_of_not_digits hnone
    refine ⟨⟨fun _ => hplain, fun _ => ⟨none, hask, .of_page t fun i => ?_⟩⟩, (absurd · hplain)⟩
    simp [hnumeral]
  · rw [if_neg hnone] at hask
    rw [not_or, Bool.not_eq_true', Bool.not_eq_false] at hnone
    obtain ⟨hne, hdigits⟩ := hnone
    have hiff := Text.numeral_iff_not_ornamental hne hdigits
    by_cases hornamental : typed.Ornamental
    · rw [Text.readNumeral_ornamental hornamental] at hask
      refine ⟨⟨?_, (absurd hornamental ·)⟩, fun _ => hask⟩
      rintro ⟨page, hpage, -⟩
      cases hask.symm.trans hpage
    · obtain ⟨n, hn⟩ := hiff.2 hornamental
      rw [(Text.readNumeral_eq_ok_iff hne hlength).2 hn] at hask
      refine ⟨⟨fun _ => hornamental, fun _ => ⟨_, hask, .of_page t fun i => ?_⟩⟩,
        (absurd · hornamental)⟩
      constructor
      · intro hi
        exact ⟨n, hn, (Option.some.inj hi).symm⟩
      · rintro ⟨m, hm, rfl⟩
        rw [hn.unique hm]

/-- The second page of two, asked for by a blank and an Arabic digit. -/
theorem page_answered_iff_arabic :
    let begun : Stage Screen := ⟨{ Host.quiet with typed := [[0x20, 0xD9, 0xA2]] }, {}, {}, none⟩
    let first : Page := ⟨"a", []⟩
    let second : Page := ⟨"b", []⟩
    let n : Navigator := { pages := [first, second], index := 0, reader := .start first }
    begun.host.TakesAnyText ∧ begun.host.refuses .echo = false ∧
      begun.host.refuses .noEcho = false ∧
      ∃ t, askPageNumber ["a", "b"] 0 begun = .ok (some 1) t ∧
        t.journal.echoes = [true, false] ∧
        ∃ u, Present.jump (some 1) ⟨t, n⟩ =
          .ok true ⟨u, { n with index := 1, reader := .start second, finished := false }⟩ := by
  intro begun first second n
  have hanswer : answer begun = "٢" := by decide +kernel
  have hplain : ¬ (answer begun).Ornamental := by
    rw [hanswer, Text.ornamental_iff]
    decide +kernel
  have hnumeral : Text.Numeral (answer begun) 2 := hanswer ▸ .digit (by decide +kernel)
  obtain ⟨t, hechoes, hiff, -⟩ := page_answered_iff (s := begun) rfl rfl rfl ["a", "b"] 0
  obtain ⟨page, hpage, hanswers⟩ := hiff.2 hplain
  obtain rfl : page = some 1 := (hanswers.eq_some_iff 1).2 ⟨2, hnumeral, rfl⟩
  exact ⟨rfl, rfl, rfl, t, hpage, hechoes, hanswers.turns n 1 second hnumeral rfl⟩

/-- A superscript two is no numeral, and the prompt fails on it. -/
theorem superscript_unanswered :
    let begun : Stage Screen := ⟨{ Host.quiet with typed := [[0xC2, 0xB2]] }, {}, {}, none⟩
    answer begun = "²" ∧ (∀ n, ¬ Text.Numeral "²" n) ∧
      ∃ t, askPageNumber ["Title"] 0 begun = .error (.numeral (.notDecimal "²")) t := by
  intro begun
  have hanswer : answer begun = "²" := by decide +kernel
  have hornamental : Text.Ornamental "²" := by
    rw [Text.ornamental_iff]
    decide +kernel
  obtain ⟨t, -, hask⟩ := askPageNumber_eq (s := begun) rfl rfl rfl ["Title"] 0
  rw [hanswer, if_neg (by decide +kernel), Text.readNumeral_ornamental hornamental] at hask
  exact ⟨hanswer, fun n hn => absurd hn.all_digits.2.1 (by decide +kernel), t, hask⟩

end Screen

end SlideDeck
