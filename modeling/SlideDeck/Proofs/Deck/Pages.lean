import SlideDeck.Proofs.Deck.Commands

/-!
# Pages of a deck

The pages of a source, said of its lines as a whole. Without the comments, the lines are cut at
those that begin a page; a line that embeds a command is followed by the output of the command,
which is put in after the cut, so that no line of output can begin a page or run as a command.
-/

namespace SlideDeck.Deck

def isComment (line : Text) : Bool := line.startsWith "--##"

def isBreak (line : Text) : Bool := line.startsWith "--newpage"

def embeds (line : Text) : Bool := line.startsWith "$$" || line.startsWith "$%"

/-- The lines of a source, without the comments. -/
def remaining (source : Text) : List Text := (Text.sourceLines source).filter (!isComment ·)

/-- The output that follows a line: the first one that is left, if the line embeds a command. -/
def outputOf (line : Text) (outputs : List (List Text)) : List Text :=
  if embeds line then outputs.headD [] else []

def outputsAfter (line : Text) (outputs : List (List Text)) : List (List Text) :=
  if embeds line then outputs.tail else outputs

/-- Lines with the outputs that follow them, taken in order. -/
def withOutputs : List Text → List (List Text) → List (Text × List Text)
  | [], _ => []
  | line :: rest, outputs =>
    (line, outputOf line outputs) :: withOutputs rest (outputsAfter line outputs)

/-- A line as it stands on its page, with the output of its command behind it. -/
def spelled (entry : Text × List Text) : List Text :=
  entry.1 :: entry.2.map ((if entry.1.startsWith "$%" then ("%" : Text) else []) ++ ·)

/-- The title that a page takes from the line that begins it, or from its number. -/
def titleOfBreak (number : Nat) (line : Text) : Text :=
  let name := Text.strip (line.drop 9)
  if name = [] then ("slide " : Text) ++ Text.ofNat number else name

/-! ### Kinds of lines -/

theorem drop_of_after? {lead line rest : Text} (h : Text.after? lead line = some rest) :
    rest = line.drop lead.length := by
  rw [Text.after?_eq_some_iff.1 h, List.drop_left]

theorem titleOf_eq {number : Nat} {line name : Text}
    (h : Text.after? "--newpage" line = some name) :
    titleOf number name = titleOfBreak number line := by
  have hname : name = line.drop 9 := drop_of_after? h
  simp only [titleOf, titleOfBreak, ← hname]
  cases Text.strip name with
  | nil => simp [Text.concat]
  | cons c t => simp

/-- Lines of different kinds begin with different characters. -/
theorem not_embeds_of_startsWith {line lead : Text} (h : line.startsWith lead = true)
    (hlead : lead.head? = some '-') : embeds line = false := by
  obtain ⟨rest, rfl⟩ := Text.startsWith_iff.1 h
  cases lead with
  | nil => simp at hlead
  | cons c lead =>
    obtain rfl : c = '-' := by simpa using hlead
    simp [embeds, Text.startsWith, Text.after?]

theorem embedded?_eq (line : Text) :
    Page.embedded? line = if embeds line then
      some (if line.startsWith "$%" then ("%" : Text) else [], line.drop 2) else none := by
  unfold Page.embedded? embeds Text.startsWith
  rcases hdollar : Text.after? "$$" line with - | command
  · rcases hpercent : Text.after? "$%" line with - | command
    · rfl
    · have hdrop : command = line.drop 2 := drop_of_after? hpercent
      rw [hdrop]
      rfl
  · have hdrop : command = line.drop 2 := drop_of_after? hdollar
    have hother : Text.after? "$%" line = none := by
      rw [Text.after?_eq_some_iff.1 hdollar]
      rfl
    rw [hother, hdrop]
    rfl

theorem command?_eq (line : Text) :
    command? line = if embeds line then some (line.drop 2) else none := by
  unfold command?
  split
  · rename_i hcomment
    have hplain := not_embeds_of_startsWith hcomment rfl
    rw [if_neg (by simp only [hplain, Bool.false_eq_true, not_false_eq_true])]
  · split
    · rename_i name hbreak
      have hstarts : line.startsWith "--newpage" = true := by
        rw [Text.startsWith, hbreak, Option.isSome_some]
      have hplain := not_embeds_of_startsWith hstarts rfl
      rw [if_neg (by simp only [hplain, Bool.false_eq_true, not_false_eq_true])]
    · rw [embedded?_eq]
      split
      · rfl
      · rfl

theorem commands_eq (source : Text) :
    commands source = ((remaining source).filter embeds).map (·.drop 2) := by
  unfold commands remaining
  induction Text.sourceLines source with
  | nil => rfl
  | cons line rest ih =>
    rw [List.filterMap_cons, command?_eq]
    by_cases hcomment : isComment line = true
    · have hplain := not_embeds_of_startsWith hcomment rfl
      simp [hcomment, hplain, ih]
    · by_cases hembeds : embeds line = true <;> simp [hcomment, hembeds, ih]

/-! ### The pages that lines come to -/

theorem lines_prependLines (lines : List Text) (deck : Deck) :
    (prependLines lines deck).map (·.lines) =
      (deck.map (·.lines)).modifyHead (lines ++ ·) := by
  cases deck with
  | nil => rfl
  | cons page pages => rfl

theorem titles_prependLines (lines : List Text) (deck : Deck) :
    (prependLines lines deck).map (·.title) = deck.map (·.title) := by
  cases deck with
  | nil => rfl
  | cons page pages => rfl

theorem layOut_cons (number : Nat) (title line : Text) (rest : List Text)
    (outputs : List (List Text)) :
    layOut number title (line :: rest) outputs =
      if line.startsWith "--##" then layOut number title rest outputs
      else match Text.after? "--newpage" line with
        | some name => ⟨title, []⟩ :: layOut (number + 1) (titleOf (number + 1) name) rest outputs
        | none =>
          match Page.embedded? line, outputs with
          | some (lead, _), output :: later =>
            prependLines (line :: output.map (lead ++ ·)) (layOut number title rest later)
          | _, _ => prependLines [line] (layOut number title rest outputs) := rfl

theorem layOut_comment {line : Text} (number : Nat) (title : Text) (rest : List Text)
    (outputs : List (List Text)) (hcomment : isComment line = true) :
    layOut number title (line :: rest) outputs = layOut number title rest outputs := by
  have hstarts : line.startsWith "--##" = true := hcomment
  rw [layOut_cons, if_pos hstarts]

theorem layOut_break {line : Text} (number : Nat) (title : Text) (rest : List Text)
    (outputs : List (List Text)) (hcomment : isComment line = false)
    (hbreak : isBreak line = true) :
    layOut number title (line :: rest) outputs =
      ⟨title, []⟩ :: layOut (number + 1) (titleOfBreak (number + 1) line) rest outputs := by
  have hstarts : ¬ line.startsWith "--##" = true := ne_true_of_eq_false hcomment
  obtain ⟨name, hname⟩ := Option.isSome_iff_exists.1 hbreak
  rw [layOut_cons, if_neg hstarts, hname, ← titleOf_eq hname]

/-- Any other line goes to the front of the page at hand, with its output behind it. -/
theorem layOut_line {line : Text} (number : Nat) (title : Text) (rest : List Text)
    (outputs : List (List Text)) (hcomment : isComment line = false)
    (hbreak : isBreak line = false) :
    layOut number title (line :: rest) outputs =
      prependLines (spelled (line, outputOf line outputs))
        (layOut number title rest (outputsAfter line outputs)) := by
  have hstarts : ¬ line.startsWith "--##" = true := ne_true_of_eq_false hcomment
  have hnone : Text.after? "--newpage" line = none := by
    simpa only [isBreak, Text.startsWith, Option.isSome_eq_false_iff, Option.isNone_iff_eq_none]
      using hbreak
  rw [layOut_cons, if_neg hstarts, hnone, embedded?_eq, outputOf, outputsAfter]
  by_cases hembeds : embeds line = true
  · rw [if_pos hembeds, if_pos hembeds, if_pos hembeds]
    cases outputs with
    | nil => rfl
    | cons output later => rfl
  · rw [if_neg hembeds, if_neg hembeds, if_neg hembeds]
    rfl

theorem withOutputs_break {line : Text} (rest : List Text) (outputs : List (List Text))
    (hbreak : isBreak line = true) :
    withOutputs (line :: rest) outputs = (line, []) :: withOutputs rest outputs := by
  have hplain := not_embeds_of_startsWith hbreak rfl
  simp only [withOutputs, outputOf, outputsAfter, hplain, Bool.false_eq_true, if_false]

theorem map_modifyHead_cons (entry : Text × List Text)
    (pages : List (List (Text × List Text))) :
    (pages.modifyHead (entry :: ·)).map (·.flatMap spelled) =
      (pages.map (·.flatMap spelled)).modifyHead (spelled entry ++ ·) := by
  cases pages with
  | nil => rfl
  | cons page pages => simp

/-- On the pages stands what there is between the lines that begin pages. -/
theorem lines_layOut (number : Nat) (title : Text) (lines : List Text)
    (outputs : List (List Text)) :
    (layOut number title lines outputs).map (·.lines) =
      ((withOutputs (lines.filter (!isComment ·)) outputs).splitOnP (isBreak ·.1)).map
        (·.flatMap spelled) := by
  induction lines generalizing number title outputs with
  | nil => simp [layOut, withOutputs]
  | cons line rest ih =>
    rcases hcomment : isComment line with - | -
    · rw [List.filter_cons_of_pos (by simp [hcomment])]
      rcases hbreak : isBreak line with - | -
      · rw [layOut_line _ _ _ _ hcomment hbreak, lines_prependLines, ih, withOutputs,
          List.splitOnP_cons_eq_if_modifyHead, if_neg (by simp [hbreak]), map_modifyHead_cons]
      · rw [layOut_break _ _ _ _ hcomment hbreak, withOutputs_break _ _ hbreak,
          List.splitOnP_cons_eq_if_modifyHead, if_pos hbreak, List.map_cons, List.map_cons, ih]
        rfl
    · rw [layOut_comment _ _ _ _ hcomment, List.filter_cons_of_neg (by simp [hcomment]), ih]

theorem titles_layOut (number : Nat) (title : Text) (lines : List Text)
    (outputs : List (List Text)) :
    (layOut number title lines outputs).map (·.title) =
      title :: ((lines.filter (!isComment ·)).filter isBreak).mapIdx fun i line =>
        titleOfBreak (number + 1 + i) line := by
  induction lines generalizing number title outputs with
  | nil => rfl
  | cons line rest ih =>
    rcases hcomment : isComment line with - | -
    · rw [List.filter_cons_of_pos (by simp [hcomment])]
      rcases hbreak : isBreak line with - | -
      · rw [layOut_line _ _ _ _ hcomment hbreak, titles_prependLines, ih,
          List.filter_cons_of_neg (by simp [hbreak])]
      · rw [layOut_break _ _ _ _ hcomment hbreak, List.filter_cons_of_pos hbreak, List.map_cons, ih,
          List.mapIdx_cons]
        congr 3
        funext i next
        rw [Nat.add_right_comm (number + 1) 1 i, Nat.add_assoc (number + 1) i 1]
    · rw [layOut_comment _ _ _ _ hcomment, List.filter_cons_of_neg (by simp [hcomment]), ih]

/-- To read a source is to run the commands that its lines embed, in order and once each, whatever
runs them, and to lay the pages out. There is one page, and one more for each line that begins a
page. Their lines are those of the source between these, comments left out, each with the output of
its command behind it; their titles are those that these lines give. -/
theorem pages_of_source {m : Type → Type} [Monad m] [LawfulMonad m]
    (capture : Text → m (List Text)) (source : Text) :
    let lines := remaining source
    parse capture source = (do
        let outputs ← ((lines.filter embeds).map (·.drop 2)).mapM capture
        return ofOutputs source outputs) ∧
      ∀ outputs : List (List Text),
        (ofOutputs source outputs).length = 1 + lines.countP isBreak ∧
        (ofOutputs source outputs).map (·.lines) =
          ((withOutputs lines outputs).splitOnP (isBreak ·.1)).map (·.flatMap spelled) ∧
        (ofOutputs source outputs).map (·.title) =
          ("Title" : Text) :: (lines.filter isBreak).mapIdx fun i line =>
            titleOfBreak (i + 2) line := by
  intro lines
  refine ⟨?_, fun outputs => ?_⟩
  · rw [parse_eq, commands_eq]
  · have hlines := lines_layOut 1 firstTitle (Text.sourceLines source) outputs
    have htitles := titles_layOut 1 firstTitle (Text.sourceLines source) outputs
    refine ⟨?_, hlines, ?_⟩
    · have hlength := congrArg List.length htitles
      rw [List.length_map, List.length_cons, List.length_mapIdx, ← List.countP_eq_length_filter]
        at hlength
      rw [ofOutputs, hlength, Nat.add_comm]
      rfl
    · rw [ofOutputs, htitles]
      congr 2
      funext i line
      rw [Nat.add_comm i 2]

/-- A command whose output looks like a page break and like another command. -/
theorem pages_of_source_output_kept :
    let capture (command : Text) : StateM (List Text) (List Text) :=
      fun ran => ((["--newpage", "$$ls"] : List Text), ran ++ [command])
    let source : Text := "--## note
$%who
--newpage
end"
    ∃ deck : Deck, parse capture source [] = (deck, (["who"] : List Text)) ∧ deck.length = 2 ∧
      deck.map (·.lines) = ([["$%who", "%--newpage", "%$$ls"], ["end"]] : List (List Text)) ∧
      deck.map (·.title) = (["Title", "slide 2"] : List Text) := by
  intro capture source
  let outputs : List (List Text) := [["--newpage", "$$ls"]]
  obtain ⟨hparse, hpages⟩ := pages_of_source capture source
  obtain ⟨hlength, hlines, htitles⟩ := hpages outputs
  have hcommands : ((remaining source).filter embeds).map (·.drop 2) = (["who"] : List Text) := by
    decide +kernel
  rw [hcommands] at hparse
  refine ⟨ofOutputs source outputs, ?_, hlength.trans ?_, hlines.trans ?_, htitles.trans ?_⟩
  · rw [hparse, List.mapM_cons, List.mapM_nil]
    rfl
  · decide +kernel
  · decide +kernel
  · decide +kernel

end SlideDeck.Deck
