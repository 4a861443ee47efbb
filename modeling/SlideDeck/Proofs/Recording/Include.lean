import SlideDeck.Proofs.Deck.Faults
import SlideDeck.Proofs.Export.Frames
import SlideDeck.Proofs.Recording.Calls
import SlideDeck.Proofs.Text.Reading

/-!
# Included files

Including a file opens a frame, prints the path and then the lines of the file in it, or one line
that says why it cannot be opened, and closes the frame. Only a path with a NUL breaks this off, and
then the frame stays open (`include_whole_iff`).
-/

namespace SlideDeck

namespace Directive

open Outcome Recorder

/-- What is printed for an included file: its lines, or why it cannot be opened. -/
inductive Shows (h : Host) (path : Text) : List Text → Prop where
  | content {bytes : List UInt8} (hread : h.files.read path = .ok bytes) :
      Shows h path (Text.sourceLines (Text.Utf8.decode bytes))
  | problem {e : FileError} (hread : h.files.read path = .error (.system e)) :
      Shows h path [Text.concat ["couldn't open file: ", e.message]]

def opening (path : Text) : List Op := [.beginOutput, .printLine (some path)]

def block (path : Text) (lines : List Text) : List Op :=
  opening path ++ (lines.map fun line => .printLine (some line)) ++ [.endOutput]

theorem nul_of_read (fs : Files) {path : Text} : fs.read path = .error .nul ↔ '\x00' ∈ path := by
  refine ⟨Files.nul_mem_of_report, fun h => ?_⟩
  exact if_pos (List.contains_iff_mem.2 h)

theorem exists_shows_iff {h : Host} {path : Text} :
    (∃ lines, Shows h path lines) ↔ '\x00' ∉ path := by
  rw [← nul_of_read h.files]
  constructor
  · rintro ⟨lines, hread | hread⟩ hnul
    · cases hnul.symm.trans hread
    · cases hnul.symm.trans hread
  · intro hnul
    rcases hread : h.files.read path with (e | -) | bytes
    · exact ⟨_, .problem hread⟩
    · exact absurd hread hnul
    · exact ⟨_, .content hread⟩

theorem Shows.includedLines?_eq {h : Host} {path : Text} {lines : List Text}
    (hlines : Shows h path lines) : includedLines? h path = some lines := by
  unfold includedLines?
  cases hlines with
  | content hread => rw [hread]; rfl
  | problem hread => rw [hread]; rfl

/-- The frames before a block are those after it, but that no output is framed. -/
theorem block_frames (path : Text) (lines : List Text) (f : Frames) :
    (block path lines).foldl Frames.after f = { f with output := false } := by
  have hprinted (f : Frames) :
      (lines.map fun line => Op.printLine (some line)).foldl Frames.after f = f := by
    induction lines with
    | nil => rfl
    | cons line rest ih => exact ih
  rw [block, List.foldl_append, List.foldl_append, hprinted]
  rfl

def includeLine (rest : Text) : Text := ("--include-file " : Text) ++ rest

theorem find?_includeLine (rest : Text) :
    find? table (includeLine rest) = some (("--include-file " : Text), includeFile, rest) := by
  rfl

theorem dispatch_includeLine {σ : Type} [Surface σ] (rest : Text) :
    dispatch (σ := σ) (some (includeLine rest)) = obey rest includeFile := by
  simp only [dispatch, dispatchBy, find?_includeLine]

variable {s : Stage Recorder}

/-- From then on the path is the one that was included last, however the inclusion ends. -/
theorem included_eq (rest : Text) :
    (state (dispatch (some (includeLine rest)) s)).included = some (Text.strip rest) := by
  have hperform (op : Op) : Ends (fun s : Stage Recorder => s.included = some (Text.strip rest))
      Any Any (Surface.perform op) := .modify fun _ => id
  have hrest : Ends (fun s : Stage Recorder => s.included = some (Text.strip rest)) Any Any (do
      Surface.perform .beginOutput
      Surface.perform (.printLine (some (Text.strip rest)))
      printLines (← includedLines (Text.strip rest))
      Surface.perform .endOutput
      return false) :=
    .andThen (hperform _) fun _ => .andThen (hperform _) fun _ =>
      .andThen (includedLines_ends (fun _ _ => id) fun _ => trivial) fun _ =>
        .andThen (printLines_ends (fun _ => hperform _) _) fun _ =>
          .andThen (hperform _) fun _ => .pure trivial
  -- The path is set first of all, and nothing after it sets another.
  rw [dispatch_includeLine]
  exact keeps_iff_ends.2 hrest { s with included := some (Text.strip rest) } rfl

theorem includedLines_nul {path : Text} (hnul : '\x00' ∈ path) (s : Stage Recorder) :
    includedLines path s = .error .nulInPath s := by
  have hread : Act.readFile path s = .ok (.error .nul) s := by
    show EStateM.Result.ok ((s.host.files.read path).map Text.Utf8.decode) s = _
    rw [(nul_of_read _).2 hnul]
    rfl
  exact bind_ok hread

/-- With a NUL in the path nothing follows the path, so that the frame stays open. -/
theorem include_broken {rest : Text} (hnul : '\x00' ∈ rest) :
    ∃ t, dispatch (some (includeLine rest)) s = .error .nulInPath t ∧
      events t = events s ++ (opening (Text.strip rest)).map Event.asked := by
  have hpath : '\x00' ∈ Text.strip rest := (Text.mem_strip_iff rfl rest).2 hnul
  rw [dispatch_includeLine]
  refine ⟨_, (bind_ok rfl).trans ((bind_ok rfl).trans ((bind_ok rfl).trans
    (bind_error (includedLines_nul hpath _)))), ?_⟩
  simp [events, opening]

theorem include_whole {rest : Text} {lines : List Text}
    (hlines : Shows s.host (Text.strip rest) lines) :
    ∃ t, dispatch (some (includeLine rest)) s = .ok false t ∧
      events t = events s ++ (block (Text.strip rest) lines).map Event.asked := by
  have hasks : includeFile.asks? s.host rest = some (block (Text.strip rest) lines) :=
    Option.map_eq_some_iff.2 ⟨lines, hlines.includedLines?_eq, rfl⟩
  obtain ⟨t, hobeyed, -, hevents⟩ := includeFile_records hasks s ⟨rfl, rfl⟩
  exact ⟨t, dispatch_includeLine (σ := Recorder) rest ▸ hobeyed, hevents⟩

/-- Including a file asks for one block, which leaves the output without a frame, unless there is a
NUL in its path. Then the inclusion is broken off with the frame open. Either way the path is the
one that was included last. -/
theorem include_whole_iff (s : Stage Recorder) (rest : Text) :
    ((∃ lines t, dispatch (some (includeLine rest)) s = .ok false t ∧
        Shows s.host (Text.strip rest) lines ∧ t.included = some (Text.strip rest) ∧
        events t = events s ++ (block (Text.strip rest) lines).map Event.asked ∧
        ∀ f : Frames, (block (Text.strip rest) lines).foldl Frames.after f =
          { f with output := false }) ↔ '\x00' ∉ rest) ∧
      ('\x00' ∈ rest → ∃ t, dispatch (some (includeLine rest)) s = .error .nulInPath t ∧
        t.included = some (Text.strip rest) ∧
        events t = events s ++ (opening (Text.strip rest)).map Event.asked ∧
        ∀ f : Frames, (opening (Text.strip rest)).foldl Frames.after f =
          { f with output := true }) := by
  have hincluded : (state (dispatch (some (includeLine rest)) s)).included =
      some (Text.strip rest) := included_eq rest
  refine ⟨⟨?_, fun hnul => ?_⟩, fun hnul => ?_⟩
  · rintro ⟨lines, t, hdispatch, -⟩ hnul
    obtain ⟨u, hbroken, -⟩ := include_broken (s := s) hnul
    cases hbroken.symm.trans hdispatch
  · rw [← Text.mem_strip_iff rfl] at hnul
    obtain ⟨lines, hlines⟩ := (exists_shows_iff (h := s.host)).2 hnul
    obtain ⟨t, hdispatch, hevents⟩ := include_whole hlines
    rw [hdispatch] at hincluded
    exact ⟨lines, t, hdispatch, hlines, hincluded, hevents, block_frames _ lines⟩
  · obtain ⟨t, hdispatch, hevents⟩ := include_broken (s := s) hnul
    rw [hdispatch] at hincluded
    exact ⟨t, hdispatch, hincluded, hevents, fun _ => rfl⟩

/-- A file that there is not, with white space around its path. -/
theorem include_whole_iff_missing :
    let s : Stage Recorder := ⟨Host.quiet, {}, {}, none⟩
    '\x00' ∉ (" no " : Text) ∧
      ∃ t, dispatch (some (includeLine " no ")) s = .ok false t ∧ t.included = some "no" ∧
        events t = (block "no"
          ["couldn't open file: [Errno 2] No such file or directory: 'no'"]).map Event.asked := by
  intro s
  have hpath : Text.strip " no " = "no" := rfl
  have hplain : '\x00' ∉ (" no " : Text) := by decide
  obtain ⟨lines, t, hdispatch, hshows, hincluded, hevents, -⟩ :=
    (include_whole_iff s " no ").1.2 hplain
  rw [hpath] at hshows hincluded hevents
  have hmissing : s.host.files.read "no" = .error (.system ⟨.missing, "no"⟩) := rfl
  refine ⟨hplain, t, hdispatch, hincluded, ?_⟩
  cases hshows with
  | content hread => cases hmissing.symm.trans hread
  | problem hread =>
    cases hmissing.symm.trans hread
    exact hevents

/-- A path with a NUL: its inclusion is broken off after the path is printed. -/
theorem nul_breaks_include :
    let s : Stage Recorder := ⟨Host.quiet, {}, {}, none⟩
    ∃ t, dispatch (some (includeLine "a\x00b")) s = .error .nulInPath t ∧
      events t = (opening "a\x00b").map Event.asked :=
  include_broken (by decide)

end Directive

end SlideDeck
