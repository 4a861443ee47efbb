import SlideDeck.Presenter.Conversion
import SlideDeck.Proofs.Pause
import SlideDeck.Surface.Recorder

/-!
# Recorded calls

A recorder fails at nothing that it is asked. What the dispatch of a line asks of it, and whether
the line itself is at fault, depends on the line and on the host alone (`Directive.calls?`), as long
as the clock stands still.
-/

namespace SlideDeck

/-- Every reading of the clock shows the same. -/
def Host.ClockStands (h : Host) : Prop := ∀ k, h.clockAt k = h.clock

namespace Recorder

open Outcome

/-- A stage with the same host and the same recorder, whatever was recorded. -/
def Alike (base s : Stage Recorder) : Prop := s.host = base.host ∧ s.surface = base.surface

def events (s : Stage Recorder) : List Event := s.journal.events.toList

/-- An action ends in a value, and adds just these events, on every stage like a base. -/
def Records {α : Type} (base : Stage Recorder) (x : Act Recorder α) (a : α) (added : List Event) :
    Prop :=
  ∀ s, Alike base s → ComesTo x a (fun t => Alike base t ∧ events t = events s ++ added) s

namespace Records

variable {α β : Type} {base : Stage Recorder} {x : Act Recorder α} {a : α} {b : β}

theorem pure (a : α) : Records base (pure a) a [] := by
  intro s hs
  exact .pure ⟨hs, (List.append_nil _).symm⟩

theorem bind {f : α → Act Recorder β} {first second : List Event}
    (hx : Records base x a first) (hf : Records base (f a) b second) :
    Records base (x >>= f) b (first ++ second) := by
  intro s hs
  refine (hx s hs).bind fun t ⟨ht, hfirst⟩ => (hf t ht).mono fun u ⟨hu, hsecond⟩ => ⟨hu, ?_⟩
  rw [hsecond, hfirst, List.append_assoc]

theorem bind_nil {f : α → Act Recorder β} {added : List Event}
    (hx : Records base x a []) (hf : Records base (f a) b added) :
    Records base (x >>= f) b added := bind hx hf

theorem perform (op : Op) : Records base (Surface.perform op) () [.asked op] := by
  intro s hs
  exact ⟨_, rfl, hs, Array.toList_push⟩

theorem note (e : Event) : Records base (Act.note e) () [e] := by
  intro s hs
  exact ⟨_, rfl, hs, Array.toList_push⟩

theorem askConsole (op : ConsoleOp) :
    Records base (Recorder.askConsole op) ()
      (if base.surface.hasScreen then [.askedConsole op] else []) := by
  intro s hs
  have hask : Recorder.askConsole op s =
      (if s.surface.hasScreen then Act.note (.askedConsole op) else Pure.pure ()) s := rfl
  unfold ComesTo
  rw [hask, hs.2]
  split
  · exact note _ s hs
  · exact pure () s hs

theorem readFile (path : Text) :
    Records base (Act.readFile path) ((base.host.files.read path).map Text.Utf8.decode) [] := by
  intro s hs
  refine ⟨s, ?_, hs, (List.append_nil _).symm⟩
  rw [← hs.1]
  rfl

theorem readClock (hclock : base.host.ClockStands) :
    Records base Act.readClock base.host.clock [] := by
  intro s hs
  rw [← hclock s.journal.readings, ← hs.1]
  exact ⟨_, rfl, hs, (List.append_nil _).symm⟩

theorem warn (w : Warning) : Records base (Act.warn w) () [] := by
  intro s hs
  exact ⟨_, rfl, hs, (List.append_nil _).symm⟩

end Records

end Recorder

namespace Directive

/-- The lines that stand for an included file; none when its path cannot be the path of a file. -/
def includedLines? (h : Host) (path : Text) : Option (List Text) :=
  match (h.files.read path).map Text.Utf8.decode with
  | .ok t => some (Text.sourceLines t)
  | .error .nul => none
  | .error (.system e) => some [Text.concat ["couldn't open file: ", e.message]]

/-- What a directive asks of a surface, one call after the other; none when it is at fault. -/
def asks? (h : Host) (rest : Text) : Directive → Option (List Op)
  | comment => some []
  | ask op => some [op rest]
  | pause => some [.wait]
  | sleep =>
    match Text.leadingSeconds rest with
    | .ok n => some [.sleep (.whole n)]
    | .error _ => none
  | date => some [.date (some (Calendar.dateText h.clock rest))]
  | includeFile =>
    let path := Text.strip rest
    (includedLines? h path).map fun lines =>
      [.beginOutput, .printLine (some path)] ++ lines.map (.printLine <| some ·) ++ [.endOutput]

def calls? (h : Host) (line : Text) : Option (List Op) :=
  match find? table line with
  | some (_, d, rest) => d.asks? h rest
  | none => some [.printLine (some line)]

open Recorder

variable {base : Stage Recorder}

theorem printLines_records (lines : List Text) :
    Records base (printLines lines) () (lines.map fun line => .asked (.printLine (some line))) := by
  induction lines with
  | nil => exact .pure ()
  | cons line rest ih => exact .bind (.perform _) ih

theorem includedLines_records {path : Text} {lines : List Text}
    (h : includedLines? base.host path = some lines) :
    Records base (includedLines path) lines [] := by
  have hread : Records base (Act.readFile path)
      ((base.host.files.read path).map Text.Utf8.decode) [] := .readFile path
  unfold includedLines? at h
  generalize (base.host.files.read path).map Text.Utf8.decode = content at h hread
  refine .bind_nil hread ?_
  rcases content with fault | t
  · cases fault with
    | nul => cases h
    | system e =>
      cases h
      exact .bind_nil (.warn _) (.pure _)
  · cases h
    exact .pure _

/-- The path of the file is set aside before anything is asked. -/
theorem includeFile_records {rest : Text} {ops : List Op}
    (h : includeFile.asks? base.host rest = some ops) :
    Records base (obey rest includeFile) false (ops.map .asked) := by
  obtain ⟨lines, hlines, rfl⟩ := Option.map_eq_some_iff.1 h
  have hincluded : Records base (modify fun s : Stage Recorder =>
      { s with included := some (Text.strip rest) }) () [] := by
    intro s hs
    exact ⟨_, rfl, hs, (List.append_nil _).symm⟩
  have hall : Records base (obey rest includeFile) false
      ([] ++ ([.asked .beginOutput] ++ ([.asked (.printLine (some (Text.strip rest)))] ++
        ([] ++ (lines.map (fun line => .asked (.printLine (some line))) ++
          ([.asked .endOutput] ++ [])))))) :=
    .bind hincluded (.bind (.perform _) (.bind (.perform _)
      (.bind (includedLines_records hlines)
        (.bind (printLines_records lines) (.bind (.perform _) (.pure false))))))
  simpa [Function.comp_def] using hall

theorem obey_records (hclock : base.host.ClockStands) {d : Directive} {rest : Text}
    {ops : List Op} (h : d.asks? base.host rest = some ops) :
    ∃ answer, Records base (obey rest d) answer (ops.map .asked) := by
  cases d with
  | comment =>
    cases h
    exact ⟨false, .pure false⟩
  | ask op =>
    cases h
    exact ⟨false, .bind (.perform _) (.pure false)⟩
  | pause =>
    cases h
    exact ⟨true, .bind (.perform _) (.pure true)⟩
  | sleep =>
    refine ⟨false, ?_⟩
    simp only [asks?] at h
    rcases hseconds : Text.leadingSeconds rest with fault | n
    · rw [hseconds] at h
      cases h
    · rw [hseconds] at h
      cases h
      unfold obey
      rw [hseconds]
      exact .bind (.perform _) (.pure false)
  | date =>
    cases h
    exact ⟨false, .bind_nil (.readClock hclock) (.bind (.perform _) (.pure false))⟩
  | includeFile =>
    exact ⟨false, includeFile_records h⟩

theorem exists_includedLines? {path : Text} {lines : List Text} {s t : Stage Recorder}
    (h : includedLines path s = .ok lines t) :
    ∃ lines, includedLines? s.host path = some lines := by
  unfold includedLines?
  obtain ⟨content, u, hread, hlines⟩ := Outcome.bind_eq_ok h
  cases hread
  split
  · exact ⟨_, rfl⟩
  · rename_i hnul
    rw [hnul] at hlines
    cases hlines
  · exact ⟨_, rfl⟩

theorem exists_asks? {d : Directive} {rest : Text} {s t : Stage Recorder} {answer : Bool}
    (h : obey rest d s = .ok answer t) : ∃ ops, d.asks? s.host rest = some ops := by
  cases d with
  | comment | ask | pause | date => exact ⟨_, rfl⟩
  | sleep =>
    unfold asks?
    rcases hseconds : Text.leadingSeconds rest with fault | n
    · unfold obey at h
      rw [hseconds] at h
      cases h
    · exact ⟨_, rfl⟩
  | includeFile =>
    obtain ⟨_, s₁, hset, h⟩ := Outcome.bind_eq_ok h
    obtain ⟨_, s₂, hbegin, h⟩ := Outcome.bind_eq_ok h
    obtain ⟨_, s₃, hpath, h⟩ := Outcome.bind_eq_ok h
    obtain ⟨lines, s₄, hlines, -⟩ := Outcome.bind_eq_ok h
    cases hset
    cases hbegin
    cases hpath
    obtain ⟨lines, hincluded⟩ := exists_includedLines? hlines
    exact ⟨_, Option.map_eq_some_iff.2 ⟨lines, hincluded, rfl⟩⟩

/-- On a recorder, the calls of a line are known from the line and the host. -/
theorem dispatch_records (hclock : base.host.ClockStands) {line : Text} {ops : List Op}
    (h : calls? base.host line = some ops) :
    Records base (dispatch (some line)) (isPause line) (ops.map .asked) := by
  have hrecords : ∃ answer, Records base (dispatch (some line)) answer (ops.map .asked) := by
    unfold calls? at h
    simp only [dispatch, dispatchBy]
    rcases hfind : find? table line with - | ⟨m, d, rest⟩
    · rw [hfind] at h
      cases h
      exact ⟨false, .bind (.perform _) (.pure false)⟩
    · rw [hfind] at h
      exact obey_records hclock h
  obtain ⟨answer, hanswer⟩ := hrecords
  intro s hs
  obtain ⟨t, hok, ht⟩ := hanswer s hs
  exact ⟨t, dispatch_answer hok ▸ hok, ht⟩

theorem exists_calls? {line : Text} {s t : Stage Recorder} {answer : Bool}
    (h : dispatch (some line) s = .ok answer t) : ∃ ops, calls? s.host line = some ops := by
  unfold calls?
  simp only [dispatch, dispatchBy] at h
  rcases hfind : find? table line with - | ⟨m, d, rest⟩
  · exact ⟨_, rfl⟩
  · rw [hfind] at h
    exact exists_asks? h

def calls (h : Host) (line : Text) : List Event := ((calls? h line).getD []).map .asked

theorem dispatch_records_calls (hclock : base.host.ClockStands) {line : Text} {answer : Bool}
    {t : Stage Recorder} (h : dispatch (some line) base = .ok answer t) :
    Records base (dispatch (some line)) (isPause line) (calls base.host line) := by
  obtain ⟨ops, hops⟩ := exists_calls? h
  have hcalls : calls base.host line = ops.map .asked := by rw [calls, hops]; rfl
  rw [hcalls]
  exact dispatch_records hclock hops

end Directive

namespace Event

def isUpkeep : Event → Bool
  | .askedConsole .clear => true
  | .askedConsole (.drawStatus ..) => true
  | .asked .refresh => true
  | _ => false

def isNewPage : Event → Bool
  | .asked .newPage => true
  | _ => false

end Event

namespace Directive

theorem table_no_upkeep : ∀ entry ∈ table, ∀ op, entry.2 = ask op → ∀ rest,
    (Event.asked (op rest)).isUpkeep = false := by
  simp [table, Event.isUpkeep]

theorem asks?_no_upkeep {h : Host} {m rest : Text} {d : Directive} {ops : List Op}
    (hmem : (m, d) ∈ table) (hops : d.asks? h rest = some ops) :
    ∀ op ∈ ops, (Event.asked op).isUpkeep = false := by
  cases d with
  | comment =>
    cases hops
    exact nofun
  | ask op =>
    cases hops
    exact List.forall_mem_singleton.2 (table_no_upkeep _ hmem op rfl rest)
  | pause | date =>
    cases hops
    exact List.forall_mem_singleton.2 rfl
  | sleep =>
    simp only [asks?] at hops
    split at hops
    · cases hops
      exact List.forall_mem_singleton.2 rfl
    · cases hops
  | includeFile =>
    obtain ⟨lines, -, rfl⟩ := Option.map_eq_some_iff.1 hops
    intro op hop
    simp only [List.mem_append, List.mem_cons, List.mem_map, List.not_mem_nil, or_false] at hop
    obtain ((rfl | rfl) | ⟨line, -, rfl⟩) | rfl := hop
    · rfl
    · rfl
    · rfl
    · rfl

theorem calls_no_upkeep {h : Host} {line : Text} {e : Event} (he : e ∈ calls h line) :
    e.isUpkeep = false := by
  obtain ⟨op, hop, rfl⟩ := List.mem_map.1 he
  unfold calls? at hop
  split at hop
  · rename_i m d rest hfind
    obtain ⟨hmem, -⟩ := find?_eq_some hfind
    rcases hops : d.asks? h rest with - | ops
    · rw [hops] at hop
      cases hop
    · rw [hops] at hop
      exact asks?_no_upkeep hmem hops op hop
  · obtain rfl := List.mem_singleton.1 hop
    rfl

end Directive

namespace Conversion

open Recorder

variable {base : Stage Recorder}

def Dispatches (base : Stage Recorder) (deck : Deck) : Prop :=
  ∀ page ∈ deck, ∀ line ∈ page.lines,
    ∃ answer t, Directive.dispatch (some line) base = .ok answer t

def pageCalls (h : Host) (page : Page) : List Event := page.lines.flatMap (Directive.calls h)

theorem dispatchLines_records (hclock : base.host.ClockStands) {lines : List Text}
    (h : ∀ line ∈ lines, ∃ answer t, Directive.dispatch (some line) base = .ok answer t) :
    Records base (dispatchLines lines) () (lines.flatMap (Directive.calls base.host)) := by
  induction lines with
  | nil => exact .pure ()
  | cons line rest ih =>
    obtain ⟨answer, t, hline⟩ := h line List.mem_cons_self
    have hrest := ih fun line hmem => h line (List.mem_cons_of_mem _ hmem)
    exact .bind (Directive.dispatch_records_calls hclock hline) hrest

theorem laterPages_records (hclock : base.host.ClockStands) {pages : List Page}
    (h : Dispatches base pages) :
    Records base (laterPages pages) ()
      (pages.flatMap fun page => .asked .newPage :: pageCalls base.host page) := by
  induction pages with
  | nil => exact .pure ()
  | cons page rest ih =>
    have hrest := ih fun page hmem => h page (List.mem_cons_of_mem _ hmem)
    rw [List.flatMap_cons, List.cons_append]
    exact .bind (.perform .newPage)
      (.bind (dispatchLines_records hclock (h page List.mem_cons_self)) hrest)

theorem intercalate_pages (h : Host) (page : Page) (rest : List Page) :
    [Event.asked .newPage].intercalate ((page :: rest).map (pageCalls h)) =
      pageCalls h page ++ rest.flatMap fun page => .asked .newPage :: pageCalls h page := by
  induction rest generalizing page with
  | nil => exact List.intercalate_singleton.trans (List.append_nil _).symm
  | cons next rest ih =>
    rw [List.map_cons, List.map_cons, List.intercalate_cons_cons, ← List.map_cons, ih,
      List.flatMap_cons]
    rw [List.append_assoc]
    rfl

/-- A conversion dispatches every line of every page once, in order, and begins a page between two
pages. -/
theorem run_records (hclock : base.host.ClockStands) {deck : Deck} (h : Dispatches base deck) :
    Records base (run deck) ()
      ([Event.asked .newPage].intercalate (deck.map (pageCalls base.host))) := by
  cases deck with
  | nil => exact .pure ()
  | cons page rest =>
    rw [intercalate_pages]
    have hrest := laterPages_records hclock fun page hmem => h page (List.mem_cons_of_mem _ hmem)
    exact .bind (dispatchLines_records hclock (h page List.mem_cons_self)) hrest

end Conversion

end SlideDeck
