import SlideDeck.Presenter.Action
import SlideDeck.Proofs.Screen.Row
import SlideDeck.Proofs.Screen.Twins

/-!
# The edges of a screen

A terminal may refuse what is drawn or moved to at its edges, and some terminals refuse to hide the
cursor or to reset their attributes. None of this is to be noticed: whatever is asked of a screen on
such a terminal, the answers, the calls and the screen itself are those on a terminal without edges
that refuses nothing. No text that is drawn reaches beyond the edges, either.
-/

namespace SlideDeck

/-- Functions of a terminal that a screen does without when they are refused. -/
def TerminalFunction.isForgiven : TerminalFunction → Bool
  | drawText | moveTo | showCursor | setAttributes => true
  | _ => false

theorem TerminalCall.not_forgiven_of_isPlain {c : TerminalCall} (hc : c.isPlain = true)
    {f : TerminalFunction} (hf : c.function? = some f) : f.isForgiven = false := by
  cases c <;> cases hf <;> first | rfl | cases hc

/-- Every refusal is of no account. -/
def Host.Lenient (h : Host) : Prop := ∀ f, h.refuses f = true → f.isForgiven = true

theorem Host.Lenient.accepts {h : Host} (hlenient : h.Lenient) {f : TerminalFunction}
    (hf : f.isForgiven = false) : h.refuses f = false := by
  rw [Bool.eq_false_iff]
  intro hrefuses
  rw [hlenient f hrefuses] at hf
  cases hf

theorem Host.Lenient.takesAnyText {h : Host} (hlenient : h.Lenient) : h.TakesAnyText :=
  hlenient.accepts rfl

/-- The same host with a terminal that has no edges and refuses nothing. -/
def Host.obliging (h : Host) : Host := { h with refuses := fun _ => false, edged := false }

theorem Host.obliging_takesAnyText (h : Host) : h.obliging.TakesAnyText := rfl

/-- A text that is drawn lies between the edges. -/
def Event.Inside (rows columns : Int) : Event → Prop
  | .terminal (.drawText y x t) => 0 ≤ y ∧ y < rows ∧ 0 ≤ x ∧ x + t.length ≤ columns
  | _ => True

namespace Screen

open Act Outcome

def obliging (s : Stage Screen) : Stage Screen := { s with host := s.host.obliging }

theorem obliging_journal (s : Stage Screen) : (obliging s).journal = s.journal := rfl

theorem obliging_surface (s : Stage Screen) : (obliging s).surface = s.surface := rfl

theorem obliging_pauseFault (s : Stage Screen) (e : Delay) :
    (obliging s).host.pauseFault? (obliging s).journal.pauses e =
      s.host.pauseFault? s.journal.pauses e := rfl

theorem obliging_lettering (s : Stage Screen) :
    (obliging s).host.lettering = s.host.lettering := rfl

theorem obliging_typed (s : Stage Screen) : (obliging s).host.typed = s.host.typed := rfl

/-- A run on a terminal and one on an obliging terminal at the same point: the screen has a size and
a typing delay, and the journal has the events from before and others that lie inside. -/
structure Alike (past : List Event) (rows columns : Int) (d : Delay) (s t : Stage Screen) :
    Prop where
  obliging : t = obliging s
  lenient : s.host.Lenient
  rows_eq : s.surface.rows = rows
  columns_eq : s.surface.columns = columns
  typeDelay_eq : s.surface.typeDelay = d
  inside : ∃ added, s.journal.events.toList = past ++ added ∧
    ∀ e ∈ added, e.Inside rows columns

variable {past : List Event} {rows columns : Int} {d : Delay} {s t : Stage Screen} {α : Type}

theorem Alike.noted (h : Alike past rows columns d s t) {e : Event} (he : e.Inside rows columns) :
    Alike past rows columns d (noted s e) (noted t e) := by
  obtain ⟨added, hevents, hinside⟩ := h.inside
  obtain rfl := h.obliging
  refine ⟨rfl, h.lenient, h.rows_eq, h.columns_eq, h.typeDelay_eq, added ++ [e], ?_, ?_⟩
  · rw [← List.append_assoc, ← hevents]
    exact Array.toList_push
  · intro e' he'
    rcases List.mem_append.1 he' with hold | hnew
    · exact hinside e' hold
    · rw [List.mem_singleton.1 hnew]
      exact he

/-- A change of the stage that an obliging terminal makes no difference to, and that leaves alone
the events and the size. -/
structure Indifferent (f : Stage Screen → Stage Screen) : Prop where
  obliging : ∀ s, f (Screen.obliging s) = Screen.obliging (f s) := by exact fun _ => rfl
  refuses : ∀ s, (f s).host.refuses = s.host.refuses := by exact fun _ => rfl
  events : ∀ s, (f s).journal.events = s.journal.events := by exact fun _ => rfl
  rows : ∀ s, (f s).surface.rows = s.surface.rows := by exact fun _ => rfl
  columns : ∀ s, (f s).surface.columns = s.surface.columns := by exact fun _ => rfl
  typeDelay : ∀ s, (f s).surface.typeDelay = s.surface.typeDelay := by exact fun _ => rfl

theorem Alike.changed (h : Alike past rows columns d s t) {f : Stage Screen → Stage Screen}
    (hf : Indifferent f) : Alike past rows columns d (f s) (f t) := by
  obtain rfl := h.obliging
  obtain ⟨added, hadded, hinside⟩ := h.inside
  have hlenient : (f s).host.Lenient := by
    unfold Host.Lenient
    rw [hf.refuses s]
    exact h.lenient
  exact ⟨hf.obliging s, hlenient, (hf.rows s).trans h.rows_eq, (hf.columns s).trans h.columns_eq,
    (hf.typeDelay s).trans h.typeDelay_eq, added,
    (congrArg Array.toList (hf.events s)).trans hadded, hinside⟩

theorem alike_modify {f : Stage Screen → Stage Screen} (hf : Indifferent f) :
    Parallel (Alike past rows columns d) Eq (modify f : Act Screen Unit) (modify f) :=
  .modify fun _ _ h => h.changed hf

theorem alike_modifyGet {f : Stage Screen → α × Stage Screen}
    (hvalue : ∀ s, (f (obliging s)).1 = (f s).1) (hf : Indifferent fun s => (f s).2) :
    Parallel (Alike past rows columns d) Eq (modifyGet f : Act Screen α) (modifyGet f) := by
  intro s t h
  have hsame : (f s).1 = (f t).1 := by
    rw [h.obliging]
    exact (hvalue s).symm
  exact .ok hsame (h.changed hf)

theorem alike_note {e : Event} (he : e.Inside rows columns) :
    Parallel (Alike past rows columns d) Eq (note e) (note e) :=
  .modify fun _ _ h => h.noted he

theorem alike_accepted {c : TerminalCall}
    (hc : ∀ f, c.function? = some f → f.isForgiven = false) :
    Parallel (Alike past rows columns d) Eq (call c) (call c) := by
  intro s t h
  have hoff (h : Host) : h.offScreen c = false := by
    cases c with
    | drawText y x t => exact absurd (hc _ rfl) nofun
    | moveTo y x => exact absurd (hc _ rfl) nofun
    | _ => rfl
  have hinside : (Event.terminal c).Inside rows columns := by
    cases c with
    | drawText y x t => exact absurd (hc _ rfl) nofun
    | _ => trivial
  have hs : call c s = .ok () (noted s (.terminal c)) :=
    call_ok (Host.rejection?_eq_none (h.lenient.takesAnyText.takes _) (hoff _) fun f hf =>
      h.lenient.accepts (hc f hf))
  have ht : call c t = .ok () (noted t (.terminal c)) := by
    obtain rfl := h.obliging
    exact call_ok (Host.rejection?_eq_none (s.host.obliging_takesAnyText.takes _) (hoff _)
      fun _ _ => rfl)
  rw [hs, ht]
  exact .ok rfl (h.noted hinside)

/-- A call that is forgiven comes to its end on both terminals. -/
theorem alike_forgiven {c : TerminalCall} (hinside : (Event.terminal c).Inside rows columns) :
    Parallel (Alike past rows columns d) Eq (tolerant (call c)) (tolerant (call c)) := by
  intro s t h
  have ht : t.host.TakesAnyText := h.obliging ▸ s.host.obliging_takesAnyText
  rw [tolerant_call (h.lenient.takesAnyText.takes _), tolerant_call (ht.takes _)]
  exact .ok rfl (h.noted hinside)

theorem alike_drawAt (y x : Int) (text : Text) :
    Parallel (Alike past rows columns d) Eq (drawAt y x text) (drawAt y x text) := by
  intro s t h
  rw [drawAt_eq, drawAt_eq, h.obliging, obliging_surface, ← h.obliging]
  by_cases hoff : text = [] ∨ y < 0 ∨ s.surface.rows ≤ y
  · rw [if_pos hoff]
    exact .ok rfl h
  · rw [if_neg hoff]
    by_cases hroom : s.surface.columns - max 0 x ≤ 0
    · rw [if_pos hroom]
      exact .ok rfl h
    · rw [if_neg hroom]
      refine alike_forgiven ?_ s t h
      rw [h.rows_eq] at hoff
      rw [h.columns_eq] at hroom ⊢
      have hlength := List.length_take_le (columns - max 0 x).toNat
        (if x < 0 then text.drop (-x).toNat else text)
      have hplace : 0 ≤ max 0 x := le_max_left 0 x
      unfold Event.Inside
      omega

theorem alike_get {f g : Stage Screen → Act Screen α} {V : α → α → Prop}
    (h : ∀ s, Parallel (Alike past rows columns d) V (f s) (g (obliging s))) :
    Parallel (Alike past rows columns d) V (get >>= f) (get >>= g) := by
  refine .get_bind fun s t hst => ?_
  have hnext := h s s t hst
  rw [← hst.obliging] at hnext
  exact hnext

theorem alike_pause (e : Delay) :
    Parallel (Alike past rows columns d) Eq (pause e) (pause e) := by
  refine .andThen (alike_note trivial) fun _ => alike_get fun s => ?_
  rw [obliging_pauseFault]
  have hwaited : Parallel (Alike past rows columns d) Eq (do
      modify fun s => { s with journal := { s.journal with pauses := s.journal.pauses + 1 } }
      let s ← get
      if s.host.interruptAt = some s.journal.pauses then throw .interrupted : Act Screen Unit) (do
      modify fun s => { s with journal := { s.journal with pauses := s.journal.pauses + 1 } }
      let s ← get
      if s.host.interruptAt = some s.journal.pauses then throw .interrupted) :=
    .andThen (alike_modify {}) fun _ => alike_get fun _ => .ite (.throw _) (.pure rfl)
  split
  · exact .andThen (.throw _) fun _ => hwaited
  · exact hwaited

theorem alike_typePause : Parallel (Alike past rows columns d) Eq (typePause d) (typePause d) := by
  refine .andThen (alike_modifyGet (fun _ => rfl) {}) fun n => ?_
  cases d.typing? n with
  | none => exact .throw _
  | some delay => exact alike_pause delay

theorem alike_saveScreen (r c : Int) :
    Parallel (Alike past rows columns d) Eq (saveScreen r c) (saveScreen r c) :=
  .andThen (alike_accepted fun f hf => by cases hf; rfl) fun _ => alike_get fun _ =>
    .andThen (alike_modify {}) fun _ => .andThen (alike_accepted nofun) fun _ => .pure rfl

theorem alike_warn (w : Warning) : Parallel (Alike past rows columns d) Eq (warn w) (warn w) :=
  alike_modify {}

theorem alike_render (text font : Text) (width : Int) :
    Parallel (Alike past rows columns d) Eq (HugeText.render text font width)
      (HugeText.render text font width) := by
  have hchoose (width : Nat) : Parallel (Alike past rows columns d) Eq
      (HugeText.chooseFont font width) (HugeText.chooseFont font width) := by
    refine alike_get fun s => ?_
    rw [obliging_journal]
    split
    · exact .pure rfl
    · exact .iteThen (alike_warn _) (.andThen (alike_modify {}) fun _ => .pure rfl)
  refine .andThen (hchoose _) fun _ => alike_get fun s => ?_
  rw [obliging_lettering]
  exact .iteThen (.throw _) (.pure rfl)

theorem alike_runAttached (command : Text) :
    Parallel (Alike past rows columns d) Eq (Command.runAttached command)
      (Command.runAttached command) := by
  have houtcome : Parallel (Alike past rows columns d) Eq (Command.outcome command)
      (Command.outcome command) := alike_get fun s => .iteThen (.throw _) (.pure rfl)
  refine .andThen (alike_note trivial) fun _ => .andThen houtcome fun outcome => ?_
  split
  · exact .andThen (alike_warn _) fun _ => .pure rfl
  · exact .pure rfl

theorem alike_readTyped (y x : Int) (bytes : Nat) :
    Parallel (Alike past rows columns d) Eq (readTyped y x bytes) (readTyped y x bytes) := by
  refine .andThen (alike_accepted fun f hf => by cases hf; rfl) fun _ => alike_modifyGet ?_ {
    obliging := fun s => ?_
    refuses := fun s => ?_
    events := fun s => ?_
    rows := fun s => ?_
    columns := fun s => ?_
    typeDelay := fun s => ?_ }
  · intro s
    rw [obliging_typed]
    split <;> rfl
  · rw [obliging_typed]
    split <;> rfl
  all_goals split <;> rfl

/-- On the way between the requests that tell a screen its size, the two runs are twins. -/
theorem alike_twins : PageTwins (Alike past rows columns d) Eq d where
  looks {s t} h := ⟨s.surface.side, by rw [h.obliging, obliging_surface], fun _ => rfl⟩
  typeDelay h := h.typeDelay_eq
  change hf := alike_modify {
    rows := fun s => hf.rows s.surface
    columns := fun s => hf.columns s.surface
    typeDelay := fun s => hf.typeDelay s.surface }
  drawAt := alike_drawAt
  move y x := alike_forgiven trivial
  call c hc := alike_accepted fun f hf => c.not_forgiven_of_isPlain hc hf
  save := alike_saveScreen
  copy v w hw := hw ▸ alike_accepted nofun
  pause := alike_pause
  typePause := alike_typePause
  beginSlide side := alike_modify {}
  endSlide := alike_modify {}
  warn := alike_warn
  render := alike_render
  attached := alike_runAttached

/-! ### Requests -/

/-- What comes back from a request to a screen. -/
inductive Answer where
  | done
  | page (number : Option Int)
  | saved (window : Window)
  | key (action : Action)

def Operation.answer : Operation → Act Screen Answer
  | askPageNumber titles current => do
    return .page (← Console.askPageNumber titles current)
  | storeScreen => do
    return .saved (← Console.storeScreen)
  | o => do
    o.run
    return .done

/-- What may happen to a screen: it is asked for an operation, for the action of a key, or to leave
the terminal, or the terminal takes on another size. -/
inductive Request where
  | operate (o : Operation)
  | readKey (code : Int)
  | close
  | resize (rows columns : Int)

def Request.act : Request → Act Screen Answer
  | operate o => o.answer
  | readKey code => return .key (Action.ofKey code)
  | close => do
    closeTerminal
    return .done
  | resize rows columns => do
    modify fun s => { s with host := { s.host with rows := rows, columns := columns } }
    return .done

def after (s : Stage Screen) (rs : List Request) : Stage Screen :=
  rs.foldl (fun s r => state (r.act s)) s

/-- All that is known of a request from outside: the answer or the fault, the journal with every
call, and the screen. -/
def reply : EStateM.Result Fault (Stage Screen) Answer → Except Fault Answer × Journal × Screen
  | .ok a s => (.ok a, s.journal, s.surface)
  | .error fault s => (.error fault, s.journal, s.surface)

/-- What a request leads to in two runs at the same point: again the same point, where what was
drawn since lies inside the size that the screen had and inside the size that it has. -/
structure Followed (s u v : Stage Screen) : Prop where
  obliging : v = Screen.obliging u
  lenient : u.host.Lenient
  inside : ∃ added, u.journal.events.toList = s.journal.events.toList ++ added ∧
    ∀ e ∈ added, e.Inside s.surface.rows s.surface.columns ∧
      e.Inside u.surface.rows u.surface.columns

theorem Alike.start (h : s.host.Lenient) :
    Alike s.journal.events.toList s.surface.rows s.surface.columns s.surface.typeDelay s
      (Screen.obliging s) :=
  ⟨rfl, h, rfl, rfl, rfl, [], (List.append_nil _).symm, nofun⟩

theorem Alike.followed {u v : Stage Screen} (h : Alike s.journal.events.toList s.surface.rows
    s.surface.columns s.surface.typeDelay u v) : Followed s u v := by
  obtain ⟨added, hadded, hinside⟩ := h.inside
  refine ⟨h.obliging, h.lenient, added, hadded, fun e he => ⟨hinside e he, ?_⟩⟩
  rw [h.rows_eq, h.columns_eq]
  exact hinside e he

theorem followed_of_parallel {x : Act Screen Answer} (hs : s.host.Lenient)
    (hx : Parallel (Alike s.journal.events.toList s.surface.rows s.surface.columns
      s.surface.typeDelay) Eq x x) : Matched (Followed s) Eq (x s) (x (obliging s)) :=
  (hx s (obliging s) (.start hs)).mono fun _ _ => Alike.followed

theorem followed_done {x : Act Screen Unit} (hs : s.host.Lenient)
    (hx : Parallel (Alike s.journal.events.toList s.surface.rows s.surface.columns
      s.surface.typeDelay) Eq x x) :
    Matched (Followed s) Eq ((do x; return .done : Act Screen Answer) s)
      ((do x; return .done : Act Screen Answer) (obliging s)) :=
  followed_of_parallel hs (.andThen hx fun _ => .pure rfl)

theorem alike_readAnswer : Parallel (Alike past rows columns d) Eq readAnswer readAnswer := by
  refine alike_twins.surface fun b x _ => .andThen (alike_twins.call _ rfl) fun _ =>
    .andThen (Twins.tryFinally (.tryCatch (alike_readTyped _ _ _) fun fault => ?_)
      (alike_twins.call _ rfl)) fun _ => .pure rfl
  split
  · exact .pure rfl
  · exact .throw _

theorem alike_askPageNumber (titles : List Text) (current : Int) :
    Parallel (Alike past rows columns d) Eq (askPageNumber titles current)
      (askPageNumber titles current) := by
  refine .andThen (alike_twins.call _ rfl) fun _ => .andThen (alike_twins.drawEntries _ _ _ _ _)
    fun _ => alike_twins.surface fun b x _ => .andThen (alike_drawAt _ _ _) fun _ =>
      .andThen alike_readAnswer fun answer => .andThen (alike_drawAt _ _ _) fun _ =>
        .ite (.pure rfl) ?_
  split
  · exact .pure rfl
  · exact .throw _

theorem alike_openTerminal :
    Parallel (Alike past rows columns d) Eq openTerminal openTerminal :=
  .andThen (alike_forgiven trivial) fun _ => .andThen (alike_twins.call _ rfl) fun _ =>
    .andThen (alike_twins.call _ rfl) fun _ => .andThen (alike_twins.call _ rfl) fun _ =>
      .andThen (alike_twins.setBackground _) fun _ =>
        alike_twins.surface fun _ _ _ => alike_twins.applyStyle _

theorem alike_closeTerminal :
    Parallel (Alike past rows columns d) Eq closeTerminal closeTerminal :=
  alike_twins.surface fun _ _ _ => .ite (.pure rfl)
    (.andThen (alike_twins.change {}) fun _ =>
      alike_forgiven trivial)

/-- A new page draws nothing, so that the size may change. -/
theorem followed_newPage (hs : s.host.Lenient) :
    Matched (Followed s) Eq ((Operation.perform .newPage).answer s)
      ((Operation.perform .newPage).answer (obliging s)) := by
  have hanswer (s : Stage Screen) : (Operation.perform .newPage).answer s =
      .ok .done { noted s (.terminal .clear) with surface := s.surface.atTop s.host } :=
    bind_ok (perform_newPage s)
  rw [hanswer, hanswer]
  refine .ok rfl ⟨rfl, hs, [.terminal .clear], Array.toList_push, fun e he => ?_⟩
  rw [List.mem_singleton.1 he]
  exact ⟨trivial, trivial⟩

theorem Operation.answer_followed (o : Operation) (hs : s.host.Lenient) :
    Matched (Followed s) Eq (o.answer s) (o.answer (Screen.obliging s)) := by
  cases o with
  | perform op =>
    by_cases hop : op = .newPage
    · rw [hop]
      exact followed_newPage hs
    · exact followed_done hs (alike_twins.perform hop)
  | drawStatus number count ended title =>
    exact followed_done hs (alike_twins.drawStatus number count ended title)
  | clear =>
    exact followed_done hs (.andThen (alike_twins.call _ rfl) fun _ => alike_twins.call _ rfl)
  | showHelp => exact followed_done hs alike_twins.showHelp
  | askPageNumber titles current =>
    exact followed_of_parallel hs (.andThen (alike_askPageNumber _ _) fun _ => .pure rfl)
  | storeScreen =>
    exact followed_of_parallel hs (.andThen alike_twins.store fun _ => .pure rfl)
  | restoreScreen saved => exact followed_done hs (alike_twins.restore rfl)
  | updateSize => exact .ok rfl ⟨rfl, hs, [], (List.append_nil _).symm, nofun⟩
  | reopen => exact followed_done hs alike_openTerminal

/-- One request, on a lenient terminal and on an obliging one. -/
theorem Request.act_followed (r : Request) (hs : s.host.Lenient) :
    Matched (Followed s) Eq (r.act s) (r.act (Screen.obliging s)) := by
  cases r with
  | operate o => exact o.answer_followed hs
  | readKey code => exact followed_of_parallel hs (.pure rfl)
  | close => exact followed_done hs alike_closeTerminal
  | resize rows columns => exact .ok rfl ⟨rfl, hs, [], (List.append_nil _).symm, nofun⟩

/-- Requests one after the other. -/
theorem after_obliging (hs : s.host.Lenient) (rs : List Request) :
    after (obliging s) rs = obliging (after s rs) ∧ (after s rs).host.Lenient := by
  induction rs generalizing s with
  | nil => exact ⟨rfl, hs⟩
  | cons r rs ih =>
    have hstep : Followed s (state (r.act s)) (state (r.act (obliging s))) :=
      (r.act_followed hs).state_related
    have hrest := ih hstep.lenient
    rw [← hstep.obliging] at hrest
    exact hrest

theorem reply_eq_of_matched {x y : EStateM.Result Fault (Stage Screen) Answer}
    (h : Matched (Followed s) Eq x y) : reply x = reply y := by
  cases h with
  | ok hvalue hstate =>
    rw [hvalue, hstate.obliging]
    rfl
  | error fault hstate =>
    rw [hstate.obliging]
    rfl

/-- The screen knows the size of its terminal. -/
def SizeKnown (s : Stage Screen) : Prop :=
  s.surface.rows = s.host.rows ∧ s.surface.columns = s.host.columns

/-- Whatever is asked of a screen whose terminal refuses nothing but what a screen does without, and
whatever the terminal refuses at its edges: at every point the next request has the answer or the
fault, the calls and the screen that it has on a terminal without edges that refuses nothing. If
the screen knows the size of its terminal, before the request or since, all that it draws lies
inside. -/
theorem edges_unnoticed (hs : s.host.Lenient) (past : List Request) (r : Request) :
    reply (r.act (after s past)) = reply (r.act (after (obliging s) past)) ∧
      ∃ added, (state (r.act (after s past))).journal.events.toList =
          (after s past).journal.events.toList ++ added ∧
        ∀ b, b = after s past ∨ b = state (r.act (after s past)) → SizeKnown b →
          ∀ y x t, .terminal (.drawText y x t) ∈ added →
            0 ≤ y ∧ y < b.host.rows ∧ 0 ≤ x ∧ x + t.length ≤ b.host.columns := by
  obtain ⟨hafter, hlenient⟩ := after_obliging hs past
  have hstep := r.act_followed hlenient
  rw [hafter]
  refine ⟨reply_eq_of_matched hstep, ?_⟩
  obtain ⟨added, hadded, hinside⟩ := hstep.state_related.inside
  refine ⟨added, hadded, fun b hb hknown y x t hdrawn => ?_⟩
  obtain ⟨hbefore, hsince⟩ := hinside _ hdrawn
  rw [← hknown.1, ← hknown.2]
  rcases hb with rfl | rfl
  · exact hbefore
  · exact hsince

/-- A terminal of two rows that draws nothing and never moves its cursor: a header is asked for once
the screen knows the size. -/
theorem edges_unnoticed_header :
    let host : Host := { Host.quiet with refuses := TerminalFunction.isForgiven }
    let s : Stage Screen := ⟨host, {}, start host (.whole 0) (.whole 0) "standard", none⟩
    let past : List Request := [.operate .reopen, .resize 2 4, .operate .updateSize]
    let header : Request := .operate (.perform (.header "ab"))
    host.Lenient ∧ host.refuses .drawText = true ∧ SizeKnown (after s past) ∧
      (∃ j b, reply (header.act (after s past)) = (.ok .done, j, b) ∧
        reply (header.act (after (obliging s) past)) = (.ok .done, j, b)) ∧
      ∃ added, (state (header.act (after s past))).journal.events.toList =
          (after s past).journal.events.toList ++ added ∧
        ∀ (y x : Int) (t : Text), .terminal (.drawText y x t) ∈ added →
          0 ≤ y ∧ y < 2 ∧ 0 ≤ x ∧ x + t.length ≤ 4 := by
  intro host s past header
  have hlenient : host.Lenient := fun _ h => h
  have hknown : SizeKnown (after s past) := ⟨rfl, rfl⟩
  obtain ⟨hsame, added, hadded, hinside⟩ := @edges_unnoticed s hlenient past header
  obtain ⟨j, b, hreply⟩ : ∃ j b, reply (header.act (after s past)) = (.ok .done, j, b) :=
    ⟨_, _, rfl⟩
  exact ⟨hlenient, rfl, hknown, ⟨j, b, hreply, hsame.symm.trans hreply⟩, added, hadded,
    hinside _ (.inl rfl) hknown⟩

end Screen

end SlideDeck
