import SlideDeck.Proofs.Outcome
import SlideDeck.Surface.Beamer

/-!
# Outputs of exports

An output is open at a place that can hold a file. Writing to it never fails, and pieces come through
in the order in which they were written (`Progress.Ordered`). The file holds what has come through,
if nothing but this output goes there (`WritesTo`), and so has everything once the output is closed.
-/

namespace SlideDeck

namespace Files

variable {fs : Files} {place : Place}

theorem node?_of_outside (h : place.isPrefixOf fs.home = false) :
    fs.node? place = (fs.nodes.find? (·.1 = place)).map (·.2) := by
  rw [node?, h, if_neg Bool.false_ne_true]

theorem outside_of_node? (h : fs.node? place ≠ some .directory) :
    place.isPrefixOf fs.home = false := by
  rw [Bool.eq_false_iff]
  intro hprefix
  exact h (by rw [node?, if_pos hprefix])

theorem node?_put (node : FileNode) (h : place.isPrefixOf fs.home = false) :
    (fs.put place node).node? place = some node := by
  have hput : place.isPrefixOf (fs.put place node).home = false := h
  rw [node?_of_outside hput]
  simp only [put, List.find?_append]
  have hkept : (fs.nodes.filter (·.1 ≠ place)).find? (·.1 = place) = none := by
    simp [List.find?_eq_none]
  -- The directories on the way are shorter than the place.
  have hparents (ps : List Place) (hps : ∀ p ∈ ps, p.length < place.length) :
      (ps.map fun p => (p, FileNode.directory)).find? (·.1 = place) = none := by
    simp only [List.find?_eq_none, List.mem_map, decide_eq_true_eq]
    rintro _ ⟨p, hp, rfl⟩ rfl
    exact Nat.lt_irrefl _ (hps p hp)
  rw [hkept, hparents _ ?_]
  · simp
  · intro p hp
    obtain ⟨n, hn, rfl⟩ := List.mem_map.1 (List.mem_filter.1 hp).1
    have hlt : n < place.length := List.mem_range.1 (List.mem_of_mem_drop hn)
    exact Nat.lt_of_le_of_lt (List.length_take_le n place) hlt

theorem home_write (content : List UInt8) : (fs.write place content).home = fs.home := by
  unfold write
  split
  · rfl
  · rfl

theorem node?_write (content : List UInt8) (h : place.isPrefixOf fs.home = false) :
    (fs.write place content).node? place =
      if fs.node? place = some .sink then some .sink else some (.file content) := by
  unfold write
  split
  · assumption
  · exact node?_put _ h

theorem home_writeAt (offset : Nat) (bytes : List UInt8) :
    (fs.writeAt place offset bytes).home = fs.home := by
  unfold writeAt
  split
  · split
    · rfl
    · rfl
  · rfl

theorem overwrite_end (content bytes : List UInt8) :
    overwrite content content.length bytes = content ++ bytes := by
  rw [overwrite, Nat.sub_self, List.replicate_zero, List.append_nil, List.take_length,
    List.drop_eq_nil_of_le (Nat.le_add_right _ _), List.append_nil]

/-- Bytes that are written at the end of a file go on there. -/
theorem node?_writeAt_end {content : List UInt8} (bytes : List UInt8)
    (h : place.isPrefixOf fs.home = false) (hnode : fs.node? place = some (.file content)) :
    (fs.writeAt place content.length bytes).node? place = some (.file (content ++ bytes)) := by
  rw [writeAt, hnode]
  dsimp only
  split_ifs with hnone
  · rw [hnode, hnone, List.append_nil]
  · rw [node?_put _ h, overwrite_end]

theorem follow_eq_ok {here : Place} {names : List Text} {node : Option FileNode}
    (h : fs.follow here names = .ok (place, node)) : node = fs.node? place := by
  induction names generalizing here with
  | nil =>
    cases h
    rfl
  | cons name names ih =>
    unfold follow at h
    split at h
    · split at h
      · cases h
      · dsimp only at h
        split at h
        · cases h
          rfl
        · split at h
          · cases h
          · exact ih h
    · cases h

theorem locate_eq_ok {path : Text} {node : Option FileNode}
    (h : fs.locate path = .ok (place, node)) : node = fs.node? place := by
  unfold locate at h
  split at h
  · cases h
  · split at h
    · cases h
    · exact follow_eq_ok h

theorem writable_eq_ok {path : Text} {node : Option FileNode}
    (h : fs.writable path = .ok (place, node)) : fs.node? place ≠ some .directory := by
  unfold writable at h
  dsimp only at h
  split at h
  · rcases hfollow : fs.follow (split fs.home path).1
      (((((split fs.home path).2.reverse.dropWhile (· = [])).drop 1).reverse) ++ [['.']])
      with fault | found
    · rw [hfollow] at h
      cases h
    · rw [hfollow] at h
      cases h
  · rcases hlocate : fs.locate path with fault | ⟨found, what⟩
    · rw [hlocate] at h
      cases h
    · have hnode := locate_eq_ok hlocate
      rw [hlocate] at h
      rcases what with - | (content | - | -)
      · cases h
        exact hnode ▸ nofun
      · cases h
        exact hnode ▸ nofun
      · cases h
      · cases h
        exact hnode ▸ nofun

theorem create_eq_ok {path : Text} {files : Files}
    (h : fs.create path = .ok (place, files)) :
    files = fs.write place [] ∧ place.isPrefixOf fs.home = false := by
  unfold create report at h
  split at h
  · cases h
  · rcases hwritable : fs.writable path with problem | ⟨found, node⟩
    · rw [hwritable] at h
      cases h
    · rw [hwritable] at h
      cases h
      exact ⟨rfl, outside_of_node? (writable_eq_ok hwritable)⟩

end Files

namespace Progress

/-- Of some pieces, those that have passed come first, and of these the ones in the file. -/
def Ordered (p : Progress) (count : Nat) : Prop := p.filed ≤ p.passed ∧ p.passed ≤ count

variable {p : Progress} {count : Nat}

theorem Ordered.pass (h : p.Ordered count) :
    (p.pass count).Ordered count ∧ p.filed ≤ (p.pass count).filed := by
  unfold Ordered Progress.pass at *
  split_ifs <;> dsimp only <;> omega

theorem Ordered.gather (h : p.Ordered count) (bytes : Nat) :
    (p.gather count bytes).Ordered (count + 1) ∧ p.filed ≤ (p.gather count bytes).filed := by
  have hroom : ∃ q : Progress, q.Ordered count ∧ p.filed ≤ q.filed ∧
      p.gather count bytes =
        if q.chunk + bytes < chunkSize then { q with chunk := q.chunk + bytes }
        else { q with chunk := q.chunk + bytes }.pass (count + 1) := by
    by_cases hfits : p.chunk + bytes ≤ chunkSize
    · exact ⟨p, h, Nat.le_refl _, by rw [Progress.gather, if_pos hfits]⟩
    · exact ⟨p.pass count, h.pass.1, h.pass.2, by rw [Progress.gather, if_neg hfits]⟩
  obtain ⟨q, hq, hfiled, hgather⟩ := hroom
  have hlater : { q with chunk := q.chunk + bytes }.Ordered (count + 1) :=
    ⟨hq.1, Nat.le_succ_of_le hq.2⟩
  rw [hgather]
  split_ifs
  · exact ⟨hlater, hfiled⟩
  · exact ⟨hlater.pass.1, hfiled.trans hlater.pass.2⟩

end Progress

namespace Output

variable {o : Output}

/-- The bytes of pieces are those of the one after those of the other. -/
theorem encode_text_append (xs ys : List Text) : Text.Utf8.encode (text (xs ++ ys)) =
    Text.Utf8.encode (text xs) ++ Text.Utf8.encode (text ys) :=
  (congrArg Text.Utf8.encode List.flatMap_append).trans List.flatMap_append

theorem filed_append_pending : o.filed ++ o.pending = Text.Utf8.encode o.content := by
  rw [filed, pending, ← encode_text_append, List.take_append_drop, content]

/-- What comes through with a piece follows what had come through before. -/
theorem filed_push (h : o.progress.Ordered o.written.size) (t : Text) :
    (o.push t).filed = o.filed ++ Text.Utf8.encode (text
      ((o.push t).written.extract o.progress.filed (o.push t).progress.filed).toList) := by
  have hle : o.progress.filed ≤ (o.push t).progress.filed := (h.gather _).2
  have hkept : o.progress.filed ≤ o.written.toList.length := h.1.trans h.2
  have hbefore : o.written.toList.take o.progress.filed =
      ((o.push t).written.toList.take (o.push t).progress.filed).take o.progress.filed := by
    rw [List.take_take, Nat.min_eq_left hle]
    exact (congrArg (List.take _) Array.toList_push).trans (List.take_append_of_le_length hkept)
      |>.symm
  rw [filed, filed, ← encode_text_append, hbefore, Array.toList_extract,
    List.extract_eq_take_drop, ← List.drop_take, List.take_append_drop]

end Output

namespace Export

variable {σ : Type} [Export σ] {clean : Prop} {place : Place} {s t : Stage σ}

/-- A surface whose output is the one that was set last. -/
class Lawful (σ : Type) [Export σ] : Prop where
  output_setOutput (o : Output) (a : σ) : output (setOutput o a) = o

/-- The output is open at a place that can hold a file. When the place was clean, the file there
holds what has come through. -/
structure WritesTo (clean : Prop) (place : Place) (s : Stage σ) : Prop where
  place_eq : (output s.surface).place = some place
  outside : place.isPrefixOf s.host.files.home = false
  ordered : (output s.surface).progress.Ordered (output s.surface).written.size
  held : clean → s.host.files.node? place = some (.file (output s.surface).filed)

theorem WritesTo.of_surface (h : WritesTo clean place s) (hhost : t.host = s.host)
    (hout : output t.surface = output s.surface) : WritesTo clean place t where
  place_eq := hout ▸ h.place_eq
  outside := hhost ▸ h.outside
  ordered := hout ▸ h.ordered
  held := by
    rw [hhost, hout]
    exact h.held

/-- A place may be taken for less clean than it is. -/
theorem WritesTo.weaken {clean' : Prop} (h : WritesTo clean place s) (hclean : clean' → clean) :
    WritesTo clean' place s :=
  { h with held := fun hc => h.held (hclean hc) }

theorem home_flush (o : Output) (fs : Files) : (o.flush fs).home = fs.home := by
  unfold Output.flush
  split
  · exact Files.home_writeAt _ _
  · rfl

/-- Once it is closed, the output is in the file, when the place was clean. -/
theorem closeOutput_ok (h : WritesTo clean place s) :
    ∃ t, closeOutput s = .ok () t ∧
      t.surface = setOutput { output s.surface with place := none } s.surface ∧
      (clean →
        t.host.files.node? place = some (.file (Text.Utf8.encode (output s.surface).content))) := by
  refine ⟨{ s with
    host := { s.host with files := (output s.surface).flush s.host.files }
    surface := setOutput { output s.surface with place := none } s.surface }, ?_, rfl, ?_⟩
  · show EStateM.Result.ok () _ = _
    simp only [h.place_eq, Option.isNone_some, Bool.false_eq_true, if_false]
  · intro hclean
    show ((output s.surface).flush s.host.files).node? place = _
    rw [Output.flush, h.place_eq, ← Output.filed_append_pending]
    exact Files.node?_writeAt_end _ h.outside (h.held hclean)

theorem write_eq {out after : Output} (text : Text) (hout : output s.surface = out)
    (hafter : out.push text = after) (h : out.place = some place) :
    write text s =
      (if out.progress.filed < after.progress.filed then
        modify fun s =>
          let fresh := Output.text
            (after.written.extract out.progress.filed after.progress.filed).toList
          let files := s.host.files.writeAt place out.filed.length (Text.Utf8.encode fresh)
          { s with host := { s.host with files := files } }
      else pure () : Act σ Unit) { s with surface := setOutput after s.surface } := by
  subst hout hafter
  refine (Outcome.bind_ok rfl).trans ?_
  simp only [h]
  exact Outcome.bind_ok rfl

theorem lettering_of_write {text : Text} (h : WritesTo clean place s)
    (hwrite : write text s = .ok () t) : t.host.lettering = s.host.lettering := by
  rw [write_eq text rfl rfl h.place_eq] at hwrite
  split at hwrite
  · cases hwrite
    rfl
  · cases hwrite
    rfl

theorem lettering_of_openOutput (h : openOutput s = .ok () t) :
    t.host.lettering = s.host.lettering := by
  unfold openOutput at h
  obtain ⟨_, _, hget, h⟩ := Outcome.bind_eq_ok h
  cases hget
  dsimp only at h
  rcases hcreate : s.host.files.create (output s.surface).path with fault | ⟨place, files⟩
  · rw [hcreate] at h
    cases h
  · rw [hcreate] at h
    cases h
    rfl

variable [Lawful σ]

/-- A place is clean when nothing was open before the opening, and when it keeps what it takes. -/
theorem openOutput_eq_ok (h : openOutput s = .ok () t) :
    ∃ place, WritesTo ((output s.surface).place = none ∧ s.host.files.node? place ≠ some .sink)
        place t ∧
      t.surface =
        setOutput { path := (output s.surface).path, place := some place } s.surface := by
  unfold openOutput at h
  obtain ⟨_, _, hget, h⟩ := Outcome.bind_eq_ok h
  cases hget
  dsimp only at h
  rcases hcreate : s.host.files.create (output s.surface).path with fault | ⟨place, files⟩
  · rw [hcreate] at h
    cases h
  · rw [hcreate] at h
    cases h
    obtain ⟨rfl, houtside⟩ := Files.create_eq_ok hcreate
    refine ⟨place, ?_, rfl⟩
    constructor
    · exact congrArg Output.place (Lawful.output_setOutput _ _)
    · exact (home_flush _ _).symm ▸ (Files.home_write []).symm ▸ houtside
    · rw [Lawful.output_setOutput]
      exact ⟨Nat.le_refl 0, Nat.zero_le _⟩
    · rintro ⟨hclosed, hkept⟩
      rw [Lawful.output_setOutput, Output.flush, hclosed]
      have hnode := Files.node?_write [] houtside
      rw [if_neg hkept] at hnode
      exact hnode

theorem write_ok (text : Text) (h : WritesTo clean place s) :
    ∃ t, write text s = .ok () t ∧ WritesTo clean place t ∧
      t.surface = setOutput ((output s.surface).push text) s.surface := by
  have hfiled := Output.filed_push h.ordered text
  obtain ⟨hordered, hle⟩ := h.ordered.gather ((Text.Utf8.encode text).length + 1)
  have hsize : ((output s.surface).push text).written.size = (output s.surface).written.size + 1 :=
    Array.size_push _
  rw [write_eq text rfl rfl h.place_eq]
  split_ifs with hmore
  · refine ⟨_, rfl, ⟨?_, ?_, ?_, fun hclean => ?_⟩, rfl⟩
    · exact (congrArg Output.place (Lawful.output_setOutput _ _)).trans h.place_eq
    · exact (Files.home_writeAt _ _).symm ▸ h.outside
    · rw [Lawful.output_setOutput, hsize]
      exact hordered
    · rw [Lawful.output_setOutput, hfiled]
      exact Files.node?_writeAt_end _ h.outside (h.held hclean)
  · refine ⟨_, rfl, ⟨?_, h.outside, ?_, fun hclean => ?_⟩, rfl⟩
    · exact (congrArg Output.place (Lawful.output_setOutput _ _)).trans h.place_eq
    · rw [Lawful.output_setOutput, hsize]
      exact hordered
    · have hsame : ((output s.surface).push text).progress.filed =
          (output s.surface).progress.filed := Nat.le_antisymm (not_lt.1 hmore) hle
      rw [Lawful.output_setOutput, hfiled, hsame, Array.extract_empty_of_stop_le_start
        (Nat.le_refl _)]
      exact (h.held hclean).trans (congrArg (some ∘ FileNode.file) (List.append_nil _).symm)

end Export

end SlideDeck
