import Mathlib.Data.List.TakeWhile
import StudyProject.Transcode.Links
import StudyProject.Transcode.Numbers

/-! The chain over whole runs: it stays intact exactly as long as workers drop linked frames only,
and as long as it does, the frames reach the encoder in the order in which they came in. -/

namespace StudyProject.Transcode

open StudyProject.Library StudyProject.Library.Machine Framebuffer

variable {cfg : Config} {s t : Pipeline} {e : Event} {p : Nat} {r : Option Nat} {xs : List Nat}

theorem Framebuffer.Unmoved.idOf {s t : Framebuffer} (h : s.Unmoved t) (p : Nat) :
    t.idOf p = s.idOf p := by
  rw [Framebuffer.idOf, Framebuffer.idOf, ← content_id, frame_content, h.contents, ← frame_content,
    content_id]

theorem idOf_restatus {s t : Framebuffer} {status : TCFrameStatus} {d : Nat}
    (h : s.Recounted t p ({ · with status }) d) (q : Nat) : t.idOf q = s.idOf q := by
  by_cases at_q : q = p
  · rw [at_q, h.idOf_self]
    rfl
  · exact h.idOf_ne at_q

/-- What a step makes of the ids along the chain: some may go, a new one may come to the end, or a
second one behind the first. -/
inductive Goes (count : Nat) (is js : List Nat) : Prop
  | leave (h : js.Sublist is)
  | enter (h : js = is ++ [count])
  | twice (before : List Nat) (i : Nat) (after : List Nat) (old : is = before ++ i :: after)
      (new : js = before ++ i :: i :: after)

theorem Goes.same {count : Nat} {s t : Framebuffer} (id : ∀ p, t.idOf p = s.idOf p)
    (xs : List Nat) : Goes count (xs.map s.idOf) (xs.map t.idOf) :=
  .leave (by rw [List.map_congr_left fun p _ => id p])

theorem Goes.sublist {count : Nat} {s t : Framebuffer} {ys : List Nat}
    (id : ∀ p, t.idOf p = s.idOf p) (sub : ys.Sublist xs) :
    Goes count (xs.map s.idOf) (ys.map t.idOf) :=
  .leave (by rw [List.map_congr_left fun p _ => id p]; exact sub.map _)

/-- An effect keeps the chain, if only linked frames are dropped. -/
theorem Effect.chained (sound : Sound s) (h : Chained s.buffer xs) (effect : Effect s t r)
    (linked : ∀ p, r = some p → Linked s.buffer p) :
    ∃ ys, Chained t.buffer ys ∧
      Goes s.framecount (xs.map s.buffer.idOf) (ys.map t.buffer.idOf) := by
  obtain ⟨ring, owned, -⟩ := sound
  cases effect with
  | quiet buffer =>
    rw [buffer]
    exact ⟨xs, h, .same (fun _ => rfl) xs⟩
  | starved m lt used buffer =>
    rw [buffer]
    exact ⟨xs, ⟨h.toThreaded.same (fun _ _ => rfl) (fun _ _ => rfl) rfl rfl, h.used⟩,
      .same (fun _ => rfl) xs⟩
  | registers p m bound lt free buffer =>
    have moved := register_recounted ring bound lt free s.framecount
    rw [buffer]
    refine ⟨xs ++ [p], h.register ring bound lt free _, .enter ?_⟩
    rw [List.map_append, List.map_singleton, moved.idOf_self]
    congr 1
    exact List.map_congr_left fun q mem => moved.idOf_ne fun same => h.not_mem free (same ▸ mem)
  | fills p a status pushed before buffer =>
    have empty : s.buffer.status p = .empty := owned.stage_head before
    have used : status ≠ .null := by rcases pushed with rfl | ⟨rfl, -⟩ <;> simp
    have moved := fill_recounted empty a used
    have marked := h.modify p fun _ => a
    have unmoved := setAttributes_unmoved s.buffer p a
    have filled : (setAttributes s.buffer p a).status p ≠ .null := by simp [unmoved.status, empty]
    rw [buffer]
    exact ⟨xs, marked.restated (pushNext_restated filled used) filled used,
      .same (idOf_restatus moved) xs⟩
  | marks th p a mem buffer =>
    rw [buffer]
    exact ⟨xs, h.modify p fun _ => a, .same (setAttributes_unmoved ..).idOf xs⟩
  | reserves n p buffer =>
    obtain ⟨waits, restated⟩ := reserve_some buffer
    exact ⟨xs, h.restated restated (by simp [waits]) (by simp),
      .same (idOf_restatus restated.recounted) xs⟩
  | dups n p q m bound lt free before buffer =>
    have locked : s.buffer.status p = .locked := owned.stage_head before
    have mem : p ∈ xs := (h.used p).mpr (by simp [locked])
    have moved := clone_recounted ring bound lt free locked
    obtain ⟨pre, post, rfl⟩ := List.append_of_mem mem
    have others (x : Nat) (mem : x ∈ pre ++ p :: post) : (markClone (listFrameLink (frameCopy
        (s.buffer.claimed q m) q p) q p) p q).idOf x = s.buffer.idOf x :=
      moved.idOf_ne fun same => h.not_mem free (same ▸ mem)
    rw [buffer]
    refine ⟨pre ++ p :: q :: post, (h.clone ring bound lt free locked).markClone p q,
      .twice (pre.map s.buffer.idOf) (s.buffer.idOf p) (post.map s.buffer.idOf) (by simp) ?_⟩
    rw [List.map_append, List.map_cons, List.map_cons, moved.idOf_self, content_id,
      List.map_congr_left fun x mem => others x (by simp [mem]), others p (by simp),
      List.map_congr_left fun x mem => others x (by simp [mem])]
    rfl
  | pushesClone n p q before buffer =>
    have locked := owned.stage (.worker n) q (by simp [before])
    have used : s.buffer.status q ≠ .null := by simp [locked, Thread.stage]
    have restated := pushNext_restated used (by simp : TCFrameStatus.wait ≠ .null)
    rw [buffer]
    exact ⟨xs, h.restated restated used (by simp), .same (idOf_restatus restated.recounted) xs⟩
  | pushes n p before buffer =>
    have used : s.buffer.status p ≠ .null := by simp [owned.stage_head before, Thread.stage]
    have restated := pushNext_restated used (by simp : TCFrameStatus.ready ≠ .null)
    rw [buffer]
    exact ⟨xs, h.restated restated used (by simp), .same (idOf_restatus restated.recounted) xs⟩
  | retrieves p a ps ready buffer =>
    rw [buffer]
    exact ⟨xs, h.modify p fun _ => a, .same (setAttributes_unmoved ..).idOf xs⟩
  | drops n p before buffer =>
    have taken : s.buffer.status p = .locked := owned.stage_head before
    rw [buffer]
    exact ⟨xs.erase p, h.remove (.inl taken) (linked p rfl),
      .sublist (idOf_restatus (remove_recounted (.inl taken))) List.erase_sublist⟩
  | skips p before buffer =>
    have taken : s.buffer.status p = .ready := owned.stage_head before
    have head := owned.head p (by simp [before])
    rw [buffer]
    exact ⟨xs.erase p, h.remove (.inr taken) (.inl head),
      .sublist (idOf_restatus (remove_recounted (.inr taken))) List.erase_sublist⟩
  | exports p a before buffer =>
    have taken : s.buffer.status p = .ready := owned.stage_head before
    have head := owned.head p (by simp [before])
    have unmoved := setAttributes_unmoved s.buffer p a
    rw [buffer]
    exact ⟨xs.erase p,
      Chained.remove (h.modify p fun _ => a) (.inr ((unmoved.status p).trans taken)) (.inl head),
      .sublist (idOf_restatus (export_recounted taken a)) List.erase_sublist⟩

/-- A dropped frame that is not linked breaks the chain. -/
theorem Effect.linked (sound : Sound s) (h : Intact s.buffer) (effect : Effect s t r)
    (intact : Intact t.buffer) : ∀ p, r = some p → Linked s.buffer p := by
  intro p dropped
  cases effect with
  | drops n q before buffer =>
    obtain rfl := Option.some.inj dropped
    obtain ⟨xs, h⟩ := h
    exact h.linked_of_remove (.inl (sound.owned.stage_head before)) (buffer ▸ intact)
  | _ => simp at dropped

/-- The worker that takes the step, if it drops a frame, drops a linked one. -/
def DropsLinked (x : Step Pipeline Event) : Prop :=
  ∀ p, x.before.dropped x.event = some p → Linked x.before.buffer p

instance (x : Step Pipeline Event) : Decidable (DropsLinked x) :=
  inferInstanceAs (Decidable (∀ p ∈ x.before.dropped x.event, Linked x.before.buffer p))

theorem intact_step (sound : Sound s) (h : Intact s.buffer) (stepped : step cfg s e = some t) :
    Intact t.buffer ↔ DropsLinked ⟨s, e, t⟩ := by
  have effect := step_effect sound.ring stepped
  refine ⟨effect.linked sound h, fun linked => ?_⟩
  obtain ⟨xs, h⟩ := h
  obtain ⟨ys, h', -⟩ := effect.chained sound h linked
  exact ⟨ys, h'⟩

theorem chained_start (size workers : Nat) : Chained (start size workers).buffer [] := by
  refine ⟨⟨rfl, rfl, by simp [start, allocated]⟩, fun p => ?_⟩
  rw [show (start size workers).buffer.status p = .null from allocated_status size p]
  simp

/-- The chain is intact in every state of a run exactly if each frame that a worker drops is the
head, or its back link names the frame in use that comes before it. -/
theorem intact_iff (cfg : Config) (size workers : Nat) (es : List Event) :
    (∀ s ∈ states (step cfg) (start size workers) es, Intact s.buffer) ↔
      ∀ x ∈ steps (step cfg) (start size workers) es, DropsLinked x :=
  always_iff (J := Sound) (fun _ _ _ => sound_step)
    (fun _ _ _ sound h stepped => intact_step sound h stepped) (sound_start size workers)
    ⟨[], chained_start size workers⟩ es

/-- A video stream whose frames all pass through the filters. -/
def video : Config := { stream := .video, needProcessing := fun _ => true }

/-- The first of two frames is cloned, and the second one is skipped by a filter. -/
def dropBehindClone : List Event :=
  List.replicate 6 (.run .importer {}) ++ List.replicate 2 (.run (.worker 0) {}) ++
    [.run (.worker 0) { attributes := { isCloned := true } }] ++
    List.replicate 11 (.run (.worker 0) {}) ++
    [.run (.worker 0) { attributes := { isSkipped := true } }, .run (.worker 0) {}]

example : ¬∀ x ∈ steps (step video) (start 3 1) dropBehindClone, DropsLinked x := by decide

/-! ### Order -/

theorem pairwise_twice {as bs : List Nat} {i : Nat} (h : (as ++ i :: bs).Pairwise (· ≤ ·)) :
    (as ++ i :: i :: bs).Pairwise (· ≤ ·) := by
  simp only [List.pairwise_append, List.pairwise_cons, List.mem_cons, forall_eq_or_imp] at h ⊢
  obtain ⟨first, ⟨later, rest⟩, between⟩ := h
  exact ⟨first, ⟨⟨Nat.le_refl i, later⟩, later, rest⟩,
    fun j mem => ⟨(between j mem).1, (between j mem).1, (between j mem).2⟩⟩

/-- The ids of the frames that were encoded, and then of those in the chain, go up, and none is
beyond the number of the next frame to be registered. -/
structure InOrder (s : Pipeline) (xs : List Nat) : Prop where
  chained : Chained s.buffer xs
  sorted : (s.history.encoded ++ xs.map s.buffer.idOf).Pairwise (· ≤ ·)
  bounded : ∀ id ∈ s.history.encoded ++ xs.map s.buffer.idOf, id ≤ s.framecount

/-- A step hands no frame to the encoder, or the head. -/
theorem Effect.encoded (effect : Effect s t r) : s.framecount ≤ t.framecount ∧
    (t.history.encoded = s.history.encoded ∨ ∃ p a, s.buffer.listHead = some p ∧
      t.history.encoded = s.history.encoded ++ [s.buffer.idOf p] ∧
      t.buffer = setAttributes s.buffer p a) := by
  cases effect with
  | quiet _ _ history count | starved _ _ _ _ _ history count | marks _ _ _ _ _ _ history count
  | reserves _ _ _ _ _ history count | pushesClone _ _ _ _ _ _ history count
  | pushes _ _ _ _ _ history count =>
    exact ⟨Nat.le_of_eq count.symm, .inl (by rw [history])⟩
  | registers _ _ _ _ _ _ _ _ history count | dups _ _ _ _ _ _ _ _ _ _ history count
  | drops _ _ _ _ _ history count | skips _ _ _ _ history count
  | exports _ _ _ _ _ history count =>
    exact ⟨Nat.le_of_eq count.symm, .inl (by rw [history])⟩
  | fills p a status pushed before buffer holds history count =>
    exact ⟨count, .inl (by rw [history])⟩
  | retrieves p a ps ready buffer some holds history count =>
    refine ⟨Nat.le_of_eq count.symm, ?_⟩
    rcases history with history | history
    · exact .inl (by rw [history])
    · exact .inr ⟨p, a, (retrieveNowait_some ready).1, by rw [history]; rfl, buffer⟩

theorem InOrder.step (sound : Sound s) (h : InOrder s xs) (effect : Effect s t r)
    (linked : ∀ p, r = some p → Linked s.buffer p) : ∃ ys, InOrder t ys := by
  obtain ⟨count, same | ⟨p, a, head, encoded, buffer⟩⟩ := effect.encoded
  · obtain ⟨ys, chained, goes⟩ := effect.chained sound h.chained linked
    refine ⟨ys, chained, ?_, fun id mem => ?_⟩
    · rw [same]
      have sorted := h.sorted
      cases goes with
      | leave sub => exact sorted.sublist ((List.Sublist.refl _).append sub)
      | enter new =>
        rw [new, ← List.append_assoc, List.pairwise_append]
        exact ⟨sorted, List.pairwise_singleton .., fun i mem j last => by
          rw [List.mem_singleton.mp last]
          exact h.bounded i mem⟩
      | twice as i bs old new =>
        rw [old, ← List.append_assoc] at sorted
        rw [new, ← List.append_assoc]
        exact pairwise_twice sorted
    · have bounded := h.bounded id
      rw [same] at mem
      cases goes with
      | leave sub =>
        exact Nat.le_trans (bounded (((List.Sublist.refl _).append sub).subset mem)) count
      | enter new =>
        rw [new, ← List.append_assoc, List.mem_append, List.mem_singleton] at mem
        rcases mem with mem | rfl
        · exact Nat.le_trans (bounded mem) count
        · exact count
      | twice as i bs old new =>
        rw [new] at mem
        rw [old] at bounded
        exact Nat.le_trans (bounded (by simpa using mem)) count
  · have same (q : Nat) : t.buffer.idOf q = s.buffer.idOf q := by
      rw [buffer, (setAttributes_unmoved ..).idOf]
    have ids : xs.map t.buffer.idOf = xs.map s.buffer.idOf :=
      List.map_congr_left fun q _ => same q
    obtain ⟨rest, rfl⟩ : ∃ rest, xs = p :: rest :=
      List.head?_eq_some_iff.mp (h.chained.head.symm.trans head)
    refine ⟨p :: rest, by rw [buffer]; exact h.chained.modify p fun _ => a, ?_, fun id mem => ?_⟩
    · rw [ids, encoded, List.append_assoc]
      exact pairwise_twice h.sorted
    · refine Nat.le_trans (h.bounded id ?_) count
      rw [ids, encoded] at mem
      simpa using mem

theorem in_order_run (cfg : Config) (size workers : Nat) (es : List Event)
    (linked : ∀ x ∈ steps (step cfg) (start size workers) es, DropsLinked x) :
    ∃ xs, InOrder (final (step cfg) (start size workers) es) xs := by
  obtain ⟨-, h⟩ := invariant_under (I := fun s => Sound s ∧ ∃ xs, InOrder s xs) (C := DropsLinked)
    (fun s e t h stepped linked => by
      obtain ⟨sound, xs, h⟩ := h
      exact ⟨sound_step sound stepped, h.step sound (step_effect sound.ring stepped) linked⟩)
    ⟨sound_start size workers, [], chained_start size workers, by simp [start], by simp [start]⟩ es
    linked
  exact h

/-- The ids of the registered frames count them.  As long as workers drop linked frames only, the
frames come to the encoder in the order of their ids, and no frame left in the chain is older than
one that was encoded. -/
theorem encoded_in_order (cfg : Config) (size workers : Nat) (es : List Event)
    (linked : ∀ x ∈ steps (step cfg) (start size workers) es, DropsLinked x) :
    let s := final (step cfg) (start size workers) es
    (∃ n, s.history.registered = List.range n) ∧ ∃ xs, Chained s.buffer xs ∧
      (s.history.encoded ++ xs.map s.buffer.idOf).Pairwise (· ≤ ·) := by
  obtain ⟨xs, h⟩ := in_order_run cfg size workers es linked
  exact ⟨registered_range cfg size workers es, xs, h.chained, h.sorted⟩

/-- The first of two frames is skipped by a filter, and the second one is encoded. -/
def skipFirst : List Event :=
  List.replicate 3 (.run .importer {}) ++ List.replicate 2 (.run (.worker 0) {}) ++
    [.run (.worker 0) { attributes := { isSkipped := true } }, .run (.worker 0) {}] ++
    List.replicate 3 (.run .importer {}) ++ List.replicate 5 (.run (.worker 0) {}) ++
    List.replicate 3 (.run .exporter {})

theorem encoded_in_order_skipFirst :
    let s := final (step video) (start 2 1) skipFirst
    (∃ n, s.history.registered = List.range n) ∧ ∃ xs, Chained s.buffer xs ∧
      (s.history.encoded ++ xs.map s.buffer.idOf).Pairwise (· ≤ ·) :=
  encoded_in_order video 2 1 skipFirst (by decide)

/-- Flushing takes out the frames at the head that are ready, and only these: the first frame that
is not keeps every later one in its place. -/
theorem flushed (cfg : Config) (size workers : Nat) (es : List Event)
    (linked : ∀ x ∈ steps (step cfg) (start size workers) es, DropsLinked x) :
    let s := (final (step cfg) (start size workers) es).buffer
    ∃ xs, Chained s xs ∧ Chained (frameFlush s) (xs.dropWhile fun p => s.status p = .ready) ∧
      (frameHaveMore (frameFlush s) = true ↔ ∃ p, s.status p ≠ .null ∧ s.status p ≠ .ready) := by
  intro s
  obtain ⟨xs, ⟨chained, -, -⟩⟩ := in_order_run cfg size workers es linked
  have rest : Chained (frameFlush s) (xs.dropWhile fun p => s.status p = .ready) :=
    chained.flush chained.length_le fun p _ => decide_eq_true_iff
  refine ⟨xs, chained, rest, ?_⟩
  rw [frameHaveMore, rest.tail, List.getLast?_isSome, ne_eq, List.dropWhile_eq_nil_iff]
  simp only [decide_eq_true_eq, not_forall, exists_prop, chained.used]
  rfl

/-- Two frames are imported, and one of them is filtered. -/
def filterOne : List Event :=
  List.replicate 6 (.run .importer {}) ++ List.replicate 5 (.run (.worker 0) {})

theorem flushed_filterOne :
    let s := (final (step video) (start 3 1) filterOne).buffer
    ∃ xs, Chained s xs ∧ Chained (frameFlush s) (xs.dropWhile fun p => s.status p = .ready) ∧
      (frameHaveMore (frameFlush s) = true ↔ ∃ p, s.status p ≠ .null ∧ s.status p ≠ .ready) :=
  flushed video 3 1 filterOne (by decide)

example : frameHaveMore (frameFlush (final (step video) (start 3 1) filterOne).buffer) = true := by
  decide

end StudyProject.Transcode
