import StudyProject.Transcode.Ownership

/-! What adds up in every run: each counter with the frames of its status, and the frames that were
registered and cloned with those that were exported, dropped and are still in use. -/

namespace StudyProject.Transcode

open StudyProject.Library StudyProject.Library.Machine Framebuffer

variable {cfg : Config} {s t : Pipeline} {e : Event} {p d : Nat} {g : Frame → Frame}

/-- The ids of the frames in use. -/
def Framebuffer.ids (s : Framebuffer) : List Nat :=
  (s.contents.filter fun x => x.status ≠ .null).map Frame.id

/-- The frame is in use under that id. -/
def Frame.Uses (x : Frame) (id : Nat) : Prop := x.status ≠ .null ∧ x.id = id

instance (x : Frame) (id : Nat) : Decidable (x.Uses id) := inferInstanceAs (Decidable (_ ∧ _))

theorem count_ids (s : Framebuffer) (id : Nat) :
    s.ids.count id = s.contents.countP fun x => x.Uses id := by
  rw [Framebuffer.ids, List.count, List.countP_map, List.countP_filter]
  congr 1
  funext x
  by_cases free : x.status = .null <;> simp [Frame.Uses, free, Bool.beq_eq_decide_eq]

theorem ids_of_recounted {s t : Framebuffer} (moved : s.Recounted t p g d) (id : Nat) :
    t.ids.count id + (if (s.frame p).Uses id then 1 else 0) =
      s.ids.count id + if (g (s.frame p).content).Uses id then 1 else 0 := by
  have counted := Objects.countP_modify (p := fun x : Frame => decide (x.Uses id)) (f := g)
    (contents_getElem? moved.bound)
  rw [← moved.contents, ← count_ids, ← count_ids] at counted
  simp only [decide_eq_true_eq] at counted
  exact counted

def History.entered (h : History) : List Nat := h.registered ++ h.cloned

def History.left (h : History) : List Nat := h.exported ++ h.dropped

structure Balanced (s : Pipeline) : Prop where
  counter : ∀ status, s.buffer.counter status =
    s.buffer.count status + drift s.history.cloned.length status
  ids : s.history.entered.Perm (s.history.left ++ s.buffer.ids)

namespace Balanced

theorem still (h : Balanced s) (contents : t.buffer.contents = s.buffer.contents)
    (counter : ∀ status, t.buffer.counter status = s.buffer.counter status)
    (cloned : t.history.cloned = s.history.cloned) (entered : t.history.entered = s.history.entered)
    (left : t.history.left = s.history.left) : Balanced t := by
  refine ⟨fun status => ?_, ?_⟩
  · rw [counter, cloned, h.counter, count, count, contents]
  · rw [entered, left, Framebuffer.ids, contents]
    exact h.ids

theorem moves (h : Balanced s) (moved : s.buffer.Recounted t.buffer p g d)
    (clones : t.history.cloned.length = s.history.cloned.length + d)
    (ids : ∀ id, t.history.entered.count id + s.history.left.count id +
        (if (s.buffer.frame p).Uses id then 1 else 0) =
      s.history.entered.count id + t.history.left.count id +
        if (g (s.buffer.frame p).content).Uses id then 1 else 0) : Balanced t := by
  refine ⟨fun status => ?_, List.perm_iff_count.mpr fun id => ?_⟩
  · have counter := moved.counter status
    have count := count_of_modify moved.contents moved.bound status
    rw [h.counter] at counter
    rw [clones, drift_add]
    split_ifs at counter count <;> omega
  · have before := List.perm_iff_count.mp h.ids id
    have frames := ids_of_recounted moved id
    have entered := ids id
    rw [List.count_append] at before ⊢
    omega

/-- A free frame comes into use. -/
theorem enters (h : Balanced s) (moved : s.buffer.Recounted t.buffer p g d)
    (clones : t.history.cloned.length = s.history.cloned.length + d)
    (free : s.buffer.status p = .null) (used : t.buffer.status p ≠ .null)
    (entered : t.history.entered.Perm ((g (s.buffer.frame p).content).id :: s.history.entered))
    (left : t.history.left = s.history.left) : Balanced t := by
  refine h.moves moved clones fun id => ?_
  have unused : ¬(s.buffer.frame p).Uses id := fun uses => uses.1 free
  rw [moved.status_self] at used
  have uses : (g (s.buffer.frame p).content).Uses id ↔ (g (s.buffer.frame p).content).id = id :=
    and_iff_right used
  simp only [entered.count_eq, List.count_cons, beq_iff_eq, left, if_neg unused, uses]
  omega

/-- A frame in use stays in use. -/
theorem stays {status : TCFrameStatus} (h : Balanced s)
    (moved : s.buffer.Recounted t.buffer p ({ · with status }) 0)
    (used : s.buffer.status p ≠ .null) (used' : status ≠ .null) (history : t.history = s.history) :
    Balanced t := by
  refine h.moves moved (by rw [history]; rfl) fun id => ?_
  have same : Frame.Uses { (s.buffer.frame p).content with status } id ↔
      (s.buffer.frame p).Uses id :=
    and_congr_left fun _ => iff_of_true used' used
  simp only [history, same]

/-- A frame in use goes back to the pool. -/
theorem leaves (h : Balanced s)
    (moved : s.buffer.Recounted t.buffer p ({ · with status := .null }) 0)
    (used : s.buffer.status p ≠ .null) (cloned : t.history.cloned = s.history.cloned)
    (entered : t.history.entered = s.history.entered)
    (left : t.history.left.Perm ((s.buffer.frame p).id :: s.history.left)) : Balanced t := by
  refine h.moves moved (by rw [cloned]; rfl) fun id => ?_
  have unused : ¬Frame.Uses { (s.buffer.frame p).content with status := .null } id :=
    fun uses => uses.1 rfl
  have uses : (s.buffer.frame p).Uses id ↔ (s.buffer.frame p).id = id := and_iff_right used
  simp only [left.count_eq, List.count_cons, beq_iff_eq, entered, if_neg unused, uses]
  omega

theorem getCounters (h : Balanced s) :
    frameGetCounters s.buffer =
      ((s.buffer.count .null : Int) + s.buffer.count .empty,
        (s.buffer.count .wait : Int) + s.buffer.count .locked, (s.buffer.count .ready : Int)) := by
  have null := h.counter .null
  have empty := h.counter .empty
  have wait := h.counter .wait
  have locked := h.counter .locked
  have ready := h.counter .ready
  simp only [TCRingFrameBuffer.counter, drift] at null empty wait locked ready
  simp only [frameGetCounters, Prod.mk.injEq]
  exact ⟨by omega, by omega, by omega⟩

end Balanced

/-- A thread gives its frame back to the pool without its having been encoded. -/
theorem Balanced.dropped (h : Balanced s)
    (taken : s.buffer.status p = .locked ∨ s.buffer.status p = .ready) (ring : s.buffer.Ring)
    (buffer : t.buffer = frameRemove s.buffer p)
    (history : t.history =
      { s.history with dropped := s.history.dropped ++ [(s.buffer.frame p).id] }) :
    Balanced t ∧ t.buffer.Ring := by
  have moved := remove_recounted taken
  rw [← buffer] at moved
  refine ⟨h.leaves moved (by rcases taken with h | h <;> simp [h]) (by rw [history])
    (by rw [history]; rfl) ?_, moved.places ring⟩
  rw [history]
  simp only [History.left, ← List.append_assoc]
  exact List.perm_append_singleton ..

theorem Effect.balanced {r : Option Nat} (h : Balanced s) (owned : Owned s) (ring : s.buffer.Ring)
    (effect : Effect s t r) : Balanced t ∧ t.buffer.Ring := by
  cases effect with
  | quiet buffer kept history =>
    rw [buffer]
    exact ⟨h.still (by rw [buffer]) (fun _ => by rw [buffer]) (by rw [history]) (by rw [history])
      (by rw [history]), ring⟩
  | starved m lt used buffer kept history =>
    rw [buffer]
    exact ⟨h.still (by rw [buffer]; rfl) (fun status => by rw [buffer]; cases status <;> rfl)
      (by rw [history]) (by rw [history]) (by rw [history]), ring.same rfl lt rfl⟩
  | registers p m bound lt free buffer before holds history =>
    have moved := register_recounted ring bound lt free s.framecount
    rw [← buffer] at moved
    refine ⟨h.enters moved (by rw [history]; rfl) free (by simp [moved.status_self]) ?_
      (by rw [history]; rfl), moved.places ring⟩
    rw [history]
    simp [History.entered, List.perm_middle]
  | fills p a status pushed before buffer holds history =>
    have empty := owned.stage_head before
    have used : status ≠ .null := by rcases pushed with rfl | ⟨rfl, -⟩ <;> simp
    have moved := fill_recounted empty a used
    rw [← buffer] at moved
    exact ⟨h.stays moved (by simp [empty, Thread.stage]) used history, moved.places ring⟩
  | marks th p a mem buffer kept history =>
    have unmoved := setAttributes_unmoved s.buffer p a
    rw [← buffer] at unmoved
    exact ⟨h.still unmoved.contents unmoved.counter (by rw [history]) (by rw [history])
      (by rw [history]), unmoved.places ring⟩
  | reserves n p buffer before holds history =>
    obtain ⟨waits, restated⟩ := reserve_some buffer
    exact ⟨h.stays restated.recounted (by simp [waits]) (by simp) history,
      restated.recounted.places ring⟩
  | dups n p q m bound lt free before buffer holds history =>
    have locked : s.buffer.status p = .locked := owned.stage_head before
    have moved := clone_recounted ring bound lt free locked
    rw [← buffer] at moved
    have used : t.buffer.status q ≠ .null := by
      rw [moved.status_self, content_status, ← Framebuffer.status, locked]
      simp
    refine ⟨h.enters moved (by rw [history]; simp) free used ?_ (by rw [history]; rfl),
      moved.places ring⟩
    rw [history]
    simp only [History.entered, ← List.append_assoc, content_id]
    exact List.perm_append_singleton ..
  | pushesClone n p q before buffer holds history =>
    have locked := owned.stage (.worker n) q (by simp [before])
    have used : s.buffer.status q ≠ .null := by simp [locked, Thread.stage]
    have moved := (pushNext_restated used (by simp : TCFrameStatus.wait ≠ .null)).recounted
    rw [← buffer] at moved
    exact ⟨h.stays moved used (by simp) history, moved.places ring⟩
  | pushes n p before buffer holds history =>
    have used : s.buffer.status p ≠ .null := by simp [owned.stage_head before, Thread.stage]
    have moved := (pushNext_restated used (by simp : TCFrameStatus.ready ≠ .null)).recounted
    rw [← buffer] at moved
    exact ⟨h.stays moved used (by simp) history, moved.places ring⟩
  | retrieves p a ps ready buffer some holds history =>
    have unmoved := setAttributes_unmoved s.buffer p a
    rw [← buffer] at unmoved
    refine ⟨h.still unmoved.contents unmoved.counter ?_ ?_ ?_, unmoved.places ring⟩ <;>
      rcases history with history | history <;> rw [history] <;> rfl
  | drops n p before buffer holds history =>
    exact h.dropped (.inl (owned.stage_head before)) ring buffer history
  | skips p before buffer holds history =>
    exact h.dropped (.inr (owned.stage_head before)) ring buffer history
  | exports p a before buffer holds history =>
    have ready : s.buffer.status p = .ready := owned.stage_head before
    have moved := export_recounted ready a
    rw [← buffer] at moved
    refine ⟨h.leaves moved (by simp [ready]) (by rw [history]) (by rw [history]; rfl) ?_,
      moved.places ring⟩
    rw [history]
    simp [History.left, List.perm_middle]

/-! ### Runs -/

/-- What holds of the frames in every run. -/
structure Sound (s : Pipeline) : Prop where
  ring : s.buffer.Ring
  owned : Owned s
  balanced : Balanced s

theorem allocated_contents (size : Nat) :
    (allocated size).contents = List.replicate (allocated size).frames.length {} := by
  simp [allocated, contents]

theorem allocated_status (size p : Nat) : (allocated size).status p = .null := by
  rw [status_content, allocated_contents, List.getElem?_replicate]
  split <;> rfl

theorem start_held (size workers : Nat) (th : Thread) : (start size workers).held th = [] := by
  cases th with
  | importer => rfl
  | exporter => rfl
  | worker n =>
    simp only [Pipeline.held, start, List.getElem?_replicate]
    split <;> rfl

theorem sound_start (size workers : Nat) : Sound (start size workers) := by
  have held := start_held size workers
  refine ⟨⟨?_, ?_⟩, ⟨?_, ?_, ?_, ?_, ?_⟩, fun status => ?_, ?_⟩
  · simp [start, allocated]
  · simp only [start, allocated]
    split <;> omega
  · simp [held]
  · simp [held]
  · simp [held]
  · intro p taken
    rw [show (start size workers).buffer.status p = .null from allocated_status size p] at taken
    simp [TCFrameStatus.Taken] at taken
  · simp [held]
  · simp only [start, count, allocated_contents]
    cases status <;> simp [allocated, TCRingFrameBuffer.counter, List.countP_replicate]
  · simp [start, ids, allocated_contents, History.entered, History.left]

theorem sound_step (h : Sound s) (stepped : step cfg s e = some t) : Sound t := by
  have effect := step_effect h.ring stepped
  obtain ⟨balanced, ring⟩ := effect.balanced h.balanced h.owned h.ring
  exact ⟨ring, effect.owned h.owned h.ring, balanced⟩

theorem sound_run (cfg : Config) (size workers : Nat) (es : List Event) :
    Sound (final (step cfg) (start size workers) es) :=
  invariant (fun _ _ _ => sound_step) (sound_start size workers) es

/-- No two threads work on one frame.  The import's is empty, a worker's locked, and the export's is
the head of the chain and ready. -/
theorem one_owner (cfg : Config) (size workers : Nat) (es : List Event) :
    Owned (final (step cfg) (start size workers) es) :=
  (sound_run cfg size workers es).owned

/-- A counter is the number of frames of its status, but that each clone that was ever made is
counted as waiting and not as locked.  The sums that `get_counters` gives are right. -/
theorem counters_count (cfg : Config) (size workers : Nat) (es : List Event) :
    let s := final (step cfg) (start size workers) es
    (∀ status, s.buffer.counter status =
      s.buffer.count status + drift s.history.cloned.length status) ∧
    frameGetCounters s.buffer =
      ((s.buffer.count .null : Int) + s.buffer.count .empty,
        (s.buffer.count .wait : Int) + s.buffer.count .locked, (s.buffer.count .ready : Int)) := by
  intro s
  have balanced := (sound_run cfg size workers es).balanced
  exact ⟨balanced.counter, balanced.getCounters⟩

/-- Every frame that was registered or cloned is in use, or was exported or dropped once. -/
theorem nothing_lost (cfg : Config) (size workers : Nat) (es : List Event) :
    let s := final (step cfg) (start size workers) es
    (s.history.registered ++ s.history.cloned).Perm
      (s.history.exported ++ s.history.dropped ++ s.buffer.ids) :=
  (sound_run cfg size workers es).balanced.ids

end StudyProject.Transcode
