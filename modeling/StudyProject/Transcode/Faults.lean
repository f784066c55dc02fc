import StudyProject.Transcode.Intact

/-! What ends the pool of workers and what ends the program.  The counter of the waiting frames
counts every clone for good, so that a worker looks for a frame where none waits, finds none, and
takes this for the end of the stream. -/

namespace StudyProject.Transcode

open StudyProject.Library StudyProject.Library.Machine Framebuffer

variable {cfg : Config} {s t : Pipeline} {e : Event} {env : Env} {n p : Nat} {xs : List Nat}

/-- The invariant of the runs in which workers drop linked frames only. -/
structure Whole (s : Pipeline) : Prop where
  sound : Sound s
  intact : Intact s.buffer

theorem whole_start (size workers : Nat) : Whole (start size workers) :=
  ⟨sound_start size workers, [], chained_start size workers⟩

theorem whole_step (h : Whole s) (stepped : step cfg s e = some t)
    (linked : DropsLinked ⟨s, e, t⟩) : Whole t :=
  ⟨sound_step h.sound stepped, (intact_step h.sound h.intact stepped).mpr linked⟩

theorem whole_run (cfg : Config) (size workers : Nat) (es : List Event)
    (linked : ∀ x ∈ steps (step cfg) (start size workers) es, DropsLinked x) :
    Whole (final (step cfg) (start size workers) es) :=
  invariant_under (fun _ _ _ h => whole_step h) (whole_start size workers) es linked

theorem set_self {worker worker' : Worker} (at_n : s.workers[n]? = some worker) :
    (s.setWorker n worker').workers[n]? = some worker' := by
  have lt := (List.getElem?_eq_some_iff.mp at_n).1
  simp [Pipeline.setWorker, lt]

/-! ### The end of the pool -/

/-- A worker that holds a frame has not exited. -/
theorem ne_exited {worker : Worker} (held : worker.held = [p]) : worker ≠ .exited := by
  rintro rfl
  simp [Worker.held] at held

/-- Where the walk finds no frame that waits, there is none. -/
theorem count_wait_zero {s : Framebuffer} (h : Chained s xs)
    (found : (xs.find? fun p => s.status p = .wait) = none) : s.count .wait = 0 := by
  rw [count_eq_zero]
  intro p _ waits
  have mem := (h.used p).mpr (by simp [waits])
  exact absurd waits (by simpa using List.find?_eq_none.mp found p mem)

/-- The counter of the waiting frames is zero exactly if none waits and none was ever cloned. -/
theorem wait_zero (h : Balanced s) :
    s.buffer.wait = 0 ↔ s.buffer.count .wait = 0 ∧ s.history.cloned = [] := by
  have counter : s.buffer.wait = s.buffer.count .wait + s.history.cloned.length := h.counter .wait
  rw [← List.length_eq_zero_iff]
  omega

/-- A worker that looks for a frame exits exactly if none waits though one was cloned. -/
theorem reserve_exits {worker : Worker} (cfg : Config) (h : Whole s)
    (at_n : s.workers[n]? = some worker) :
    (workerReserve cfg s n false).workers[n]? = some .exited ↔
      s.buffer.count .wait = 0 ∧ s.history.cloned ≠ [] := by
  obtain ⟨xs, chained⟩ := h.intact
  have zero := wait_zero h.sound.balanced
  unfold workerReserve
  by_cases at_wait : s.buffer.wait = 0
  · rw [if_pos (by simpa using at_wait), set_self at_n]
    simp [(zero.mp at_wait).2]
  · rw [if_neg (by simpa using at_wait), if_neg (by simp), chained.reserve]
    cases found : xs.find? fun p => s.buffer.status p = .wait with
    | none =>
      have none_waits := count_wait_zero chained found
      simp only [Option.elim_none]
      rw [set_self (s := { s with poolRunning := false }) at_n]
      refine iff_of_true rfl ⟨none_waits, fun same => at_wait (zero.mpr ⟨none_waits, same⟩)⟩
    | some p =>
      have waits : s.buffer.status p = .wait := by simpa using List.find?_some found
      simp only [Option.elim_some]
      rw [set_self (s := { s with
        buffer := frameSetStatus s.buffer p .locked
        poolRunning := _ }) at_n]
      refine iff_of_false (fun same => ne_exited (claim_held ..) (Option.some.inj same)) fun none => ?_
      exact (count_eq_zero ..).mp none.1 p (lt_of_status (by simp [waits])) waits

theorem step_clear (stepped : step cfg s e = some t) : s.fault = none := by
  unfold step at stepped
  split at stepped
  · simp at stepped
  · rename_i clear
    simpa using clear

theorem step_worker (stepped : step cfg s (.run (.worker n) env) = some t) :
    processFrame cfg s n env = some t := by
  have clear := step_clear stepped
  rw [step, clear] at stepped
  exact stepped

/-- A worker that exits stops the pool. -/
theorem reserve_stops {worker : Worker} (cfg : Config) (h : Whole s)
    (at_n : s.workers[n]? = some worker)
    (exits : (workerReserve cfg s n false).workers[n]? = some .exited) :
    (workerReserve cfg s n false).poolRunning = false := by
  obtain ⟨xs, chained⟩ := h.intact
  unfold workerReserve at exits ⊢
  by_cases at_wait : s.buffer.wait = 0
  · rw [if_pos (by simpa using at_wait), set_self at_n] at exits
    simp at exits
  · rw [if_neg (by simpa using at_wait), if_neg (by simp), chained.reserve] at exits ⊢
    cases found : xs.find? fun p => s.buffer.status p = .wait with
    | none => rfl
    | some p =>
      rw [found] at exits
      simp only [Option.elim_some] at exits
      rw [set_self (s := { s with
        buffer := frameSetStatus s.buffer p .locked
        poolRunning := _ }) at_n] at exits
      exact absurd (Option.some.inj exits) (ne_exited (claim_held ..))

/-- After a run in which workers drop linked frames only, a worker that looks for a frame, and is
not interrupted, gives up exactly if none waits though one was cloned, and then stops the pool. -/
theorem gives_up_iff (cfg : Config) (size workers : Nat) (es : List Event)
    (linked : ∀ x ∈ steps (step cfg) (start size workers) es, DropsLinked x) (n : Nat)
    (waiting : Waiting) (env : Env) (t : Pipeline)
    (at_n : (final (step cfg) (start size workers) es).workers[n]? = some (.reserve waiting))
    (uninterrupted :
      waiting.interrupted (final (step cfg) (start size workers) es).running = false)
    (stepped : step cfg (final (step cfg) (start size workers) es) (.run (.worker n) env) = some t) :
    let s := final (step cfg) (start size workers) es
    (t.workers[n]? = some .exited ↔ s.buffer.count .wait = 0 ∧ s.history.cloned ≠ []) ∧
      (t.workers[n]? = some .exited → t.poolRunning = false) := by
  intro s
  have h : Whole s := whole_run cfg size workers es linked
  have stepped := step_worker stepped
  rw [processFrame, at_n, Option.bind_some] at stepped
  have exits := reserve_exits cfg h at_n
  have stops := reserve_stops cfg h at_n
  cases waiting with
  | asleep => simp at stepped
  | entering =>
    obtain rfl := Option.some.inj stepped
    exact ⟨exits, stops⟩
  | woken =>
    obtain rfl := Option.some.inj stepped
    rw [uninterrupted]
    exact ⟨exits, stops⟩

/-- A frame is cloned, and both are filtered. -/
def cloneOne : List Event :=
  List.replicate 3 (.run .importer {}) ++ List.replicate 2 (.run (.worker 0) {}) ++
    [.run (.worker 0) { attributes := { isCloned := true } }] ++
    List.replicate 10 (.run (.worker 0) {})

theorem gives_up_cloneOne :
    let s := final (step video) (start 3 1) cloneOne
    let t := next (step video) s (.run (.worker 0) {})
    (t.workers[0]? = some .exited ↔ s.buffer.count .wait = 0 ∧ s.history.cloned ≠ []) ∧
      (t.workers[0]? = some .exited → t.poolRunning = false) :=
  gives_up_iff video 3 1 cloneOne (by decide) 0 .entering {} _ (by decide) rfl rfl

example : (final (step video) (start 3 1) (cloneOne ++ [.run (.worker 0) {}])).workers =
    [.exited] := by
  decide

/-! ### The end of the program -/

/-- The flags are as they were, and no worker exits. -/
structure KeepsPool (s t : Pipeline) : Prop where
  fault : t.fault = s.fault
  running : t.running = s.running
  poolRunning : t.poolRunning = s.poolRunning
  workers : t.workers.length = s.workers.length
  exits : ∀ n : Nat, t.workers[n]? = some Worker.exited → s.workers[n]? = some Worker.exited

theorem Woken.keepsPool (h : Woken s t) : KeepsPool s t :=
  ⟨h.fault, h.running, h.poolRunning, h.workers, h.exits⟩

theorem keepsPool_of_same (fault : t.fault = s.fault) (running : t.running = s.running)
    (poolRunning : t.poolRunning = s.poolRunning) (workers : t.workers = s.workers) :
    KeepsPool s t := by
  refine ⟨fault, running, poolRunning, by rw [workers], fun n exits => ?_⟩
  rwa [workers] at exits

theorem importLoop_keepsPool (stepped : importLoop cfg s env = some t) : KeepsPool s t := by
  unfold importLoop at stepped
  split at stepped
  · obtain rfl := Option.some.inj stepped
    exact keepsPool_of_same rfl rfl rfl rfl
  · simp at stepped
  · obtain rfl := Option.some.inj stepped
    unfold importRegister
    split
    · exact keepsPool_of_same rfl rfl rfl rfl
    · split
      · exact keepsPool_of_same rfl rfl rfl rfl
      · split <;> exact keepsPool_of_same rfl rfl rfl rfl
  · rename_i ptr _
    obtain rfl := Option.some.inj stepped
    have same (status : TCFrameStatus) := (Woken.pushNext
      { s with buffer := setAttributes s.buffer ptr env.attributes } ptr status env).keepsPool
    unfold importFill
    dsimp only
    split <;>
      exact ⟨(same _).fault, (same _).running, (same _).poolRunning, (same _).workers,
        (same _).exits⟩
  · simp at stepped

theorem acquire_keepsPool (s : Pipeline) (p : Nat) : KeepsPool s (acquire cfg s p env) := by
  unfold acquire
  dsimp only
  generalize (if cfg.needProcessing _ then env.attributes else _) = a
  split
  · exact keepsPool_of_same rfl rfl rfl rfl
  · split
    · exact keepsPool_of_same rfl rfl rfl rfl
    · split <;> exact keepsPool_of_same rfl rfl rfl rfl

theorem encoderLoop_keepsPool (stepped : encoderLoop cfg s env = some t) : KeepsPool s t := by
  unfold encoderLoop at stepped
  split at stepped
  · obtain rfl := Option.some.inj stepped
    exact keepsPool_of_same rfl rfl rfl rfl
  · simp at stepped
  · obtain rfl := Option.some.inj stepped
    unfold encoderRetrieve
    split
    · exact keepsPool_of_same rfl rfl rfl rfl
    · split
      · exact keepsPool_of_same rfl rfl rfl rfl
      · exact acquire_keepsPool ..
  · rename_i ptr _
    obtain rfl := Option.some.inj stepped
    have same := (Woken.remove (s.drops ptr) ptr env).keepsPool
    exact ⟨same.fault, same.running, same.poolRunning, same.workers, same.exits⟩
  · rename_i ptr _
    obtain rfl := Option.some.inj stepped
    split
    · exact keepsPool_of_same rfl rfl rfl rfl
    · unfold dispose
      split
      · have same := (Woken.remove { s with
          buffer := setAttributes s.buffer ptr env.attributes
          history.exported := s.history.exported ++ [(s.buffer.frame ptr).id] } ptr env).keepsPool
        exact ⟨same.fault, same.running, same.poolRunning, same.workers, same.exits⟩
      · exact keepsPool_of_same rfl rfl rfl rfl

theorem reserve_fault (h : Whole s) (interrupted : Bool) :
    (workerReserve cfg s n interrupted).fault = s.fault := by
  obtain ⟨xs, chained⟩ := h.intact
  unfold workerReserve
  rw [chained.reserve]
  split
  · rfl
  · split
    · rfl
    · split
      · rename_i found
        simp at found
      · rfl
      · rfl

theorem dup_fault (h : Sound s) (interrupted : Bool) :
    (workerDup s n p interrupted).fault =
      if interrupted = true ∧ s.buffer.count .null = 0 then some .nullPointer else s.fault := by
  have counter : s.buffer.null = s.buffer.count .null := by
    simpa [TCRingFrameBuffer.counter, drift] using h.balanced.counter .null
  unfold workerDup
  split
  · rename_i sleeps
    rw [if_neg (by simp at sleeps; simp [sleeps])]
    rfl
  · rename_i looks
    unfold frameDup
    rcases registerFrame_cases h.ring with ⟨q, bound, m, lt, free, -, taken⟩ | ⟨m, lt, used, none⟩
    · have some_free : s.buffer.count .null ≠ 0 := fun zero =>
        (count_eq_zero ..).mp zero q (by rw [← h.ring.last]; exact bound) free
      rw [taken, if_neg (by simp [some_free])]
      rfl
    · have none_free : s.buffer.count .null = 0 :=
        (count_eq_zero ..).mpr (by rw [← h.ring.last]; exact used)
      have zero : s.buffer.null = 0 := by rw [counter, none_free]; rfl
      rw [none, if_pos ⟨by simpa [zero] using looks, none_free⟩]

/-- A worker that was woken from its wait for a free frame finds none, and transcode has stopped. -/
def DupsNothing (x : Step Pipeline Event) : Prop :=
  ∃ n env p, x.event = .run (.worker n) env ∧ x.before.workers[n]? = some (.dup p .woken) ∧
    x.before.running = false ∧ x.before.buffer.count .null = 0

theorem processFrame_fault (h : Whole s) (clear : s.fault = none)
    (stepped : processFrame cfg s n env = some t) :
    t.fault = some .nullPointer ∧ DupsNothing ⟨s, .run (.worker n) env, t⟩ ∨
      t.fault = none ∧ ¬DupsNothing ⟨s, .run (.worker n) env, t⟩ := by
  obtain ⟨worker, at_n, stepped⟩ := Option.bind_eq_some_iff.mp stepped
  have dups : DupsNothing ⟨s, .run (.worker n) env, t⟩ ↔
      ∃ p, worker = .dup p .woken ∧ s.running = false ∧ s.buffer.count .null = 0 := by
    constructor
    · rintro ⟨n', env', p, event, at_n', stopped⟩
      obtain ⟨⟨rfl⟩, -⟩ : Thread.worker n = .worker n' ∧ env = env' := by simpa using event
      exact ⟨p, Option.some.inj (at_n.symm.trans at_n'), stopped⟩
    · rintro ⟨p, rfl, stopped⟩
      exact ⟨n, env, p, rfl, at_n, stopped⟩
  rw [dups]
  split at stepped
  · obtain rfl := Option.some.inj stepped
    exact .inr ⟨clear, by simp⟩
  · simp at stepped
  · obtain rfl := Option.some.inj stepped
    exact .inr ⟨(reserve_fault h _).trans clear, by simp⟩
  · obtain rfl := Option.some.inj stepped
    exact .inr ⟨clear, by simp⟩
  · simp at stepped
  · rename_i p waiting awake
    obtain rfl := Option.some.inj stepped
    rw [dup_fault h.sound, clear]
    have same : waiting.interrupted s.running = true ↔ waiting = .woken ∧ s.running = false := by
      simp [Waiting.interrupted]
    simp only [same]
    by_cases nothing : (waiting = .woken ∧ s.running = false) ∧ s.buffer.count .null = 0
    · rw [if_pos nothing]
      obtain ⟨⟨rfl, stopped⟩, none_free⟩ := nothing
      exact .inl ⟨rfl, p, rfl, stopped, none_free⟩
    · rw [if_neg nothing]
      refine .inr ⟨rfl, ?_⟩
      rintro ⟨q, at_q, stopped, none_free⟩
      simp only [Worker.dup.injEq] at at_q
      exact nothing ⟨⟨at_q.2, stopped⟩, none_free⟩
  · obtain rfl := Option.some.inj stepped
    exact .inr ⟨(Woken.pushNext ..).fault.trans clear, by simp⟩
  · obtain rfl := Option.some.inj stepped
    exact .inr ⟨clear, by simp⟩
  · obtain rfl := Option.some.inj stepped
    exact .inr ⟨(Woken.remove (s.drops _) ..).fault.trans clear, by simp⟩
  · obtain rfl := Option.some.inj stepped
    exact .inr ⟨(Woken.pushNext ..).fault.trans clear, by simp⟩
  · simp at stepped

theorem step_fault (h : Whole s) (stepped : step cfg s e = some t) :
    t.fault = some .nullPointer ∧ DupsNothing ⟨s, e, t⟩ ∨
      t.fault = none ∧ ¬DupsNothing ⟨s, e, t⟩ := by
  have clear := step_clear stepped
  unfold step at stepped
  rw [clear] at stepped
  cases e with
  | run thread env =>
    cases thread with
    | importer =>
      exact .inr ⟨(importLoop_keepsPool stepped).fault.trans clear, by simp [DupsNothing]⟩
    | worker n => exact processFrame_fault h clear stepped
    | exporter =>
      exact .inr ⟨(encoderLoop_keepsPool stepped).fault.trans clear, by simp [DupsNothing]⟩
  | wakeup thread =>
    obtain rfl := Option.some.inj stepped
    exact .inr ⟨(Woken.wake s thread).fault.trans clear, by simp [DupsNothing]⟩
  | interrupt env =>
    obtain rfl := Option.some.inj stepped
    exact .inr ⟨(Woken.interrupt s env).fault.trans clear, by simp [DupsNothing]⟩
  | interruptImport env =>
    obtain rfl := Option.some.inj stepped
    exact .inr ⟨(Woken.signal s _ env).fault.trans clear, by simp [DupsNothing]⟩
  | stop | importStop | poolStop =>
    obtain rfl := Option.some.inj stepped
    exact .inr ⟨rfl, by simp [DupsNothing]⟩

/-- In a run in which workers drop linked frames only, every walk along the chain ends, and the
program goes on exactly as long as no worker clones a frame to nowhere: it waited for a free frame,
transcode was stopped, and none is free. -/
theorem faults_iff (cfg : Config) (size workers : Nat) (es : List Event)
    (linked : ∀ x ∈ steps (step cfg) (start size workers) es, DropsLinked x) :
    (∀ s ∈ states (step cfg) (start size workers) es, s.fault ≠ some .endlessWalk) ∧
      ((∀ s ∈ states (step cfg) (start size workers) es, s.fault = none) ↔
        ∀ x ∈ steps (step cfg) (start size workers) es, ¬DupsNothing x) := by
  have each : ∀ x ∈ steps (step cfg) (start size workers) es,
      x.after.fault = some .nullPointer ∧ DupsNothing x ∨ x.after.fault = none ∧ ¬DupsNothing x :=
    steps_under (I := Whole) (C := DropsLinked) (fun _ _ _ h => whole_step h)
      (fun _ _ _ h stepped _ => step_fault h stepped) (whole_start size workers) es linked
  simp only [states, List.forall_mem_cons, List.forall_mem_map]
  refine ⟨⟨by simp [start], fun x mem => ?_⟩, ⟨fun clear x mem => ?_, fun none => ⟨rfl, ?_⟩⟩⟩
  · rcases each x mem with ⟨fault, -⟩ | ⟨fault, -⟩ <;> simp [fault]
  · rcases each x mem with ⟨fault, -⟩ | ⟨-, not_dups⟩
    · simp [clear.2 x mem] at fault
    · exact not_dups
  · intro x mem
    rcases each x mem with ⟨-, dups⟩ | ⟨fault, -⟩
    · exact absurd dups (none x mem)
    · exact fault

/-- A worker waits to clone the only frame, and transcode is stopped. -/
def cloneToNowhere : List Event :=
  List.replicate 3 (.run .importer {}) ++ List.replicate 2 (.run (.worker 0) {}) ++
    [.run (.worker 0) { attributes := { isCloned := true } }, .run (.worker 0) {}, .stop,
      .interrupt {}, .run (.worker 0) {}]

theorem faults_cloneToNowhere :
    let s := start 1 1
    (∀ t ∈ states (step video) s cloneToNowhere, t.fault ≠ some .endlessWalk) ∧
      ((∀ t ∈ states (step video) s cloneToNowhere, t.fault = none) ↔
        ∀ x ∈ steps (step video) s cloneToNowhere, ¬DupsNothing x) :=
  faults_iff video 1 1 cloneToNowhere (by decide)

example : (final (step video) (start 1 1) cloneToNowhere).fault = some .nullPointer := by
  decide

end StudyProject.Transcode
