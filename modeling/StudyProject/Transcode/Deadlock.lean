import StudyProject.Transcode.Wakeups

/-! Where the threads of a stream come to a halt while transcode runs.  As long as workers drop
linked frames only and none drops the head in front of a ready frame while the export sleeps, all of
them sleep or have ended only at the end of the stream, once the pool has stopped, or with a worker
that waits for a free frame while it holds one. -/

namespace StudyProject.Transcode

open StudyProject.Library StudyProject.Library.Machine StudyProject.Library.Condition Framebuffer

variable {cfg : Config} {s t : Pipeline} {e : Event} {env : Env} {n p : Nat} {c : Cond}
  {r : Option Nat}

/-! ### What a step does to the pool -/

/-- Neither transcode nor the pool starts again, and a worker exits only where one of them has
stopped. -/
structure Stops (s t : Pipeline) : Prop where
  running : t.running = true → s.running = true
  pool : t.poolRunning = true → s.poolRunning = true
  workers : t.workers.length = s.workers.length
  exits : ∀ n : Nat, t.workers[n]? = some Worker.exited →
    s.workers[n]? = some Worker.exited ∨ t.poolRunning = false ∨ t.running = false

theorem KeepsPool.stops (h : KeepsPool s t) : Stops s t :=
  ⟨by rw [h.running]; exact id, by rw [h.poolRunning]; exact id, h.workers,
    fun n exits => .inl (h.exits n exits)⟩

/-- A worker takes a step, and if it exits, one of them has stopped. -/
theorem stops_of_set {worker : Worker} (running : t.running = s.running)
    (pool : t.poolRunning = true → s.poolRunning = true)
    (workers : t.workers = s.workers.set n worker)
    (exits : worker = .exited → t.poolRunning = false ∨ t.running = false) : Stops s t := by
  refine ⟨by rw [running]; exact id, pool, by simp [workers], fun m exited => ?_⟩
  rw [workers] at exited
  by_cases at_n : n = m
  · subst at_n
    obtain ⟨lt, same⟩ := List.getElem?_eq_some_iff.mp exited
    rw [List.getElem_set_self] at same
    exact .inr (exits same)
  · rw [List.getElem?_set_ne at_n] at exited
    exact .inl exited

theorem Stops.of_woken (woken : Woken s t) (h : Stops t u) : Stops s u := by
  refine ⟨fun running => ?_, fun pool => ?_, h.workers.trans woken.workers, fun n exited => ?_⟩
  · rw [← woken.running]
    exact h.running running
  · rw [← woken.poolRunning]
    exact h.pool pool
  · exact (h.exits n exited).imp_left (woken.exits n)

theorem workerReserve_stops (interrupted : Bool) :
    Stops s (workerReserve cfg s n interrupted) := by
  unfold workerReserve
  split
  · exact stops_of_set rfl id rfl (by simp)
  · split
    · exact stops_of_set rfl (by simp [Pipeline.setWorker]) rfl fun _ => .inl rfl
    · split
      · exact ⟨id, id, rfl, fun _ exits => .inl exits⟩
      · exact stops_of_set rfl (by simp [Pipeline.setWorker]) rfl fun _ => .inl rfl
      · exact stops_of_set rfl (fun pool => (Bool.and_eq_true_iff.mp pool).1) rfl
          fun exits => absurd exits (ne_exited (claim_held cfg _ _))

theorem workerDup_stops (interrupted : Bool) : Stops s (workerDup s n p interrupted) := by
  unfold workerDup
  split
  · exact stops_of_set rfl id rfl (by simp)
  · split
    · exact ⟨id, id, rfl, fun _ exits => .inl exits⟩
    · exact stops_of_set rfl id rfl (by simp)

theorem processFrame_stops (stepped : processFrame cfg s n env = some t) : Stops s t := by
  obtain ⟨worker, at_n, stepped⟩ := Option.bind_eq_some_iff.mp stepped
  split at stepped
  · obtain rfl := Option.some.inj stepped
    refine stops_of_set rfl id rfl fun exits => ?_
    show s.poolRunning = false ∨ s.running = false
    cases running : s.running <;> cases pool : s.poolRunning <;> simp [running, pool] at exits ⊢
  · simp at stepped
  · obtain rfl := Option.some.inj stepped
    exact workerReserve_stops _
  · rename_i ptr
    obtain rfl := Option.some.inj stepped
    exact stops_of_set rfl id rfl fun exits => absurd exits (ne_exited (preProcessed_held cfg ptr _))
  · simp at stepped
  · obtain rfl := Option.some.inj stepped
    exact workerDup_stops _
  · rename_i ptr tmptr
    obtain rfl := Option.some.inj stepped
    exact .of_woken (.pushNext s tmptr .wait env)
      (stops_of_set rfl id rfl fun exits => absurd exits (ne_exited (clonePushed_held cfg ptr _)))
  · obtain rfl := Option.some.inj stepped
    refine stops_of_set rfl id rfl fun exits => ?_
    split at exits <;> simp at exits
  · rename_i ptr
    obtain rfl := Option.some.inj stepped
    have woken := Woken.remove (s.drops ptr) ptr env
    have stops : Stops (s.drops ptr) ((remove (s.drops ptr) ptr env).setWorker n .idle) :=
      .of_woken woken (stops_of_set rfl id rfl (by simp))
    exact ⟨stops.running, stops.pool, stops.workers, stops.exits⟩
  · rename_i ptr
    obtain rfl := Option.some.inj stepped
    exact .of_woken (.pushNext s ptr .ready env) (stops_of_set rfl id rfl (by simp))
  · simp at stepped

theorem step_stops (stepped : step cfg s e = some t) : Stops s t := by
  have clear := step_clear stepped
  unfold step at stepped
  rw [clear] at stepped
  cases e with
  | run thread env =>
    cases thread with
    | importer => exact (importLoop_keepsPool stepped).stops
    | worker n => exact processFrame_stops stepped
    | exporter => exact (encoderLoop_keepsPool stepped).stops
  | wakeup thread =>
    obtain rfl := Option.some.inj stepped
    exact (Woken.wake s thread).keepsPool.stops
  | interrupt env =>
    obtain rfl := Option.some.inj stepped
    exact (Woken.interrupt s env).keepsPool.stops
  | interruptImport env =>
    obtain rfl := Option.some.inj stepped
    exact (Woken.signal s _ env).keepsPool.stops
  | stop | importStop | poolStop =>
    obtain rfl := Option.some.inj stepped
    exact ⟨by simp, by simp, rfl, fun _ exits => .inl exits⟩

/-! ### What holds while transcode runs -/

/-- While transcode runs, those who sleep at a condition have nothing to take that nobody was woken
for.  The export waits so after transcode was stopped as well. -/
def Pipeline.Served (s : Pipeline) (c : Cond) : Prop :=
  (c ≠ .exportCond → s.running = true) → (s.waits c).Served

theorem start_served (size workers : Nat) (c : Cond) : (start size workers).Served c := by
  intro _ asleep
  refine absurd ?_ asleep
  show (start size workers).waitAt c .asleep = 0
  simp [Pipeline.waitAt, start, Importer.waitsAt, Exporter.waitsAt, List.countP_replicate,
    Worker.waitsAt]

theorem served_step (h : Sound s) (stepped : step cfg s e = some t)
    (intact : c = .filterCond → Intact s.buffer)
    (wakes : c = .exportCond → WakesExport ⟨s, e, t⟩) (served : s.Served c) : t.Served c := by
  intro running
  have before : c ≠ .exportCond → s.running = true :=
    fun other => (step_stops stepped).running (running other)
  exact (step_serves h stepped intact before wakes).keeps (served before)

/-- While transcode runs, at least as many threads are on their way to a free frame as there are
free frames, if any thread sleeps for want of one; and as long as workers drop linked frames only,
the same holds of the workers and the frames that wait for them. -/
theorem no_signal_lost (cfg : Config) (size workers : Nat) (es : List Event)
    (running : (final (step cfg) (start size workers) es).running = true) :
    let s := final (step cfg) (start size workers) es
    (s.waitAt .importCond .asleep ≠ 0 →
      s.buffer.count .null ≤ s.waitAt .importCond .woken) ∧
    ((∀ x ∈ steps (step cfg) (start size workers) es, DropsLinked x) →
      s.waitAt .filterCond .asleep ≠ 0 →
      s.buffer.count .wait ≤ s.waitAt .filterCond .woken) := by
  intro s
  constructor
  · have import_served : Sound s ∧ s.Served .importCond :=
      invariant (I := fun s => Sound s ∧ s.Served .importCond)
        (fun s e t h stepped => ⟨sound_step h.1 stepped,
          served_step h.1 stepped (by simp) (by simp) h.2⟩)
        ⟨sound_start size workers, start_served size workers _⟩ es
    exact import_served.2 fun _ => running
  · intro linked
    have filter_served : Whole s ∧ s.Served .filterCond :=
      invariant_under (I := fun s => Whole s ∧ s.Served .filterCond) (C := DropsLinked)
        (fun s e t h stepped linked => ⟨whole_step h.1 stepped linked,
          served_step h.1.sound stepped (fun _ => h.1.intact) (by simp) h.2⟩)
        ⟨whole_start size workers, start_served size workers _⟩ es linked
    exact filter_served.2 fun _ => running

/-- The import and a worker sleep for want of a free frame, and the export gives one back, while
another worker sleeps for want of a frame to filter. -/
def giveBack : List Event :=
  List.replicate 6 (.run .importer {}) ++ List.replicate 7 (.run (.worker 0) {}) ++
    [.run (.worker 0) { attributes := { isCloned := true } }, .run (.worker 0) {}] ++
    List.replicate 2 (.run (.worker 1) {}) ++ List.replicate 2 (.run .importer {}) ++
    List.replicate 3 (.run .exporter {})

theorem no_signal_lost_giveBack :
    let s := final (step video) (start 2 2) giveBack
    s.buffer.count .null ≤ s.waitAt .importCond .woken ∧
      s.buffer.count .wait ≤ s.waitAt .filterCond .woken :=
  have kept := no_signal_lost video 2 2 giveBack rfl
  ⟨kept.1 (by decide), kept.2 (by decide) (by decide)⟩

/-- Frames come to wait for workers only where there are workers. -/
theorem Effect.comes_to_wait (h : Sound s) (effect : Effect s t r) (q : Nat)
    (waits : t.buffer.status q = .wait) : s.buffer.status q = .wait ∨ s.workers ≠ [] := by
  have same {u : Framebuffer} {p d : Nat} {g : Frame → Frame} (moved : u.Recounted t.buffer p g d)
      (other : t.buffer.status p ≠ .wait) : u.status q = .wait := by
    have ne : q ≠ p := by
      rintro rfl
      exact other waits
    rwa [← moved.status_ne ne]
  obtain ⟨ring, owned, -⟩ := h
  cases effect with
  | quiet buffer => exact .inl (by rwa [← buffer])
  | starved m lt used buffer => exact .inl (by rwa [buffer] at waits)
  | registers p m bound lt free buffer =>
    have moved := register_recounted ring bound lt free s.framecount
    rw [← buffer] at moved
    exact .inl (same moved (by simp [moved.status_self]))
  | fills p a status pushed before buffer =>
    rcases pushed with rfl | ⟨rfl, some⟩
    · have moved := fill_recounted (owned.stage_head before) a
        (by simp : TCFrameStatus.ready ≠ .null)
      rw [← buffer] at moved
      exact .inl (same moved (by simp [moved.status_self]))
    · exact .inr some
  | marks th p a mem buffer =>
    exact .inl (by rwa [buffer, (setAttributes_unmoved ..).status] at waits)
  | reserves n p buffer =>
    have moved := (reserve_some buffer).2.recounted
    exact .inl (same moved (by simp [moved.status_self]))
  | dups n p q m bound lt free before buffer =>
    have locked : s.buffer.status p = .locked := owned.stage_head before
    have moved := clone_recounted ring bound lt free locked
    rw [← buffer] at moved
    refine .inl (same moved ?_)
    rw [moved.status_self, content_status]
    simp [Framebuffer.status] at locked
    simp [locked]
  | pushesClone n p q before =>
    refine .inr fun none => ?_
    simp [Pipeline.held, none] at before
  | pushes n p before buffer =>
    have used : s.buffer.status p ≠ .null := by simp [owned.stage_head before, Thread.stage]
    have moved := (pushNext_restated used (by simp : TCFrameStatus.ready ≠ .null)).recounted
    rw [← buffer] at moved
    exact .inl (same moved (by simp [moved.status_self]))
  | retrieves p a ps ready buffer =>
    exact .inl (by rwa [buffer, (setAttributes_unmoved ..).status] at waits)
  | drops n p before buffer =>
    have moved := remove_recounted (.inl (owned.stage_head before))
    rw [← buffer] at moved
    exact .inl (same moved (by simp [moved.status_self]))
  | skips p before buffer =>
    have moved := remove_recounted (.inr (owned.stage_head before))
    rw [← buffer] at moved
    exact .inl (same moved (by simp [moved.status_self]))
  | exports p a before buffer =>
    have moved := export_recounted (owned.stage_head before) a
    rw [← buffer] at moved
    exact .inl (same moved (by simp [moved.status_self]))

/-- The step drops a linked frame, if any, and no ready frame comes to the head unnoticed. -/
def Orderly (x : Step Pipeline Event) : Prop := DropsLinked x ∧ WakesExport x

instance (x : Step Pipeline Event) : Decidable (Orderly x) := inferInstanceAs (Decidable (_ ∧ _))

/-- What holds in a run of such steps. -/
structure Lively (s : Pipeline) : Prop where
  whole : Whole s
  clear : s.running = true → s.fault = none
  served : ∀ c, s.Served c
  exits : ∀ n : Nat, s.workers[n]? = some Worker.exited → s.poolRunning = false ∨ s.running = false
  direct : s.workers = [] → s.buffer.count .wait = 0

theorem lively_start (size workers : Nat) : Lively (start size workers) := by
  refine ⟨whole_start size workers, fun _ => rfl, start_served size workers, fun n exits => ?_,
    fun _ => ?_⟩
  · simp [start, List.getElem?_replicate] at exits
  · simp [start, count, allocated_contents, List.countP_replicate]

theorem lively_step (h : Lively s) (stepped : step cfg s e = some t) (orderly : Orderly ⟨s, e, t⟩) :
    Lively t := by
  obtain ⟨linked, wakes⟩ := orderly
  have sound := h.whole.sound
  have stops := step_stops stepped
  refine ⟨whole_step h.whole stepped linked, fun running => ?_,
    fun c => served_step sound stepped (fun _ => h.whole.intact) (fun _ => wakes) (h.served c),
    fun n exits => ?_, fun none => ?_⟩
  · rcases step_fault h.whole stepped with ⟨-, n, env, p, -, -, stopped, -⟩ | ⟨clear, -⟩
    · simp [stops.running running] at stopped
    · exact clear
  · rcases stops.exits n exits with before | now
    · refine (h.exits n before).imp (fun stopped => ?_) fun stopped => ?_
      · exact Bool.eq_false_iff.mpr fun pool => by simp [stops.pool pool] at stopped
      · exact Bool.eq_false_iff.mpr fun running => by simp [stops.running running] at stopped
    · exact now
  · have before : s.workers = [] := by
      rw [← List.length_eq_zero_iff, ← stops.workers, none]
      rfl
    rw [count_eq_zero]
    intro q _ waits
    rcases (step_effect sound.ring stepped).comes_to_wait sound q waits with waits | some
    · exact (count_eq_zero ..).mp (h.direct before) q (lt_of_status (by simp [waits])) waits
    · exact some before

theorem lively_run (cfg : Config) (size workers : Nat) (es : List Event)
    (orderly : ∀ x ∈ steps (step cfg) (start size workers) es, Orderly x) :
    Lively (final (step cfg) (start size workers) es) :=
  invariant_under (fun _ _ _ h stepped => lively_step h stepped) (lively_start size workers) es
    orderly

/-! ### Threads that cannot go on -/

theorem importLoop_none (none : importLoop cfg s env = .none) :
    s.importer = .register .asleep ∨ s.importer = .done := by
  unfold importLoop at none
  split at none
  · simp at none
  · rename_i at_s
    exact .inl at_s
  · simp at none
  · simp at none
  · rename_i at_s
    exact .inr at_s

theorem encoderLoop_none (none : encoderLoop cfg s env = .none) :
    s.exporter = .retrieve .asleep := by
  unfold encoderLoop at none
  split at none
  · simp at none
  · rename_i at_s
    exact at_s
  · simp at none
  · simp at none
  · simp at none

theorem processFrame_none {worker : Worker} (at_n : s.workers[n]? = some worker)
    (none : processFrame cfg s n env = .none) :
    worker = .reserve .asleep ∨ (∃ p, worker = .dup p .asleep) ∨ worker = .exited := by
  rw [processFrame, at_n, Option.bind_some] at none
  split at none
  · simp at none
  · exact .inl rfl
  · simp at none
  · simp at none
  · exact .inr (.inl ⟨_, rfl⟩)
  · simp at none
  · simp at none
  · simp at none
  · simp at none
  · simp at none
  · exact .inr (.inr rfl)

/-- No thread can take a step. -/
def Stuck (cfg : Config) (s : Pipeline) : Prop := ∀ th env, step cfg s (.run th env) = none

/-- Every thread sleeps or has ended. -/
structure Halted (s : Pipeline) : Prop where
  importer : s.importer = .register .asleep ∨ s.importer = .done
  workers : ∀ (n : Nat) worker, s.workers[n]? = some worker →
    worker = .reserve .asleep ∨ (∃ p, worker = .dup p .asleep) ∨ worker = .exited
  exporter : s.exporter = .retrieve .asleep

theorem Stuck.halted (stuck : Stuck cfg s) (clear : s.fault = none) : Halted s := by
  have step_run (th : Thread) : step cfg s (.run th {}) = none := stuck th {}
  simp only [step, clear] at step_run
  exact ⟨importLoop_none (step_run .importer), fun n worker at_n =>
    processFrame_none at_n (step_run (.worker n)), encoderLoop_none (step_run .exporter)⟩

/-- Where every thread has halted, nobody has been woken. -/
theorem Halted.not_woken (h : Halted s) (c : Cond) : s.waitAt c .woken = 0 := by
  have workers : s.workers.countP (Worker.waitsAt c .woken) = 0 := by
    rw [List.countP_eq_zero]
    intro worker mem
    obtain ⟨n, at_n⟩ := List.mem_iff_getElem?.mp mem
    rcases h.workers n worker at_n with rfl | ⟨p, rfl⟩ | rfl <;> simp [Worker.waitsAt]
  have importer : s.importer.waitsAt c .woken = false := by
    rcases h.importer with at_s | at_s <;> simp [at_s, Importer.waitsAt]
  simp [Pipeline.waitAt, workers, importer, h.exporter, Exporter.waitsAt]

/-- Nothing is there for a thread that sleeps when all have halted. -/
theorem Halted.nothing (h : Halted s) (th : Thread) (c : Cond) (sleeps : s.sleepsAt th = some c)
    (served : (s.waits c).Served) : s.buffer.supply c = 0 := by
  have asleep : s.waitAt c .asleep ≠ 0 := by
    have := (wake_waitAt sleeps c).1
    simp at this
    omega
  have enough : s.buffer.supply c ≤ s.waitAt c .woken := served asleep
  rw [h.not_woken] at enough
  omega

/-- Where no halted worker holds a frame, each frame in use waits or is ready. -/
theorem Halted.untaken (h : Halted s) (owned : Owned s)
    (none : ∀ (n p : Nat), s.workers[n]? ≠ some (.dup p .asleep)) (p : Nat) :
    ¬(s.buffer.status p).Taken := by
  intro taken
  obtain ⟨th, mem⟩ := owned.owner p taken
  cases th with
  | importer =>
    rw [Pipeline.held] at mem
    rcases h.importer with at_s | at_s <;> simp [at_s, Importer.held] at mem
  | worker n =>
    cases at_n : s.workers[n]? with
    | none => simp [Pipeline.held, at_n] at mem
    | some worker =>
      rw [held_worker at_n] at mem
      rcases h.workers n worker at_n with rfl | ⟨q, rfl⟩ | rfl
      · simp [Worker.held] at mem
      · exact none n q at_n
      · simp [Worker.held] at mem
  | exporter => simp [Pipeline.held, h.exporter, Exporter.held] at mem

/-- Where all have halted, nobody holds a frame and none waits, the chain is empty: the export would
have taken a ready head. -/
theorem Halted.empty (h : Halted s) (lively : Lively s)
    (untaken : ∀ p, ¬(s.buffer.status p).Taken) (none_waits : s.buffer.count .wait = 0) (p : Nat) :
    s.buffer.status p = .null := by
  obtain ⟨xs, chained⟩ := lively.whole.intact
  have not_ready : headReady s.buffer = false := by
    have nothing := h.nothing .exporter .exportCond
      (by simp [Pipeline.sleepsAt, h.exporter, Exporter.waitsOn]) (lively.served _ (by simp))
    cases ready : headReady s.buffer <;> simp [Framebuffer.supply, ready] at nothing ⊢
  have ready (q : Nat) (used : s.buffer.status q ≠ .null) : s.buffer.status q = .ready := by
    have waits := (count_eq_zero ..).mp none_waits q (lt_of_status used)
    have taken := untaken q
    cases at_q : s.buffer.status q <;> simp [at_q, TCFrameStatus.Taken] at used waits taken ⊢
  by_contra used
  have mem := (chained.used p).mpr used
  cases xs with
  | nil => simp at mem
  | cons q xs =>
    have at_q := ready q ((chained.used q).mp List.mem_cons_self)
    have head_ready := (headReady_iff s.buffer).mpr ⟨q, chained.head, at_q⟩
    simp [not_ready] at head_ready

/-- In a run of orderly steps in which transcode still runs, no thread can take a step only where
the stream has ended and each of its frames has left; or where a worker waits to clone a frame and
none is free; or where the pool has stopped and all workers have exited. -/
theorem halts (cfg : Config) (size workers : Nat) (es : List Event)
    (orderly : ∀ x ∈ steps (step cfg) (start size workers) es, Orderly x)
    (running : (final (step cfg) (start size workers) es).running = true)
    (stuck : Stuck cfg (final (step cfg) (start size workers) es)) :
    let s := final (step cfg) (start size workers) es
    (s.importer = .done ∧ ∀ p, s.buffer.status p = .null) ∨
      ((∃ n p : Nat, s.workers[n]? = some (Worker.dup p .asleep)) ∧ s.buffer.count .null = 0) ∨
      (s.poolRunning = false ∧ ∀ worker ∈ s.workers, worker = .exited) := by
  intro s
  have lively : Lively s := lively_run cfg size workers es orderly
  have halted : Halted s := stuck.halted (lively.clear running)
  have served (c : Cond) : (s.waits c).Served := lively.served c fun _ => running
  by_cases dups : ∃ n p : Nat, s.workers[n]? = some (Worker.dup p .asleep)
  · refine .inr (.inl ⟨dups, ?_⟩)
    obtain ⟨n, p, at_n⟩ := dups
    exact halted.nothing (.worker n) .importCond
      (by simp [Pipeline.sleepsAt, at_n, Worker.waitsOn]) (served _)
  · simp only [not_exists] at dups
    have untaken := halted.untaken lively.whole.sound.owned dups
    by_cases none_waits : s.buffer.count .wait = 0
    · have empty := halted.empty lively untaken none_waits
      refine .inl ⟨halted.importer.resolve_left fun at_s => ?_, empty⟩
      have none_free := halted.nothing .importer .importCond
        (by simp [Pipeline.sleepsAt, at_s, Importer.waitsOn]) (served _)
      have ring := lively.whole.sound.ring
      exact (count_eq_zero ..).mp none_free 0 (by have := ring.last; have := ring.next; omega)
        (empty 0)
    · have exited (n : Nat) (worker : Worker) (at_n : s.workers[n]? = some worker) :
          worker = .exited := by
        rcases halted.workers n worker at_n with rfl | ⟨p, rfl⟩ | rfl
        · exact absurd (halted.nothing (.worker n) .filterCond
            (by simp [Pipeline.sleepsAt, at_n, Worker.waitsOn]) (served _)) none_waits
        · exact absurd at_n (dups n p)
        · rfl
      obtain ⟨worker, rest, at_s⟩ := List.exists_cons_of_ne_nil (mt lively.direct none_waits)
      have first : s.workers[0]? = some Worker.exited := by
        have at_0 : s.workers[0]? = some worker := by rw [at_s]; rfl
        rw [at_0, exited 0 worker at_0]
      refine .inr (.inr ⟨(lively.exits 0 first).resolve_right (by simp [s, running]), ?_⟩)
      intro worker mem
      obtain ⟨n, at_n⟩ := List.mem_iff_getElem?.mp mem
      exact exited n worker at_n

/-- A worker is to clone the only frame, while the import and the export wait as well. -/
def cloneOnly : List Event :=
  List.replicate 3 (.run .importer {}) ++ List.replicate 2 (.run (.worker 0) {}) ++
    [.run (.worker 0) { attributes := { isCloned := true } }, .run (.worker 0) {}] ++
    List.replicate 2 (.run .importer {}) ++ List.replicate 2 (.run .exporter {})

theorem cloneOnly_stuck : Stuck video (final (step video) (start 1 1) cloneOnly) := by
  intro th env
  match th with
  | .importer => rfl
  | .worker 0 => rfl
  | .worker (_ + 1) => rfl
  | .exporter => rfl

theorem halts_cloneOnly :
    let s := final (step video) (start 1 1) cloneOnly
    (s.importer = .done ∧ ∀ p, s.buffer.status p = .null) ∨
      ((∃ n p : Nat, s.workers[n]? = some (Worker.dup p .asleep)) ∧ s.buffer.count .null = 0) ∨
      (s.poolRunning = false ∧ ∀ worker ∈ s.workers, worker = .exited) :=
  halts video 1 1 cloneOnly (by decide) rfl cloneOnly_stuck

end StudyProject.Transcode
