import StudyProject.Transcode.FrameThreads
import StudyProject.Transcode.Pool

/-! What a step of the pipeline does to the frames, and which thread holds them before and after. -/

namespace StudyProject.Transcode

open StudyProject.Library

variable {cfg : Config} {s t u : Pipeline} {e : Event} {env : Env} {p q n : Nat} {th : Thread}

/-! ### Who holds a frame -/

def Importer.held : Importer → List Nat
  | .fill ptr => [ptr]
  | _ => []

def Worker.held : Worker → List Nat
  | .preProcess ptr | .dup ptr _ | .postProcess ptr | .drop ptr | .push ptr => [ptr]
  | .cloned ptr tmptr => [ptr, tmptr]
  | _ => []

def Exporter.held : Exporter → List Nat
  | .skip ptr | .encode ptr => [ptr]
  | _ => []

/-- The frames that a thread works on. -/
def Pipeline.held (s : Pipeline) : Thread → List Nat
  | .importer => s.importer.held
  | .worker n => (s.workers[n]?.map Worker.held).getD []
  | .exporter => s.exporter.held

theorem held_worker {worker : Worker} (at_n : s.workers[n]? = some worker) :
    s.held (.worker n) = worker.held := by
  rw [Pipeline.held, at_n]
  rfl

/-! ### Signals -/

theorem wake_held (s : Pipeline) (thread th : Thread) : (s.wake thread).held th = s.held th := by
  cases thread with
  | importer =>
    cases th with
    | importer =>
      show s.importer.wake.held = s.importer.held
      cases s.importer <;> rfl
    | _ => rfl
  | worker n =>
    cases th with
    | worker m =>
      have same (worker : Worker) : worker.wake.held = worker.held := by cases worker <;> rfl
      by_cases at_n : n = m
      · subst at_n
        cases at_n : s.workers[n]? <;> simp [Pipeline.wake, Pipeline.held, at_n, same]
      · simp [Pipeline.wake, Pipeline.held, List.getElem?_modify_ne _ _ at_n]
    | _ => rfl
  | exporter =>
    cases th with
    | exporter =>
      show s.exporter.wake.held = s.exporter.held
      cases s.exporter <;> rfl
    | _ => rfl

theorem wake_exits (s : Pipeline) (thread : Thread) (n : Nat)
    (exits : (s.wake thread).workers[n]? = some .exited) : s.workers[n]? = some .exited := by
  cases thread with
  | worker m =>
    by_cases at_n : m = n
    · subst at_n
      rw [Pipeline.wake, List.getElem?_modify_eq] at exits
      obtain ⟨worker, at_m, woken⟩ := Option.map_eq_some_iff.mp exits
      rw [at_m]
      cases worker with
      | exited => rfl
      | _ => simp [Worker.wake] at woken
    · rwa [Pipeline.wake, List.getElem?_modify_ne _ _ at_n] at exits
  | _ => exact exits

/-- Whatever has happened to the frames, the threads have at most been woken. -/
structure Woken (s t : Pipeline) : Prop where
  held : ∀ th, t.held th = s.held th
  done : t.importer = .done ↔ s.importer = .done
  workers : t.workers.length = s.workers.length
  history : t.history = s.history
  framecount : t.framecount = s.framecount
  fault : t.fault = s.fault
  running : t.running = s.running
  poolRunning : t.poolRunning = s.poolRunning
  exits : ∀ n : Nat, t.workers[n]? = some Worker.exited → s.workers[n]? = some Worker.exited

namespace Woken

theorem setBuffer (s : Pipeline) (buffer : Framebuffer) : Woken s { s with buffer } :=
  ⟨fun th => by cases th <;> rfl, .rfl, rfl, rfl, rfl, rfl, rfl, rfl, fun _ exits => exits⟩

theorem refl (s : Pipeline) : Woken s s := setBuffer s s.buffer

theorem trans (h : Woken s t) (h' : Woken t u) : Woken s u :=
  ⟨fun th => (h'.held th).trans (h.held th), h'.done.trans h.done,
    h'.workers.trans h.workers, h'.history.trans h.history, h'.framecount.trans h.framecount,
    h'.fault.trans h.fault, h'.running.trans h.running, h'.poolRunning.trans h.poolRunning,
    fun n exits => h.exits n (h'.exits n exits)⟩

theorem wake (s : Pipeline) (thread : Thread) : Woken s (s.wake thread) := by
  refine ⟨wake_held s thread, ?_, ?_, ?_, ?_, ?_, ?_, ?_, wake_exits s thread⟩
  · cases thread with
    | importer => cases at_s : s.importer <;> simp [Pipeline.wake, Importer.wake, at_s]
    | _ => rfl
  all_goals cases thread <;> simp [Pipeline.wake]

theorem signal (s : Pipeline) (cond : Cond) (env : Env) : Woken s (s.signal cond env) := by
  unfold Pipeline.signal
  split
  · exact wake ..
  · exact refl s

theorem broadcast (s : Pipeline) (cond : Cond) : Woken s (s.broadcast cond) := by
  unfold Pipeline.broadcast
  generalize s.waiters cond = threads
  induction threads generalizing s with
  | nil => exact refl s
  | cons thread threads ih => exact (wake s thread).trans (ih _)

theorem interrupt (s : Pipeline) (env : Env) : Woken s (tcFramebufferInterrupt s env) :=
  ((signal s _ env).trans (broadcast _ _)).trans (signal _ _ env)

theorem pushNext (s : Pipeline) (p : Nat) (status : TCFrameStatus) (env : Env) :
    Woken s (pushNext s p status env) := by
  unfold Transcode.pushNext
  dsimp only
  split
  · exact (setBuffer s _).trans (signal ..)
  · split
    · exact (setBuffer s _).trans (signal ..)
    · exact setBuffer s _

theorem remove (s : Pipeline) (p : Nat) (env : Env) : Woken s (remove s p env) :=
  (setBuffer s _).trans (signal ..)

end Woken

@[simp] theorem wake_buffer (s : Pipeline) (thread : Thread) :
    (s.wake thread).buffer = s.buffer := by
  cases thread <;> rfl

@[simp] theorem signal_buffer (s : Pipeline) (cond : Cond) (env : Env) :
    (s.signal cond env).buffer = s.buffer := by
  unfold Pipeline.signal
  split
  · exact wake_buffer ..
  · rfl

@[simp] theorem broadcast_buffer (s : Pipeline) (cond : Cond) :
    (s.broadcast cond).buffer = s.buffer := by
  unfold Pipeline.broadcast
  generalize s.waiters cond = threads
  induction threads generalizing s with
  | nil => rfl
  | cons thread threads ih => exact (ih _).trans (wake_buffer ..)

@[simp] theorem interrupt_buffer (s : Pipeline) (env : Env) :
    (tcFramebufferInterrupt s env).buffer = s.buffer := by
  simp [tcFramebufferInterrupt]

@[simp] theorem pushNext_buffer (s : Pipeline) (p : Nat) (status : TCFrameStatus) (env : Env) :
    (pushNext s p status env).buffer = framePushNext s.buffer p status := by
  unfold pushNext
  dsimp only
  split
  · exact signal_buffer ..
  · split
    · exact signal_buffer ..
    · rfl

@[simp] theorem remove_buffer (s : Pipeline) (p : Nat) (env : Env) :
    (remove s p env).buffer = frameRemove s.buffer p :=
  signal_buffer ..

/-! ### The effects -/

/-- The thread `th` now holds `ps`, and the others what they held. -/
structure Holds (s t : Pipeline) (th : Thread) (ps : List Nat) : Prop where
  self : t.held th = ps
  others : ∀ th' ≠ th, t.held th' = s.held th'

namespace Holds

variable {ps : List Nat}

theorem importer (workers : t.workers = s.workers) (exporter : t.exporter = s.exporter) :
    Holds s t .importer t.importer.held := by
  refine ⟨rfl, fun th other => ?_⟩
  cases th with
  | importer => exact absurd rfl other
  | worker n => rw [Pipeline.held, Pipeline.held, workers]
  | exporter => rw [Pipeline.held, Pipeline.held, exporter]

theorem exporter (importer : t.importer = s.importer) (workers : t.workers = s.workers) :
    Holds s t .exporter t.exporter.held := by
  refine ⟨rfl, fun th other => ?_⟩
  cases th with
  | importer => rw [Pipeline.held, Pipeline.held, importer]
  | worker n => rw [Pipeline.held, Pipeline.held, workers]
  | exporter => exact absurd rfl other

theorem setWorker {worker : Worker} (lt : n < s.workers.length) (importer : t.importer = s.importer)
    (workers : t.workers = s.workers.set n worker) (exporter : t.exporter = s.exporter)
    (held : worker.held = ps) : Holds s t (.worker n) ps := by
  constructor
  · rw [← held]
    apply held_worker
    simp [workers, lt]
  · intro th other
    cases th with
    | importer => rw [Pipeline.held, Pipeline.held, importer]
    | worker m =>
      have ne : n ≠ m := fun same => other (by rw [same])
      simp [Pipeline.held, workers, List.getElem?_set_ne ne]
    | exporter => rw [Pipeline.held, Pipeline.held, exporter]

theorem woken (woken : Woken s t) (h : Holds t u th ps) : Holds s u th ps :=
  ⟨h.self, fun th' other => (h.others th' other).trans (woken.held th')⟩

theorem drops (h : Holds (s.drops p) t th ps) : Holds s t th ps :=
  ⟨h.self, fun th' other => (h.others th' other).trans (by cases th' <;> rfl)⟩

end Holds

/-- The threads hold what they held, but for a frame that the export may have left. -/
structure Kept (s t : Pipeline) : Prop where
  others : ∀ th ≠ .exporter, t.held th = s.held th
  exporter : t.held .exporter = s.held .exporter ∨ t.held .exporter = []

namespace Kept

theorem of_same (same : ∀ th, t.held th = s.held th) : Kept s t :=
  ⟨fun th _ => same th, .inl (same .exporter)⟩

theorem of_holds {ps : List Nat} (h : Holds s t th ps) (same : ps = s.held th) : Kept s t := by
  refine .of_same fun th' => ?_
  by_cases at_th : th' = th
  · rw [at_th, h.self, same]
  · exact h.others th' at_th

theorem importer (workers : t.workers = s.workers) (exporter : t.exporter = s.exporter)
    (same : t.importer.held = s.importer.held) : Kept s t :=
  of_holds (.importer workers exporter) same

theorem worker {worker : Worker} (lt : n < s.workers.length) (importer : t.importer = s.importer)
    (workers : t.workers = s.workers.set n worker) (exporter : t.exporter = s.exporter)
    (same : worker.held = s.held (.worker n)) : Kept s t :=
  of_holds (.setWorker lt importer workers exporter rfl) same

/-- The export holds no frame. -/
theorem leaves (importer : t.importer = s.importer) (workers : t.workers = s.workers)
    (none : t.exporter.held = []) : Kept s t :=
  ⟨(Holds.exporter importer workers).others, .inr none⟩

end Kept

/-- The frame that the worker is about to drop. -/
def Worker.dropped : Worker → Option Nat
  | .drop ptr => some ptr
  | _ => none

/-- The frame that a worker drops in a step. -/
def Pipeline.dropped (s : Pipeline) : Event → Option Nat
  | .run (.worker n) _ => s.workers[n]?.bind Worker.dropped
  | _ => none

/-- What a step does to the frames, and which one a worker drops in it. -/
inductive Effect (s t : Pipeline) : Option Nat → Prop
  | quiet (buffer : t.buffer = s.buffer) (kept : Kept s t) (history : t.history = s.history)
      (count : t.framecount = s.framecount) : Effect s t none
  /-- A frame is asked for, and none is free. -/
  | starved (m : Nat) (lt : m < s.buffer.last)
      (used : ∀ p < s.buffer.last, s.buffer.status p ≠ .null)
      (buffer : t.buffer = { s.buffer with next := m }) (kept : Kept s t)
      (history : t.history = s.history) (count : t.framecount = s.framecount) : Effect s t none
  | registers (p m : Nat) (bound : p < s.buffer.last) (lt : m < s.buffer.last)
      (free : s.buffer.status p = .null)
      (buffer : t.buffer =
        listFrameInsert (listFrameAppend (s.buffer.registered p m s.framecount) p) p)
      (before : s.held .importer = []) (holds : Holds s t .importer [p])
      (history : t.history =
        { s.history with registered := s.history.registered ++ [s.framecount] })
      (count : t.framecount = s.framecount) : Effect s t none
  /-- The import pushes its frame. -/
  | fills (p : Nat) (a : Attributes) (status : TCFrameStatus)
      (pushed : status = .ready ∨ status = .wait ∧ s.workers ≠ [])
      (before : s.held .importer = [p])
      (buffer : t.buffer = framePushNext (setAttributes s.buffer p a) p status)
      (holds : Holds s t .importer []) (history : t.history = s.history)
      (count : s.framecount ≤ t.framecount) : Effect s t none
  | marks (th : Thread) (p : Nat) (a : Attributes) (mem : p ∈ s.held th)
      (buffer : t.buffer = setAttributes s.buffer p a) (kept : Kept s t)
      (history : t.history = s.history) (count : t.framecount = s.framecount) : Effect s t none
  | reserves (n p : Nat) (buffer : frameReserve s.buffer = some (some p, t.buffer))
      (before : s.held (.worker n) = []) (holds : Holds s t (.worker n) [p])
      (history : t.history = s.history) (count : t.framecount = s.framecount) : Effect s t none
  | dups (n p q m : Nat) (bound : q < s.buffer.last) (lt : m < s.buffer.last)
      (free : s.buffer.status q = .null) (before : s.held (.worker n) = [p])
      (buffer : t.buffer =
        markClone (listFrameLink (frameCopy (s.buffer.claimed q m) q p) q p) p q)
      (holds : Holds s t (.worker n) [p, q])
      (history : t.history =
        { s.history with cloned := s.history.cloned ++ [(s.buffer.frame p).id] })
      (count : t.framecount = s.framecount) : Effect s t none
  /-- A worker pushes a clone. -/
  | pushesClone (n p q : Nat) (before : s.held (.worker n) = [p, q])
      (buffer : t.buffer = framePushNext s.buffer q .wait) (holds : Holds s t (.worker n) [p])
      (history : t.history = s.history) (count : t.framecount = s.framecount) : Effect s t none
  | pushes (n p : Nat) (before : s.held (.worker n) = [p])
      (buffer : t.buffer = framePushNext s.buffer p .ready) (holds : Holds s t (.worker n) [])
      (history : t.history = s.history) (count : t.framecount = s.framecount) : Effect s t none
  /-- The export takes the head, and may hand it to the encoder. -/
  | retrieves (p : Nat) (a : Attributes) (ps : List Nat)
      (ready : frameRetrieveNowait s.buffer = some p)
      (buffer : t.buffer = setAttributes s.buffer p a) (some : ps = [p] ∨ ps = [])
      (holds : Holds s t .exporter ps)
      (history : t.history = s.history ∨ t.history =
        { s.history with encoded := s.history.encoded ++ [(s.buffer.frame p).id] })
      (count : t.framecount = s.framecount) : Effect s t none
  | drops (n p : Nat) (before : s.held (.worker n) = [p])
      (buffer : t.buffer = frameRemove s.buffer p) (holds : Holds s t (.worker n) [])
      (history : t.history =
        { s.history with dropped := s.history.dropped ++ [(s.buffer.frame p).id] })
      (count : t.framecount = s.framecount) : Effect s t (some p)
  /-- The export drops a frame that one of its filters skips. -/
  | skips (p : Nat) (before : s.held .exporter = [p])
      (buffer : t.buffer = frameRemove s.buffer p) (holds : Holds s t .exporter [])
      (history : t.history =
        { s.history with dropped := s.history.dropped ++ [(s.buffer.frame p).id] })
      (count : t.framecount = s.framecount) : Effect s t none
  | exports (p : Nat) (a : Attributes) (before : s.held .exporter = [p])
      (buffer : t.buffer = frameRemove (setAttributes s.buffer p a) p)
      (holds : Holds s t .exporter [])
      (history : t.history =
        { s.history with exported := s.history.exported ++ [(s.buffer.frame p).id] })
      (count : t.framecount = s.framecount) : Effect s t none

theorem Woken.effect (woken : Woken s t) (buffer : t.buffer = s.buffer) : Effect s t none :=
  .quiet buffer (.of_same woken.held) woken.history woken.framecount

/-! ### The import -/

theorem importRegister_effect (ring : s.buffer.Ring) (before : s.importer.held = [])
    (interrupted : Bool) : Effect s (importRegister s interrupted) none := by
  unfold importRegister
  split
  · exact .quiet rfl (.importer rfl rfl before.symm) rfl rfl
  · split
    · exact .quiet rfl (.importer rfl rfl before.symm) rfl rfl
    · unfold frameRegister
      rcases registerFrame_cases ring with ⟨p, bound, m, lt, free, taken, -⟩ | ⟨m, lt, used, none⟩
      · rw [taken]
        exact .registers p m bound lt free rfl before (.importer rfl rfl) rfl rfl
      · rw [none]
        exact .starved m lt used rfl (.importer rfl rfl before.symm) rfl rfl

theorem importFill_effect (before : s.held .importer = [p]) :
    Effect s (importFill cfg s p env) none := by
  unfold importFill
  generalize next : (if s.workers.isEmpty then TCFrameStatus.ready else .wait) = status
  have pushed : status = .ready ∨ status = .wait ∧ s.workers ≠ [] := by
    rw [← next]
    cases s.workers <;> simp
  have woken := (Woken.setBuffer s (setAttributes s.buffer p env.attributes)).trans
    (.pushNext _ p status env)
  have buffer := pushNext_buffer { s with buffer := setAttributes s.buffer p env.attributes } p
    status env
  dsimp only
  split
  · exact .fills p env.attributes status pushed before buffer
      (.woken woken (.importer rfl rfl)) woken.history (Nat.le_of_eq woken.framecount.symm)
  · refine .fills p env.attributes status pushed before buffer
      (.woken woken (.importer rfl rfl)) woken.history ?_
    show s.framecount ≤ _ + 1
    rw [woken.framecount]
    exact Nat.le_succ _

theorem importLoop_effect (ring : s.buffer.Ring) (stepped : importLoop cfg s env = some t) :
    Effect s t none := by
  unfold importLoop at stepped
  split at stepped
  · rename_i at_s
    obtain rfl := Option.some.inj stepped
    refine .quiet rfl (.importer rfl rfl ?_) rfl rfl
    rw [at_s]
    split <;> rfl
  · simp at stepped
  · rename_i waiting _ at_s
    obtain rfl := Option.some.inj stepped
    exact importRegister_effect ring (by rw [at_s]; rfl) _
  · rename_i ptr at_s
    obtain rfl := Option.some.inj stepped
    exact importFill_effect (by rw [Pipeline.held, at_s]; rfl)
  · simp at stepped

/-! ### The workers -/

theorem claim_held (cfg : Config) (p : Nat) (a : Attributes) : (claim cfg p a).held = [p] := by
  unfold claim
  split
  · rfl
  · split <;> rfl

theorem preProcessed_held (cfg : Config) (p : Nat) (a : Attributes) :
    (preProcessed cfg p a).held = [p] := by
  unfold preProcessed
  split <;> split <;> first | rfl | split <;> rfl

theorem clonePushed_held (cfg : Config) (p : Nat) (a : Attributes) :
    (clonePushed cfg p a).held = [p] := by
  unfold clonePushed
  split
  · rfl
  · split <;> rfl

theorem workerReserve_effect (lt : n < s.workers.length) (before : s.held (.worker n) = [])
    (interrupted : Bool) : Effect s (workerReserve cfg s n interrupted) none := by
  unfold workerReserve
  split
  · exact .quiet rfl (.worker lt rfl rfl rfl before.symm) rfl rfl
  · split
    · exact .quiet rfl (.worker lt rfl rfl rfl before.symm) rfl rfl
    · split
      · exact .quiet rfl (.of_same fun th => by cases th <;> rfl) rfl rfl
      · rename_i buffer found
        exact .quiet (reserve_none found)
          (.worker lt rfl rfl rfl before.symm) rfl rfl
      · rename_i ptr buffer found
        exact .reserves n ptr found before (.setWorker lt rfl rfl rfl (claim_held ..)) rfl rfl

theorem workerDup_effect (ring : s.buffer.Ring) (lt : n < s.workers.length)
    (before : s.held (.worker n) = [p]) (interrupted : Bool) :
    Effect s (workerDup s n p interrupted) none := by
  unfold workerDup
  split
  · exact .quiet rfl (.worker lt rfl rfl rfl before.symm) rfl rfl
  · unfold frameDup
    rcases registerFrame_cases ring with ⟨q, bound, m, lt', free, -, taken⟩ | ⟨m, lt', used, none⟩
    · rw [taken]
      exact .dups n p q m bound lt' free before rfl (.setWorker lt rfl rfl rfl rfl) rfl rfl
    · rw [none]
      exact .starved m lt' used rfl (.of_same fun th => by cases th <;> rfl) rfl rfl

/-- The worker changes the attributes of its frame and goes on with it. -/
theorem Effect.marksOwn {worker : Worker} (lt : n < s.workers.length)
    (before : s.held (.worker n) = [p]) (held : worker.held = [p]) (a : Attributes) :
    Effect s ({ s with buffer := setAttributes s.buffer p a }.setWorker n worker) none :=
  .marks (.worker n) p a (by simp [before]) rfl
    (.worker lt rfl rfl rfl (held.trans before.symm)) rfl rfl

theorem processFrame_effect (ring : s.buffer.Ring) (stepped : processFrame cfg s n env = some t) :
    Effect s t (s.workers[n]?.bind Worker.dropped) := by
  obtain ⟨worker, at_n, stepped⟩ := Option.bind_eq_some_iff.mp stepped
  have lt : n < s.workers.length := (List.getElem?_eq_some_iff.mp at_n).1
  have before := held_worker at_n
  rw [at_n]
  split at stepped
  · obtain rfl := Option.some.inj stepped
    refine .quiet rfl (.worker lt rfl rfl rfl ?_) rfl rfl
    rw [before]
    split <;> rfl
  · simp at stepped
  · obtain rfl := Option.some.inj stepped
    exact workerReserve_effect lt before _
  · obtain rfl := Option.some.inj stepped
    exact .marksOwn lt before (preProcessed_held ..) _
  · simp at stepped
  · obtain rfl := Option.some.inj stepped
    exact workerDup_effect ring lt before _
  · rename_i ptr tmptr
    obtain rfl := Option.some.inj stepped
    have woken := Woken.pushNext s tmptr .wait env
    exact .pushesClone n ptr tmptr before (pushNext_buffer ..)
      (.woken woken (.setWorker (by rwa [woken.workers]) rfl rfl rfl (clonePushed_held ..)))
      woken.history woken.framecount
  · obtain rfl := Option.some.inj stepped
    exact .marksOwn lt before (by split <;> rfl) _
  · rename_i ptr
    obtain rfl := Option.some.inj stepped
    have woken := Woken.remove (s.drops ptr) ptr env
    exact .drops n ptr before (remove_buffer ..)
      (.drops (.woken woken (.setWorker (by rwa [woken.workers]) rfl rfl rfl rfl))) woken.history
      woken.framecount
  · rename_i ptr
    obtain rfl := Option.some.inj stepped
    have woken := Woken.pushNext s ptr .ready env
    exact .pushes n ptr before (pushNext_buffer ..)
      (.woken woken (.setWorker (by rwa [woken.workers]) rfl rfl rfl rfl)) woken.history
      woken.framecount
  · simp at stepped

/-! ### The export -/

theorem acquire_effect (ready : frameRetrieveNowait s.buffer = some p) :
    Effect s (acquire cfg s p env) none := by
  unfold acquire
  dsimp only
  generalize (if cfg.needProcessing _ then env.attributes else _) = a
  split
  · exact .retrieves p a [p] ready rfl (.inl rfl) (.exporter rfl rfl) (.inr rfl) rfl
  · split
    · exact .retrieves p a [p] ready rfl (.inl rfl) (.exporter rfl rfl) (.inl rfl) rfl
    · split
      · exact .retrieves p a.again [p] ready rfl (.inl rfl) (.exporter rfl rfl) (.inl rfl)
          rfl
      · exact .retrieves p a.again [] ready rfl (.inr rfl) (.exporter rfl rfl) (.inl rfl)
          rfl

theorem dispose_effect (before : s.held .exporter = [p]) : Effect s (dispose s p env) none := by
  unfold dispose
  split
  · have woken := Woken.remove { s with
      buffer := setAttributes s.buffer p env.attributes
      history.exported := s.history.exported ++ [(s.buffer.frame p).id] } p env
    refine .exports p env.attributes before (remove_buffer ..) ⟨rfl, fun th other => ?_⟩
      woken.history woken.framecount
    have same := woken.held th
    cases th with
    | importer => exact same
    | worker n => exact same
    | exporter => exact absurd rfl other
  · exact .marks .exporter p env.attributes.again (by simp [before]) rfl
      (.leaves rfl rfl rfl) rfl rfl

theorem encoderLoop_effect (stepped : encoderLoop cfg s env = some t) : Effect s t none := by
  unfold encoderLoop at stepped
  split at stepped
  · obtain rfl := Option.some.inj stepped
    exact .quiet rfl (.leaves rfl rfl rfl) rfl rfl
  · simp at stepped
  · obtain rfl := Option.some.inj stepped
    unfold encoderRetrieve
    split
    · exact .quiet rfl (.leaves rfl rfl rfl) rfl rfl
    · split
      · exact .quiet rfl (.leaves rfl rfl rfl) rfl rfl
      · rename_i ready
        exact acquire_effect ready
  · rename_i ptr at_s
    obtain rfl := Option.some.inj stepped
    have woken := Woken.remove (s.drops ptr) ptr env
    exact .skips ptr (by rw [Pipeline.held, at_s]; rfl) (remove_buffer ..)
      (.drops (.woken woken (.exporter rfl rfl))) woken.history woken.framecount
  · rename_i ptr at_s
    obtain rfl := Option.some.inj stepped
    split
    · exact .quiet rfl (.leaves rfl rfl rfl) rfl rfl
    · exact dispose_effect (by rw [Pipeline.held, at_s]; rfl)

/-- What a step of the pipeline can do. -/
theorem step_effect (ring : s.buffer.Ring) (stepped : step cfg s e = some t) :
    Effect s t (s.dropped e) := by
  unfold step at stepped
  split at stepped
  · simp at stepped
  · cases e with
    | run thread env =>
      cases thread with
      | importer => exact importLoop_effect ring stepped
      | worker n => exact processFrame_effect ring stepped
      | exporter => exact encoderLoop_effect stepped
    | wakeup thread =>
      obtain rfl := Option.some.inj stepped
      exact (Woken.wake s thread).effect (wake_buffer s thread)
    | interrupt env =>
      obtain rfl := Option.some.inj stepped
      exact (Woken.interrupt s env).effect (interrupt_buffer s env)
    | interruptImport env =>
      obtain rfl := Option.some.inj stepped
      exact (Woken.signal s _ env).effect (signal_buffer ..)
    | stop | importStop | poolStop =>
      obtain rfl := Option.some.inj stepped
      exact .quiet rfl (.of_same fun th => by cases th <;> rfl) rfl rfl

end StudyProject.Transcode
