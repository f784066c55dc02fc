import StudyProject.Library.Condition
import StudyProject.Transcode.FrameThreads
import StudyProject.Transcode.Pool

/-! Who sleeps at which condition, who has been woken there, and what a signal does to their
numbers. -/

namespace StudyProject.Transcode

open StudyProject.Library StudyProject.Library.Condition Framebuffer

variable {s t : Pipeline} {env : Env} {n p : Nat} {c : Cond} {th : Thread}

/-! ### Who waits -/

def Importer.waitsAt (c : Cond) (w : Waiting) : Importer → Bool
  | .register w' => c = .importCond ∧ w' = w
  | _ => false

def Worker.waitsAt (c : Cond) (w : Waiting) : Worker → Bool
  | .reserve w' => c = .filterCond ∧ w' = w
  | .dup _ w' => c = .importCond ∧ w' = w
  | _ => false

def Exporter.waitsAt (c : Cond) (w : Waiting) : Exporter → Bool
  | .retrieve w' => c = .exportCond ∧ w' = w
  | _ => false

/-- The number of threads that stand so at a condition. -/
def Pipeline.waitAt (s : Pipeline) (c : Cond) (w : Waiting) : Nat :=
  (s.importer.waitsAt c w).toNat + s.workers.countP (Worker.waitsAt c w) +
    (s.exporter.waitsAt c w).toNat

/-- What there is for those who wait for a condition. -/
def Framebuffer.supply (s : Framebuffer) : Cond → Nat
  | .importCond => s.count .null
  | .filterCond => s.count .wait
  | .exportCond => (headReady s).toNat

def Pipeline.waits (s : Pipeline) (c : Cond) : Waits :=
  { asleep := s.waitAt c .asleep, woken := s.waitAt c .woken, supply := s.buffer.supply c }

/-- The condition at which a thread sleeps. -/
def Pipeline.sleepsAt (s : Pipeline) : Thread → Option Cond
  | .importer => s.importer.waitsOn
  | .worker n => s.workers[n]?.bind Worker.waitsOn
  | .exporter => s.exporter.waitsOn

/-! ### Signals -/

theorem importer_asleep (importer : Importer) (c : Cond) :
    importer.waitsAt c .asleep = true ↔ importer.waitsOn = some c := by
  cases importer with
  | register w => cases w <;> simp [Importer.waitsAt, Importer.waitsOn, eq_comm]
  | _ => simp [Importer.waitsAt, Importer.waitsOn]

theorem worker_asleep (worker : Worker) (c : Cond) :
    worker.waitsAt c .asleep = true ↔ worker.waitsOn = some c := by
  cases worker with
  | reserve w => cases w <;> simp [Worker.waitsAt, Worker.waitsOn, eq_comm]
  | dup _ w => cases w <;> simp [Worker.waitsAt, Worker.waitsOn, eq_comm]
  | _ => simp [Worker.waitsAt, Worker.waitsOn]

theorem exporter_asleep (exporter : Exporter) (c : Cond) :
    exporter.waitsAt c .asleep = true ↔ exporter.waitsOn = some c := by
  cases exporter with
  | retrieve w => cases w <;> simp [Exporter.waitsAt, Exporter.waitsOn, eq_comm]
  | _ => simp [Exporter.waitsAt, Exporter.waitsOn]

theorem mem_waiters : th ∈ s.waiters c ↔ s.sleepsAt th = some c := by
  unfold Pipeline.waiters
  simp only [List.mem_append, List.mem_ite_nil_right, List.mem_map, List.mem_filter, List.mem_range,
    List.mem_singleton, decide_eq_true_eq]
  cases th with
  | importer => simp [Pipeline.sleepsAt]
  | exporter => simp [Pipeline.sleepsAt]
  | worker n =>
    simp only [Pipeline.sleepsAt, reduceCtorEq, and_false, false_or, or_false, Thread.worker.injEq,
      exists_eq_right, and_iff_right_iff_imp]
    intro sleeps
    by_contra out
    simp [List.getElem?_eq_none (Nat.le_of_not_lt out)] at sleeps

/-- A signal wakes a thread that sleeps at the condition, if there is one. -/
theorem signal_cases (s : Pipeline) (c : Cond) (env : Env) :
    s.signal c env = s ∧ s.waiters c = [] ∨
      ∃ th, s.sleepsAt th = some c ∧ s.signal c env = s.wake th := by
  unfold Pipeline.signal
  split
  · rename_i th at_th
    exact .inr ⟨th, mem_waiters.mp (List.mem_of_getElem? at_th), rfl⟩
  · rename_i none
    refine .inl ⟨rfl, ?_⟩
    by_contra some
    have pos : 0 < (s.waiters c).length := List.length_pos_iff.mpr some
    rw [List.getElem?_eq_none_iff] at none
    have := Nat.mod_lt env.waiter pos
    omega

theorem worker_wakes {worker : Worker} (sleeps : worker.waitsOn = some c) (c' : Cond) :
    worker.waitsAt c' .asleep = decide (c = c') ∧ worker.waitsAt c' .woken = false ∧
    worker.wake.waitsAt c' .asleep = false ∧ worker.wake.waitsAt c' .woken = decide (c = c') := by
  cases worker with
  | reserve w =>
    cases w with
    | asleep =>
      obtain rfl : Cond.filterCond = c := Option.some.inj sleeps
      simp [Worker.waitsAt, Worker.wake, Waiting.wake, eq_comm]
    | _ => simp [Worker.waitsOn] at sleeps
  | dup p w =>
    cases w with
    | asleep =>
      obtain rfl : Cond.importCond = c := Option.some.inj sleeps
      simp [Worker.waitsAt, Worker.wake, Waiting.wake, eq_comm]
    | _ => simp [Worker.waitsOn] at sleeps
  | _ => simp [Worker.waitsOn] at sleeps

/-- Waking a thread that sleeps moves it over, at its condition only. -/
theorem wake_waitAt (sleeps : s.sleepsAt th = some c) (c' : Cond) :
    (s.wake th).waitAt c' .asleep + (if c = c' then 1 else 0) = s.waitAt c' .asleep ∧
    (s.wake th).waitAt c' .woken = s.waitAt c' .woken + if c = c' then 1 else 0 := by
  cases th with
  | importer =>
    obtain ⟨rfl, at_s⟩ : c = .importCond ∧ s.importer = .register .asleep := by
      have := (importer_asleep s.importer c).mpr sleeps
      cases at_s : s.importer <;> simp_all [Importer.waitsAt]
    cases c' <;> simp [Pipeline.waitAt, Pipeline.wake, at_s, Importer.wake, Waiting.wake,
      Importer.waitsAt]
    omega
  | exporter =>
    obtain ⟨rfl, at_s⟩ : c = .exportCond ∧ s.exporter = .retrieve .asleep := by
      have := (exporter_asleep s.exporter c).mpr sleeps
      cases at_s : s.exporter <;> simp_all [Exporter.waitsAt]
    cases c' <;> simp [Pipeline.waitAt, Pipeline.wake, at_s, Exporter.wake, Waiting.wake,
      Exporter.waitsAt]
  | worker n =>
    obtain ⟨worker, at_n, sleeps⟩ := Option.bind_eq_some_iff.mp sleeps
    obtain ⟨was_asleep, not_woken, not_asleep, is_woken⟩ := worker_wakes sleeps c'
    have asleep := Objects.countP_modify (p := Worker.waitsAt c' .asleep) (f := Worker.wake) at_n
    have woken := Objects.countP_modify (p := Worker.waitsAt c' .woken) (f := Worker.wake) at_n
    rw [was_asleep, not_asleep] at asleep
    rw [not_woken, is_woken] at woken
    simp only [decide_eq_true_eq, Bool.false_eq_true, if_false, Nat.add_zero] at asleep woken
    simp only [Pipeline.waitAt, Pipeline.wake]
    omega

theorem wake_same {w : Waiting} (other : w ≠ .asleep) : w.wake = w := by
  cases w with
  | asleep => exact absurd rfl other
  | _ => rfl

theorem importer_awake {importer : Importer} (awake : importer.waitsOn = none) :
    importer.wake = importer := by
  cases importer with
  | register w =>
    refine congrArg Importer.register (wake_same ?_)
    rintro rfl
    simp [Importer.waitsOn] at awake
  | _ => rfl

theorem exporter_awake {exporter : Exporter} (awake : exporter.waitsOn = none) :
    exporter.wake = exporter := by
  cases exporter with
  | retrieve w =>
    refine congrArg Exporter.retrieve (wake_same ?_)
    rintro rfl
    simp [Exporter.waitsOn] at awake
  | _ => rfl

theorem worker_awake {worker : Worker} (awake : worker.waitsOn = none) : worker.wake = worker := by
  cases worker with
  | reserve w =>
    refine congrArg Worker.reserve (wake_same ?_)
    rintro rfl
    simp [Worker.waitsOn] at awake
  | dup p w =>
    refine congrArg (Worker.dup p) (wake_same ?_)
    rintro rfl
    simp [Worker.waitsOn] at awake
  | _ => rfl

/-- A thread that does not sleep is not woken. -/
theorem wake_awake (awake : s.sleepsAt th = none) : s.wake th = s := by
  cases th with
  | importer => simp [Pipeline.wake, importer_awake awake]
  | exporter => simp [Pipeline.wake, exporter_awake awake]
  | worker n =>
    have same : s.workers.modify n Worker.wake = s.workers := by
      apply List.ext_getElem?
      intro m
      by_cases at_n : n = m
      · subst at_n
        cases at_n : s.workers[n]? with
        | none => simp [at_n]
        | some worker =>
          have awake : worker.waitsOn = none := by simpa [Pipeline.sleepsAt, at_n] using awake
          simp [at_n, worker_awake awake]
      · rw [List.getElem?_modify_ne _ _ at_n]
    simp [Pipeline.wake, same]

theorem none_asleep (none : s.waiters c = []) : s.waitAt c .asleep = 0 := by
  have no_one (th : Thread) : s.sleepsAt th ≠ some c := by
    intro sleeps
    have mem := mem_waiters.mpr sleeps
    rw [none] at mem
    exact List.not_mem_nil mem
  have importer : s.importer.waitsAt c .asleep = false :=
    Bool.eq_false_iff.mpr fun asleep => no_one .importer ((importer_asleep ..).mp asleep)
  have exporter : s.exporter.waitsAt c .asleep = false :=
    Bool.eq_false_iff.mpr fun asleep => no_one .exporter ((exporter_asleep ..).mp asleep)
  have workers : s.workers.countP (Worker.waitsAt c .asleep) = 0 := by
    rw [List.countP_eq_zero]
    intro worker mem asleep
    obtain ⟨n, at_n⟩ := List.mem_iff_getElem?.mp mem
    exact no_one (.worker n) (Option.bind_eq_some_iff.mpr
      ⟨worker, at_n, (worker_asleep ..).mp asleep⟩)
  simp [Pipeline.waitAt, importer, exporter, workers]

/-- A signal wakes one of those who sleep at the condition, and nobody at another. -/
theorem signal_waitAt (s : Pipeline) (c c' : Cond) (env : Env) :
    ∃ k ≤ 1, (c' = c → s.waitAt c .asleep ≠ 0 → k = 1) ∧ (c' ≠ c → k = 0) ∧
      (s.signal c env).waitAt c' .asleep + k = s.waitAt c' .asleep ∧
      (s.signal c env).waitAt c' .woken = s.waitAt c' .woken + k := by
  rcases signal_cases s c env with ⟨same, none⟩ | ⟨th, sleeps, wakes⟩
  · rw [same]
    exact ⟨0, by omega, fun _ some => absurd (none_asleep none) some, fun _ => rfl, rfl, rfl⟩
  · obtain ⟨asleep, woken⟩ := wake_waitAt sleeps c'
    rw [wakes]
    refine ⟨if c = c' then 1 else 0, by split <;> omega, fun same _ => by simp [same],
      fun other => ?_, asleep, woken⟩
    simp [other.symm]

/-! ### Threads that do not wait -/

/-- Neither asleep nor just woken. -/
def Importer.Calm (importer : Importer) : Prop :=
  ∀ c, importer.waitsAt c .asleep = false ∧ importer.waitsAt c .woken = false

def Worker.Calm (worker : Worker) : Prop :=
  ∀ c, worker.waitsAt c .asleep = false ∧ worker.waitsAt c .woken = false

theorem importer_signal (calm : s.importer.Calm) (c : Cond) (env : Env) :
    (s.signal c env).importer = s.importer := by
  rcases signal_cases s c env with ⟨same, -⟩ | ⟨th, sleeps, wakes⟩
  · rw [same]
  · rw [wakes]
    cases th with
    | importer =>
      have asleep := (importer_asleep ..).mpr sleeps
      rw [(calm c).1] at asleep
      simp at asleep
    | _ => rfl

theorem worker_signal {worker : Worker} (at_n : s.workers[n]? = some worker) (calm : worker.Calm)
    (c : Cond) (env : Env) : (s.signal c env).workers[n]? = some worker := by
  rcases signal_cases s c env with ⟨same, -⟩ | ⟨th, sleeps, wakes⟩
  · rw [same, at_n]
  · rw [wakes]
    cases th with
    | worker m =>
      by_cases at_m : m = n
      · subst at_m
        have sleeps : worker.waitsOn = some c := by simpa [Pipeline.sleepsAt, at_n] using sleeps
        have asleep := (worker_asleep ..).mpr sleeps
        rw [(calm c).1] at asleep
        simp at asleep
      · rw [Pipeline.wake, List.getElem?_modify_ne _ _ at_m, at_n]
    | _ => exact at_n

/-- The threads are as they are in `u`, but for the importer. -/
theorem importer_waitAt {importer : Importer} (workers : t.workers = s.workers)
    (exporter : t.exporter = s.exporter) (changed : t.importer = importer) (c : Cond)
    (w : Waiting) :
    t.waitAt c w + (s.importer.waitsAt c w).toNat =
      s.waitAt c w + (importer.waitsAt c w).toNat := by
  simp only [Pipeline.waitAt, workers, exporter, changed]
  omega

theorem exporter_waitAt {exporter : Exporter} (importer : t.importer = s.importer)
    (workers : t.workers = s.workers) (changed : t.exporter = exporter) (c : Cond) (w : Waiting) :
    t.waitAt c w + (s.exporter.waitsAt c w).toNat =
      s.waitAt c w + (exporter.waitsAt c w).toNat := by
  simp only [Pipeline.waitAt, importer, workers, changed]
  omega

theorem worker_waitAt {worker worker' : Worker} (at_n : s.workers[n]? = some worker)
    (importer : t.importer = s.importer) (workers : t.workers = s.workers.set n worker')
    (exporter : t.exporter = s.exporter) (c : Cond) (w : Waiting) :
    t.waitAt c w + (worker.waitsAt c w).toNat = s.waitAt c w + (worker'.waitsAt c w).toNat := by
  have counted := Objects.countP_modify (p := Worker.waitsAt c w) (f := fun _ => worker') at_n
  rw [← List.set_eq_modify] at counted
  have bool (b : Bool) : b.toNat = if b then 1 else 0 := by cases b <;> rfl
  simp only [Pipeline.waitAt, importer, workers, exporter, bool] at counted ⊢
  omega

end StudyProject.Transcode
