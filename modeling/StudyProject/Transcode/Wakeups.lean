import StudyProject.Transcode.Supply

/-! Who is woken.  While transcode runs, no thread sleeps on while there is something for it to do,
but for the export, which is not signalled when a worker drops the head in front of a ready
frame. -/

namespace StudyProject.Transcode

open StudyProject.Library StudyProject.Library.Machine StudyProject.Library.Condition Framebuffer

variable {cfg : Config} {s t : Pipeline} {e : Event} {env : Env} {n p : Nat} {c : Cond}

/-- Something comes for those who wait at one condition, and this one is signalled. -/
theorem signal_serves {buffer : Framebuffer} {c c' : Cond}
    (gives : buffer.supply c ≤ s.buffer.supply c + 1)
    (others : c' ≠ c → buffer.supply c' ≤ s.buffer.supply c') (env : Env) :
    (s.waits c').Serves ((Pipeline.signal { s with buffer } c env).waits c') := by
  obtain ⟨k, le, one, zero, asleep, woken⟩ := signal_waitAt { s with buffer } c c' env
  have supply : ((Pipeline.signal { s with buffer } c env).waits c').supply = buffer.supply c' := by
    simp [Pipeline.waits]
  by_cases same : c' = c
  · subst same
    exact .give (one rfl) asleep woken (by rw [supply]; exact gives)
  · have none := zero same
    exact .of_le (by show _ ≤ s.waitAt c' .asleep; exact Nat.le.intro asleep)
      (by show s.waitAt c' .woken ≤ _; exact Nat.le.intro woken.symm)
      (by rw [supply]; exact others same)

/-- Whoever a frame is pushed to is signalled. -/
theorem pushNext_serves {status : TCFrameStatus} (taken : (s.buffer.status p).Taken)
    (pushed : status = .ready ∨ status = .wait) (env : Env) (c : Cond) :
    (s.waits c).Serves ((pushNext s p status env).waits c) := by
  obtain ⟨null, wait, ready⟩ := pushNext_supply taken pushed
  unfold pushNext
  dsimp only
  split
  · rename_i waits
    rw [if_pos waits] at wait
    rw [if_neg (by simp [waits])] at ready
    refine signal_serves (by omega) (fun other => ?_) env
    cases c with
    | importCond => omega
    | filterCond => exact absurd rfl other
    | exportCond => omega
  · rename_i waits_not
    rw [if_neg waits_not] at wait
    split
    · refine signal_serves ?_ (fun other => ?_) env
      · split at ready <;> omega
      · cases c with
        | importCond => omega
        | filterCond => omega
        | exportCond => exact absurd rfl other
    · rename_i elsewhere
      rw [if_neg (by rwa [pushNext_eq] at elsewhere)] at ready
      refine .of_le (Nat.le_refl _) (Nat.le_refl _) ?_
      cases c with
      | importCond => exact Nat.le_of_eq null
      | filterCond => exact Nat.le_of_eq wait
      | exportCond => exact ready

/-- Those who wait for a free frame are signalled when one goes back to the pool. -/
theorem remove_serves (taken : s.buffer.status p = .locked ∨ s.buffer.status p = .ready) (env : Env)
    {c : Cond} (other : c = .exportCond → s.buffer.listHead ≠ some p) :
    (s.waits c).Serves ((remove s p env).waits c) := by
  obtain ⟨null, wait, ready⟩ := remove_supply taken
  refine signal_serves (Nat.le_of_eq null) (fun not_import => ?_) env
  cases c with
  | importCond => exact absurd rfl not_import
  | filterCond => exact Nat.le_of_eq wait
  | exportCond => exact ready (other rfl)

/-! ### One thread goes on -/

/-- What the step of a thread has to give for those who wait at a condition: nothing is left to take
there; or the thread does not go to sleep there, and unless it takes something, it was not woken
there. -/
def GoesOn (before after : Waiting → Bool) (supply supply' : Nat) : Prop :=
  supply' = 0 ∨ after .asleep = false ∧
    (supply' + 1 ≤ supply ∨ before .woken = false ∧ supply' ≤ supply)

theorem serves_of_goesOn {before after : Waiting → Bool} (awake : before .asleep = false)
    (waits : ∀ w, t.waitAt c w + (before w).toNat = s.waitAt c w + (after w).toNat)
    (goes : GoesOn before after (s.buffer.supply c) (t.buffer.supply c)) :
    (s.waits c).Serves (t.waits c) := by
  have asleep := waits .asleep
  have woken := waits .woken
  rcases goes with none | ⟨awake', takes | ⟨not_woken, supply⟩⟩
  · exact .empty none
  · rw [awake, awake'] at asleep
    have := Bool.toNat_le (before .woken)
    exact .take asleep (by simp only [Pipeline.waits]; omega) takes
  · rw [awake, awake'] at asleep
    rw [not_woken] at woken
    exact .of_le (Nat.le_of_eq asleep) (by simp only [Pipeline.waits]; simp at woken; omega) supply

theorem importer_serves {importer : Importer} (workers : t.workers = s.workers)
    (exporter : t.exporter = s.exporter) (changed : t.importer = importer)
    (awake : s.importer.waitsAt c .asleep = false)
    (goes : GoesOn (s.importer.waitsAt c) (importer.waitsAt c) (s.buffer.supply c)
      (t.buffer.supply c)) : (s.waits c).Serves (t.waits c) :=
  serves_of_goesOn awake (importer_waitAt workers exporter changed c) goes

theorem exporter_serves {exporter : Exporter} (importer : t.importer = s.importer)
    (workers : t.workers = s.workers) (changed : t.exporter = exporter)
    (awake : s.exporter.waitsAt c .asleep = false)
    (goes : GoesOn (s.exporter.waitsAt c) (exporter.waitsAt c) (s.buffer.supply c)
      (t.buffer.supply c)) : (s.waits c).Serves (t.waits c) :=
  serves_of_goesOn awake (exporter_waitAt importer workers changed c) goes

theorem worker_serves {worker worker' : Worker} (at_n : s.workers[n]? = some worker)
    (importer : t.importer = s.importer) (workers : t.workers = s.workers.set n worker')
    (exporter : t.exporter = s.exporter) (awake : worker.waitsAt c .asleep = false)
    (goes : GoesOn (worker.waitsAt c) (worker'.waitsAt c) (s.buffer.supply c)
      (t.buffer.supply c)) : (s.waits c).Serves (t.waits c) :=
  serves_of_goesOn awake (worker_waitAt at_n importer workers exporter c) goes

/-! ### The import -/

theorem importRegister_serves (h : Sound s) {waiting : Waiting}
    (at_s : s.importer = .register waiting) (awake : waiting ≠ .asleep) {interrupted : Bool}
    (only : interrupted = true → c = .exportCond) :
    (s.waits c).Serves ((importRegister s interrupted).waits c) := by
  have ring := h.ring
  have before (w : Waiting) : s.importer.waitsAt c w = decide (c = .importCond ∧ waiting = w) := by
    rw [at_s]
    rfl
  unfold importRegister
  split
  · rename_i sleeps
    refine importer_serves rfl rfl rfl (by simp [before, awake]) ?_
    by_cases here : c = .importCond
    · subst here
      have sleeps : (interrupted = false ∧ s.importActive = true) ∧ s.buffer.null = 0 := by
        simpa using sleeps
      have zero := null_zero h sleeps.2
      exact .inl zero
    · exact .inr ⟨by simp [Importer.waitsAt, here], .inr ⟨by simp [before, here], Nat.le_refl _⟩⟩
  · split
    · rename_i interrupted
      have here := only interrupted
      subst here
      exact importer_serves rfl rfl rfl (by simp [before])
        (.inr ⟨rfl, .inr ⟨by simp [before], Nat.le_refl _⟩⟩)
    · unfold frameRegister
      rcases registerFrame_cases ring with ⟨p, bound, m, lt, free, taken, -⟩ | ⟨m, lt, used, none⟩
      · obtain ⟨null, wait, ready⟩ := register_supply ring bound lt free s.framecount
        rw [taken]
        refine importer_serves rfl rfl rfl (by simp [before, awake]) (.inr ⟨rfl, ?_⟩)
        cases c with
        | importCond => exact .inl (Nat.le_of_eq null)
        | filterCond => exact .inr ⟨by simp [before], Nat.le_of_eq wait⟩
        | exportCond => exact .inr ⟨by simp [before], ready⟩
      · rw [none]
        refine importer_serves rfl rfl rfl (by simp [before, awake]) ?_
        by_cases here : c = .importCond
        · subst here
          exact .inl (starved_supply ring used)
        · refine .inr ⟨rfl, .inr ⟨by simp [before, here], ?_⟩⟩
          cases c <;> exact Nat.le_refl _

theorem pushNext_importer (calm : s.importer.Calm) (p : Nat) (status : TCFrameStatus) (env : Env) :
    (pushNext s p status env).importer = s.importer := by
  have signal := importer_signal (s := { s with buffer := framePushNext s.buffer p status }) calm
  unfold pushNext
  dsimp only
  split
  · exact signal ..
  · split
    · exact signal ..
    · rfl

theorem pushNext_worker {worker : Worker} (at_n : s.workers[n]? = some worker) (calm : worker.Calm)
    (p : Nat) (status : TCFrameStatus) (env : Env) :
    (pushNext s p status env).workers[n]? = some worker := by
  have signal := worker_signal (s := { s with buffer := framePushNext s.buffer p status }) at_n calm
  unfold pushNext
  dsimp only
  split
  · exact signal ..
  · split
    · exact signal ..
    · exact at_n

/-- The attributes of a frame are nothing that anyone waits for. -/
theorem setAttributes_serves (s : Pipeline) (p : Nat) (a : Attributes) (c : Cond) :
    (s.waits c).Serves (Pipeline.waits { s with buffer := setAttributes s.buffer p a } c) :=
  .of_le (Nat.le_refl _) (Nat.le_refl _)
    (Nat.le_of_eq (supply_unmoved (setAttributes_unmoved s.buffer p a) rfl c))

theorem importFill_serves (h : Sound s) (at_s : s.importer = .fill p) (c : Cond) :
    (s.waits c).Serves ((importFill cfg s p env).waits c) := by
  have empty : s.buffer.status p = .empty := by
    have mem : p ∈ s.held .importer := by simp [Pipeline.held, at_s, Importer.held]
    exact h.owned.stage .importer p mem
  have calm : s.importer.Calm := by
    rw [at_s]
    exact fun _ => ⟨rfl, rfl⟩
  unfold importFill
  generalize next : (if s.workers.isEmpty then TCFrameStatus.ready else .wait) = status
  have pushed : status = .ready ∨ status = .wait := by
    rw [← next]
    split <;> simp
  have marked := setAttributes_serves s p env.attributes c
  have pushes := fun taken => pushNext_serves (p := p)
    (s := { s with buffer := setAttributes s.buffer p env.attributes }) taken pushed env c
  have at_t := pushNext_importer (s := { s with buffer := setAttributes s.buffer p env.attributes })
    calm p status env
  have serves := marked.trans (pushes (.inl (((setAttributes_unmoved ..).status p).trans empty)))
  dsimp only at at_t ⊢
  generalize pushNext _ p status env = u at *
  have filled : u.importer = .fill p := at_t.trans at_s
  have done (t : Pipeline) (workers : t.workers = u.workers) (exporter : t.exporter = u.exporter)
      (buffer : t.buffer = u.buffer) (calm : t.importer.Calm) : (s.waits c).Serves (t.waits c) := by
    refine serves.trans (importer_serves workers exporter rfl (by rw [filled]; rfl)
      (.inr ⟨(calm c).1, .inr ⟨by rw [filled]; rfl, ?_⟩⟩))
    rw [buffer]
  split
  · exact done _ rfl rfl rfl fun _ => ⟨rfl, rfl⟩
  · exact done _ rfl rfl rfl fun _ => ⟨rfl, rfl⟩

/-- While transcode runs nobody is interrupted. -/
theorem interrupted_only {waiting : Waiting} (running : c ≠ .exportCond → s.running = true)
    (interrupted : waiting.interrupted s.running = true) : c = .exportCond := by
  by_contra other
  simp [Waiting.interrupted, running other] at interrupted

theorem importLoop_serves (h : Sound s) (running : c ≠ .exportCond → s.running = true)
    (stepped : importLoop cfg s env = some t) : (s.waits c).Serves (t.waits c) := by
  unfold importLoop at stepped
  split at stepped
  · rename_i at_s
    obtain rfl := Option.some.inj stepped
    refine importer_serves rfl rfl rfl (by rw [at_s]; rfl)
      (.inr ⟨?_, .inr ⟨by rw [at_s]; rfl, Nat.le_refl _⟩⟩)
    split <;> simp [Importer.waitsAt]
  · simp at stepped
  · rename_i waiting awake at_s
    obtain rfl := Option.some.inj stepped
    exact importRegister_serves h at_s awake (interrupted_only running)
  · rename_i ptr at_s
    obtain rfl := Option.some.inj stepped
    exact importFill_serves h at_s c
  · simp at stepped

/-! ### The workers -/

theorem claim_calm (cfg : Config) (p : Nat) (a : Attributes) : (claim cfg p a).Calm := by
  intro c
  unfold claim
  split
  · exact ⟨rfl, rfl⟩
  · split <;> exact ⟨rfl, rfl⟩

theorem workerReserve_serves (h : Sound s) (intact : c = .filterCond → Intact s.buffer)
    {waiting : Waiting} (at_n : s.workers[n]? = some (.reserve waiting)) (awake : waiting ≠ .asleep)
    {interrupted : Bool} (only : interrupted = true → c = .exportCond) :
    (s.waits c).Serves ((workerReserve cfg s n interrupted).waits c) := by
  have before (w : Waiting) : (Worker.reserve waiting).waitsAt c w =
      decide (c = .filterCond ∧ waiting = w) := rfl
  unfold workerReserve
  split
  · rename_i sleeps
    refine worker_serves at_n rfl rfl rfl (by simp [before, awake]) ?_
    by_cases here : c = .filterCond
    · subst here
      have sleeps : interrupted = false ∧ s.buffer.wait = 0 := by simpa using sleeps
      have none := wait_none h.balanced sleeps.2
      exact .inl none
    · exact .inr ⟨by simp [Worker.waitsAt, here], .inr ⟨by simp [before, here], Nat.le_refl _⟩⟩
  · split
    · rename_i interrupted
      have here := only interrupted
      subst here
      exact worker_serves at_n rfl rfl rfl (by simp [before])
        (.inr ⟨rfl, .inr ⟨by simp [before], Nat.le_refl _⟩⟩)
    · split
      · exact .of_le (Nat.le_refl _) (Nat.le_refl _) (Nat.le_refl _)
      · rename_i buffer found
        obtain rfl := reserve_none found
        refine worker_serves at_n rfl rfl rfl (by simp [before, awake]) ?_
        by_cases here : c = .filterCond
        · obtain ⟨xs, chained⟩ := intact here
          subst here
          rw [chained.reserve] at found
          have none := count_wait_zero chained (congrArg Prod.fst (Option.some.inj found))
          exact .inl none
        · exact .inr ⟨rfl, .inr ⟨by simp [before, here], Nat.le_refl _⟩⟩
      · rename_i p buffer found
        obtain ⟨null, wait, ready⟩ := reserve_supply found
        refine worker_serves at_n rfl rfl rfl (by simp [before, awake])
          (.inr ⟨(claim_calm cfg p _ c).1, ?_⟩)
        cases c with
        | importCond => exact .inr ⟨by simp [before], Nat.le_of_eq null⟩
        | filterCond => exact .inl (Nat.le_of_eq wait)
        | exportCond => exact .inr ⟨by simp [before], ready⟩

theorem workerDup_serves (h : Sound s) {waiting : Waiting}
    (at_n : s.workers[n]? = some (.dup p waiting)) (awake : waiting ≠ .asleep) {interrupted : Bool}
    (only : interrupted = true → c = .exportCond) :
    (s.waits c).Serves ((workerDup s n p interrupted).waits c) := by
  have ring := h.ring
  have locked : s.buffer.status p = .locked := by
    have mem : p ∈ s.held (.worker n) := by simp [held_worker at_n, Worker.held]
    exact h.owned.stage _ p mem
  have before (w : Waiting) : (Worker.dup p waiting).waitsAt c w =
      decide (c = .importCond ∧ waiting = w) := rfl
  unfold workerDup
  split
  · rename_i sleeps
    refine worker_serves at_n rfl rfl rfl (by simp [before, awake]) ?_
    by_cases here : c = .importCond
    · subst here
      have sleeps : interrupted = false ∧ s.buffer.null = 0 := by simpa using sleeps
      have none := null_zero h sleeps.2
      exact .inl none
    · exact .inr ⟨by simp [Worker.waitsAt, here], .inr ⟨by simp [before, here], Nat.le_refl _⟩⟩
  · unfold frameDup
    rcases registerFrame_cases ring with ⟨q, bound, m, lt, free, -, taken⟩ | ⟨m, lt, used, none⟩
    · obtain ⟨null, wait, ready⟩ := clone_supply ring bound lt free locked
      rw [taken]
      refine worker_serves at_n rfl rfl rfl (by simp [before, awake]) (.inr ⟨rfl, ?_⟩)
      cases c with
      | importCond => exact .inl (Nat.le_of_eq null)
      | filterCond => exact .inr ⟨by simp [before], Nat.le_of_eq wait⟩
      | exportCond => exact .inr ⟨by simp [before], ready⟩
    · rw [none]
      by_cases here : c = .importCond
      · subst here
        exact .empty (starved_supply ring used)
      · refine .of_le (Nat.le_refl _) (Nat.le_refl _) ?_
        cases c <;> exact Nat.le_refl _

theorem preProcessed_calm (cfg : Config) (p : Nat) (a : Attributes) :
    (preProcessed cfg p a).Calm := by
  intro c
  unfold preProcessed
  split <;> split <;> try split
  all_goals simp [Worker.waitsAt]

theorem clonePushed_calm (cfg : Config) (p : Nat) (a : Attributes) :
    (clonePushed cfg p a).Calm := by
  intro c
  unfold clonePushed
  split
  · exact ⟨rfl, rfl⟩
  · split <;> exact ⟨rfl, rfl⟩

theorem setWorker_serves {worker worker' : Worker} (at_n : s.workers[n]? = some worker)
    (calm : worker.Calm) (calm' : worker'.Calm) (c : Cond) :
    (s.waits c).Serves ((s.setWorker n worker').waits c) :=
  worker_serves at_n rfl rfl rfl (calm c).1 (.inr ⟨(calm' c).1, .inr ⟨(calm c).2, Nat.le_refl _⟩⟩)

/-- A worker that does not wait changes the attributes of its frame. -/
theorem marksOwn_serves {worker worker' : Worker} (at_n : s.workers[n]? = some worker)
    (calm : worker.Calm) (calm' : worker'.Calm) (p : Nat) (a : Attributes) (c : Cond) :
    (s.waits c).Serves
      ((Pipeline.setWorker { s with buffer := setAttributes s.buffer p a } n worker').waits c) :=
  (setAttributes_serves s p a c).trans
    (setWorker_serves (s := { s with buffer := setAttributes s.buffer p a }) at_n calm calm' c)

/-- The worker that takes the step does not drop the head in front of a ready frame while the export
sleeps. -/
def WakesExport (x : Step Pipeline Event) : Prop :=
  ∀ p q, x.before.dropped x.event = some p → x.before.buffer.listHead = some p →
    x.before.exporter = .retrieve .asleep → x.before.buffer.after p = some q →
    x.before.buffer.status q ≠ .ready

instance (x : Step Pipeline Event) : Decidable (WakesExport x) :=
  decidable_of_iff (∀ p ∈ x.before.dropped x.event, x.before.buffer.listHead = some p →
    x.before.exporter = .retrieve .asleep → ∀ q ∈ x.before.buffer.after p,
      x.before.buffer.status q ≠ .ready)
    ⟨fun h p q dropped head sleeps => h p dropped head sleeps q,
      fun h p dropped head sleeps q => h p q dropped head sleeps⟩

theorem export_asleep (some : s.waitAt .exportCond .asleep ≠ 0) :
    s.exporter = .retrieve .asleep := by
  have importer : s.importer.waitsAt .exportCond .asleep = false := by
    cases s.importer <;> simp [Importer.waitsAt]
  have workers : s.workers.countP (Worker.waitsAt .exportCond .asleep) = 0 := by
    rw [List.countP_eq_zero]
    intro worker _
    cases worker <;> simp [Worker.waitsAt]
  rw [Pipeline.waitAt, importer, workers] at some
  cases at_s : s.exporter with
  | retrieve w => simpa [at_s, Exporter.waitsAt] using some
  | _ => simp [at_s, Exporter.waitsAt] at some

theorem drop_serves (at_n : s.workers[n]? = some (.drop p)) (locked : s.buffer.status p = .locked)
    (wakes : c = .exportCond → WakesExport ⟨s, .run (.worker n) env, t⟩) :
    (s.waits c).Serves (((remove (s.drops p) p env).setWorker n .idle).waits c) := by
  let removed := remove (s.drops p) p env
  have calm : (Worker.drop p).Calm := fun _ => ⟨rfl, rfl⟩
  have calm' : Worker.idle.Calm := fun _ => ⟨rfl, rfl⟩
  have at_n' : removed.workers[n]? = some (.drop p) :=
    worker_signal (s := { s.drops p with buffer := frameRemove s.buffer p }) at_n calm ..
  by_cases last : c = .exportCond ∧ s.buffer.listHead = some p
  · obtain ⟨rfl, head⟩ := last
    intro some
    have asleep := worker_waitAt (t := removed.setWorker n .idle) at_n' rfl rfl rfl .exportCond
      .asleep
    obtain ⟨k, -, -, -, same, -⟩ := signal_waitAt
      { s.drops p with buffer := frameRemove s.buffer p } .importCond .exportCond env
    have sleeps : s.exporter = .retrieve .asleep := by
      apply export_asleep
      have some : (removed.setWorker n .idle).waitAt .exportCond .asleep ≠ 0 := some
      have same : removed.waitAt .exportCond .asleep + k = s.waitAt .exportCond .asleep := same
      simp only [Worker.waitsAt, Bool.toNat_false] at asleep
      omega
    have not_ready : headReady (frameRemove s.buffer p) = false := by
      rw [Bool.eq_false_iff]
      intro ready
      obtain ⟨q, after, -, at_q⟩ := (removed_headReady (.inl locked) head).mp ready
      exact wakes rfl p q (by simp [Pipeline.dropped, at_n, Worker.dropped]) head sleeps after at_q
    refine .inl ?_
    show (headReady ((remove (s.drops p) p env).setWorker n .idle).buffer).toNat ≤ _
    rw [show ((remove (s.drops p) p env).setWorker n .idle).buffer = frameRemove s.buffer p from
      remove_buffer .., not_ready]
    exact Nat.zero_le _
  · have removes := remove_serves (s := s.drops p) (.inl locked) env
      fun at_c head => last ⟨at_c, head⟩
    exact removes.trans (setWorker_serves at_n' calm calm' c)

theorem processFrame_serves (h : Sound s) (intact : c = .filterCond → Intact s.buffer)
    (running : c ≠ .exportCond → s.running = true) (stepped : processFrame cfg s n env = some t)
    (wakes : c = .exportCond → WakesExport ⟨s, .run (.worker n) env, t⟩) :
    (s.waits c).Serves (t.waits c) := by
  obtain ⟨worker, at_n, stepped⟩ := Option.bind_eq_some_iff.mp stepped
  have locked (p : Nat) (mem : p ∈ worker.held) : s.buffer.status p = .locked :=
    h.owned.stage (.worker n) p (by rwa [held_worker at_n])
  split at stepped
  · obtain rfl := Option.some.inj stepped
    refine setWorker_serves at_n (fun _ => ⟨rfl, rfl⟩) (fun _ => ?_) c
    split <;> simp [Worker.waitsAt]
  · simp at stepped
  · rename_i waiting awake
    obtain rfl := Option.some.inj stepped
    exact workerReserve_serves h intact at_n awake (interrupted_only running)
  · rename_i ptr
    obtain rfl := Option.some.inj stepped
    exact marksOwn_serves at_n (fun _ => ⟨rfl, rfl⟩) (preProcessed_calm cfg ptr _) ptr _ c
  · simp at stepped
  · rename_i ptr waiting awake
    obtain rfl := Option.some.inj stepped
    exact workerDup_serves h at_n awake (interrupted_only running)
  · rename_i ptr tmptr
    obtain rfl := Option.some.inj stepped
    have calm : (Worker.cloned ptr tmptr).Calm := fun _ => ⟨rfl, rfl⟩
    exact (pushNext_serves (.inr (locked tmptr (by simp [Worker.held]))) (.inr rfl) env c).trans
      (setWorker_serves (pushNext_worker at_n calm ..) calm (clonePushed_calm cfg ptr _) c)
  · rename_i ptr
    obtain rfl := Option.some.inj stepped
    refine marksOwn_serves at_n (fun _ => ⟨rfl, rfl⟩) (fun _ => ?_) ptr _ c
    split <;> exact ⟨rfl, rfl⟩
  · rename_i ptr
    obtain rfl := Option.some.inj stepped
    exact drop_serves at_n (locked ptr (by simp [Worker.held])) wakes
  · rename_i ptr
    obtain rfl := Option.some.inj stepped
    have calm : (Worker.push ptr).Calm := fun _ => ⟨rfl, rfl⟩
    exact (pushNext_serves (.inr (locked ptr (by simp [Worker.held]))) (.inl rfl) env c).trans
      (setWorker_serves (pushNext_worker at_n calm ..) calm (fun _ => ⟨rfl, rfl⟩) c)
  · simp at stepped

/-! ### The export -/

/-- The export is the only one to wait at its condition. -/
theorem export_awake (awake : t.exporter ≠ .retrieve .asleep) (waits : Waits) :
    waits.Serves (t.waits .exportCond) :=
  fun some => absurd (export_asleep some) awake

/-- Whatever the export does but to sleep, nobody at another condition sees more than the frames. -/
theorem exporter_goes (other : c ≠ .exportCond) (importer : t.importer = s.importer)
    (workers : t.workers = s.workers) (supply : t.buffer.supply c ≤ s.buffer.supply c) :
    (s.waits c).Serves (t.waits c) := by
  have elsewhere (exporter : Exporter) (w : Waiting) : exporter.waitsAt c w = false := by
    cases exporter <;> simp [Exporter.waitsAt, other]
  exact exporter_serves importer workers rfl (elsewhere _ _)
    (.inr ⟨elsewhere _ _, .inr ⟨elsewhere _ _, supply⟩⟩)

theorem acquire_shape (cfg : Config) (s : Pipeline) (p : Nat) (env : Env) :
    ∃ a, (acquire cfg s p env).buffer = setAttributes s.buffer p a ∧
      (acquire cfg s p env).importer = s.importer ∧ (acquire cfg s p env).workers = s.workers ∧
      (acquire cfg s p env).exporter ≠ .retrieve .asleep := by
  unfold acquire
  dsimp only
  generalize (if cfg.needProcessing _ then env.attributes else _) = a
  split
  · exact ⟨a, rfl, rfl, rfl, by simp⟩
  · split
    · exact ⟨a, rfl, rfl, rfl, by simp⟩
    · split
      · exact ⟨a.again, rfl, rfl, rfl, by simp⟩
      · exact ⟨a.again, rfl, rfl, rfl, by simp⟩

theorem encoderRetrieve_serves (s : Pipeline) (interrupted : Bool) (c : Cond) :
    (s.waits c).Serves ((encoderRetrieve cfg s interrupted env).waits c) := by
  unfold encoderRetrieve
  split
  · by_cases here : c = .exportCond
    · subst here
      exact export_awake (by simp) _
    · exact exporter_goes here rfl rfl (Nat.le_refl _)
  · split
    · rename_i none
      by_cases here : c = .exportCond
      · subst here
        exact .empty (retrieve_none none)
      · exact exporter_goes here rfl rfl (Nat.le_refl _)
    · rename_i p _
      obtain ⟨a, buffer, importer, workers, exporter⟩ := acquire_shape cfg s p env
      by_cases here : c = .exportCond
      · subst here
        exact export_awake exporter _
      · refine exporter_goes here importer workers ?_
        rw [buffer]
        exact Nat.le_of_eq (supply_unmoved (setAttributes_unmoved ..) rfl c)

theorem dispose_serves (ready : s.buffer.status p = .ready) (other : c ≠ .exportCond) :
    (s.waits c).Serves ((dispose s p env).waits c) := by
  unfold dispose
  split
  · let s' : Pipeline := { s with
      buffer := setAttributes s.buffer p env.attributes
      history.exported := s.history.exported ++ [(s.buffer.frame p).id] }
    have marked : (s.waits c).Serves (s'.waits c) := setAttributes_serves s p env.attributes c
    have removed := remove_serves (s := s')
      (.inr (((setAttributes_unmoved ..).status p).trans ready)) env fun at_c => absurd at_c other
    exact (marked.trans removed).trans (exporter_goes other rfl rfl (Nat.le_refl _))
  · exact exporter_goes other rfl rfl
      (Nat.le_of_eq (supply_unmoved (setAttributes_unmoved ..) rfl c))

theorem encoderLoop_serves (h : Sound s) (stepped : encoderLoop cfg s env = some t) (c : Cond) :
    (s.waits c).Serves (t.waits c) := by
  have ready (p : Nat) (mem : p ∈ s.exporter.held) : s.buffer.status p = .ready :=
    h.owned.stage .exporter p mem
  by_cases here : c = .exportCond ∧ t.exporter ≠ .retrieve .asleep
  · obtain ⟨rfl, awake⟩ := here
    exact export_awake awake _
  · unfold encoderLoop at stepped
    split at stepped
    · obtain rfl := Option.some.inj stepped
      exact exporter_goes (fun at_c => here ⟨at_c, by simp⟩) rfl rfl (Nat.le_refl _)
    · simp at stepped
    · obtain rfl := Option.some.inj stepped
      exact encoderRetrieve_serves s _ c
    · rename_i ptr at_s
      obtain rfl := Option.some.inj stepped
      have other : c ≠ .exportCond := fun at_c => here ⟨at_c, by simp⟩
      have at_ptr := ready ptr (by simp [at_s, Exporter.held])
      exact (remove_serves (s := s.drops ptr) (.inr at_ptr) env fun at_c => absurd at_c other).trans
        (exporter_goes other rfl rfl (Nat.le_refl _))
    · rename_i ptr at_s
      obtain rfl := Option.some.inj stepped
      have at_ptr := ready ptr (by simp [at_s, Exporter.held])
      by_cases last : env.last = true
      · rw [if_pos last] at here ⊢
        exact exporter_goes (fun at_c => here ⟨at_c, by simp⟩) rfl rfl (Nat.le_refl _)
      · rw [if_neg last] at here ⊢
        refine dispose_serves at_ptr fun at_c => here ⟨at_c, ?_⟩
        unfold dispose
        split <;> simp

/-! ### Runs -/

theorem wake_serves (s : Pipeline) (th : Thread) (c : Cond) :
    (s.waits c).Serves ((s.wake th).waits c) := by
  cases sleeps : s.sleepsAt th with
  | none =>
    rw [wake_awake sleeps]
    exact .of_le (Nat.le_refl _) (Nat.le_refl _) (Nat.le_refl _)
  | some c' =>
    obtain ⟨asleep, woken⟩ := wake_waitAt sleeps c
    refine .of_le ?_ ?_ ?_
    · show _ ≤ s.waitAt c .asleep
      exact Nat.le.intro asleep
    · show s.waitAt c .woken ≤ _
      exact Nat.le.intro woken.symm
    · simp [Pipeline.waits]

theorem broadcast_serves (s : Pipeline) (c' c : Cond) :
    (s.waits c).Serves ((s.broadcast c').waits c) := by
  unfold Pipeline.broadcast
  generalize s.waiters c' = threads
  induction threads generalizing s with
  | nil => exact .of_le (Nat.le_refl _) (Nat.le_refl _) (Nat.le_refl _)
  | cons th threads ih => exact (wake_serves s th c).trans (ih _)

theorem interrupt_serves (s : Pipeline) (c' c : Cond) (env : Env) :
    (s.waits c).Serves ((s.signal c' env).waits c) :=
  have gives : s.buffer.supply c' ≤ s.buffer.supply c' + 1 := Nat.le_succ _
  signal_serves gives (fun _ => Nat.le_refl _) env

theorem step_serves (h : Sound s) (stepped : step cfg s e = some t)
    (intact : c = .filterCond → Intact s.buffer) (running : c ≠ .exportCond → s.running = true)
    (wakes : c = .exportCond → WakesExport ⟨s, e, t⟩) : (s.waits c).Serves (t.waits c) := by
  have clear := step_clear stepped
  unfold step at stepped
  rw [clear] at stepped
  cases e with
  | run thread env =>
    cases thread with
    | importer => exact importLoop_serves h running stepped
    | worker n => exact processFrame_serves h intact running stepped wakes
    | exporter => exact encoderLoop_serves h stepped c
  | wakeup thread =>
    obtain rfl := Option.some.inj stepped
    exact wake_serves s thread c
  | interrupt env =>
    obtain rfl := Option.some.inj stepped
    exact ((interrupt_serves s _ c env).trans (broadcast_serves _ _ c)).trans
      (interrupt_serves _ _ c env)
  | interruptImport env =>
    obtain rfl := Option.some.inj stepped
    exact interrupt_serves s _ c env
  | stop | importStop | poolStop =>
    obtain rfl := Option.some.inj stepped
    exact .of_le (Nat.le_refl _) (Nat.le_refl _) (Nat.le_refl _)

/-- The export sleeps though the head is ready. -/
def Missed (s : Pipeline) : Prop := s.exporter = .retrieve .asleep ∧ headReady s.buffer = true

theorem not_missed_iff : ¬Missed s ↔ (s.waits .exportCond).Served := by
  constructor
  · intro awake some
    have sleeps := export_asleep some
    have not_ready : headReady s.buffer = false :=
      Bool.eq_false_iff.mpr fun ready => awake ⟨sleeps, ready⟩
    simp [Pipeline.waits, Framebuffer.supply, not_ready]
  · rintro served ⟨sleeps, ready⟩
    have importer : s.importer.waitsAt .exportCond .woken = false := by
      cases s.importer <;> simp [Importer.waitsAt]
    have workers : s.workers.countP (Worker.waitsAt .exportCond .woken) = 0 := by
      rw [List.countP_eq_zero]
      intro worker _
      cases worker <;> simp [Worker.waitsAt]
    have enough := served
      (by simp [Pipeline.waits, Pipeline.waitAt, sleeps, Exporter.waitsAt])
    simp [Pipeline.waits, Framebuffer.supply, ready, Pipeline.waitAt, importer, workers, sleeps,
      Exporter.waitsAt] at enough

/-- A signal at another condition does not wake the export. -/
theorem exporter_other (other : c ≠ .exportCond) (s : Pipeline) (env : Env) :
    (s.signal c env).exporter = s.exporter := by
  rcases signal_cases s c env with ⟨same, -⟩ | ⟨th, sleeps, wakes⟩
  · rw [same]
  · rw [wakes]
    cases th with
    | exporter =>
      have asleep := (exporter_asleep ..).mpr sleeps
      cases at_s : s.exporter <;> simp [at_s, Exporter.waitsAt, other] at asleep
    | _ => rfl

theorem wakes_of_not_missed (h : Sound s) (stepped : step cfg s e = some t) (awake : ¬Missed t) :
    WakesExport ⟨s, e, t⟩ := by
  intro p q dropped head sleeps after ready
  cases e with
  | run thread env =>
    cases thread with
    | worker n =>
      obtain ⟨worker, at_n, dropped⟩ := Option.bind_eq_some_iff.mp dropped
      cases worker with
      | drop r =>
        obtain rfl : r = p := Option.some.inj dropped
        have stepped := step_worker stepped
        rw [processFrame, at_n] at stepped
        obtain rfl := Option.some.inj stepped
        have locked : s.buffer.status r = .locked :=
          h.owned.stage (.worker n) r (by simp [held_worker at_n, Worker.held])
        have other : q ≠ r := by
          rintro rfl
          simp [locked] at ready
        refine awake ⟨(exporter_other (by simp) _ env).trans sleeps, ?_⟩
        show headReady (remove (s.drops r) r env).buffer = true
        rw [remove_buffer]
        exact (removed_headReady (.inl locked) head).mpr ⟨q, after, other, ready⟩
      | _ => simp [Worker.dropped] at dropped
    | _ => simp [Pipeline.dropped] at dropped
  | _ => simp [Pipeline.dropped] at dropped

/-- The export sleeps in front of a ready head in no state of a run exactly if no worker drops the
head in front of a ready frame while the export sleeps. -/
theorem missed_iff (cfg : Config) (size workers : Nat) (es : List Event) :
    (∀ s ∈ states (step cfg) (start size workers) es, ¬Missed s) ↔
      ∀ x ∈ steps (step cfg) (start size workers) es, WakesExport x :=
  always_iff (J := Sound) (fun _ _ _ => sound_step)
    (fun _ _ _ sound awake stepped => ⟨wakes_of_not_missed sound stepped, fun wakes =>
      not_missed_iff.mpr ((step_serves sound stepped (by simp) (by simp) fun _ => wakes).keeps
        (not_missed_iff.mp awake))⟩)
    (sound_start size workers) (by simp [Missed, start]) es

/-- The second of two frames is filtered before the first one is dropped. -/
def dropHead : List Event :=
  List.replicate 6 (.run .importer {}) ++ List.replicate 2 (.run (.worker 0) {}) ++
    List.replicate 2 (.run .exporter {}) ++ List.replicate 5 (.run (.worker 1) {}) ++
    [.run (.worker 0) { attributes := { isSkipped := true } }, .run (.worker 0) {}]

example : Missed (final (step video) (start 2 2) dropHead) := ⟨by decide, by decide⟩

end StudyProject.Transcode
