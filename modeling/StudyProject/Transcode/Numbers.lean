import Mathlib.Data.List.Range
import StudyProject.Transcode.Effects

/-! The numbers of the frames.  The import gives each frame that it registers the next number, and
counts it when it has filled it.  It stops after a frame that it failed to fill, so no number comes
twice. -/

namespace StudyProject.Transcode

open StudyProject.Library.Machine

variable {cfg : Config} {s t : Pipeline} {e : Event} {env : Env}

/-- The frames registered so far have the numbers from 0 on.  While the import goes on, these are
the frames that it counted, and the one that it fills. -/
structure Numbered (s : Pipeline) : Prop where
  range : ∃ n, s.history.registered = List.range n
  going : s.importer ≠ .done →
    s.history.registered = List.range (s.framecount + s.importer.held.length)

/-- The import is where it was, and so is all that it counts. -/
structure ImportKept (s t : Pipeline) : Prop where
  held : t.importer.held = s.importer.held
  done : t.importer = .done ↔ s.importer = .done
  framecount : t.framecount = s.framecount
  registered : t.history.registered = s.history.registered

theorem ImportKept.numbered (kept : ImportKept s t) (h : Numbered s) : Numbered t where
  range := by
    rw [kept.registered]
    exact h.range
  going goes := by
    rw [kept.registered, kept.framecount, kept.held]
    exact h.going fun done => goes (kept.done.mpr done)

theorem importKept_of_same (importer : t.importer = s.importer)
    (framecount : t.framecount = s.framecount)
    (registered : t.history.registered = s.history.registered) : ImportKept s t :=
  ⟨by rw [importer], by rw [importer], framecount, registered⟩

theorem Woken.importKept (h : Woken s t) : ImportKept s t :=
  ⟨h.held .importer, h.done, h.framecount, by rw [h.history]⟩

theorem ImportKept.trans {u : Pipeline} (h : ImportKept s t) (h' : ImportKept t u) :
    ImportKept s u :=
  ⟨h'.held.trans h.held, h'.done.trans h.done, h'.framecount.trans h.framecount,
    h'.registered.trans h.registered⟩

theorem ImportKept.setWorker (h : ImportKept s t) (n : Nat) (worker : Worker) :
    ImportKept s (t.setWorker n worker) :=
  h.trans (importKept_of_same rfl rfl rfl)

/-! ### The import -/

theorem importRegister_numbered (h : Numbered s) {waiting : Waiting}
    (at_s : s.importer = .register waiting) (interrupted : Bool) :
    Numbered (importRegister s interrupted) := by
  have counted : s.history.registered = List.range s.framecount := by
    have going := h.going (by simp [at_s])
    rwa [at_s] at going
  unfold importRegister
  split
  · exact ⟨h.range, fun _ => counted⟩
  · split
    · exact ⟨h.range, fun goes => absurd rfl goes⟩
    · split
      · exact ⟨h.range, fun goes => absurd rfl goes⟩
      · have next : s.history.registered ++ [s.framecount] = List.range (s.framecount + 1) := by
          rw [counted, List.range_succ]
        exact ⟨⟨_, next⟩, fun _ => next⟩

theorem importFill_numbered (h : Numbered s) {ptr : Nat} (at_s : s.importer = .fill ptr) :
    Numbered (importFill cfg s ptr env) := by
  have counted : s.history.registered = List.range (s.framecount + 1) := by
    have going := h.going (by simp [at_s])
    rwa [at_s] at going
  unfold importFill
  dsimp only
  have kept := (Woken.setBuffer s (setAttributes s.buffer ptr env.attributes)).trans
    (.pushNext _ ptr (if s.workers.isEmpty then .ready else .wait) env)
  have registered := congrArg History.registered kept.history
  split
  · exact ⟨⟨_, registered.trans counted⟩, fun goes => absurd rfl goes⟩
  · refine ⟨⟨_, registered.trans counted⟩, fun _ => ?_⟩
    show _ = List.range (_ + 1 + 0)
    rw [kept.framecount]
    exact registered.trans counted

theorem importLoop_numbered (h : Numbered s) (stepped : importLoop cfg s env = some t) :
    Numbered t := by
  unfold importLoop at stepped
  split at stepped
  · rename_i at_s
    obtain rfl := Option.some.inj stepped
    have counted := h.going (by simp [at_s])
    rw [at_s] at counted
    refine ⟨h.range, fun goes => ?_⟩
    dsimp only at goes ⊢
    split
    · exact counted
    · rename_i stops
      exact absurd (if_neg stops) goes
  · simp at stepped
  · rename_i at_s
    obtain rfl := Option.some.inj stepped
    exact importRegister_numbered h at_s _
  · rename_i at_s
    obtain rfl := Option.some.inj stepped
    exact importFill_numbered h at_s
  · simp at stepped

/-! ### The other threads -/

theorem processFrame_importKept {n : Nat} (stepped : processFrame cfg s n env = some t) :
    ImportKept s t := by
  obtain ⟨worker, at_n, stepped⟩ := Option.bind_eq_some_iff.mp stepped
  split at stepped
  · obtain rfl := Option.some.inj stepped
    exact importKept_of_same rfl rfl rfl
  · simp at stepped
  · obtain rfl := Option.some.inj stepped
    unfold workerReserve
    split
    · exact importKept_of_same rfl rfl rfl
    · split
      · exact importKept_of_same rfl rfl rfl
      · split <;> exact importKept_of_same rfl rfl rfl
  · obtain rfl := Option.some.inj stepped
    exact importKept_of_same rfl rfl rfl
  · simp at stepped
  · obtain rfl := Option.some.inj stepped
    unfold workerDup
    split
    · exact importKept_of_same rfl rfl rfl
    · split <;> exact importKept_of_same rfl rfl rfl
  · obtain rfl := Option.some.inj stepped
    exact (Woken.pushNext ..).importKept.setWorker n _
  · obtain rfl := Option.some.inj stepped
    exact importKept_of_same rfl rfl rfl
  · rename_i ptr
    obtain rfl := Option.some.inj stepped
    have drops : ImportKept s (s.drops ptr) := importKept_of_same rfl rfl rfl
    exact (drops.trans (Woken.remove ..).importKept).setWorker n _
  · obtain rfl := Option.some.inj stepped
    exact (Woken.pushNext ..).importKept.setWorker n _
  · simp at stepped

theorem acquire_importKept (cfg : Config) (s : Pipeline) (ptr : Nat) (env : Env) :
    ImportKept s (acquire cfg s ptr env) := by
  unfold acquire
  dsimp only
  generalize (if cfg.needProcessing _ then env.attributes else _) = a
  split
  · exact importKept_of_same rfl rfl rfl
  · split
    · exact importKept_of_same rfl rfl rfl
    · split <;> exact importKept_of_same rfl rfl rfl

theorem dispose_importKept (s : Pipeline) (ptr : Nat) (env : Env) :
    ImportKept s (dispose s ptr env) := by
  unfold dispose
  split
  · have exports : ImportKept s { s with
        buffer := setAttributes s.buffer ptr env.attributes
        history.exported := s.history.exported ++ [(s.buffer.frame ptr).id] } :=
      importKept_of_same rfl rfl rfl
    exact (exports.trans (Woken.remove _ ptr env).importKept).trans (importKept_of_same rfl rfl rfl)
  · exact importKept_of_same rfl rfl rfl

theorem encoderLoop_importKept (stepped : encoderLoop cfg s env = some t) : ImportKept s t := by
  unfold encoderLoop at stepped
  split at stepped
  · obtain rfl := Option.some.inj stepped
    exact importKept_of_same rfl rfl rfl
  · simp at stepped
  · obtain rfl := Option.some.inj stepped
    unfold encoderRetrieve
    split
    · exact importKept_of_same rfl rfl rfl
    · split
      · exact importKept_of_same rfl rfl rfl
      · exact acquire_importKept ..
  · rename_i ptr at_s
    obtain rfl := Option.some.inj stepped
    have drops : ImportKept s (s.drops ptr) := importKept_of_same rfl rfl rfl
    exact (drops.trans (Woken.remove ..).importKept).trans (importKept_of_same rfl rfl rfl)
  · obtain rfl := Option.some.inj stepped
    split
    · exact importKept_of_same rfl rfl rfl
    · exact dispose_importKept ..

/-! ### Runs -/

theorem numbered_step (h : Numbered s) (stepped : step cfg s e = some t) : Numbered t := by
  unfold step at stepped
  split at stepped
  · simp at stepped
  · cases e with
    | run thread env =>
      cases thread with
      | importer => exact importLoop_numbered h stepped
      | worker n => exact (processFrame_importKept stepped).numbered h
      | exporter => exact (encoderLoop_importKept stepped).numbered h
    | wakeup thread =>
      obtain rfl := Option.some.inj stepped
      exact (Woken.wake s thread).importKept.numbered h
    | interrupt env =>
      obtain rfl := Option.some.inj stepped
      exact (Woken.interrupt s env).importKept.numbered h
    | interruptImport env =>
      obtain rfl := Option.some.inj stepped
      exact (Woken.signal s _ env).importKept.numbered h
    | stop | importStop | poolStop =>
      obtain rfl := Option.some.inj stepped
      exact ⟨h.range, h.going⟩

/-- The frames are numbered as they come in. -/
theorem registered_range (cfg : Config) (size workers : Nat) (es : List Event) :
    ∃ n, (final (step cfg) (start size workers) es).history.registered = List.range n :=
  (invariant (I := Numbered) (fun _ _ _ => numbered_step) ⟨⟨0, rfl⟩, fun _ => rfl⟩ es).range

end StudyProject.Transcode
