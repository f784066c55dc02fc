import StudyProject.Video.Session
import StudyProject.Video.Players

/-! Stopping a recording.  `recordStop` does not ask whether a recording is on, and it always
changes the activity or throws.  So a run stops each recording once, and does nothing where none is
on, exactly if `recordStop` only ever runs while `isRecording`. -/

namespace StudyProject.Video

open StudyProject.Library StudyProject.Library.Objects StudyProject.Library.Handler

variable {s t : World} {i : Input} {env : Env} {r : EStateM.Result Throwable World Unit}

/-- Each `recordStop` comes right after a successful start, with no other `recordStop` between. -/
def StopsOnce (calls : List RecordCall) : Prop :=
  ∀ before after, calls = before ++ .recordStop :: after → before.getLast? = some .start

theorem StopsOnce.start {calls : List RecordCall} (h : StopsOnce calls) :
    StopsOnce (calls ++ [.start]) := by
  intro before after split
  rcases List.eq_nil_or_concat after with rfl | ⟨after', last, rfl⟩
  · simp at split
  · rw [List.concat_eq_append, ← List.cons_append, ← List.append_assoc] at split
    exact h before after' (List.append_inj_left' split rfl)

theorem StopsOnce.stop {calls : List RecordCall} (h : StopsOnce calls)
    (started : calls.getLast? = some .start) : StopsOnce (calls ++ [.recordStop]) := by
  intro before after split
  rcases List.eq_nil_or_concat after with rfl | ⟨after', last, rfl⟩
  · rw [← List.append_inj_left' split rfl]
    exact started
  · rw [List.concat_eq_append, ← List.cons_append, ← List.append_assoc] at split
    exact h before after' (List.append_inj_left' split rfl)

/-- A stop while nothing is recorded leaves the activity as it was and throws nothing. -/
def HarmlessWhenIdle (x : Machine.Step World Input) : Prop :=
  x.before.stops x.event.event = true → x.before.isRecording = false →
    x.after.toActivity = x.before.toActivity ∧ x.after.crash = none

/-- The stops of the step happen while a recording is on. -/
def StopsRecording (x : Machine.Step World Input) : Prop :=
  x.before.stops x.event.event = true → x.before.isRecording = true

/-- `recordStop` never leaves the activity as it was: it throws, or it puts a new player into the
field, or it releases the camera. -/
theorem Stop.changes (stop : Stop env s r) (inv : s.PlayerInv)
    (completed : (ended r).crash = none) : (ended r).toActivity ≠ s.toActivity := by
  intro same
  cases stop with
  | played =>
    have field : some (s.resetPlayers.length) = s.mediaPlayer := congrArg Activity.mediaPlayer same
    obtain ⟨x, at_p, -⟩ := inv.held _ field.symm
    have bound := (List.getElem?_eq_some_iff.mp at_p).1
    unfold World.resetPlayers at bound
    split at bound
    · simp at bound
    · simp at bound
  | noFile => simp [ended] at completed
  | null => simp [ended] at completed
  | pictured quick camera =>
    have field : none = s.mCamera := congrArg Activity.mCamera same
    rw [camera_none field.symm] at camera
    simp at camera
  | noCamera => simp [ended] at completed
  | refused => simp [ended] at completed

theorem not_harmless (inv : s.crash = none → s.PlayerInv) (stepped : step s i = some t)
    (idle : s.isRecording = false) (stops : s.stops i.event = true) :
    ¬HarmlessWhenIdle ⟨s, i, t⟩ := by
  intro harmless
  obtain ⟨same, completed⟩ := harmless stops idle
  cases step_outcome stepped with
  | lifecycle lifecycle =>
    rw [stops_of_lifecycle lifecycle] at stops
    simp at stops
  | recording event recording =>
    rw [idle] at recording
    simp at recording
  | press event =>
    rw [event] at stops
    simp [World.stops] at stops
  | stop queue stops stop =>
    have inv := inv (step_eq stepped).1
    have inv' : { s with queue }.PlayerInv := ⟨inv.held, inv.file⟩
    exact stop.changes inv' completed same
  | tick n event =>
    rw [event] at stops
    simp [World.stops] at stops
  | progress queue event going =>
    rw [stops] at going
    simp at going

/-- While `isRecording`, the last recording call is a start. -/
structure Session.Armed (a : Session) : Prop where
  once : StopsOnce a.recordCalls
  armed : a.isRecording = true → a.recordCalls.getLast? = some .start

theorem Move.armed {e : Event} {a : Session} (move : Move s e a) (h : s.session.Armed)
    (recording : s.stops e = true → s.isRecording = true) : a.Armed := by
  cases move with
  | same => exact h
  | pressed => exact ⟨h.once, h.armed⟩
  | started => exact ⟨h.once.start, fun _ => by simp [Session.start]⟩
  | stopped stops =>
    have started := h.armed (recording stops)
    exact ⟨h.once.stop started, fun on => by simp [Session.stop] at on⟩
  | showed => exact ⟨h.once, h.armed⟩
  | ticked => exact ⟨h.once, h.armed⟩

/-- A run stops each recording once, and stops nothing else, exactly if each `recordStop` of the
run finds a recording on. -/
theorem stopped_once_iff (cameraCount : Nat) (progress : CustomProgress) (run : List Input) :
    (StopsOnce (Machine.final step (initView cameraCount progress) run).recordCalls ∧
        ∀ x ∈ Machine.steps step (initView cameraCount progress) run, HarmlessWhenIdle x) ↔
      ∀ x ∈ Machine.steps step (initView cameraCount progress) run, StopsRecording x := by
  constructor
  · rintro ⟨-, harmless⟩
    have recording := Machine.invariant_steps
      (P := fun x => HarmlessWhenIdle x → StopsRecording x) playerInv_keeps
      (fun s i t inv stepped harmless stops => by
        by_contra idle
        rw [Bool.not_eq_true] at idle
        exact not_harmless inv stepped idle stops harmless)
      (fun _ => initView_playerInv cameraCount progress) run
    exact fun x mem => recording x mem (harmless x mem)
  · intro recording
    have armed := Machine.invariant_under (I := fun s => s.session.Armed) (C := StopsRecording)
      (fun _ _ _ h stepped cond => (step_move stepped).armed h cond)
      ⟨fun before after split => by simp [World.session, initView] at split,
        fun on => by simp [World.session, initView] at on⟩ run recording
    refine ⟨armed.once, fun x mem stops idle => ?_⟩
    rw [recording x mem stops] at idle
    simp at idle

/-- After a press whose preparation failed, lifting the finger plays a video that was never
recorded. -/
theorem stopped_idle_failed_press :
    ¬(StopsOnce (Machine.final step (initView 2 (.initAttrs 78 78 1 {}))
          [⟨.surfaceCreated 0, {}⟩, ⟨.actionDown, { prepares := some .ioException }⟩,
            ⟨.actionUp, { now := 2000 }⟩]).recordCalls ∧
        ∀ x ∈ Machine.steps step (initView 2 (.initAttrs 78 78 1 {}))
          [⟨.surfaceCreated 0, {}⟩, ⟨.actionDown, { prepares := some .ioException }⟩,
            ⟨.actionUp, { now := 2000 }⟩], HarmlessWhenIdle x) := by
  rintro ⟨-, harmless⟩
  have same := (harmless _ (List.mem_of_getLast? (by rfl)) rfl rfl).1
  have play : true = false := congrArg Activity.isPlay same
  simp at play

end StudyProject.Video
