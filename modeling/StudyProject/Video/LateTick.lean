import Mathlib.Data.List.Induction
import StudyProject.Video.Players
import StudyProject.Video.Progress

/-! Ticks that do not come on time.  After the first of them the main thread alone, with no further
tick, can show a progress beyond the limit or start a recording whose counter is not 0.  So the
condition on the ticks is exact for the runs and what may follow them. -/

namespace StudyProject.Video

open StudyProject.Library StudyProject.Library.Objects StudyProject.Library.Handler

variable {s t : World} {i : Input} {env : Env}

theorem step_of_ok {e : Event} (running : s.crash = none) (able : s.enabled e = true)
    (ok : (handle env e).run s = .ok () t) : step s ⟨e, env⟩ = some t := by
  unfold step
  simp [running, able, ok, ended]

/-! ### A new session -/

theorem onClick_btn_ok (env : Env) (stop : s.canStopPlayer = true) (opens : env.opens = true) :
    ∃ t, (onClick env .btn).run s = .ok () t ∧ t.isPlay = false ∧ t.isTake = false ∧
      t.crash = s.crash ∧ t.session = s.session := by
  unfold onClick
  rw [get_bind]
  cases play : s.isPlay with
  | true =>
    rw [if_pos rfl, bind_ok (releaseMediaPlayer_ok stop), modify_bind,
      bind_ok (openVideo_ok rfl rfl opens _)]
    exact ⟨_, rfl, rfl, rfl, rfl, rfl⟩
  | false =>
    rw [if_neg (by simp), modify_bind, bind_ok (openVideo_ok rfl rfl opens _)]
    exact ⟨_, rfl, rfl, rfl, rfl, rfl⟩

theorem surfaceCreated_ok (env : Env) (play : s.isPlay = false) (take : s.isTake = false)
    (opens : env.opens = true) (holder : Nat) :
    ∃ t, (surfaceCreated env holder).run s = .ok () t ∧ t.mSurfaceHolder = some holder ∧
      t.camera = some {} ∧ t.crash = s.crash ∧ t.session = s.session := by
  unfold surfaceCreated
  rw [modify_bind, get_bind, openVideo_ok (by exact play) (by exact take) opens _]
  exact ⟨_, rfl, rfl, by simp [World.camera, World.opened], rfl, rfl⟩

theorem onTouchDown_ok {c : Camera} {holder : Nat} (idle : s.isRecording = false)
    (camera : s.camera = some c) (accepts : c.refuses .unlock = false)
    (surface : s.mSurfaceHolder = some holder) :
    (onTouchDown {}).run s = .ok () (s.started {} c) := by
  have configured : (configureRecorder {}).run ((s.pressed {}).unlocked c) =
      .ok true (((s.pressed {}).unlocked c).prepared {}) := by
    unfold configureRecorder getOutputMediaFile
    simp only [Bool.not_true, Bool.false_eq_true, ↓reduceIte, modify_bind, get_bind]
    have surface' : ¬((s.pressed {}).unlocked c).mSurfaceHolder.isNone = true := by
      show ¬s.mSurfaceHolder.isNone = true
      rw [surface]
      simp
    rw [if_neg surface']
    exact tryCatch_ok (by simp [prepare]; rfl)
  rw [onTouchDown_idle idle, startRecording]
  rw [bind_ok ((prepareVideoRecorder_unlocked {} (by exact camera) accepts).trans configured)]
  exact start_prepared rfl

theorem ShowsProgress.drop {before later : List Input} (h : ShowsProgress s (before ++ later)) :
    ShowsProgress (Machine.final step s before) later where
  afresh x mem := h.afresh x (by rw [Machine.steps_append]; exact List.mem_append_right _ mem)
  inRange := by
    have inRange := h.inRange
    rwa [Machine.final_append] at inRange
  quiet x mem := h.quiet x (by rw [Machine.steps_append]; exact List.mem_append_right _ mem)

/-- A click on `btn`, a surface and a press: a recording that starts where the counter is. -/
def restart : List Input := [⟨.onClick .btn, {}⟩, ⟨.surfaceCreated 0, {}⟩, ⟨.actionDown, {}⟩]

theorem restart_count (running : s.crash = none) (stop : s.canStopPlayer = true)
    (idle : s.isRecording = false) (h : ShowsProgress s restart) : s.mTimeCount = 0 := by
  obtain ⟨t, clicked, play, take, crash, session⟩ :=
    onClick_btn_ok {} stop rfl
  have first : step s ⟨.onClick .btn, {}⟩ = some t := step_of_ok running rfl clicked
  obtain ⟨u, created, surface, camera, crash', session'⟩ :=
    surfaceCreated_ok {} play take rfl 0
  have second : step t ⟨.surfaceCreated 0, {}⟩ = some u :=
    step_of_ok (crash.trans running) rfl created
  have same : u.session = s.session := session'.trans session
  have idle' : u.isRecording = false := (congrArg Session.isRecording same).trans idle
  have third : step u ⟨.actionDown, {}⟩ = some (u.started {} {}) :=
    step_of_ok (crash'.trans (crash.trans running)) rfl (onTouchDown_ok idle' camera rfl surface)
  have mem : ⟨u, ⟨.actionDown, {}⟩, u.started {} {}⟩ ∈ Machine.steps step s restart := by
    rw [restart, Machine.steps_cons_some first, Machine.steps_cons_some second,
      Machine.steps_cons_some third]
    simp
  have count : u.mTimeCount = 0 := h.afresh _ mem idle' rfl
  exact (congrArg Session.mTimeCount same).symm.trans count

theorem dispatch_shown (running : s.crash = none) (update : s.queue.head? = some .updateProgress)
    (h : ShowsProgress s [⟨.dispatch, {}⟩]) : s.mTimeCount.toInt ≤ MAX_TIME.toInt := by
  obtain ⟨rest, queue⟩ := List.head?_eq_some_iff.mp update
  have stepped : step s ⟨.dispatch, {}⟩ = some { s with
      queue := rest
      views := { s.views with customProgress := s.views.customProgress.setProgress s.mTimeCount }
      shown := s.shown ++ [s.mTimeCount] } :=
    step_of_ok running (by simp [World.enabled, queue])
      (by simp [handle, dispatch, queue, Runnable.run, setProgress])
  have inRange := h.inRange
  rw [Machine.final_cons, Machine.next_some stepped, Machine.final_nil] at inRange
  exact (inRange s.mTimeCount (by simp)).2

/-- A tick that does not come on time can be followed, with no more ticks, by a progress that is
not as it should be. -/
theorem late_tick (paced : s.Paced) (inv : s.PlayerInv) (stepped : step s i = some t)
    (late : ¬OnTime ⟨s, i, t⟩) :
    ∃ later : List Input, (∀ j ∈ later, j.event.isTick = false) ∧ ¬ShowsProgress t later := by
  have running := (step_eq stepped).1
  obtain ⟨isTick, early⟩ := Classical.not_imp.mp late
  have isTick : i.event.isTick = true := isTick
  cases step_outcome stepped with
  | tick n event =>
    cases recording : s.isRecording with
    | false =>
      refine ⟨restart, by simp [restart, Event.isTick], fun shows => ?_⟩
      have count := restart_count (by exact running) (by exact inv.canStop) rfl shows
      simp [paced.idle recording] at count
    | true =>
      have beyond : ¬(s.mTimeCount.toNat < MAX_TIME.toNat ∨ s.queue.head? = some .sendVideo) :=
        fun timely => early ⟨recording, timely⟩
      obtain ⟨above, notNext⟩ := not_or.mp beyond
      obtain ⟨waits, limit⟩ := (paced.recording recording).resolve_left above
      have limit : s.mTimeCount = MAX_TIME := limit.resolve_right notNext
      have update : s.queue.head? = some .updateProgress := by
        cases queue : s.queue with
        | nil => simp [queue] at waits
        | cons r rest =>
          cases r with
          | updateProgress => rfl
          | sendVideo => simp [queue] at notNext
      refine ⟨[⟨.dispatch, {}⟩], by simp [Event.isTick], fun shows => ?_⟩
      have bound := dispatch_shown (by exact running) (by simp [update]) shows
      simp [limit, MAX_TIME] at bound
  | lifecycle lifecycle =>
    rw [noTick_of_lifecycle lifecycle] at isTick
    simp at isTick
  | recording event => simp [event, Event.isTick] at isTick
  | press event => simp [event, Event.isTick] at isTick
  | stop queue stops =>
    cases event : i.event <;> simp [event, World.stops, Event.isTick] at stops isTick
  | progress queue event => simp [event, Event.isTick] at isTick

/-- The ticks of a run all come on time exactly if the run, cut off anywhere and continued without
ticks, shows progress as it should. -/
theorem onTime_iff (cameraCount : Nat) (progress : CustomProgress) (run : List Input) :
    (∀ x ∈ Machine.steps step (initView cameraCount progress) run, OnTime x) ↔
      ∀ before, before <+: run → ∀ later : List Input, (∀ j ∈ later, j.event.isTick = false) →
        ShowsProgress (initView cameraCount progress) (before ++ later) := by
  have start := initView_paced cameraCount progress
  constructor
  · rintro onTime before ⟨after, rfl⟩ later noTick
    apply start.showsProgress
    rw [Machine.steps_append] at onTime ⊢
    intro x mem
    rcases List.mem_append.mp mem with mem | mem
    · exact onTime x (List.mem_append_left _ mem)
    · intro isTick
      rw [noTick x.event (Machine.event_mem mem)] at isTick
      simp at isTick
  · intro shows
    induction run using List.reverseRecOn with
    | nil => simp
    | append_singleton run i ih =>
      have onTime := ih fun before isPrefix =>
        shows before (isPrefix.trans (List.prefix_append _ _))
      rw [Machine.steps_append]
      cases stepped : step (Machine.final step (initView cameraCount progress) run) i with
      | none =>
        rw [Machine.steps_cons_none stepped, Machine.steps_nil, List.append_nil]
        exact onTime
      | some t =>
        rw [Machine.steps_cons_some stepped, Machine.steps_nil]
        refine List.forall_mem_append.mpr ⟨onTime, List.forall_mem_singleton.mpr ?_⟩
        by_contra late
        have paced := Machine.invariant_under
          (fun _ _ _ (h : World.Paced _) stepped => h.step stepped) start run onTime
        have inv := Machine.invariant (I := fun s : World => s.crash = none → s.PlayerInv)
          playerInv_keeps (fun _ => initView_playerInv cameraCount progress) run
          (step_eq stepped).1
        obtain ⟨later, noTick, wrong⟩ := late_tick paced inv stepped late
        have whole := (shows (run ++ [i]) (List.prefix_refl _) later noTick).drop
        rw [Machine.final_append, Machine.final_cons, Machine.next_some stepped,
          Machine.final_nil] at whole
        exact wrong whole

end StudyProject.Video
