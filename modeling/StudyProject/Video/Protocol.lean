import StudyProject.Video.Cameras

/-! The camera protocol.  The activity breaks it in two ways: a picture is requested and the camera
released at once, and a press calls `unlock` on a camera whose lock an earlier failed preparation
gave away.  A run keeps to the protocol exactly if neither happens. -/

namespace StudyProject.Video

open StudyProject.Library StudyProject.Library.Objects StudyProject.Library.Handler

variable {s t : World} {i : Input} {env : Env} {r : EStateM.Result Throwable World Unit}
  {c : Camera}

/-- Every call on a camera so far was legal. -/
def World.Legal (s : World) : Prop := ∀ call ∈ s.cameraCalls, call.Legal

/-- The step does not stop a recording within a second of its start, and does not press the button
while the camera's lock is given away. -/
def World.Careful (s : World) (i : Input) : Prop :=
  (s.stops i.event = true → 1000 ≤ i.env.now - s.time) ∧
    (i.event = .actionDown → s.isRecording = false → ∀ c, s.camera = some c → c.locked = true)

/-- The camera in the field is open and owes no picture. -/
theorem World.CameraInv.camera (h : s.CameraInv) (camera : s.camera = some c) :
    c.released = false ∧ c.pending = false := by
  obtain ⟨i, field, rfl⟩ := Option.map_eq_some_iff.mp camera
  obtain ⟨x, at_i, opened⟩ := h.sole.held i field
  rw [at_i, Option.getD_some]
  exact ⟨opened, h.quiet x (List.mem_of_getElem? at_i) opened⟩

theorem World.CameraInv.releaseCalls (h : s.CameraInv) : ∀ call ∈ s.releaseCalls, call.Legal := by
  unfold World.releaseCalls
  cases camera : s.camera with
  | none => simp
  | some c =>
    have ⟨opened, quiet⟩ := h.camera camera
    simp [CameraCall.Legal, opened, quiet]

theorem previewMade_subset (throws : Option CameraMethod) (methods : List CameraMethod) :
    previewMade throws methods ⊆ methods := by
  induction methods with
  | nil => simp [previewMade]
  | cons m rest ih =>
    unfold previewMade
    split
    · simp
    · exact List.cons_subset_cons m ih

theorem legal_preview {m : CameraMethod} (h : m ∈ previewCalls) :
    CameraCall.Legal ⟨some {}, m⟩ := by
  simp only [previewCalls, List.mem_cons, List.not_mem_nil, or_false] at h
  rcases h with rfl | rfl | rfl | rfl | rfl | rfl <;> simp [CameraCall.Legal]

theorem previewLog_legal (env : Env) : ∀ call ∈ env.previewLog, call.Legal := by
  intro call mem
  obtain ⟨m, made, rfl⟩ := List.mem_map.mp mem
  exact legal_preview (previewMade_subset _ _ made)

/-- The camera invariant, with a legal record. -/
structure World.LegalInv (s : World) : Prop extends s.CameraInv where
  legal : s.Legal

namespace World.LegalInv

theorem released (h : s.LegalInv) : ∀ call ∈ s.cameraCalls ++ s.releaseCalls, call.Legal :=
  List.forall_mem_append.mpr ⟨h.legal, h.releaseCalls⟩

theorem opening {spacing : CameraFacing} (h : s.LegalInv) (opening : Opening env spacing s r) :
    (state r).Legal := by
  cases opening with
  | busy => exact h.legal
  | threw => exact h.released
  | opened => exact List.forall_mem_append.mpr ⟨h.released, previewLog_legal env⟩

theorem bounds (env : Env) : Bounds (Keeps World.LegalInv) env where
  assign s a b c d e f h := ⟨(CameraInv.bounds env).assign s a b c d e f h.toCameraInv, h.legal⟩
  review s released h := ⟨(CameraInv.bounds env).review s released h.toCameraInv, h.legal⟩
  delivered s c h := ⟨(CameraInv.bounds env).delivered s c h.toCameraInv, h.legal⟩
  playerStarted s p h := ⟨(CameraInv.bounds env).playerStarted s p h.toCameraInv, h.legal⟩
  playerReleased s h := ⟨(CameraInv.bounds env).playerReleased s h.toCameraInv, h.legal⟩
  released _ h := ⟨h.toCameraInv.released, h.released⟩
  opening _ _ _ opening h := ⟨h.toCameraInv.opening opening, h.opening opening⟩

theorem playing (h : s.LegalInv) (play : s.isPlay = true) (playing : Playing env s r) :
    (state r).LegalInv := by
  refine ⟨h.toCameraInv.playing play playing, ?_⟩
  cases playing with
  | played => exact h.legal
  | noFile => exact h.legal
  | null => exact h.legal

theorem lifecycle (h : s.LegalInv) {e : Event} (lifecycle : e.isLifecycle = true) :
    (state ((handle env e).run s)).LegalInv :=
  (bounds env).handle lifecycle
    (fun _ => .modify fun _ h => ⟨⟨h.sole, h.quiet, h.exclusive⟩, h.legal⟩)
    (fun _ _ _ play playing h => h.playing play playing) s h

end World.LegalInv

theorem ended_legal (r : EStateM.Result Throwable World Unit) :
    (ended r).Legal ↔ (state r).Legal := by
  rw [ended_eq]
  rfl

theorem Press.calls (press : Press env s r) :
    (state r).cameraCalls = s.cameraCalls ++ s.unlockCalls := by
  unfold World.unlockCalls
  cases press with
  | noCamera null => simp [camera_none null, World.pressed]
  | failed camera => rw [camera]; rfl
  | started camera => rw [camera]; rfl
  | refused camera => rw [camera]; rfl
  | threw t file recorders camera => rw [camera]; rfl

/-- A press makes one call, `unlock`, which is legal if the lock is held. -/
theorem Press.legal_iff (press : Press env s r) (inv : s.CameraInv) (legal : s.Legal) :
    (state r).Legal ↔ ∀ c, s.camera = some c → c.locked = true := by
  have calls : (state r).Legal ↔ ∀ call ∈ s.unlockCalls, call.Legal := by
    unfold World.Legal
    rw [press.calls]
    exact List.forall_mem_append.trans (and_iff_right legal)
  rw [calls, World.unlockCalls]
  cases camera : s.camera with
  | none => simp
  | some c => simp [CameraCall.Legal, (inv.camera camera).1]

/-- A stop is legal if it plays the video: the other branch releases a camera that owes a picture,
or has none to take it with. -/
theorem Stop.legal_iff (stop : Stop env s r) (inv : s.LegalInv) :
    (state r).Legal ↔ 1000 ≤ env.now - s.time := by
  cases stop with
  | played slow => exact iff_of_true inv.released (by omega)
  | noFile slow => exact iff_of_true inv.released (by omega)
  | null slow => exact iff_of_true inv.released (by omega)
  | @pictured c quick camera =>
    apply iff_of_false
    · intro legal
      obtain ⟨i, field, -⟩ := Option.map_eq_some_iff.mp camera
      obtain ⟨x, at_i, -⟩ := inv.sole.held i field
      have release : CameraCall.Legal ⟨some (x.call .takePicture), .release⟩ := by
        apply legal
        apply List.mem_append_right
        simp [World.releaseCalls, World.camera, World.pictured, World.stopped, field, at_i]
      simp [CameraCall.Legal, Camera.call] at release
    · omega
  | noCamera quick =>
    apply iff_of_false
    · intro legal
      exact legal _ (List.mem_append_right _ List.mem_cons_self)
    · omega
  | @refused c quick camera refuses =>
    apply iff_of_false
    · intro legal
      have take : CameraCall.Legal ⟨some c, .takePicture⟩ :=
        legal _ (List.mem_append_right _ List.mem_cons_self)
      simp [CameraCall.Legal] at take
      simp [Camera.refuses, take] at refuses
    · omega

theorem careful_of_going (going : s.stops i.event = false)
    (down : i.event = .actionDown → s.isRecording = true) : s.Careful i := by
  refine ⟨fun stops => ?_, fun event idle => ?_⟩
  · rw [going] at stops
    simp at stops
  · rw [down event] at idle
    simp at idle

theorem step_legal_iff (inv : s.CameraInv) (legal : s.Legal) (stepped : step s i = some t) :
    t.Legal ↔ s.Careful i := by
  cases step_outcome stepped with
  | lifecycle lifecycle =>
    rw [ended_legal]
    have inv' : s.LegalInv := ⟨inv, legal⟩
    apply iff_of_true (inv'.lifecycle lifecycle).legal
    apply careful_of_going (stops_of_lifecycle lifecycle s)
    intro event
    simp [event, Event.isLifecycle] at lifecycle
  | recording event recording =>
    exact iff_of_true legal (careful_of_going (by rw [event]; rfl) fun _ => recording)
  | press event idle press =>
    rw [ended_legal, press.legal_iff inv legal]
    constructor
    · intro locked
      refine ⟨fun stops => ?_, fun _ _ => locked⟩
      simp [event, World.stops] at stops
    · intro careful
      exact careful.2 event idle
  | stop queue stops stop =>
    have inv' : { s with queue }.LegalInv := ⟨⟨inv.sole, inv.quiet, inv.exclusive⟩, legal⟩
    rw [ended_legal, stop.legal_iff inv']
    constructor
    · intro late
      refine ⟨fun _ => late, fun event => ?_⟩
      simp [event, World.stops] at stops
    · intro careful
      exact careful.1 stops
  | tick n event =>
    exact iff_of_true legal (careful_of_going (by rw [event]; rfl) (by simp [event]))
  | progress queue event going =>
    exact iff_of_true legal (careful_of_going going (by simp [event]))

/-- A run keeps to the camera protocol exactly if all its steps are careful. -/
theorem protocol_iff_careful (cameraCount : Nat) (progress : CustomProgress) (run : List Input) :
    (∀ s ∈ Machine.states step (initView cameraCount progress) run, s.Legal) ↔
      ∀ x ∈ Machine.steps step (initView cameraCount progress) run, x.before.Careful x.event :=
  Machine.always_iff (fun _ _ _ => World.CameraInv.step)
    (fun _ _ _ inv legal stepped => step_legal_iff inv legal stepped)
    (initView_cameraInv _ _) (by simp [World.Legal, initView]) run

/-- A tap on the record button requests a picture and releases the camera before it is taken. -/
theorem protocol_broken_tap :
    ¬∀ s ∈ Machine.states step (initView 2 (.initAttrs 78 78 1 {}))
        [⟨.surfaceCreated 0, {}⟩, ⟨.actionDown, {}⟩, ⟨.actionUp, { now := 200 }⟩],
      ∀ call ∈ s.cameraCalls, call.Legal := by
  decide

end StudyProject.Video
