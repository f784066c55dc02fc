import StudyProject.Transcode.Effects

/-! Which thread a frame belongs to.  The status of a frame says which kind of thread holds it, so
that no two threads ever work on one frame, and the frame that the export works on stays at the head
of the chain. -/

namespace StudyProject.Transcode

open StudyProject.Library Framebuffer

variable {cfg : Config} {s t u : Pipeline} {e : Event} {p q n d : Nat} {th : Thread}
  {g : Frame → Frame}

/-- The status of the frames that a thread holds. -/
def Thread.stage : Thread → TCFrameStatus
  | .importer => .empty
  | .worker _ => .locked
  | .exporter => .ready

theorem Thread.stage_ready (ready : th.stage = .ready) : th = .exporter := by
  cases th <;> simp [stage] at ready ⊢

/-- Only a thread holds a frame of that status. -/
def TCFrameStatus.Taken (status : TCFrameStatus) : Prop := status = .empty ∨ status = .locked

structure Owned (s : Pipeline) : Prop where
  stage : ∀ th, ∀ p ∈ s.held th, s.buffer.status p = th.stage
  sole : ∀ th th' p, p ∈ s.held th → p ∈ s.held th' → th = th'
  once : ∀ th, (s.held th).Nodup
  owner : ∀ p, (s.buffer.status p).Taken → ∃ th, p ∈ s.held th
  head : ∀ p ∈ s.held .exporter, s.buffer.listHead = some p

namespace Owned

theorem not_others (h : Owned s) (mem : p ∈ s.held th) : ∀ th' ≠ th, p ∉ s.held th' :=
  fun th' other mem' => other (h.sole th' th p mem' mem)

/-- A frame that is free or waits belongs to no thread. -/
theorem not_any (h : Owned s) (free : s.buffer.status p = .null ∨ s.buffer.status p = .wait)
    (th : Thread) : p ∉ s.held th := by
  intro mem
  rw [h.stage th p mem] at free
  cases th <;> simp [Thread.stage] at free

theorem stage_head (h : Owned s) {ps : List Nat} (holds : s.held th = p :: ps) :
    s.buffer.status p = th.stage :=
  h.stage th p (by simp [holds])

/-- No frame changes its status, and what the export then holds is ready at the head. -/
theorem settled (h : Owned s) (status : ∀ p, t.buffer.status p = s.buffer.status p)
    (listHead : t.buffer.listHead = s.buffer.listHead)
    (others : ∀ th ≠ .exporter, t.held th = s.held th)
    (mine : ∀ p ∈ t.held .exporter, s.buffer.listHead = some p ∧ s.buffer.status p = .ready)
    (once : (t.held .exporter).Nodup) : Owned t := by
  have stage (th : Thread) : ∀ p ∈ t.held th, t.buffer.status p = th.stage := by
    intro p mem
    rw [status]
    by_cases at_th : th = .exporter
    · subst at_th
      exact (mine p mem).2
    · exact h.stage th p (by rwa [← others th at_th])
  refine ⟨stage, fun th th' p mem mem' => ?_, fun th => ?_, fun p taken => ?_, fun p mem => ?_⟩
  · by_cases at_th : th = .exporter
    · subst at_th
      exact (Thread.stage_ready ((stage th' p mem').symm.trans (stage _ p mem))).symm
    · by_cases at_th' : th' = .exporter
      · subst at_th'
        exact Thread.stage_ready ((stage th p mem).symm.trans (stage _ p mem'))
      · rw [others th at_th] at mem
        rw [others th' at_th'] at mem'
        exact h.sole th th' p mem mem'
  · by_cases at_th : th = .exporter
    · rwa [at_th]
    · rw [others th at_th]
      exact h.once th
  · rw [status] at taken
    obtain ⟨th, mem⟩ := h.owner p taken
    have other : th ≠ .exporter := by
      rintro rfl
      rw [h.stage _ p mem] at taken
      simp [TCFrameStatus.Taken, Thread.stage] at taken
    exact ⟨th, by rwa [others th other]⟩
  · rw [listHead]
    exact (mine p mem).1

theorem kept (h : Owned s) (status : ∀ p, t.buffer.status p = s.buffer.status p)
    (listHead : t.buffer.listHead = s.buffer.listHead) (kept : Kept s t) : Owned t := by
  refine h.settled status listHead kept.others (fun p mem => ?_) ?_
  · rcases kept.exporter with same | none
    · rw [same] at mem
      exact ⟨h.head p mem, h.stage _ p mem⟩
    · simp [none] at mem
  · rcases kept.exporter with same | none
    · rw [same]; exact h.once _
    · rw [none]; exact List.nodup_nil

/-- The frame `p` changes its status, for which it belongs to `th` or to none. -/
theorem moves {ps : List Nat} (h : Owned s) (moved : s.buffer.Recounted t.buffer p g d)
    (holds : Holds s t th ps) (free : ∀ th' ≠ th, p ∉ s.held th')
    (old : ∀ q ≠ p, (q ∈ ps ↔ q ∈ s.held th)) (new : p ∈ ps ↔ (t.buffer.status p).Taken)
    (stage : p ∈ ps → t.buffer.status p = th.stage) (once : ps.Nodup)
    (head : ∀ q ≠ p, s.buffer.listHead = some q → t.buffer.listHead = some q) : Owned t := by
  have others {q : Nat} (other : q ≠ p) (th' : Thread) : q ∈ t.held th' ↔ q ∈ s.held th' := by
    by_cases at_th : th' = th
    · rw [at_th, holds.self]; exact old q other
    · rw [holds.others th' at_th]
  have mine {th' : Thread} (mem : p ∈ t.held th') : th' = th := by
    by_contra at_th
    rw [holds.others th' at_th] at mem
    exact free th' at_th mem
  refine ⟨fun th' q mem => ?_, fun th₁ th₂ q mem mem' => ?_, fun th' => ?_, fun q taken => ?_,
    fun q mem => ?_⟩
  · by_cases other : q = p
    · subst other
      obtain rfl := mine mem
      exact stage (by rwa [holds.self] at mem)
    · rw [moved.status_ne other]
      exact h.stage th' q ((others other th').mp mem)
  · by_cases other : q = p
    · subst other
      rw [mine mem, mine mem']
    · exact h.sole th₁ th₂ q ((others other _).mp mem) ((others other _).mp mem')
  · by_cases at_th : th' = th
    · rw [at_th, holds.self]; exact once
    · rw [holds.others th' at_th]; exact h.once th'
  · by_cases other : q = p
    · subst other
      exact ⟨th, by rw [holds.self]; exact new.mpr taken⟩
    · rw [moved.status_ne other] at taken
      obtain ⟨th', mem⟩ := h.owner q taken
      exact ⟨th', (others other th').mpr mem⟩
  · by_cases other : q = p
    · subst other
      obtain rfl := mine mem
      rw [holds.self] at mem
      have taken := new.mp mem
      rw [stage mem] at taken
      simp [TCFrameStatus.Taken, Thread.stage] at taken
    · exact head q other (h.head q ((others other _).mp mem))

end Owned

/-! ### The frames of an effect -/

theorem setAttributes_unmoved (s : Framebuffer) (p : Nat) (a : Attributes) :
    s.Unmoved (setAttributes s p a) :=
  ⟨rfl, contents_modify_same fun _ => rfl⟩

theorem markClone_unmoved (s : Framebuffer) (p q : Nat) : s.Unmoved (markClone s p q) := by
  have each (s : Framebuffer) (p : Nat) (a : Attributes → Attributes) :
      s.Unmoved (s.modify p fun f => { f with attributes := a f.attributes }) :=
    ⟨rfl, contents_modify_same fun _ => rfl⟩
  exact ((each s q ({ · with isCloned := false })).trans
    (each _ p ({ · with isCloned := false }))).trans (each _ q ({ · with wasCloned := true }))

theorem fill_recounted {s : Framebuffer} (empty : s.status p = .empty) (a : Attributes)
    {status : TCFrameStatus} (used : status ≠ .null) :
    s.Recounted (framePushNext (setAttributes s p a) p status) p ({ · with status }) 0 := by
  have unmoved := setAttributes_unmoved s p a
  exact unmoved.before (pushNext_restated (by simp [unmoved.status, empty]) used).recounted

theorem clone_recounted {s : Framebuffer} {m : Nat} (ring : s.Ring) (bound : q < s.last)
    (lt : m < s.last) (free : s.status q = .null) (locked : s.status p = .locked) :
    s.Recounted (markClone (listFrameLink (frameCopy (s.claimed q m) q p) q p) p q) q
      (fun _ => (s.frame p).content) 1 :=
  (markClone_unmoved ..).after (dup_recounted ring bound lt free locked)

theorem export_recounted {s : Framebuffer} (ready : s.status p = .ready) (a : Attributes) :
    s.Recounted (frameRemove (setAttributes s p a) p) p ({ · with status := .null }) 0 := by
  have unmoved := setAttributes_unmoved s p a
  exact unmoved.before (remove_recounted (.inr (by rw [unmoved.status, ready])))

/-- A thread hands its only frame on. -/
theorem Owned.leaves {status : TCFrameStatus} (h : Owned s) (before : s.held th = [p])
    (moved : s.buffer.Recounted t.buffer p ({ · with status }) d) (holds : Holds s t th [])
    (free : ¬status.Taken)
    (head : ∀ q ≠ p, s.buffer.listHead = some q → t.buffer.listHead = some q) : Owned t := by
  have status := moved.status_self
  refine h.moves moved holds (h.not_others (by simp [before])) (fun q other => ?_) ?_ (by simp)
    List.nodup_nil head
  · simp [before, other]
  · rw [status]
    simpa using free

/-- A thread gives its only frame back to the pool. -/
theorem Owned.removed (h : Owned s)
    (taken : s.buffer.status p = .locked ∨ s.buffer.status p = .ready)
    (before : s.held th = [p]) (buffer : t.buffer = frameRemove s.buffer p)
    (holds : Holds s t th []) :
    Owned t := by
  have moved := remove_recounted taken
  rw [← buffer] at moved
  refine h.leaves before moved holds (by simp [TCFrameStatus.Taken]) fun q other head => ?_
  rw [buffer]
  exact (removeFrame_listHead ..).trans
    ((remove_listHead (by rw [head]; simpa using other)).trans head)

/-- Every effect leaves the frames with one thread each. -/
theorem Effect.owned {r : Option Nat} (h : Owned s) (ring : s.buffer.Ring) (effect : Effect s t r) :
    Owned t := by
  cases effect with
  | quiet buffer kept => exact h.kept (fun p => by rw [buffer]) (by rw [buffer]) kept
  | starved m lt used buffer kept =>
    exact h.kept (fun p => by rw [buffer]; rfl) (by rw [buffer]) kept
  | registers p m bound lt free buffer before holds =>
    have moved := register_recounted ring bound lt free s.framecount
    rw [← buffer] at moved
    refine h.moves moved holds (fun th _ => h.not_any (.inl free) th) (fun q other => ?_) ?_ ?_
      (by simp) fun q other head => ?_
    · simp [before, other]
    · simp [moved.status_self, TCFrameStatus.Taken]
    · simp [moved.status_self, Thread.stage]
    · rw [buffer]
      exact insert_listHead ((append_listHead ..).trans head)
  | fills p a status pushed before buffer holds =>
    have used : status ≠ .null := by rcases pushed with rfl | ⟨rfl, -⟩ <;> simp
    have moved := fill_recounted (h.stage_head before) a used
    rw [← buffer] at moved
    refine h.leaves before moved holds ?_ fun q other head => ?_
    · rcases pushed with rfl | ⟨rfl, -⟩ <;> simp [TCFrameStatus.Taken]
    · rw [buffer, pushNext_eq]
      exact head
  | marks th p a mem buffer kept =>
    exact h.kept (fun q => by rw [buffer, (setAttributes_unmoved ..).status])
      (by rw [buffer]; rfl) kept
  | reserves n p buffer before holds =>
    obtain ⟨waits, restated⟩ := reserve_some buffer
    have moved := restated.recounted
    refine h.moves moved holds (fun th _ => h.not_any (.inr waits) th) (fun q other => ?_) ?_ ?_
      (by simp) fun q other head => restated.listHead.trans head
    · simp [before, other]
    · simp [moved.status_self, TCFrameStatus.Taken]
    · simp [moved.status_self, Thread.stage]
  | dups n p q m bound lt free before buffer holds =>
    have locked : s.buffer.status p = .locked := h.stage_head before
    have moved := clone_recounted ring bound lt free locked
    rw [← buffer] at moved
    have status : t.buffer.status q = .locked := by
      rw [moved.status_self, content_status]
      exact locked
    have other : p ≠ q := fun same => by simp [same, free] at locked
    refine h.moves moved holds (fun th _ => h.not_any (.inl free) th) (fun r other => ?_) ?_ ?_
      (by simp [other]) fun r other head => ?_
    · simp [before, other]
    · simp [status, TCFrameStatus.Taken]
    · simp [status, Thread.stage]
    · rw [buffer]
      exact (link_listHead ..).trans head
  | pushesClone n p q before buffer holds =>
    have locked : s.buffer.status q = .locked := h.stage (.worker n) q (by simp [before])
    have other : p ≠ q := by simpa [before] using h.once (.worker n)
    have used : s.buffer.status q ≠ .null := by simp [locked]
    have moved := (pushNext_restated used (by simp : TCFrameStatus.wait ≠ .null)).recounted
    rw [← buffer] at moved
    refine h.moves moved holds (h.not_others (by simp [before])) (fun r other => ?_) ?_ ?_
      (by simp) fun r other head => ?_
    · simp [before, other]
    · simp [moved.status_self, TCFrameStatus.Taken, other.symm]
    · simp [other.symm]
    · rw [buffer, pushNext_eq]
      exact head
  | pushes n p before buffer holds =>
    have locked : s.buffer.status p = .locked := h.stage_head before
    have used : s.buffer.status p ≠ .null := by simp [locked]
    have moved := (pushNext_restated used (by simp : TCFrameStatus.ready ≠ .null)).recounted
    rw [← buffer] at moved
    refine h.leaves before moved holds (by simp [TCFrameStatus.Taken]) fun q other head => ?_
    rw [buffer, pushNext_eq]
    exact head
  | retrieves p a ps ready buffer some holds =>
    refine h.settled (fun q => by rw [buffer, (setAttributes_unmoved ..).status])
      (by rw [buffer]; rfl) holds.others (fun q mem => ?_) ?_
    · have at_q : q = p := by
        rw [holds.self] at mem
        rcases some with rfl | rfl
        · simpa using mem
        · simp at mem
      rw [at_q]
      exact retrieveNowait_some ready
    · rw [holds.self]
      rcases some with rfl | rfl <;> simp
  | drops n p before buffer holds =>
    exact h.removed (.inl (h.stage_head before)) before buffer holds
  | skips p before buffer holds => exact h.removed (.inr (h.stage_head before)) before buffer holds
  | exports p a before buffer holds =>
    have moved := export_recounted (h.stage_head before) a
    rw [← buffer] at moved
    refine h.leaves before moved holds (by simp [TCFrameStatus.Taken]) fun q other head => ?_
    rw [buffer]
    exact (removeFrame_listHead ..).trans
      ((remove_listHead (s := setAttributes s.buffer p a) (by
        show s.buffer.listHead ≠ _
        rw [head]; simpa using other)).trans head)

end StudyProject.Transcode
