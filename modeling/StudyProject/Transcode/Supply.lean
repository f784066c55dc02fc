import StudyProject.Transcode.Faults
import StudyProject.Transcode.Waiting

/-! What the operations on the frames leave for those who wait: free frames for the import and for
the clones, waiting frames for the workers, a ready head for the export. -/

namespace StudyProject.Transcode

open StudyProject.Library Framebuffer

variable {s : Pipeline} {p : Nat}

theorem supply_unmoved {s t : Framebuffer} (h : s.Unmoved t) (head : t.listHead = s.listHead)
    (c : Cond) : t.supply c = s.supply c := by
  cases c with
  | importCond => simp [Framebuffer.supply, Framebuffer.count, h.contents]
  | filterCond => simp [Framebuffer.supply, Framebuffer.count, h.contents]
  | exportCond => simp [Framebuffer.supply, headReady, head, h.status]

theorem headReady_iff (s : Framebuffer) :
    headReady s = true ↔ ∃ p, s.listHead = some p ∧ s.status p = .ready := by
  cases head : s.listHead <;> simp [headReady, head]

theorem toNat_le {a b : Bool} (h : a = true → b = true) : a.toNat ≤ b.toNat := by
  cases a with
  | false => simp
  | true => simp [h rfl]

/-- The head of the chain is ready, as it was before, or it is the frame that has become so. -/
theorem restated_headReady {s t : Framebuffer} {status : TCFrameStatus} (h : s.Restated t p status)
    (ready : headReady t = true) :
    headReady s = true ∨ status = .ready ∧ s.listHead = some p := by
  obtain ⟨q, head, at_q⟩ := (headReady_iff t).mp ready
  rw [h.listHead] at head
  by_cases same : q = p
  · subst same
    exact .inr ⟨h.status_self.symm.trans at_q, head⟩
  · exact .inl ((headReady_iff s).mpr ⟨q, head, by rwa [← h.status_ne same]⟩)

theorem pushNext_supply {s : Framebuffer} {status : TCFrameStatus} (taken : (s.status p).Taken)
    (pushed : status = .ready ∨ status = .wait) :
    (framePushNext s p status).supply .importCond = s.supply .importCond ∧
    (framePushNext s p status).supply .filterCond =
      s.supply .filterCond + (if status = .wait then 1 else 0) ∧
    (framePushNext s p status).supply .exportCond ≤
      s.supply .exportCond + if status = .ready ∧ s.listHead = some p then 1 else 0 := by
  have used : s.status p ≠ .null := by rcases taken with h | h <;> simp [h]
  have not_wait : s.status p ≠ .wait := by rcases taken with h | h <;> simp [h]
  have used' : status ≠ .null := by rcases pushed with rfl | rfl <;> simp
  have restated := pushNext_restated used used'
  have moved := restated.recounted
  have null := count_of_modify moved.contents moved.bound .null
  have wait := count_of_modify moved.contents moved.bound .wait
  rw [if_neg used, restated.status_self, if_neg used'] at null
  rw [if_neg not_wait, restated.status_self] at wait
  refine ⟨null, wait, ?_⟩
  by_cases ready : headReady (framePushNext s p status) = true
  · rcases restated_headReady restated ready with before | at_head
    · simp only [Framebuffer.supply, ready, before]
      omega
    · rw [if_pos at_head]
      simp [Framebuffer.supply, ready]
  · simp [Framebuffer.supply, ready]

theorem remove_supply {s : Framebuffer} (taken : s.status p = .locked ∨ s.status p = .ready) :
    (frameRemove s p).supply .importCond = s.supply .importCond + 1 ∧
    (frameRemove s p).supply .filterCond = s.supply .filterCond ∧
    (s.listHead ≠ some p → (frameRemove s p).supply .exportCond ≤ s.supply .exportCond) := by
  have moved := remove_recounted taken
  have null := count_of_modify moved.contents moved.bound .null
  have wait := count_of_modify moved.contents moved.bound .wait
  have status : (frameRemove s p).status p = .null := moved.status_self
  rw [status, if_neg (by rcases taken with h | h <;> simp [h])] at null
  rw [status, if_neg (by rcases taken with h | h <;> simp [h])] at wait
  refine ⟨null, wait, fun other => toNat_le fun ready => ?_⟩
  have head : (frameRemove s p).listHead = s.listHead :=
    (removeFrame_listHead ..).trans (remove_listHead other)
  obtain ⟨q, at_q, ready⟩ := (headReady_iff _).mp ready
  rw [head] at at_q
  have ne : q ≠ p := fun same => other (by rw [at_q, same])
  exact (headReady_iff s).mpr ⟨q, at_q, by rwa [← moved.status_ne ne]⟩

theorem register_supply {s : Framebuffer} {m : Nat} (ring : s.Ring) (bound : p < s.last)
    (lt : m < s.last) (free : s.status p = .null) (id : Nat) :
    let t := listFrameInsert (listFrameAppend (s.registered p m id) p) p
    t.supply .importCond + 1 = s.supply .importCond ∧ t.supply .filterCond = s.supply .filterCond ∧
      t.supply .exportCond ≤ s.supply .exportCond := by
  intro t
  have moved : s.Recounted t p (fun _ => { id, status := .empty }) 0 :=
    register_recounted ring bound lt free id
  have null := count_of_modify moved.contents moved.bound .null
  have wait := count_of_modify moved.contents moved.bound .wait
  have status : t.status p = .empty := moved.status_self
  rw [free, status] at null wait
  refine ⟨null, wait, toNat_le fun ready => ?_⟩
  obtain ⟨q, at_q, ready⟩ := (headReady_iff t).mp ready
  have ne : q ≠ p := by
    rintro rfl
    simp [status] at ready
  refine (headReady_iff s).mpr ⟨q, ?_, by rwa [← moved.status_ne ne]⟩
  cases head : s.listHead with
  | none =>
    have first : t.listHead = some p := insert_listHead_none ((append_listHead ..).trans head)
    exact absurd (Option.some.inj (first.symm.trans at_q)).symm ne
  | some r =>
    have same : t.listHead = some r := insert_listHead ((append_listHead ..).trans head)
    exact same.symm.trans at_q

/-- Where a frame is asked for and none is free, nothing is there to take. -/
theorem starved_supply {s : Framebuffer} {m : Nat} (ring : s.Ring)
    (used : ∀ p < s.last, s.status p ≠ .null) :
    ({ s with next := m } : Framebuffer).supply .importCond = 0 := by
  rw [ring.last] at used
  exact (count_eq_zero s .null).mpr used

theorem null_zero (h : Sound s) (zero : s.buffer.null = 0) : s.buffer.supply .importCond = 0 := by
  have counter : s.buffer.null = s.buffer.count .null := by
    simpa [TCRingFrameBuffer.counter, drift] using h.balanced.counter .null
  simp only [Framebuffer.supply]
  omega

/-- A frame that does not become ready makes no head ready. -/
theorem recounted_headReady {s t : Framebuffer} {g : Frame → Frame} {d : Nat}
    (moved : s.Recounted t p g d) (head : t.listHead = s.listHead) (other : t.status p ≠ .ready)
    (ready : headReady t = true) : headReady s = true := by
  obtain ⟨q, at_q, ready⟩ := (headReady_iff t).mp ready
  have ne : q ≠ p := by
    rintro rfl
    exact other ready
  exact (headReady_iff s).mpr ⟨q, head.symm.trans at_q, by rwa [← moved.status_ne ne]⟩

theorem reserve_supply {s t : Framebuffer} (found : frameReserve s = some (some p, t)) :
    t.supply .importCond = s.supply .importCond ∧ t.supply .filterCond + 1 = s.supply .filterCond ∧
      t.supply .exportCond ≤ s.supply .exportCond := by
  obtain ⟨waits, restated⟩ := reserve_some found
  have moved := restated.recounted
  have null := count_of_modify moved.contents moved.bound .null
  have wait := count_of_modify moved.contents moved.bound .wait
  rw [waits, restated.status_self] at null wait
  exact ⟨null, wait, toNat_le (recounted_headReady moved restated.listHead
    (by simp [restated.status_self]))⟩

theorem clone_supply {s : Framebuffer} {q m : Nat} (ring : s.Ring) (bound : q < s.last)
    (lt : m < s.last) (free : s.status q = .null) (locked : s.status p = .locked) :
    let t := markClone (listFrameLink (frameCopy (s.claimed q m) q p) q p) p q
    t.supply .importCond + 1 = s.supply .importCond ∧ t.supply .filterCond = s.supply .filterCond ∧
      t.supply .exportCond ≤ s.supply .exportCond := by
  intro t
  have moved : s.Recounted t q (fun _ => (s.frame p).content) 1 :=
    clone_recounted ring bound lt free locked
  have null := count_of_modify moved.contents moved.bound .null
  have wait := count_of_modify moved.contents moved.bound .wait
  have status : t.status q = .locked := by
    rw [moved.status_self, content_status]
    exact locked
  rw [free, status] at null wait
  exact ⟨null, wait, toNat_le (recounted_headReady moved (link_listHead ..) (by simp [status]))⟩

theorem wait_none (h : Balanced s) (zero : s.buffer.wait = 0) : s.buffer.supply .filterCond = 0 :=
  ((wait_zero h).mp zero).1

/-- The head after the old one was taken out is the next frame. -/
theorem removed_headReady {s : Framebuffer} (taken : s.status p = .locked ∨ s.status p = .ready)
    (head : s.listHead = some p) :
    headReady (frameRemove s p) = true ↔ ∃ q, s.after p = some q ∧ q ≠ p ∧ s.status q = .ready := by
  have moved := remove_recounted taken
  have head' : (frameRemove s p).listHead = s.after p :=
    (removeFrame_listHead ..).trans (remove_listHead_self moved.bound head)
  rw [headReady_iff, head']
  refine exists_congr fun q => and_congr_right fun _ => ?_
  by_cases same : q = p
  · subst same
    simp [moved.status_self]
  · simp [moved.status_ne same, same]

theorem retrieve_none (none : frameRetrieveNowait s.buffer = .none) :
    s.buffer.supply .exportCond = 0 := by
  have not_ready : headReady s.buffer = false := by
    rw [Bool.eq_false_iff]
    intro ready
    obtain ⟨p, head, -⟩ := (headReady_iff _).mp ready
    simp [frameRetrieveNowait, ready, head] at none
  simp [Framebuffer.supply, not_ready]

end StudyProject.Transcode
