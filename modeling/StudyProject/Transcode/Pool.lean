import StudyProject.Library.Chain
import StudyProject.Transcode.Framebuffer

/-! What the operations do to the statuses of the frames and to the counters: which frame of the
pool is taken, and how the counters follow when a frame goes from one status to another. -/

namespace StudyProject.Transcode

open StudyProject.Library StudyProject.Library.Objects

variable {s t : Framebuffer} {p q : Nat} {f g : Frame → Frame}

/-- A frame without its attributes and links. -/
def Frame.content (x : Frame) : Frame := { id := x.id, status := x.status }

@[simp] theorem content_default : ({} : Frame).content = {} := rfl

@[simp] theorem content_status (x : Frame) : x.content.status = x.status := rfl

@[simp] theorem content_id (x : Frame) : x.content.id = x.id := rfl

/-- The counter of a status. -/
def TCRingFrameBuffer.counter (rfb : TCRingFrameBuffer) : TCFrameStatus → Int
  | .null => rfb.null
  | .empty => rfb.empty
  | .wait => rfb.wait
  | .locked => rfb.locked
  | .ready => rfb.ready

namespace Framebuffer

/-- The frames without their attributes and links. -/
def contents (s : Framebuffer) : List Frame := s.frames.map Frame.content

/-- The number of frames of a status. -/
def count (s : Framebuffer) (status : TCFrameStatus) : Nat :=
  s.contents.countP (·.status = status)

/-- The ring is as long as it says, and `next` is a place in it. -/
structure Ring (s : Framebuffer) : Prop where
  last : s.last = s.frames.length
  next : s.next < s.last

/-! ### Reading and writing -/

@[simp] theorem modify_ring (s : Framebuffer) (p : Nat) (f : Frame → Frame) :
    (s.modify p f).toTCRingFrameBuffer = s.toTCRingFrameBuffer := rfl

@[simp] theorem modify_length (s : Framebuffer) (p : Nat) (f : Frame → Frame) :
    (s.modify p f).frames.length = s.frames.length :=
  List.length_modify ..

theorem frame_modify_self (bound : p < s.frames.length) :
    (s.modify p f).frame p = f (s.frame p) := by
  simp [modify, frame, bound]

theorem frame_modify_ne (other : q ≠ p) : (s.modify p f).frame q = s.frame q := by
  simp [modify, frame, List.getElem?_modify_ne _ _ other.symm]

theorem frame_content (s : Framebuffer) (p : Nat) :
    (s.frame p).content = s.contents[p]?.getD {} := by
  cases at_p : s.frames[p]? <;> simp [frame, contents, at_p]

theorem status_content (s : Framebuffer) (p : Nat) :
    s.status p = (s.contents[p]?.getD {}).status := by
  rw [← frame_content, content_status]
  rfl

@[simp] theorem contents_length (s : Framebuffer) : s.contents.length = s.frames.length :=
  List.length_map ..

theorem lt_of_status (used : s.status p ≠ .null) : p < s.frames.length := by
  by_contra out
  have default : s.frame p = {} := by simp [frame, List.getElem?_eq_none (Nat.le_of_not_lt out)]
  rw [status, default] at used
  exact used rfl

theorem contents_getElem? (bound : p < s.frames.length) :
    s.contents[p]? = some (s.frame p).content := by
  simp [contents, frame, bound]

/-- A change of a frame, as its content shows it. -/
theorem contents_modify (same : ∀ x, (f x).content = g x.content) :
    (s.modify p f).contents = s.contents.modify p g := by
  have eq : Frame.content ∘ f = g ∘ Frame.content := funext same
  simp only [contents, modify]
  apply List.ext_getElem?
  intro i
  by_cases at_p : p = i
  · subst at_p
    cases at_p : s.frames[p]? <;> simp [at_p, same]
  · simp [List.getElem?_modify_ne _ _ at_p]

/-- A change of attributes or links only. -/
theorem contents_modify_same (same : ∀ x, (f x).content = x.content) :
    (s.modify p f).contents = s.contents := by
  rw [contents_modify (g := fun x => x) same]
  exact List.modify_id p s.contents

end Framebuffer

open Framebuffer

/-! ### What the contents say -/

/-- One frame has changed, to `g` of what it was. -/
theorem content_of_modify (h : t.contents = s.contents.modify p g) (bound : p < s.frames.length) :
    (t.frame p).content = g (s.frame p).content := by
  rw [frame_content, frame_content, h, List.getElem?_modify_eq, contents_getElem? bound]
  rfl

theorem content_of_modify_ne (h : t.contents = s.contents.modify p g) (other : q ≠ p) :
    (t.frame q).content = (s.frame q).content := by
  rw [frame_content, frame_content, h, List.getElem?_modify_ne _ _ other.symm]

theorem status_of_modify (h : t.contents = s.contents.modify p g) (bound : p < s.frames.length) :
    t.status p = (g (s.frame p).content).status := by
  rw [← content_of_modify h bound, content_status]
  rfl

theorem status_of_modify_ne (h : t.contents = s.contents.modify p g) (other : q ≠ p) :
    t.status q = s.status q := by
  rw [status, status, ← content_status, content_of_modify_ne h other, content_status]

theorem length_of_modify (h : t.contents = s.contents.modify p g) :
    t.frames.length = s.frames.length := by
  rw [← contents_length, ← contents_length s, h, List.length_modify]

/-- The frame that has changed is counted under its new status. -/
theorem count_of_modify (h : t.contents = s.contents.modify p g) (bound : p < s.frames.length)
    (status : TCFrameStatus) :
    t.count status + (if s.status p = status then 1 else 0) =
      s.count status + if t.status p = status then 1 else 0 := by
  have counted := countP_modify (p := fun x : Frame => decide (x.status = status)) (f := g)
    (contents_getElem? bound)
  rw [← h] at counted
  simp only [decide_eq_true_eq] at counted
  rw [status_of_modify h bound]
  exact counted

theorem count_eq_zero (s : Framebuffer) (status : TCFrameStatus) :
    s.count status = 0 ↔ ∀ p < s.frames.length, s.status p ≠ status := by
  simp only [count, List.countP_eq_zero, decide_eq_true_eq, List.mem_iff_getElem?]
  constructor
  · intro none p bound
    exact none (s.frame p).content ⟨p, contents_getElem? bound⟩
  · rintro none x ⟨p, at_p⟩
    have bound : p < s.frames.length := by
      rw [← contents_length]
      exact (List.getElem?_eq_some_iff.mp at_p).1
    rw [contents_getElem? bound] at at_p
    obtain rfl := Option.some.inj at_p
    exact none p bound

/-! ### The pool -/

/-- The search ends at a free place, or at one of as many places as it has turns, none of which is
free. -/
theorem seekFrame_eq (ring : s.Ring) (n : Nat) :
    ∃ m < s.last, seekFrame n s = { s with next := m } ∧
      (s.status m = .null ∨ ∀ k < n, s.status ((s.next + k) % s.last) ≠ .null) := by
  induction n generalizing s with
  | zero => exact ⟨s.next, ring.next, rfl, .inr (by simp)⟩
  | succ n ih =>
    by_cases free : s.status s.next = .null
    · exact ⟨s.next, ring.next, if_pos free, .inl free⟩
    · have pos : 0 < s.last := by have := ring.next; omega
      have ring' : Ring { s with next := (s.next + 1) % s.last } :=
        ⟨ring.last, Nat.mod_lt _ pos⟩
      obtain ⟨m, bound, eq, found⟩ := ih ring'
      refine ⟨m, bound, ?_, found.imp_right fun others k lt => ?_⟩
      · rw [seekFrame, if_neg free, eq]
      · cases k with
        | zero => rwa [Nat.add_zero, Nat.mod_eq_of_lt ring.next]
        | succ k =>
          have other := others k (by omega)
          simp only [Nat.mod_add_mod] at other
          rwa [show s.next + (k + 1) = s.next + 1 + k by omega]

/-- A free frame is taken from the pool, or no frame is free. -/
theorem retrieveFrame_cases (ring : s.Ring) :
    (∃ p < s.last, ∃ m < s.last, s.status p = .null ∧
      tcRingFramebufferRetrieveFrame s = (some p, { s with null := s.null - 1, next := m })) ∨
    (∃ m < s.last, (∀ p < s.last, s.status p ≠ .null) ∧
      tcRingFramebufferRetrieveFrame s = (none, { s with next := m })) := by
  obtain ⟨m, bound, eq, found⟩ := seekFrame_eq ring s.last
  unfold tcRingFramebufferRetrieveFrame
  rw [eq]
  by_cases free : s.status m = .null
  · exact .inl ⟨m, bound, (m + 1) % s.last, Nat.mod_lt _ (by omega), free,
      if_neg (not_not_intro free)⟩
  · refine .inr ⟨m, bound, fun p lt used => ?_, if_pos free⟩
    have others := found.resolve_left free
    have at_p : (s.next + (p + s.last - s.next) % s.last) % s.last = p := by
      have := ring.next
      rw [Nat.add_mod_mod, show s.next + (p + s.last - s.next) = p + s.last by omega,
        Nat.add_mod_right, Nat.mod_eq_of_lt lt]
    have other := others ((p + s.last - s.next) % s.last) (Nat.mod_lt _ (by omega))
    rw [at_p] at other
    exact other used

/-! ### The links -/

/-- Every frame has its id and its status still, and the counters are as they were. -/
structure Framebuffer.Unmoved (s t : Framebuffer) : Prop where
  ring : t.toTCRingFrameBuffer = s.toTCRingFrameBuffer
  contents : t.contents = s.contents

namespace Framebuffer.Unmoved

theorem refl (s : Framebuffer) : s.Unmoved s := ⟨rfl, rfl⟩

theorem trans {u : Framebuffer} (h : s.Unmoved t) (h' : t.Unmoved u) : s.Unmoved u :=
  ⟨h'.ring.trans h.ring, h'.contents.trans h.contents⟩

theorem setNext (s : Framebuffer) (p : Nat) (next : Option Nat) :
    s.Unmoved (s.setNext p next) :=
  ⟨rfl, contents_modify_same fun _ => rfl⟩

theorem setPrev (s : Framebuffer) (p : Nat) (prev : Option Nat) :
    s.Unmoved (s.setPrev p prev) :=
  ⟨rfl, contents_modify_same fun _ => rfl⟩

theorem append (s : Framebuffer) (p : Nat) : s.Unmoved (listFrameAppend s p) := by
  unfold listFrameAppend
  cases s.listTail with
  | none => exact ⟨rfl, rfl⟩
  | some tail =>
    have unmoved := (setNext s tail (some p)).trans (setPrev _ p (some tail))
    exact ⟨unmoved.ring, unmoved.contents⟩

theorem insert (s : Framebuffer) (p : Nat) : s.Unmoved (listFrameInsert s p) := by
  unfold listFrameInsert
  cases s.listHead <;> exact ⟨rfl, rfl⟩

theorem link (s : Framebuffer) (p f : Nat) : s.Unmoved (listFrameLink s p f) := by
  unfold listFrameLink
  have unmoved := ((setNext s p (s.frame f).next).trans (setNext _ f (some p))).trans
    (setPrev _ p (some f))
  dsimp only
  split <;> exact ⟨unmoved.ring, unmoved.contents⟩

theorem unlinkNext (s : Framebuffer) (p : Nat) : s.Unmoved (unlinkNext s p) := by
  unfold Transcode.unlinkNext
  split
  · exact setNext ..
  · exact refl s

theorem unlinkPrev (s : Framebuffer) (p : Nat) : s.Unmoved (unlinkPrev s p) := by
  unfold Transcode.unlinkPrev
  split
  · exact setPrev ..
  · exact refl s

theorem unlinkTail (s : Framebuffer) (p : Nat) : s.Unmoved (unlinkTail s p) := by
  unfold Transcode.unlinkTail
  split <;> exact ⟨rfl, rfl⟩

theorem unlinkHead (s : Framebuffer) (p : Nat) : s.Unmoved (unlinkHead s p) := by
  unfold Transcode.unlinkHead
  split <;> exact ⟨rfl, rfl⟩

theorem remove (s : Framebuffer) (p : Nat) : s.Unmoved (listFrameRemove s p) :=
  (((unlinkNext s p).trans (unlinkPrev _ p)).trans (unlinkTail _ p)).trans (unlinkHead _ p)

end Framebuffer.Unmoved

/-! ### The head -/

@[simp] theorem append_listHead (s : Framebuffer) (p : Nat) :
    (listFrameAppend s p).listHead = s.listHead := by
  unfold listFrameAppend
  cases s.listTail <;> rfl

theorem insert_listHead (head : s.listHead = some q) : (listFrameInsert s p).listHead = some q := by
  unfold listFrameInsert
  rw [head]
  exact head

@[simp] theorem link_listHead (s : Framebuffer) (p f : Nat) :
    (listFrameLink s p f).listHead = s.listHead := by
  unfold listFrameLink
  dsimp only
  split <;> rfl

@[simp] theorem unlinkNext_listHead (s : Framebuffer) (p : Nat) :
    (unlinkNext s p).listHead = s.listHead := by
  unfold unlinkNext
  split <;> rfl

@[simp] theorem unlinkPrev_listHead (s : Framebuffer) (p : Nat) :
    (unlinkPrev s p).listHead = s.listHead := by
  unfold unlinkPrev
  split <;> rfl

@[simp] theorem unlinkTail_listHead (s : Framebuffer) (p : Nat) :
    (unlinkTail s p).listHead = s.listHead := by
  unfold unlinkTail
  split <;> rfl

theorem remove_listHead (other : s.listHead ≠ some p) :
    (listFrameRemove s p).listHead = s.listHead := by
  unfold listFrameRemove unlinkHead
  rw [if_neg (by simpa using other.symm)]
  simp

/-! ### The operations -/

/-- What the counters are off by after `d` clones: they count a clone as waiting that is locked. -/
def drift (d : Nat) : TCFrameStatus → Int
  | .wait => d
  | .locked => -d
  | _ => 0

@[simp] theorem drift_zero (status : TCFrameStatus) : drift 0 status = 0 := by
  cases status <;> rfl

theorem drift_add (d d' : Nat) (status : TCFrameStatus) :
    drift (d + d') status = drift d status + drift d' status := by
  cases status <;> simp [drift]
  omega

/-- The frame `p` is now `g` of what it was, and the counters have followed, but for `d` clones. -/
structure Framebuffer.Recounted (s t : Framebuffer) (p : Nat) (g : Frame → Frame) (d : Nat) :
    Prop where
  bound : p < s.frames.length
  contents : t.contents = s.contents.modify p g
  counter : ∀ status, t.counter status + (if s.status p = status then 1 else 0) =
    s.counter status + (if t.status p = status then 1 else 0) + drift d status
  places : s.Ring → t.Ring

theorem Framebuffer.Ring.same (h : s.Ring) (last : t.last = s.last) (next : t.next < t.last)
    (length : t.frames.length = s.frames.length) : t.Ring :=
  ⟨by rw [last, h.last, length], next⟩

namespace Framebuffer.Unmoved

theorem status (h : s.Unmoved t) (p : Nat) : t.status p = s.status p := by
  rw [status_content, status_content, h.contents]

theorem counter (h : s.Unmoved t) (status : TCFrameStatus) :
    t.counter status = s.counter status := by
  cases status <;> simp only [TCRingFrameBuffer.counter, h.ring]

theorem length (h : s.Unmoved t) : t.frames.length = s.frames.length := by
  rw [← contents_length, h.contents, contents_length]

theorem places (h : s.Unmoved t) (ring : s.Ring) : t.Ring := by
  have last : t.last = s.last := by rw [h.ring]
  have next : t.next = s.next := by rw [h.ring]
  exact ring.same last (by rw [next, last]; exact ring.next) h.length

variable {u : Framebuffer} {d : Nat}

theorem after (h : t.Unmoved u) (h' : s.Recounted t p g d) : s.Recounted u p g d := by
  refine ⟨h'.bound, h.contents.trans h'.contents, fun status => ?_, fun ring =>
    h.places (h'.places ring)⟩
  rw [h.counter, h.status]
  exact h'.counter status

theorem before (h : s.Unmoved t) (h' : t.Recounted u p g d) : s.Recounted u p g d := by
  refine ⟨by rw [← h.length]; exact h'.bound, by rw [← h.contents]; exact h'.contents,
    fun status => ?_, fun ring => h'.places (h.places ring)⟩
  rw [← h.counter, ← h.status]
  exact h'.counter status

end Framebuffer.Unmoved

namespace Framebuffer.Recounted

variable {d : Nat}

theorem status_self (h : s.Recounted t p g d) : t.status p = (g (s.frame p).content).status :=
  status_of_modify h.contents h.bound

theorem status_ne (h : s.Recounted t p g d) (other : q ≠ p) : t.status q = s.status q :=
  status_of_modify_ne h.contents other

end Framebuffer.Recounted

/-- A frame from the pool, blank but for its `id`. -/
def Framebuffer.registered (s : Framebuffer) (p m id : Nat) : Framebuffer :=
  modify { s with null := s.null - 1, next := m, empty := s.empty + 1 } p
    fun _ => { id, status := .empty }

/-- A frame from the pool, to be copied to. -/
def Framebuffer.claimed (s : Framebuffer) (p m : Nat) : Framebuffer :=
  modify { s with null := s.null - 1, next := m, wait := s.wait + 1 } p
    ({ · with status := .wait, next := none, prev := none })

theorem modify_modify (s : Framebuffer) (p : Nat) (f g : Frame → Frame) :
    (s.modify p f).modify p g = s.modify p fun x => g (f x) := by
  simp only [Framebuffer.modify, List.modify_modify_eq]
  rfl

theorem registerFrame_cases (ring : s.Ring) :
    (∃ p < s.last, ∃ m < s.last, s.status p = .null ∧
      (∀ id, tcRingFramebufferRegisterFrame s id .empty = (some p, s.registered p m id)) ∧
      tcRingFramebufferRegisterFrame s 0 .wait = (some p, s.claimed p m)) ∨
    (∃ m < s.last, (∀ p < s.last, s.status p ≠ .null) ∧ ∀ id status,
      tcRingFramebufferRegisterFrame s id status = (none, { s with next := m })) := by
  unfold tcRingFramebufferRegisterFrame
  rcases retrieveFrame_cases ring with ⟨p, bound, m, lt, free, eq⟩ | ⟨m, lt, used, eq⟩
  · rw [eq]
    refine .inl ⟨p, bound, m, lt, free, fun id => ?_, rfl⟩
    dsimp only
    rw [modify_modify]
    rfl
  · rw [eq]
    exact .inr ⟨m, lt, used, fun _ _ => rfl⟩

theorem registered_recounted (ring : s.Ring) (bound : p < s.last) {m : Nat} (lt : m < s.last)
    (free : s.status p = .null) (id : Nat) :
    s.Recounted (s.registered p m id) p (fun _ => { id, status := .empty }) 0 := by
  have bound' : p < s.frames.length := by rw [← ring.last]; exact bound
  have contents : (s.registered p m id).contents =
      s.contents.modify p fun _ => { id, status := .empty } :=
    contents_modify (s := { s with null := s.null - 1, next := m, empty := s.empty + 1 })
      fun _ => rfl
  refine ⟨bound', contents, fun status => ?_, fun ring => ring.same rfl lt (modify_length ..)⟩
  rw [status_of_modify contents bound', free]
  cases status <;> simp [TCRingFrameBuffer.counter, Framebuffer.registered]

/-- A new frame is registered, at the end of the chain. -/
theorem register_recounted (ring : s.Ring) (bound : p < s.last) {m : Nat} (lt : m < s.last)
    (free : s.status p = .null) (id : Nat) :
    s.Recounted (listFrameInsert (listFrameAppend (s.registered p m id) p) p) p
      (fun _ => { id, status := .empty }) 0 :=
  ((Unmoved.append _ p).trans (.insert _ p)).after (registered_recounted ring bound lt free id)

/-- One frame has a new status and the counters follow, with every link as it was. -/
structure Framebuffer.Restated (s t : Framebuffer) (p : Nat) (status : TCFrameStatus) : Prop where
  bound : p < s.frames.length
  frames : t.frames = s.frames.modify p ({ · with status })
  listHead : t.listHead = s.listHead
  listTail : t.listTail = s.listTail
  counter : ∀ status', t.counter status' + (if s.status p = status' then 1 else 0) =
    s.counter status' + if status = status' then 1 else 0
  last : t.last = s.last
  next : t.next = s.next

namespace Framebuffer.Restated

variable {status : TCFrameStatus}

theorem frame_self (h : s.Restated t p status) : t.frame p = { s.frame p with status } := by
  have := frame_modify_self (f := ({ · with status })) h.bound
  rwa [frame, modify, ← h.frames] at this

theorem frame_ne (h : s.Restated t p status) (other : q ≠ p) : t.frame q = s.frame q := by
  have := frame_modify_ne (s := s) (f := ({ · with status })) other
  rwa [frame, modify, ← h.frames] at this

theorem status_self (h : s.Restated t p status) : t.status p = status := by
  rw [Framebuffer.status, h.frame_self]

theorem status_ne (h : s.Restated t p status) (other : q ≠ p) : t.status q = s.status q := by
  rw [Framebuffer.status, h.frame_ne other, Framebuffer.status]

theorem recounted (h : s.Restated t p status) : s.Recounted t p ({ · with status }) 0 := by
  have contents : t.contents = s.contents.modify p ({ · with status }) := by
    rw [Framebuffer.contents, h.frames]
    exact contents_modify (s := s) fun _ => rfl
  refine ⟨h.bound, contents, fun status' => ?_, fun ring => ?_⟩
  · rw [h.status_self, drift_zero, Int.add_zero]
    exact h.counter status'
  · exact ring.same h.last (by rw [h.next, h.last]; exact ring.next) (length_of_modify contents)

end Framebuffer.Restated

@[simp] theorem decCounters_places (rfb : TCRingFrameBuffer) (status : TCFrameStatus) :
    (decCounters rfb status).last = rfb.last ∧ (decCounters rfb status).next = rfb.next := by
  cases status <;> exact ⟨rfl, rfl⟩

@[simp] theorem incCounters_places (rfb : TCRingFrameBuffer) (status : TCFrameStatus) :
    (incCounters rfb status).last = rfb.last ∧ (incCounters rfb status).next = rfb.next := by
  cases status <;> exact ⟨rfl, rfl⟩

theorem decCounters_counter (rfb : TCRingFrameBuffer) (status status' : TCFrameStatus) :
    (decCounters rfb status).counter status' = rfb.counter status' -
      if status = status' ∧ status ≠ .null ∧ status ≠ .empty then 1 else 0 := by
  cases status <;> cases status' <;> simp [decCounters, TCRingFrameBuffer.counter]

theorem incCounters_counter (rfb : TCRingFrameBuffer) (status status' : TCFrameStatus) :
    (incCounters rfb status).counter status' = rfb.counter status' +
      if status = status' ∧ status ≠ .null ∧ status ≠ .empty then 1 else 0 := by
  cases status <;> cases status' <;> simp [incCounters, TCRingFrameBuffer.counter]

theorem setStatus_restated (bound : p < s.frames.length) (used : s.status p ≠ .null)
    (filled : s.status p ≠ .empty) {status : TCFrameStatus} (used' : status ≠ .null)
    (filled' : status ≠ .empty) : s.Restated (frameSetStatus s p status) p status := by
  refine ⟨bound, rfl, rfl, rfl, fun status' => ?_, ?_, ?_⟩
  · show (incCounters (decCounters _ _) _).counter _ + _ = _
    rw [incCounters_counter, decCounters_counter]
    simp only [used, filled, used', filled', ne_eq, not_false_eq_true, and_true]
    omega
  · exact (incCounters_places ..).1.trans (decCounters_places ..).1
  · exact (incCounters_places ..).2.trans (decCounters_places ..).2

/-- The counters after `push_next`. -/
def pushCounters (rfb : TCRingFrameBuffer) (old new : TCFrameStatus) : TCRingFrameBuffer :=
  let rfb := if old = .empty then { rfb with empty := rfb.empty - 1 } else rfb
  let rfb := incCounters (decCounters rfb old) new
  if new = .empty then { rfb with empty := rfb.empty + 1 } else rfb

theorem pushNext_eq (s : Framebuffer) (p : Nat) (status : TCFrameStatus) :
    framePushNext s p status =
      { s.modify p ({ · with status }) with
        toTCRingFrameBuffer := pushCounters s.toTCRingFrameBuffer (s.status p) status } := by
  unfold framePushNext frameSetExtStatus frameSetStatus pushCounters
  dsimp only
  split <;> split <;> rfl

theorem pushCounters_places (rfb : TCRingFrameBuffer) (old new : TCFrameStatus) :
    (pushCounters rfb old new).last = rfb.last ∧ (pushCounters rfb old new).next = rfb.next := by
  cases old <;> cases new <;> exact ⟨rfl, rfl⟩

theorem pushCounters_counter (rfb : TCRingFrameBuffer) {old new : TCFrameStatus}
    (used : old ≠ .null) (used' : new ≠ .null) (status : TCFrameStatus) :
    (pushCounters rfb old new).counter status + (if old = status then 1 else 0) =
      rfb.counter status + if new = status then 1 else 0 := by
  cases old <;> cases new <;> cases status <;>
    simp [pushCounters, incCounters, decCounters, TCRingFrameBuffer.counter] at used used' ⊢

/-- `push_next` moves a frame from one stage to another. -/
theorem pushNext_restated (used : s.status p ≠ .null) {status : TCFrameStatus}
    (used' : status ≠ .null) : s.Restated (framePushNext s p status) p status := by
  rw [pushNext_eq]
  exact ⟨lt_of_status used, rfl, rfl, rfl, pushCounters_counter _ used used',
    (pushCounters_places ..).1, (pushCounters_places ..).2⟩

/-- A frame goes back to the pool from the filters or from the export. -/
theorem removeFrame_restated (taken : s.status p = .locked ∨ s.status p = .ready) :
    s.Restated (tcRingFramebufferRemoveFrame s p) p .null := by
  have bound : p < s.frames.length := lt_of_status (by rcases taken with h | h <;> simp [h])
  unfold tcRingFramebufferRemoveFrame tcRingFramebufferReleaseFrame
  rcases taken with old | old
  · have ready : s.status p ≠ .ready := by simp [old]
    rw [if_neg ready]
    dsimp only
    rw [if_pos old]
    refine ⟨bound, rfl, rfl, rfl, fun status => ?_, rfl, rfl⟩
    rw [old]
    cases status <;> simp [TCRingFrameBuffer.counter]
  · rw [if_pos old]
    dsimp only
    have locked : Framebuffer.status { s with ready := s.ready - 1 } p ≠ .locked := by
      show s.status p ≠ _
      simp [old]
    rw [if_neg locked]
    refine ⟨bound, rfl, rfl, rfl, fun status => ?_, rfl, rfl⟩
    rw [old]
    cases status <;> simp [TCRingFrameBuffer.counter]

/-- `FRAME_LOOKUP` walks along the chain. -/
theorem lookup_eq (s : Framebuffer) (old new : TCFrameStatus) (n : Nat) (ptr : Option Nat) :
    frameLookup s old new n ptr =
      (Chain.search (fun p => (s.frame p).next) (fun p => s.status p = old) n ptr).map fun found =>
        (found, found.elim s fun p => frameSetStatus s p new) := by
  induction n generalizing ptr with
  | zero => cases ptr <;> rfl
  | succ n ih =>
    cases ptr with
    | none => rfl
    | some p =>
      rw [frameLookup, Chain.search, ih]
      by_cases at_p : s.status p = old <;> simp [at_p]

theorem retrieveNowait_some (ready : frameRetrieveNowait s = some p) :
    s.listHead = some p ∧ s.status p = .ready := by
  unfold frameRetrieveNowait headReady at ready
  split at ready
  · rename_i is_ready
    rw [ready] at is_ready
    exact ⟨ready, by simpa using is_ready⟩
  · simp at ready

theorem reserve_none (found : frameReserve s = some (none, t)) : t = s := by
  rw [frameReserve, lookup_eq] at found
  obtain ⟨found, -, eq⟩ := Option.map_eq_some_iff.mp found
  obtain ⟨rfl, rfl⟩ := Prod.mk.inj eq
  rfl

theorem reserve_some (found : frameReserve s = some (some p, t)) :
    s.status p = .wait ∧ s.Restated t p .locked := by
  rw [frameReserve, lookup_eq] at found
  obtain ⟨found, at_p, eq⟩ := Option.map_eq_some_iff.mp found
  obtain ⟨rfl, rfl⟩ := Prod.mk.inj eq
  have waits : s.status p = .wait := by simpa using Chain.search_some at_p
  refine ⟨waits, setStatus_restated (lt_of_status ?_) ?_ ?_ ?_ ?_⟩ <;> simp [waits]

@[simp] theorem removeFrame_listHead (s : Framebuffer) (p : Nat) :
    (tcRingFramebufferRemoveFrame s p).listHead = s.listHead := by
  unfold tcRingFramebufferRemoveFrame
  split <;> dsimp only <;> split <;> rfl

/-- A frame goes back to the pool, out of the chain. -/
theorem remove_recounted (taken : s.status p = .locked ∨ s.status p = .ready) :
    s.Recounted (frameRemove s p) p ({ · with status := .null }) 0 := by
  have unmoved := Unmoved.remove s p
  exact unmoved.before (removeFrame_restated (by rwa [unmoved.status])).recounted

/-- The frame that `dup` copies to. -/
theorem copied_eq (f m : Nat) (other : f ≠ p) :
    frameCopy (s.claimed p m) p f =
      modify { s with null := s.null - 1, next := m, wait := s.wait + 1 } p fun _ => s.frame f := by
  have at_f : (s.claimed p m).frame f = s.frame f :=
    frame_modify_ne (s := { s with null := s.null - 1, next := m, wait := s.wait + 1 }) other
  rw [frameCopy, at_f, Framebuffer.claimed, modify_modify]

/-- A copy has the status of its original, but it is counted as waiting. -/
theorem dup_recounted (ring : s.Ring) (bound : q < s.last) {m : Nat} (lt : m < s.last)
    (free : s.status q = .null) (locked : s.status p = .locked) :
    s.Recounted (listFrameLink (frameCopy (s.claimed q m) q p) q p) q
      (fun _ => (s.frame p).content) 1 := by
  have other : p ≠ q := fun same => by simp [same, free] at locked
  have bound' : q < s.frames.length := by rw [← ring.last]; exact bound
  refine (Unmoved.link _ q p).after ?_
  rw [copied_eq p m other]
  have contents := contents_modify
    (s := { s with null := s.null - 1, next := m, wait := s.wait + 1 })
    (p := q) (f := fun _ => s.frame p) (g := fun _ => (s.frame p).content) fun _ => rfl
  refine ⟨bound', contents, fun status => ?_, fun ring => ring.same rfl lt (modify_length ..)⟩
  rw [status_of_modify contents bound', free, content_status, ← Framebuffer.status, locked]
  cases status with
  | locked =>
    show s.locked + 0 = s.locked + 1 + -1
    omega
  | _ => simp [TCRingFrameBuffer.counter, drift]

end StudyProject.Transcode
