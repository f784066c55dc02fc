import Mathlib.Data.List.Perm.Subperm
import StudyProject.Transcode.Balance

/-! The chain of the frames in use.  `dup` leaves the back link of the frame behind the original as
it was, so that a frame behind a clone is later taken out where its back link points to.  The chain
stays whole exactly as long as no worker drops such a frame. -/

namespace StudyProject.Transcode

open StudyProject.Library StudyProject.Library.Chain StudyProject.Library.Machine Framebuffer

variable {s t : Framebuffer} {p q f m : Nat} {xs ys : List Nat}

namespace Framebuffer

def after (s : Framebuffer) (p : Nat) : Option Nat := (s.frame p).next

def before (s : Framebuffer) (p : Nat) : Option Nat := (s.frame p).prev

/-- What a change of a frame leaves alone. -/
theorem frame_modify_same {α : Type*} (read : Frame → α) {f : Frame → Frame}
    (same : ∀ x, read (f x) = read x) (q : Nat) :
    read ((s.modify p f).frame q) = read (s.frame q) := by
  by_cases other : q = p
  · subst other
    cases at_q : s.frames[q]? <;> simp [modify, frame, at_q, same]
  · rw [frame_modify_ne other]

theorem after_setNext_self (bound : p < s.frames.length) (next : Option Nat) :
    (s.setNext p next).after p = next := by
  rw [after, setNext, frame_modify_self bound]

theorem after_setNext_ne (other : q ≠ p) (next : Option Nat) :
    (s.setNext p next).after q = s.after q := by
  rw [after, setNext, frame_modify_ne other, after]

@[simp] theorem before_setNext (s : Framebuffer) (p q : Nat) (next : Option Nat) :
    (s.setNext p next).before q = s.before q :=
  frame_modify_same Frame.prev (f := ({ · with next })) (fun _ => rfl) q

@[simp] theorem after_setPrev (s : Framebuffer) (p q : Nat) (prev : Option Nat) :
    (s.setPrev p prev).after q = s.after q :=
  frame_modify_same Frame.next (f := ({ · with prev })) (fun _ => rfl) q

theorem before_setPrev_self (bound : p < s.frames.length) (prev : Option Nat) :
    (s.setPrev p prev).before p = prev := by
  rw [before, setPrev, frame_modify_self bound]

theorem before_setPrev_ne (other : q ≠ p) (prev : Option Nat) :
    (s.setPrev p prev).before q = s.before q := by
  rw [before, setPrev, frame_modify_ne other, before]

end Framebuffer

theorem Framebuffer.Restated.after {status : TCFrameStatus} (h : s.Restated t p status) (q : Nat) :
    t.after q = s.after q := by
  by_cases at_q : q = p
  · rw [at_q, Framebuffer.after, h.frame_self, Framebuffer.after]
  · rw [Framebuffer.after, h.frame_ne at_q, Framebuffer.after]

theorem Framebuffer.Restated.before {status : TCFrameStatus} (h : s.Restated t p status) (q : Nat) :
    t.before q = s.before q := by
  by_cases at_q : q = p
  · rw [at_q, Framebuffer.before, h.frame_self, Framebuffer.before]
  · rw [Framebuffer.before, h.frame_ne at_q, Framebuffer.before]

/-! ### At the end of the chain -/

@[simp] theorem append_listTail (s : Framebuffer) (p : Nat) :
    (listFrameAppend s p).listTail = some p := rfl

theorem append_after_tail (tail : s.listTail = some q) (bound : q < s.frames.length) :
    (listFrameAppend s p).after q = some p := by
  unfold listFrameAppend
  rw [tail]
  exact (after_setPrev ..).trans (after_setNext_self bound _)

theorem append_after (other : s.listTail ≠ some q) : (listFrameAppend s p).after q = s.after q := by
  unfold listFrameAppend
  cases tail : s.listTail with
  | none => rfl
  | some x =>
    have ne : q ≠ x := by
      rintro rfl
      exact other tail
    exact (after_setPrev ..).trans (after_setNext_ne ne _)

theorem append_before (tail : s.listTail = none ∨ q ≠ p) :
    (listFrameAppend s p).before q = s.before q := by
  unfold listFrameAppend
  cases at_tail : s.listTail with
  | none => rfl
  | some x =>
    have other := tail.resolve_left (by simp [at_tail])
    exact (before_setPrev_ne other _).trans (before_setNext ..)

theorem append_before_self (tail : s.listTail = some q) (bound : p < s.frames.length) :
    (listFrameAppend s p).before p = some q := by
  unfold listFrameAppend
  rw [tail]
  exact before_setPrev_self (by rwa [setNext, modify_length]) _

@[simp] theorem insert_after (s : Framebuffer) (p q : Nat) :
    (listFrameInsert s p).after q = s.after q := by
  unfold listFrameInsert
  cases s.listHead <;> rfl

@[simp] theorem insert_before (s : Framebuffer) (p q : Nat) :
    (listFrameInsert s p).before q = s.before q := by
  unfold listFrameInsert
  cases s.listHead <;> rfl

@[simp] theorem insert_listTail (s : Framebuffer) (p : Nat) :
    (listFrameInsert s p).listTail = s.listTail := by
  unfold listFrameInsert
  cases s.listHead <;> rfl

theorem insert_listHead_none (head : s.listHead = none) :
    (listFrameInsert s p).listHead = some p := by
  unfold listFrameInsert
  rw [head]

/-! ### Behind a frame -/

theorem link_after_self (bound : p < s.frames.length) (other : p ≠ f) :
    (listFrameLink s p f).after p = s.after f := by
  have linked : ((((s.setNext p (s.frame f).next).setNext f (some p)).setPrev p (some f)).after p) =
      s.after f :=
    (after_setPrev ..).trans ((after_setNext_ne other _).trans (after_setNext_self bound _))
  unfold listFrameLink
  dsimp only
  split <;> exact linked

theorem link_after_original (bound : f < s.frames.length) :
    (listFrameLink s p f).after f = some p := by
  have linked : ((((s.setNext p (s.frame f).next).setNext f (some p)).setPrev p (some f)).after f) =
      some p :=
    (after_setPrev ..).trans (after_setNext_self (by rwa [setNext, modify_length]) _)
  unfold listFrameLink
  dsimp only
  split <;> exact linked

theorem link_after (other : q ≠ p) (other' : q ≠ f) :
    (listFrameLink s p f).after q = s.after q := by
  have linked : ((((s.setNext p (s.frame f).next).setNext f (some p)).setPrev p (some f)).after q) =
      s.after q :=
    (after_setPrev ..).trans ((after_setNext_ne other' _).trans (after_setNext_ne other _))
  unfold listFrameLink
  dsimp only
  split <;> exact linked

theorem link_before (other : q ≠ p) : (listFrameLink s p f).before q = s.before q := by
  have linked :
      (((s.setNext p (s.frame f).next).setNext f (some p)).setPrev p (some f)).before q =
      s.before q :=
    (before_setPrev_ne other _).trans ((before_setNext ..).trans (before_setNext ..))
  unfold listFrameLink
  dsimp only
  split <;> exact linked

theorem link_listTail (bound : p < s.frames.length) (other : p ≠ f) :
    (listFrameLink s p f).listTail = if s.after f = none then some p else s.listTail := by
  have linked := link_after_self bound other
  unfold listFrameLink at linked ⊢
  dsimp only at linked ⊢
  split at linked
  · rename_i last
    rw [if_pos last, if_pos (linked ▸ last)]
  · rename_i last
    rw [if_neg last, if_neg (linked ▸ last)]
    rfl

/-! ### Out of the chain -/

theorem unlinkNext_after_self (bound : p < s.frames.length) :
    (unlinkNext s p).after p = s.after p := by
  unfold unlinkNext
  split
  · rename_i q _
    by_cases same : p = q
    · rw [← same]
      exact after_setNext_self bound _
    · exact after_setNext_ne same _
  · rfl

theorem unlinkNext_after_before (before : s.before p = some q) (bound : q < s.frames.length) :
    (unlinkNext s p).after q = s.after p := by
  unfold unlinkNext
  rw [show (s.frame p).prev = some q from before]
  exact after_setNext_self bound _

theorem unlinkNext_after (other : s.before p ≠ some q) : (unlinkNext s p).after q = s.after q := by
  unfold unlinkNext
  split
  · rename_i x at_p
    have ne : q ≠ x := by
      rintro rfl
      exact other at_p
    exact after_setNext_ne ne _
  · rfl

@[simp] theorem unlinkNext_before (s : Framebuffer) (p q : Nat) :
    (unlinkNext s p).before q = s.before q := by
  unfold unlinkNext
  split
  · exact before_setNext ..
  · rfl

@[simp] theorem unlinkNext_length (s : Framebuffer) (p : Nat) :
    (unlinkNext s p).frames.length = s.frames.length :=
  (Unmoved.unlinkNext s p).length

@[simp] theorem unlinkPrev_after (s : Framebuffer) (p q : Nat) :
    (unlinkPrev s p).after q = s.after q := by
  unfold unlinkPrev
  split
  · exact after_setPrev ..
  · rfl

theorem unlinkPrev_before_self (bound : p < s.frames.length) :
    (unlinkPrev s p).before p = s.before p := by
  unfold unlinkPrev
  split
  · rename_i q _
    by_cases same : p = q
    · rw [← same]
      exact before_setPrev_self bound _
    · exact before_setPrev_ne same _
  · rfl

theorem unlinkPrev_before_after (after : s.after p = some q) (bound : q < s.frames.length) :
    (unlinkPrev s p).before q = s.before p := by
  unfold unlinkPrev
  rw [show (s.frame p).next = some q from after]
  exact before_setPrev_self bound _

theorem unlinkPrev_before (other : s.after p ≠ some q) :
    (unlinkPrev s p).before q = s.before q := by
  unfold unlinkPrev
  split
  · rename_i x at_p
    have ne : q ≠ x := by
      rintro rfl
      exact other at_p
    exact before_setPrev_ne ne _
  · rfl

/-- Both ends of the chain change only where `p` is one of them. -/
theorem unlinkEnds_links (s : Framebuffer) (p q : Nat) :
    (unlinkHead (unlinkTail s p) p).after q = s.after q ∧
    (unlinkHead (unlinkTail s p) p).before q = s.before q := by
  unfold unlinkHead unlinkTail
  split <;> split <;> exact ⟨rfl, rfl⟩

theorem remove_after_before (before : s.before p = some q) (bound : q < s.frames.length) :
    (listFrameRemove s p).after q = s.after p :=
  (unlinkEnds_links ..).1.trans ((unlinkPrev_after ..).trans (unlinkNext_after_before before bound))

theorem remove_after (other : s.before p ≠ some q) : (listFrameRemove s p).after q = s.after q :=
  (unlinkEnds_links ..).1.trans ((unlinkPrev_after ..).trans (unlinkNext_after other))

theorem remove_before_after (bound : p < s.frames.length) (after : s.after p = some q)
    (bound' : q < s.frames.length) : (listFrameRemove s p).before q = s.before p := by
  refine (unlinkEnds_links ..).2.trans ?_
  refine (unlinkPrev_before_after ?_ ?_).trans (unlinkNext_before ..)
  · rw [unlinkNext_after_self bound, after]
  · rwa [unlinkNext_length]

theorem remove_before (bound : p < s.frames.length) (other : s.after p ≠ some q) :
    (listFrameRemove s p).before q = s.before q := by
  refine (unlinkEnds_links ..).2.trans ((unlinkPrev_before ?_).trans (unlinkNext_before ..))
  rwa [unlinkNext_after_self bound]

theorem remove_listHead_self (bound : p < s.frames.length) (head : s.listHead = some p) :
    (listFrameRemove s p).listHead = s.after p := by
  unfold listFrameRemove
  generalize before : unlinkPrev (unlinkNext s p) p = u
  have head' : (unlinkTail u p).listHead = some p := by simp [← before, head]
  have tail : (unlinkTail u p).after p = u.after p := by
    unfold unlinkTail
    split <;> rfl
  have after : u.after p = s.after p := by
    rw [← before, unlinkPrev_after, unlinkNext_after_self bound]
  unfold unlinkHead
  rw [if_pos head'.symm]
  exact tail.trans after

@[simp] theorem unlinkNext_listTail (s : Framebuffer) (p : Nat) :
    (unlinkNext s p).listTail = s.listTail := by
  unfold unlinkNext
  split <;> rfl

@[simp] theorem unlinkPrev_listTail (s : Framebuffer) (p : Nat) :
    (unlinkPrev s p).listTail = s.listTail := by
  unfold unlinkPrev
  split <;> rfl

theorem remove_listTail (bound : p < s.frames.length) :
    (listFrameRemove s p).listTail = if s.listTail = some p then s.before p else s.listTail := by
  unfold listFrameRemove
  generalize between : unlinkPrev (unlinkNext s p) p = u
  have tail : u.listTail = s.listTail := by simp [← between]
  have before : u.before p = s.before p := by
    rw [← between, unlinkPrev_before_self (by rwa [unlinkNext_length]), unlinkNext_before]
  have head : (unlinkHead (unlinkTail u p) p).listTail = (unlinkTail u p).listTail := by
    unfold unlinkHead
    split <;> rfl
  rw [head]
  unfold unlinkTail
  rw [tail, ← before]
  simp only [eq_comm (a := some p)]
  split
  · rfl
  · exact tail

/-! ### The chain -/

/-- The walk along the chain goes over the frames `xs`, from the head to the tail. -/
structure Threaded (s : Framebuffer) (xs : List Nat) : Prop where
  path : Path s.after s.listHead xs
  tail : s.listTail = xs.getLast?
  front : ∀ p, s.listHead = some p → s.before p = none

/-- The frames of the chain are those in use. -/
structure Chained (s : Framebuffer) (xs : List Nat) : Prop extends Threaded s xs where
  used : ∀ p, p ∈ xs ↔ s.status p ≠ .null

def Intact (s : Framebuffer) : Prop := ∃ xs, Chained s xs

/-- The frame is the head, or its back link names the frame in use that comes before it. -/
def Linked (s : Framebuffer) (p : Nat) : Prop :=
  s.listHead = some p ∨ ∃ q, s.before p = some q ∧ s.status q ≠ .null ∧ s.after q = some p

instance (s : Framebuffer) (p : Nat) : Decidable (Linked s p) :=
  inferInstanceAs (Decidable (s.listHead = some p ∨
    ∃ q ∈ s.before p, s.status q ≠ .null ∧ s.after q = some p))

namespace Threaded

theorem head (h : Threaded s xs) : s.listHead = xs.head? := h.path.head

/-- No link of the chain changes. -/
theorem same (h : Threaded s xs) (after : ∀ p ∈ xs, t.after p = s.after p)
    (before : ∀ p ∈ xs, t.before p = s.before p) (head : t.listHead = s.listHead)
    (tail : t.listTail = s.listTail) : Threaded t xs := by
  refine ⟨?_, by rw [tail, h.tail], fun p at_p => ?_⟩
  · rw [head]
    exact h.path.congr after
  · rw [head] at at_p
    rw [before p (List.mem_of_mem_head? (h.head ▸ at_p)), h.front p at_p]

/-- A frame is put at the end of the chain. -/
theorem append (h : Threaded s xs) (bounds : ∀ q ∈ xs, q < s.frames.length) (free : p ∉ xs)
    (last : s.after p = none) (first : s.before p = none) :
    Threaded (listFrameInsert (listFrameAppend s p) p) (xs ++ [p]) := by
  rcases List.eq_nil_or_concat xs with rfl | ⟨init, x, rfl⟩
  · have head : s.listHead = none := h.head
    have tail : s.listTail = none := h.tail
    have head' := insert_listHead_none (p := p) ((append_listHead s p).trans head)
    refine ⟨⟨head', ?_⟩, by simp, fun q at_q => ?_⟩
    · rw [insert_after, append_after (by simp [tail])]
      exact last
    · obtain rfl : p = q := Option.some.inj (head'.symm.trans at_q)
      rw [insert_before, append_before (.inl tail), first]
  · rw [List.concat_eq_append] at *
    have tail : s.listTail = some x := by simpa using h.tail
    have nodup := h.path.nodup
    have mem : x ∈ init ++ [x] := by simp
    have head : ∃ y ∈ init ++ [x], s.listHead = some y := by
      rcases init with _ | ⟨y, init⟩
      · exact ⟨x, mem, h.head⟩
      · exact ⟨y, by simp, h.head⟩
    obtain ⟨y, mem_y, at_y⟩ := head
    have head' := insert_listHead (p := p) ((append_listHead s p).trans at_y)
    refine ⟨?_, by simp, fun q at_q => ?_⟩
    · rw [head', ← at_y]
      rw [List.append_assoc]
      refine h.path.insert ?_ ?_ fun z mem_z => ?_
      · rw [insert_after, append_after_tail tail (bounds x mem)]
      · rw [insert_after, append_after, last]
        · exact (h.path.next_last (by simp)).symm
        · rw [tail]
          rintro ⟨⟩
          exact free mem
      · rw [insert_after, append_after]
        rw [tail]
        rintro ⟨⟩
        simp only [List.append_nil] at mem_z
        exact (List.nodup_append.mp nodup).2.2 x mem_z x (by simp) rfl
    · obtain rfl : y = q := Option.some.inj (head'.symm.trans at_q)
      rw [insert_before, append_before, h.front y at_y]
      exact .inr fun same => free (same ▸ mem_y)

/-- A frame is put behind another one. -/
theorem link (h : Threaded s (xs ++ f :: ys)) (bounds : ∀ q ∈ xs ++ f :: ys, q < s.frames.length)
    (free : p ∉ xs ++ f :: ys) (bound : p < s.frames.length) :
    Threaded (listFrameLink s p f) (xs ++ f :: p :: ys) := by
  have nodup := h.path.nodup
  have other : p ≠ f := fun same => free (by simp [same])
  have follows : s.after f = ys.head? := h.path.after.head
  refine ⟨?_, ?_, fun q at_q => ?_⟩
  · rw [link_listHead]
    refine h.path.insert (link_after_original (bounds f (by simp))) (link_after_self bound other)
      fun q mem => link_after ?_ ?_
    · rintro rfl
      rw [List.mem_append] at mem
      exact free (by rcases mem with mem | mem <;> simp [mem])
    · rintro rfl
      simp only [List.nodup_append, List.nodup_cons, List.mem_append, List.mem_cons] at nodup mem
      rcases mem with mem | mem
      · exact nodup.2.2 q mem q (.inl rfl) rfl
      · exact nodup.2.1.1 mem
  · rw [link_listTail bound other, follows, h.tail]
    cases ys <;> simp
  · rw [link_listHead] at at_q
    rw [link_before, h.front q at_q]
    rintro rfl
    exact free (List.mem_of_mem_head? (h.head ▸ at_q))

/-- The head is taken out. -/
theorem remove_head (h : Threaded s (p :: xs)) (bounds : ∀ q ∈ p :: xs, q < s.frames.length) :
    Threaded (listFrameRemove s p) xs := by
  have bound := bounds p (by simp)
  have head : s.listHead = some p := h.head
  have first := h.front p head
  have after (q : Nat) : (listFrameRemove s p).after q = s.after q := remove_after (by simp [first])
  have head' := remove_listHead_self bound head
  refine ⟨?_, ?_, fun q at_q => ?_⟩
  · rw [head']
    exact h.path.2.congr fun q _ => after q
  · rw [remove_listTail bound, first, h.tail]
    cases xs with
    | nil => simp
    | cons x xs =>
      have ne : (p :: x :: xs).getLast? ≠ some p := fun last =>
        (List.nodup_cons.mp h.path.nodup).1 (List.mem_of_getLast? (by simpa using last))
      rw [if_neg ne, List.getLast?_cons_cons]
  · rw [head'] at at_q
    have rest : Path s.after (s.after p) xs := h.path.2
    have mem : q ∈ xs := List.mem_of_mem_head? (rest.head ▸ at_q)
    rw [remove_before_after bound at_q (bounds q (by simp [mem])), first]

/-- A frame is taken out whose back link names the one before it. -/
theorem remove_linked (h : Threaded s (xs ++ q :: p :: ys))
    (bounds : ∀ r ∈ xs ++ q :: p :: ys, r < s.frames.length) (linked : s.before p = some q) :
    Threaded (listFrameRemove s p) (xs ++ q :: ys) := by
  have bound := bounds p (by simp)
  have follows : s.after p = ys.head? := (List.append_cons xs q _ ▸ h.path).after.head
  have nodup := h.path.nodup
  have notin : p ∉ xs ++ [q] := by
    rw [List.append_cons] at nodup
    exact fun mem => (List.nodup_append.mp nodup).2.2 p mem p (by simp) rfl
  have apart (r : Nat) (mem : r ∈ xs ++ [q]) : r ∉ ys := by
    rw [List.append_cons] at nodup
    exact fun mem' => (List.nodup_append.mp nodup).2.2 r mem r (by simp [mem']) rfl
  have notin' : p ∉ ys := by
    rw [List.append_cons] at nodup
    exact (List.nodup_cons.mp (List.nodup_append.mp nodup).2.1).1
  have first (r : Nat) (head : s.listHead = some r) : r ∈ xs ++ [q] := by
    rw [h.head, List.append_cons, List.head?_append] at head
    exact List.mem_of_mem_head? (by simpa using head)
  have head' : (listFrameRemove s p).listHead = s.listHead :=
    remove_listHead fun head => notin (first p head)
  refine ⟨?_, ?_, fun r at_r => ?_⟩
  · rw [head']
    refine h.path.leave_out (remove_after_before linked (bounds q (by simp))) fun r mem =>
      remove_after ?_
    rw [linked]
    rintro ⟨⟩
    rw [List.mem_append] at mem
    rcases mem with mem | mem
    · exact (List.nodup_append.mp nodup).2.2 q mem q (by simp) rfl
    · exact apart q (by simp) mem
  · rw [remove_listTail bound, h.tail]
    cases ys with
    | nil => simp [linked]
    | cons y ys =>
      have last (zs : List Nat) : (zs ++ y :: ys).getLast? = (y :: ys).getLast? :=
        List.getLast?_append_of_ne_nil zs (by simp)
      rw [List.append_cons xs, List.append_cons (xs ++ [q]), last,
        if_neg fun same => notin' (List.mem_of_getLast? same), List.append_cons, last]
  · rw [head'] at at_r
    have mem := first r at_r
    rw [remove_before bound, h.front r at_r]
    rw [follows]
    exact fun head => apart r mem (List.mem_of_mem_head? head)

end Threaded

/-! ### The operations on the chain -/

def Framebuffer.idOf (s : Framebuffer) (p : Nat) : Nat := (s.frame p).id

theorem Framebuffer.Recounted.idOf_self {g : Frame → Frame} {d : Nat} (h : s.Recounted t p g d) :
    t.idOf p = (g (s.frame p).content).id := by
  rw [idOf, ← content_id, content_of_modify h.contents h.bound]

theorem Framebuffer.Recounted.idOf_ne {g : Frame → Frame} {d : Nat} (h : s.Recounted t p g d)
    (other : q ≠ p) : t.idOf q = s.idOf q := by
  rw [idOf, ← content_id, content_of_modify_ne h.contents other, content_id, idOf]

namespace Chained

theorem bound (h : Chained s xs) : ∀ p ∈ xs, p < s.frames.length :=
  fun p mem => lt_of_status ((h.used p).mp mem)

theorem not_mem (h : Chained s xs) (free : s.status p = .null) : p ∉ xs :=
  fun mem => (h.used p).mp mem free

/-- A frame in use goes from one status to another. -/
theorem restated {status : TCFrameStatus} (h : Chained s xs) (moved : s.Restated t p status)
    (used : s.status p ≠ .null) (used' : status ≠ .null) : Chained t xs := by
  refine ⟨h.toThreaded.same (fun q _ => moved.after q) (fun q _ => moved.before q) moved.listHead
    moved.listTail, fun q => ?_⟩
  rw [h.used]
  by_cases at_q : q = p
  · rw [at_q, moved.status_self]
    exact iff_of_true used used'
  · rw [moved.status_ne at_q]

/-- Only attributes change. -/
theorem modify (h : Chained s xs) (p : Nat) (a : Attributes → Attributes) :
    Chained (s.modify p fun f => { f with attributes := a f.attributes }) xs := by
  have same {α : Type} (read : Frame → α) (blind : ∀ f : Frame, ∀ b,
      read { f with attributes := b } = read f) (q : Nat) :
      read ((s.modify p fun f => { f with attributes := a f.attributes }).frame q) =
        read (s.frame q) :=
    frame_modify_same read (fun f => blind f _) q
  refine ⟨h.toThreaded.same (fun q _ => same Frame.next (fun _ _ => rfl) q)
    (fun q _ => same Frame.prev (fun _ _ => rfl) q) rfl rfl, fun q => ?_⟩
  rw [h.used, status, status, same Frame.status fun _ _ => rfl]

theorem markClone (h : Chained s xs) (p q : Nat) : Chained (markClone s p q) xs :=
  ((h.modify q ({ · with isCloned := false })).modify p ({ · with isCloned := false })).modify q
    ({ · with wasCloned := true })

theorem register (h : Chained s xs) (ring : s.Ring) (bound : p < s.last) (lt : m < s.last)
    (free : s.status p = .null) (id : Nat) :
    Chained (listFrameInsert (listFrameAppend (s.registered p m id) p) p) (xs ++ [p]) := by
  have moved := register_recounted ring bound lt free id
  have notin := h.not_mem free
  have blank : (s.registered p m id).frame p = { id, status := .empty } :=
    frame_modify_self (by rw [← ring.last]; exact bound)
  have others (q : Nat) (mem : q ∈ xs) : (s.registered p m id).frame q = s.frame q :=
    frame_modify_ne fun same => notin (same ▸ mem)
  have threaded : Threaded (s.registered p m id) xs :=
    h.toThreaded.same (fun q mem => by rw [after, others q mem, after])
      (fun q mem => by rw [before, others q mem, before]) rfl rfl
  refine ⟨threaded.append (fun q mem => ?_) notin ?_ ?_, fun q => ?_⟩
  · rw [Framebuffer.registered, modify_length]
    exact h.bound q mem
  · rw [after, blank]
  · rw [before, blank]
  · rw [List.mem_append, h.used, List.mem_singleton]
    by_cases at_q : q = p
    · simp [at_q, moved.status_self]
    · simp [moved.status_ne at_q, at_q]

theorem clone (h : Chained s (xs ++ f :: ys)) (ring : s.Ring) (bound : p < s.last) (lt : m < s.last)
    (free : s.status p = .null) (locked : s.status f = .locked) :
    Chained (listFrameLink (frameCopy (s.claimed p m) p f) p f) (xs ++ f :: p :: ys) := by
  have moved := dup_recounted ring bound lt free locked
  have notin := h.not_mem free
  have other : f ≠ p := fun same => notin (by simp [same])
  have bound' : p < s.frames.length := by rw [← ring.last]; exact bound
  rw [copied_eq f m other] at moved ⊢
  have others (q : Nat) (mem : q ∈ xs ++ f :: ys) : (Framebuffer.modify
      { s with null := s.null - 1, next := m, wait := s.wait + 1 } p fun _ => s.frame f).frame q =
        s.frame q :=
    frame_modify_ne fun same => notin (same ▸ mem)
  have threaded := h.toThreaded.same
    (t := Framebuffer.modify { s with null := s.null - 1, next := m, wait := s.wait + 1 } p
      fun _ => s.frame f)
    (fun q mem => by rw [after, others q mem, after])
    (fun q mem => by rw [before, others q mem, before]) rfl rfl
  refine ⟨threaded.link (fun q mem => ?_) notin ?_, fun q => ?_⟩
  · rw [modify_length]
    exact h.bound q mem
  · rwa [modify_length]
  · have before := h.used q
    by_cases at_q : q = p
    · rw [at_q, moved.status_self, content_status, ← Framebuffer.status, locked]
      simp
    · rw [moved.status_ne at_q, ← before]
      simp [at_q]

theorem remove (h : Chained s xs) (taken : s.status p = .locked ∨ s.status p = .ready)
    (linked : Linked s p) : Chained (frameRemove s p) (xs.erase p) := by
  have moved := remove_recounted taken
  have restated := removeFrame_restated (s := listFrameRemove s p) (p := p)
    (by rwa [(Unmoved.remove s p).status])
  have threaded : Threaded (listFrameRemove s p) (xs.erase p) := by
    rcases linked with head | ⟨q, before, used, after⟩
    · rw [h.head] at head
      obtain ⟨rest, rfl⟩ := List.head?_eq_some_iff.mp head
      rw [List.erase_cons_head]
      exact h.toThreaded.remove_head h.bound
    · obtain ⟨pre, post, rfl⟩ := h.path.split_of_next ((h.used q).mpr used) after
      have nodup := h.path.nodup
      rw [List.append_cons] at nodup
      have notin : p ∉ pre ++ [q] := fun mem =>
        (List.nodup_append.mp nodup).2.2 p mem p (by simp) rfl
      rw [List.append_cons, List.erase_append_right _ notin, List.erase_cons_head,
        ← List.append_cons]
      exact h.toThreaded.remove_linked h.bound before
  refine ⟨threaded.same (fun q _ => restated.after q) (fun q _ => restated.before q)
    restated.listHead restated.listTail, fun q => ?_⟩
  rw [h.path.nodup.mem_erase_iff, h.used]
  by_cases at_q : q = p
  · simp [at_q, frameRemove, restated.status_self]
  · simp [at_q, moved.status_ne at_q]

/-- Where a frame is taken out that is not linked, the walk still finds it. -/
theorem linked_of_remove (h : Chained s xs) (taken : s.status p = .locked ∨ s.status p = .ready)
    (intact : Intact (frameRemove s p)) : Linked s p := by
  have moved := remove_recounted taken
  have restated := removeFrame_restated (s := listFrameRemove s p) (p := p)
    (by rwa [(Unmoved.remove s p).status])
  have mem : p ∈ xs := (h.used p).mpr (by rcases taken with h | h <;> simp [h])
  rcases h.path.before mem with head | ⟨q, mem_q, after⟩
  · exact .inl head
  · by_contra unlinked
    have before : s.before p ≠ some q := fun before =>
      unlinked (.inr ⟨q, before, (h.used q).mp mem_q, after⟩)
    have other : q ≠ p := by
      rintro rfl
      obtain ⟨pre, post, rfl⟩ := h.path.split_of_next mem after
      have nodup := h.path.nodup
      simp [List.nodup_append] at nodup
    obtain ⟨ys, h'⟩ := intact
    have after' : (frameRemove s p).after q = some p :=
      (restated.after q).trans ((remove_after before).trans after)
    have mem_q' : q ∈ ys :=
      (h'.used q).mpr (by rw [moved.status_ne other]; exact (h.used q).mp mem_q)
    have mem' := h'.path.next_mem mem_q' after'
    exact (h'.used p).mp mem' moved.status_self

theorem length_le (h : Chained s xs) : xs.length ≤ s.frames.length := by
  have sub : xs ⊆ List.range s.frames.length := fun p mem => List.mem_range.mpr (h.bound p mem)
  simpa using (List.Nodup.subperm h.path.nodup sub).length_le

/-- A worker reserves the first frame of the chain that waits. -/
theorem reserve (h : Chained s xs) :
    frameReserve s = some (xs.find? fun p => s.status p = .wait,
      (xs.find? fun p => s.status p = .wait).elim s fun p => frameSetStatus s p .locked) := by
  rw [frameReserve, lookup_eq]
  have found : search s.after (fun p => decide (s.status p = .wait)) s.frames.length s.listHead =
      some (xs.find? fun p => s.status p = .wait) :=
    Path.search h.path h.length_le
  exact congrArg (Option.map _) found

/-- Flushing takes the ready frames from the head of the chain, up to the first one that is not
ready. -/
theorem flush {n : Nat} {ready : Nat → Bool} (h : Chained s xs) (enough : xs.length ≤ n)
    (is_ready : ∀ p ∈ xs, ready p = true ↔ s.status p = .ready) :
    Chained (flushFrames n s) (xs.dropWhile ready) := by
  induction xs generalizing s n with
  | nil =>
    have empty : frameRetrieveNowait s = none := by
      simp [frameRetrieveNowait, headReady, h.head]
    cases n with
    | zero => exact h
    | succ n =>
      rw [flushFrames, empty]
      exact h
  | cons p xs ih =>
    obtain ⟨n, rfl⟩ : ∃ m, n = m + 1 := ⟨n - 1, by simp at enough; omega⟩
    have head : s.listHead = some p := h.head
    rw [List.forall_mem_cons] at is_ready
    by_cases at_p : s.status p = .ready
    · have taken : frameRetrieveNowait s = some p := by
        simp [frameRetrieveNowait, headReady, head, at_p]
      have moved := remove_recounted (.inr at_p)
      have rest := h.remove (.inr at_p) (.inl head)
      rw [List.erase_cons_head] at rest
      rw [flushFrames, taken, List.dropWhile_cons_of_pos (is_ready.1.mpr at_p)]
      refine ih rest (by simpa using enough) fun q mem => ?_
      have other : q ≠ p := fun same => (List.nodup_cons.mp h.path.nodup).1 (same ▸ mem)
      rw [is_ready.2 q mem, moved.status_ne other]
    · have taken : frameRetrieveNowait s = none := by
        simp [frameRetrieveNowait, headReady, head, at_p]
      rw [flushFrames, taken, List.dropWhile_cons_of_neg (mt is_ready.1.mp at_p)]
      exact h

end Chained

end StudyProject.Transcode
