import StudyProject.Transcode.Intact

/-! A run in which no frame is cloned keeps the chain whole, whatever the workers drop: only the
link behind a clone leaves a back link as it was. -/

namespace StudyProject.Transcode

open StudyProject.Library StudyProject.Library.Machine Framebuffer

variable {cfg : Config} {xs : List Nat} {p : Nat}

section

variable {s t : Framebuffer}

/-- A frame in use that refers to another one is what the other's back link names. -/
def Backed (s : Framebuffer) : Prop :=
  ∀ p q, s.status q ≠ .null → s.after q = some p → s.before p = some q

namespace Backed

theorem same (h : Backed s) (after : ∀ q, t.after q = s.after q)
    (before : ∀ q, t.before q = s.before q)
    (used : ∀ q, t.status q ≠ .null → s.status q ≠ .null) : Backed t := by
  intro p q at_q refers
  rw [after] at refers
  rw [before]
  exact h p q (used q at_q) refers

theorem restated {status : TCFrameStatus} (h : Backed s) (moved : s.Restated t p status)
    (used : s.status p ≠ .null) : Backed t := by
  refine h.same moved.after moved.before fun q at_q => ?_
  by_cases same : q = p
  · rwa [same]
  · rwa [moved.status_ne same] at at_q

theorem setAttributes (h : Backed s) (p : Nat) (a : Attributes) : Backed (setAttributes s p a) :=
  h.same (frame_modify_same Frame.next (fun _ => rfl)) (frame_modify_same Frame.prev fun _ => rfl)
    fun q used => by rwa [(setAttributes_unmoved s p a).status] at used

/-- Every frame in use is linked. -/
theorem linked (h : Backed s) (chained : Chained s xs) (used : s.status p ≠ .null) :
    Linked s p := by
  rcases chained.path.before ((chained.used p).mpr used) with head | ⟨q, mem, after⟩
  · exact .inl head
  · have used' := (chained.used q).mp mem
    exact .inr ⟨q, h p q used' after, used', after⟩

/-- A frame is put behind the tail, and refers back to it. -/
theorem register {m : Nat} (h : Backed s) (chained : Chained s xs) (ring : s.Ring)
    (bound : p < s.last) (lt : m < s.last) (free : s.status p = .null) (id : Nat) :
    Backed (listFrameInsert (listFrameAppend (s.registered p m id) p) p) := by
  have moved := register_recounted ring bound lt free id
  have notin := chained.not_mem free
  have bound' : p < (s.registered p m id).frames.length := by
    rw [Framebuffer.registered, modify_length, ← ring.last]
    exact bound
  have blank : (s.registered p m id).frame p = { id, status := .empty } :=
    frame_modify_self (by rw [← ring.last]; exact bound)
  have others {q : Nat} (other : q ≠ p) : (s.registered p m id).frame q = s.frame q :=
    frame_modify_ne other
  intro r q used refers
  rw [insert_after] at refers
  rw [insert_before]
  by_cases tail : s.listTail = some q
  · have mem : q ∈ xs := List.mem_of_getLast? (chained.tail ▸ tail)
    have bound_q : q < (s.registered p m id).frames.length := by
      rw [Framebuffer.registered, modify_length]
      exact chained.bound q mem
    rw [append_after_tail (s := s.registered p m id) tail bound_q] at refers
    obtain rfl := Option.some.inj refers
    exact append_before_self (s := s.registered p m id) tail bound'
  · rw [append_after (s := s.registered p m id) tail] at refers
    by_cases same : q = p
    · subst same
      rw [after, blank] at refers
      simp at refers
    · rw [moved.status_ne same] at used
      rw [after, others same] at refers
      have mem := chained.path.next_mem ((chained.used q).mpr used) refers
      have other : r ≠ p := fun same => notin (same ▸ mem)
      rw [append_before (.inr other), before, others other]
      exact h r q used refers

/-- What referred to the frame that is taken out, and what that one referred to, now refer to each
other. -/
theorem remove (h : Backed s) (chained : Chained s xs)
    (taken : s.status p = .locked ∨ s.status p = .ready) : Backed (frameRemove s p) := by
  have moved := remove_recounted taken
  have restated := removeFrame_restated (s := listFrameRemove s p) (p := p)
    (by rwa [(Unmoved.remove s p).status])
  have used_p : s.status p ≠ .null := by rcases taken with h | h <;> simp [h]
  have bound := lt_of_status used_p
  intro r q used refers
  have other : q ≠ p := by
    rintro rfl
    exact used moved.status_self
  rw [moved.status_ne other] at used
  rw [show (frameRemove s p).after q = _ from restated.after q] at refers
  rw [show (frameRemove s p).before r = _ from restated.before r]
  by_cases before_p : s.before p = some q
  · rw [remove_after_before before_p (lt_of_status used)] at refers
    have mem := chained.path.next_mem ((chained.used p).mpr used_p) refers
    rw [remove_before_after bound refers (chained.bound r mem), before_p]
  · rw [remove_after before_p] at refers
    have back := h r q used refers
    rw [remove_before bound, back]
    intro after_p
    have same := (h r p used_p after_p).symm.trans back
    exact other (Option.some.inj same).symm

end Backed

end

/-- An effect keeps the back links, unless a frame is cloned. -/
theorem Effect.backed {s t : Pipeline} {r : Option Nat} (sound : Sound s) (h : Backed s.buffer)
    (chained : Chained s.buffer xs) (effect : Effect s t r)
    (uncloned : t.history.cloned = s.history.cloned) : Backed t.buffer := by
  obtain ⟨ring, owned, -⟩ := sound
  cases effect with
  | quiet buffer =>
    rw [buffer]
    exact h
  | starved m lt used buffer =>
    rw [buffer]
    exact h
  | registers p m bound lt free buffer =>
    rw [buffer]
    exact h.register chained ring bound lt free _
  | fills p a status pushed before buffer =>
    have unmoved := setAttributes_unmoved s.buffer p a
    have empty : s.buffer.status p = .empty := owned.stage_head before
    have filled : (setAttributes s.buffer p a).status p ≠ .null := by simp [unmoved.status, empty]
    have used : status ≠ .null := by rcases pushed with rfl | ⟨rfl, -⟩ <;> simp
    rw [buffer]
    exact (h.setAttributes p a).restated (pushNext_restated filled used) filled
  | marks th p a mem buffer =>
    rw [buffer]
    exact h.setAttributes p a
  | reserves n p buffer =>
    obtain ⟨waits, restated⟩ := reserve_some buffer
    exact h.restated restated (by simp [waits])
  | dups n p q m bound lt free before buffer holds history =>
    rw [history] at uncloned
    simp at uncloned
  | pushesClone n p q before buffer =>
    have locked := owned.stage (.worker n) q (by simp [before])
    have used : s.buffer.status q ≠ .null := by simp [locked, Thread.stage]
    rw [buffer]
    exact h.restated (pushNext_restated used (by simp)) used
  | pushes n p before buffer =>
    have used : s.buffer.status p ≠ .null := by simp [owned.stage_head before, Thread.stage]
    rw [buffer]
    exact h.restated (pushNext_restated used (by simp)) used
  | retrieves p a ps ready buffer =>
    rw [buffer]
    exact h.setAttributes p a
  | drops n p before buffer =>
    rw [buffer]
    exact h.remove chained (.inl (owned.stage_head before))
  | skips p before buffer =>
    rw [buffer]
    exact h.remove chained (.inr (owned.stage_head before))
  | exports p a before buffer =>
    have unmoved := setAttributes_unmoved s.buffer p a
    rw [buffer]
    exact (h.setAttributes p a).remove (chained.modify p fun _ => a)
      (.inr ((unmoved.status p).trans (owned.stage_head before)))

/-! ### Runs -/

section

variable {s t : Pipeline} {e : Event} {r : Option Nat}

/-- Clones are only added. -/
theorem Effect.cloned (effect : Effect s t r) : s.history.cloned <+: t.history.cloned := by
  have same (none : t.history.cloned = s.history.cloned) :
      s.history.cloned <+: t.history.cloned :=
    none ▸ List.prefix_refl _
  cases effect with
  | retrieves _ _ _ _ _ _ _ history =>
    rcases history with history | history <;> exact same (by rw [history])
  | quiet _ _ history | starved _ _ _ _ _ history | registers _ _ _ _ _ _ _ _ history
  | fills _ _ _ _ _ _ _ history | marks _ _ _ _ _ _ history | reserves _ _ _ _ _ history
  | pushesClone _ _ _ _ _ _ history | pushes _ _ _ _ _ history | drops _ _ _ _ _ history
  | skips _ _ _ _ history | exports _ _ _ _ _ history =>
    exact same (by rw [history])
  | dups n p q m bound lt free before buffer holds history =>
    rw [history]
    exact List.prefix_append ..

/-- A worker drops a frame that is locked. -/
theorem Effect.dropped_locked (owned : Owned s) (effect : Effect s t r) (dropped : r = some p) :
    s.buffer.status p = .locked := by
  cases effect with
  | drops n q before =>
    obtain rfl := Option.some.inj dropped
    exact owned.stage_head before
  | _ => simp at dropped

/-- Until a frame is cloned, the chain is whole in both directions. -/
structure BothWays (s : Pipeline) : Prop where
  sound : Sound s
  intact : s.history.cloned = [] → Intact s.buffer
  backed : s.history.cloned = [] → Backed s.buffer

theorem both_ways_step (h : BothWays s) (stepped : step cfg s e = some t) : BothWays t := by
  have effect := step_effect h.sound.ring stepped
  have kept (uncloned : t.history.cloned = []) : Intact t.buffer ∧ Backed t.buffer := by
    have before : s.history.cloned = [] := List.prefix_nil.mp (uncloned ▸ effect.cloned)
    have backed := h.backed before
    obtain ⟨xs, chained⟩ := h.intact before
    obtain ⟨ys, chained', -⟩ := effect.chained h.sound chained fun p dropped =>
      backed.linked chained (by simp [effect.dropped_locked h.sound.owned dropped])
    exact ⟨⟨ys, chained'⟩, effect.backed h.sound backed chained (uncloned.trans before.symm)⟩
  exact ⟨sound_step h.sound stepped, fun uncloned => (kept uncloned).1,
    fun uncloned => (kept uncloned).2⟩

theorem both_ways_run (cfg : Config) (size workers : Nat) (es : List Event) :
    BothWays (final (step cfg) (start size workers) es) := by
  refine invariant (fun _ _ _ => both_ways_step)
    ⟨sound_start size workers, fun _ => ?_, fun _ => ?_⟩ es
  · exact ⟨[], chained_start size workers⟩
  · intro p q used
    exact absurd (allocated_status size q) used

end

/-- In every run in which no frame is cloned, the chain is intact in each state, whatever the
workers drop. -/
theorem uncloned_intact (cfg : Config) (size workers : Nat) (es : List Event)
    (uncloned : (final (step cfg) (start size workers) es).history.cloned = []) :
    ∀ s ∈ states (step cfg) (start size workers) es, Intact s.buffer := by
  intro s mem
  obtain ⟨es₁, es₂, rfl, rfl⟩ := states_prefix mem
  have both := both_ways_run cfg size workers es₁
  refine both.intact ?_
  -- what is cloned at the end of the first part, is so at the end of the run
  have later : (final (step cfg) (start size workers) es₁).history.cloned <+:
      (final (step cfg) (start size workers) (es₁ ++ es₂)).history.cloned := by
    rw [final_append]
    refine (invariant (I := fun t => Sound t ∧
      (final (step cfg) (start size workers) es₁).history.cloned <+: t.history.cloned)
      (fun t e u h stepped => ?_) ⟨both.sound, List.prefix_rfl⟩ es₂).2
    exact ⟨sound_step h.1 stepped, h.2.trans (step_effect h.1.ring stepped).cloned⟩
  exact List.prefix_nil.mp (uncloned ▸ later)

theorem uncloned_intact_skipFirst : Intact (final (step video) (start 2 1) skipFirst).buffer :=
  uncloned_intact video 2 1 skipFirst (by decide) _ (final_mem_states ..)

end StudyProject.Transcode
