import StudyProject.Video.Steps

/-! The players that nothing releases, counted.  `playVideo` puts a second player into the field,
so each time it runs to its end one player more is left over, whatever happens later. -/

namespace StudyProject.Video

open StudyProject.Library StudyProject.Library.Objects

variable {s t : World} {i : Input}

instance (s : World) (i : Input) : Decidable (s.Plays i) :=
  inferInstanceAs (Decidable (_ ∧ (_ ∨ _)))

/-- The number of players that are not released. -/
def World.alivePlayers (s : World) : Nat := s.players.countP fun p => !p.released

/-- The number of players in the field, one or none. -/
def World.heldPlayers (s : World) : Nat := s.mediaPlayer.toList.length

/-- `n` players are not released besides the one in the field. -/
def World.Left (n : Nat) (s : World) : Prop := s.alivePlayers = n + s.heldPlayers

namespace World.Left

variable {n : Nat}

theorem reopened {env : Env} {spacing : CameraFacing} (h : s.Left n) :
    (s.reopened env spacing).Left n := by
  unfold World.reopened
  split
  · exact h
  · exact h

theorem released (h : s.Left n) (inv : s.PlayerInv) : s.playerReleased.Left n := by
  unfold World.Left World.alivePlayers World.heldPlayers World.playerReleased at *
  cases field : s.mediaPlayer with
  | none =>
    rw [field] at h
    exact h
  | some p =>
    obtain ⟨x, at_p, alive, -⟩ := inv.held p field
    have counted := countP_modify (p := fun p => !p.released) (f := fun p => p.reset.release) at_p
    have ended : x.reset.release.released = true := rfl
    have lives : x.released = false := alive
    rw [field] at h
    simp only [lives, ended, Bool.not_false, Bool.not_true, Bool.false_eq_true, ↓reduceIte]
      at counted
    simp only [update_some, Option.toList, List.length_cons, List.length_nil] at h ⊢
    omega

/-- `playVideo` leaves the player it found or made and holds a new one. -/
theorem played (h : s.Left n) : s.played.Left (n + 1) := by
  unfold World.Left World.alivePlayers World.heldPlayers World.played World.resetPlayers at *
  cases field : s.mediaPlayer with
  | none =>
    rw [field] at h
    simp only [List.countP_append, List.countP_singleton, Option.toList, List.length_cons,
      List.length_nil, Bool.not_false, ↓reduceIte] at h ⊢
    omega
  | some p =>
    have same := countP_modify_same (p := fun p : MediaPlayer => !p.released)
      (f := MediaPlayer.reset) (fun _ => rfl) s.players p
    rw [field] at h
    simp only [List.countP_append, List.countP_singleton, Option.toList, List.length_cons,
      List.length_nil, Bool.not_false, ↓reduceIte] at h ⊢
    omega

theorem done (h : s.Left n) (inv : s.PlayerInv) (done : Done s i t) :
    t.Left (n + if s.Plays i then 1 else 0) := by
  cases done with
  | idle event =>
    have quiet : ¬s.Plays i := by
      rcases event with event | event | ⟨event, pause⟩ | ⟨event, recording⟩
      · exact not_plays_of_going (by rw [event]; rfl) (by simp [event])
      · exact not_plays_of_going (by rw [event]; rfl) (by simp [event])
      · simp [World.Plays, event, World.stops, pause]
      · exact not_plays_of_going (by rw [event]; rfl) (by simp [event])
    rw [if_neg quiet]
    exact h
  | surfaceCreated holder event =>
    rw [if_neg (not_plays_of_going (by rw [event]; rfl) (by simp [event]))]
    have h' : World.Left n { s with mSurfaceHolder := some holder } := h
    exact h'.reopened
  | surfaceChanged holder event =>
    rw [if_neg (not_plays_of_going (by rw [event]; rfl) (by simp [event]))]
    exact h
  | surfaceDestroyed event =>
    rw [if_neg (not_plays_of_going (by rw [event]; rfl) (by simp [event]))]
    exact released (s := s.paused.released) h ⟨inv.held, inv.file⟩
  | resumed event pause quiet =>
    rw [if_neg (by simp [World.Plays, event, World.stops, quiet])]
    have h' : World.Left n { s with isPause := false } := h
    exact h'.reopened
  | replayed event pause play file =>
    rw [if_pos ⟨file, .inr ⟨event, pause, play⟩⟩]
    exact played (s := { s with isPause := false }) h
  | noCamera event =>
    rw [if_neg (not_plays_of_going (by rw [event]; rfl) (by simp [event]))]
    exact h
  | failed event =>
    rw [if_neg (not_plays_of_going (by rw [event]; rfl) (by simp [event]))]
    exact h
  | started event =>
    rw [if_neg (not_plays_of_going (by rw [event]; rfl) (by simp [event]))]
    exact h
  | played queue stops slow file =>
    rw [if_pos ⟨file, .inl ⟨stops, by omega⟩⟩]
    exact played (s := (World.stopped { s with queue } i.env).released) h
  | pictured queue stops quick =>
    have quiet : ¬s.Plays i := by
      rintro ⟨-, ⟨-, slow⟩ | ⟨event, -⟩⟩
      · omega
      · simp [event, World.stops] at stops
    rw [if_neg quiet]
    exact h
  | ticked n event =>
    rw [if_neg (not_plays_of_going (by rw [event]; rfl) (by simp [event]))]
    exact h
  | showed queue event going =>
    rw [if_neg (not_plays_of_going going (by simp [event]))]
    exact h
  | restarted event =>
    rw [if_neg (not_plays_of_going (by rw [event]; rfl) (by simp [event]))]
    have stopped : s.playerStopped.Left n := by
      unfold World.playerStopped
      split
      · exact h.released inv
      · exact h
    exact stopped
  | finished event =>
    rw [if_neg (not_plays_of_going (by rw [event]; rfl) (by simp [event]))]
    exact h
  | turned event =>
    rw [if_neg (not_plays_of_going (by rw [event]; rfl) (by simp [event]))]
    have h' : World.Left n
        (World.released { s with currentCameraSpacing := s.currentCameraSpacing.other }) := h
    exact h'.reopened
  | playerStarted p event =>
    have quiet : ¬s.Plays i := by
      rcases event with ⟨q, event⟩ | ⟨q, event⟩ <;>
        exact not_plays_of_going (by rw [event]; rfl) (by simp [event])
    rw [if_neg quiet]
    have same : World.alivePlayers { s with players := update p MediaPlayer.start s.players } =
        s.alivePlayers :=
      countP_update_same (f := MediaPlayer.start) (fun _ => rfl) s.players p
    exact same.trans h

end World.Left

/-- In a run without an exception one player is left over for each time `playVideo` ran to its
end, and the only other one that is not released is the one in the field. -/
theorem players_left_over (cameraCount : Nat) (progress : CustomProgress) (run : List Input)
    (completed : (Machine.final step (initView cameraCount progress) run).crash = none) :
    (Machine.final step (initView cameraCount progress) run).alivePlayers =
      (Machine.steps step (initView cameraCount progress) run).countP
          (fun x => decide (x.before.Plays x.event)) +
        (Machine.final step (initView cameraCount progress) run).heldPlayers := by
  have counted := Machine.counted
    (I := fun n (s : World) => s.Reached ∧ (s.crash = none → s.Left n))
    (C := fun x : Machine.Step World Input => x.after.crash = none)
    (p := fun x => decide (x.before.Plays x.event))
    (fun n s i t h stepped completed => ⟨h.1.step stepped, fun _ => by
      have running := (step_eq stepped).1
      simpa using (h.2 running).done (h.1.players running) (step_done h.1 stepped completed)⟩)
    (n := 0) ⟨initView_reached cameraCount progress, fun _ => rfl⟩ run (steps_completed completed)
  rw [Nat.zero_add] at counted
  exact counted.2 completed

/-- A video that plays, and plays again after the activity comes back, leaves two players over. -/
theorem players_left_over_twice :
    (Machine.final step (initView 2 (.initAttrs 78 78 1 {}))
        [⟨.surfaceCreated 0, {}⟩, ⟨.actionDown, {}⟩, ⟨.actionUp, { now := 2000 }⟩,
          ⟨.surfaceDestroyed, {}⟩, ⟨.onResume, {}⟩]).crash = none ∧
      (Machine.final step (initView 2 (.initAttrs 78 78 1 {}))
        [⟨.surfaceCreated 0, {}⟩, ⟨.actionDown, {}⟩, ⟨.actionUp, { now := 2000 }⟩,
          ⟨.surfaceDestroyed, {}⟩, ⟨.onResume, {}⟩]).alivePlayers = 2 + 1 :=
  ⟨rfl, players_left_over 2 (.initAttrs 78 78 1 {})
    [⟨.surfaceCreated 0, {}⟩, ⟨.actionDown, {}⟩, ⟨.actionUp, { now := 2000 }⟩,
      ⟨.surfaceDestroyed, {}⟩, ⟨.onResume, {}⟩] rfl⟩

end StudyProject.Video
