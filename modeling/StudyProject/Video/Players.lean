import StudyProject.Video.Lifecycle

/-! The activity's players.  `playVideo` makes or resets one player and then puts what
`MediaPlayer.create` returns into the field, another player or null, so each time it comes to that
call it leaves a player that nothing can release.  Everything else keeps the players in order. -/

namespace StudyProject.Video

open StudyProject.Library StudyProject.Library.Objects StudyProject.Library.Handler

variable {s t : World} {i : Input} {env : Env} {r : EStateM.Result Throwable World Unit}

theorem completed_of_ended (completed : (ended r).crash = none) : ended r = state r := by
  cases r with
  | ok => rfl
  | error => simp [ended] at completed

/-! ### The player in the field -/

/-- The player in the field, if any, is prepared and not released, and while `isPlay` is set there
is a file to play. -/
structure World.PlayerInv (s : World) : Prop where
  held : ∀ p, s.mediaPlayer = some p →
    ∃ x : MediaPlayer, s.players[p]? = some x ∧ x.Alive ∧ x.prepared = true
  file : s.isPlay = true → s.fileName.isSome = true

namespace World.PlayerInv

theorem canStop (h : s.PlayerInv) : s.canStopPlayer = true := by
  unfold World.canStopPlayer
  cases field : s.mediaPlayer with
  | none => rfl
  | some p =>
    obtain ⟨x, at_p, -, prepared⟩ := h.held p field
    simp [at_p, prepared]

theorem playerStarted (h : s.PlayerInv) (q : Option Nat) :
    { s with players := update q MediaPlayer.start s.players }.PlayerInv := by
  refine ⟨fun p field => ?_, h.file⟩
  obtain ⟨x, at_p, alive, prepared⟩ := h.held p field
  rcases update_getElem? at_p q MediaPlayer.start with ⟨y, at_y, rfl | rfl⟩
  · exact ⟨y, at_y, alive, prepared⟩
  · exact ⟨x.start, at_y, alive, prepared⟩

theorem bounds (env : Env) : Bounds (Keeps World.PlayerInv) env where
  assign _ _ _ _ _ _ _ h := ⟨h.held, h.file⟩
  review _ _ h := ⟨h.held, fun play => by simp at play⟩
  delivered _ _ h := ⟨h.held, h.file⟩
  playerStarted _ q h := h.playerStarted q
  playerReleased _ h := ⟨fun p field => by simp [World.playerReleased] at field, h.file⟩
  released _ h := ⟨h.held, h.file⟩
  opening _ _ _ opening h := by
    cases opening with
    | busy => exact h
    | threw => exact ⟨h.held, h.file⟩
    | opened => exact ⟨h.held, h.file⟩

/-- The player that `playVideo` creates is prepared. -/
theorem played {f : String} (file : s.fileName = some f) : s.played.PlayerInv := by
  refine ⟨fun p field => ?_, fun _ => by rw [World.played, file]; rfl⟩
  obtain rfl : s.resetPlayers.length = p := Option.some.inj field
  exact ⟨{ prepared := true }, by simp [World.played], rfl, rfl⟩

/-- A video that plays already has a file. -/
theorem playing (h : s.PlayerInv) (play : s.isPlay = true) (playing : Playing env s r) :
    (state r).PlayerInv := by
  cases playing with
  | played file => exact played file
  | noFile file =>
    have some_file := h.file play
    simp [file] at some_file
  | null file =>
    exact ⟨fun p field => by simp [World.uncreated] at field,
      fun _ => by rw [state_error, World.uncreated, file]; rfl⟩

theorem step (h : s.PlayerInv) (stepped : Video.step s i = some t) (completed : t.crash = none) :
    t.PlayerInv := by
  cases step_outcome stepped with
  | lifecycle lifecycle =>
    rw [completed_of_ended completed]
    exact (bounds i.env).handle lifecycle (fun _ => .modify fun _ h => ⟨h.held, h.file⟩)
      (fun _ _ _ play playing h => h.playing play playing) s h
  | recording => exact h
  | press event idle press =>
    cases press with
    | noCamera => exact ⟨h.held, h.file⟩
    | failed => exact ⟨h.held, fun _ => rfl⟩
    | started => exact ⟨h.held, fun _ => rfl⟩
    | refused => simp [ended] at completed
    | threw => simp [ended] at completed
  | stop queue stops stop =>
    cases stop with
    | played slow file =>
      have h' := played (s := ({ s with queue }.stopped i.env).released) file
      exact ⟨h'.held, h'.file⟩
    | noFile => simp [ended] at completed
    | null => simp [ended] at completed
    | pictured => exact ⟨h.held, h.file⟩
    | noCamera => simp [ended] at completed
    | refused => simp [ended] at completed
  | tick => exact ⟨h.held, h.file⟩
  | progress => exact ⟨h.held, h.file⟩

end World.PlayerInv

theorem playerInv_keeps (s : World) (i : Input) (t : World)
    (h : s.crash = none → s.PlayerInv) (stepped : step s i = some t) :
    t.crash = none → t.PlayerInv :=
  (h (step_eq stepped).1).step stepped

theorem initView_playerInv (cameraCount : Nat) (progress : CustomProgress) :
    (initView cameraCount progress).PlayerInv :=
  ⟨fun p field => by simp [initView] at field, fun play => by simp [initView] at play⟩

/-! ### Owned players -/

/-- Every player that is not released is the one in the field, so there is at most one, and while
`isPlay` is false there is none. -/
structure World.PlayersOwned (s : World) : Prop where
  field : ∀ (p : Nat) (x : MediaPlayer), s.players[p]? = some x → x.Alive → s.mediaPlayer = some p
  unique : ∀ (p q : Nat) (x y : MediaPlayer),
    s.players[p]? = some x → x.Alive → s.players[q]? = some y → y.Alive → p = q
  silent : s.isPlay = false → ∀ x ∈ s.players, ¬x.Alive

/-- The step runs `playVideo` up to its call of `MediaPlayer.create`. -/
def World.Plays (s : World) (i : Input) : Prop :=
  s.fileName.isSome = true ∧
    (s.stops i.event = true ∧ 1000 ≤ i.env.now - s.time ∨
      i.event = .onResume ∧ s.isPause = true ∧ s.isPlay = true)

/-- The players are owned, and the one in the field is not released. -/
structure World.PlayersSole (s : World) : Prop where
  sole : Sole MediaPlayer.Alive s.players s.mediaPlayer
  silent : s.isPlay = false → ∀ x ∈ s.players, ¬x.Alive

theorem MediaPlayer.start_alive (x : MediaPlayer) : x.start.Alive ↔ x.Alive := Iff.rfl

theorem MediaPlayer.start_dead (x : MediaPlayer) (dead : ¬x.Alive) : ¬x.start.Alive := dead

theorem MediaPlayer.reset_alive (x : MediaPlayer) : x.reset.Alive ↔ x.Alive := Iff.rfl

theorem MediaPlayer.release_dead (x : MediaPlayer) : ¬x.reset.release.Alive := by
  simp [MediaPlayer.release, MediaPlayer.Alive]

namespace World.PlayersSole

theorem owned (h : s.PlayersSole) : s.PlayersOwned :=
  ⟨h.sole.only, fun _ _ _ _ at_p alive_x at_q alive_y => h.sole.unique at_p alive_x at_q alive_y,
    h.silent⟩

theorem of_owned (owned : s.PlayersOwned) (inv : s.PlayerInv) : s.PlayersSole := by
  refine ⟨⟨fun p field => ?_, owned.field⟩, owned.silent⟩
  obtain ⟨x, at_p, alive, -⟩ := inv.held p field
  exact ⟨x, at_p, alive⟩

theorem none_alive (h : s.PlayersSole) (field : s.mediaPlayer = none) :
    ∀ x ∈ s.players, ¬x.Alive := by
  intro x mem
  obtain ⟨p, at_p⟩ := List.mem_iff_getElem?.mp mem
  exact (field ▸ h.sole).none_live at_p

theorem released (h : s.PlayersSole) : s.playerReleased.PlayersSole := by
  have sole : Sole MediaPlayer.Alive s.playerReleased.players none :=
    h.sole.retire MediaPlayer.release_dead
  refine ⟨sole, fun _ x mem => ?_⟩
  obtain ⟨p, at_p⟩ := List.mem_iff_getElem?.mp mem
  exact sole.none_live at_p

theorem opening {spacing : CameraFacing} (h : s.PlayersSole) (opening : Opening env spacing s r) :
    (state r).PlayersSole := by
  cases opening with
  | busy => exact h
  | threw => exact ⟨h.sole, h.silent⟩
  | opened => exact ⟨h.sole, h.silent⟩

theorem bounds (env : Env) : Bounds (Keeps World.PlayersSole) env where
  assign _ _ _ _ _ _ _ h := ⟨h.sole, h.silent⟩
  review s released h := by
    refine ⟨h.sole, fun _ => ?_⟩
    cases play : s.isPlay with
    | true => exact h.none_alive (released play)
    | false => exact h.silent play
  delivered _ _ h := ⟨h.sole, h.silent⟩
  playerStarted _ q h :=
    ⟨h.sole.update MediaPlayer.start_alive q,
      fun play => forall_mem_update (h.silent play) MediaPlayer.start_dead q⟩
  playerReleased _ h := h.released
  released _ h := ⟨h.sole, h.silent⟩
  opening _ _ _ opening h := h.opening opening

/-- After the first half of `playVideo` there is one player, in the field. -/
theorem reset (h : s.PlayersSole) :
    Sole MediaPlayer.Alive s.resetPlayers (some (s.mediaPlayer.getD s.players.length)) := by
  have sole := h.sole
  unfold World.resetPlayers
  cases field : s.mediaPlayer with
  | none =>
    rw [field] at sole
    exact sole.alloc rfl
  | some p =>
    rw [field] at sole
    exact sole.update MediaPlayer.reset_alive (some p)

/-- After the second half there are two, and the first is lost. -/
theorem played (h : s.PlayersSole) : ¬s.played.PlayersOwned :=
  fun owned => h.reset.not_only_realloc rfl owned.field

/-- A player that the field forgets for null is lost as well. -/
theorem uncreated (h : s.PlayersSole) : ¬s.uncreated.PlayersOwned := by
  intro owned
  obtain ⟨x, at_p, alive⟩ := h.reset.held _ rfl
  have field : none = some (s.mediaPlayer.getD s.players.length) := owned.field _ x at_p alive
  simp at field

theorem ended (h : (state r).PlayersSole) : (Video.ended r).PlayersOwned := by
  rw [ended_eq]
  exact ⟨h.owned.field, h.owned.unique, h.owned.silent⟩

/-- Without a file `playVideo` keeps the player it found or made in the field. -/
theorem unplayed (h : s.PlayersSole) : s.unplayed.PlayersSole :=
  ⟨h.reset, fun play => by simp [World.unplayed] at play⟩

theorem playing_iff (h : s.PlayersSole) (playing : Playing env s r) :
    (Video.ended r).PlayersOwned ↔ ¬s.fileName.isSome = true := by
  cases playing with
  | played file =>
    rw [file]
    exact iff_of_false h.played (by simp)
  | noFile file =>
    rw [file]
    exact iff_of_true (ended h.unplayed) (by simp)
  | null file =>
    rw [file]
    refine iff_of_false (fun owned => h.uncreated ?_) (by simp)
    exact ⟨owned.field, owned.unique, owned.silent⟩

/-- `onResume` keeps the players owned unless it plays the video. -/
theorem onResume_iff (h : s.PlayersSole) :
    (Video.ended ((onResume env).run s)).PlayersOwned ↔
      ¬(s.fileName.isSome = true ∧ s.isPause = true ∧ s.isPlay = true) := by
  have h' : { s with isPause := false }.PlayersSole := ⟨h.sole, h.silent⟩
  cases pause : s.isPause with
  | false =>
    rw [onResume_idle pause]
    exact iff_of_true h.owned (by simp)
  | true =>
    cases play : s.isPlay with
    | false =>
      rw [onResume_open pause play]
      apply iff_of_true
      · apply ended
        split
        · exact h'.opening (openVideo_opening env _ _)
        · exact h'
      · simp
    | true =>
      rw [onResume_play pause play]
      exact (h'.playing_iff (playVideo_playing env _)).trans (by simp)

theorem stop_iff (h : s.PlayersSole) (stop : Stop env s r) :
    (Video.ended r).PlayersOwned ↔
      ¬(s.fileName.isSome = true ∧ 1000 ≤ env.now - s.time) := by
  have kept : s.PlayersOwned := h.owned
  cases stop with
  | played slow file =>
    have h' : (s.stopped env).released.PlayersSole := ⟨h.sole, h.silent⟩
    apply iff_of_false
    · intro owned
      exact h'.played ⟨owned.field, owned.unique, owned.silent⟩
    · intro fast
      apply fast
      exact ⟨by rw [file]; rfl, by omega⟩
  | noFile slow file =>
    have h' : (s.stopped env).released.PlayersSole := ⟨h.sole, h.silent⟩
    exact iff_of_true (ended h'.unplayed) (by simp [file])
  | null slow file =>
    have h' : (s.stopped env).released.PlayersSole := ⟨h.sole, h.silent⟩
    apply iff_of_false
    · intro owned
      exact h'.uncreated ⟨owned.field, owned.unique, owned.silent⟩
    · intro fast
      apply fast
      exact ⟨by rw [file]; rfl, by omega⟩
  | pictured quick => exact iff_of_true ⟨kept.field, kept.unique, kept.silent⟩ (by omega)
  | noCamera quick => exact iff_of_true ⟨kept.field, kept.unique, kept.silent⟩ (by omega)
  | refused quick => exact iff_of_true ⟨kept.field, kept.unique, kept.silent⟩ (by omega)

end World.PlayersSole

theorem not_plays_of_going (going : s.stops i.event = false) (other : i.event ≠ .onResume) :
    ¬s.Plays i := by
  rintro ⟨-, ⟨stops, -⟩ | ⟨resume, -⟩⟩
  · rw [going] at stops
    simp at stops
  · exact other resume

theorem step_owned_iff (inv : s.PlayerInv) (owned : s.PlayersOwned) (stepped : step s i = some t) :
    t.PlayersOwned ↔ ¬s.Plays i := by
  have h := World.PlayersSole.of_owned owned inv
  cases step_outcome stepped with
  | lifecycle lifecycle =>
    by_cases resume : i.event = .onResume
    · rw [resume]
      refine h.onResume_iff.trans (not_congr ?_)
      simp [World.Plays, resume, World.stops]
    · apply iff_of_true
      · apply World.PlayersSole.ended
        exact (World.PlayersSole.bounds i.env).handle lifecycle
          (fun _ => .modify fun _ h => ⟨h.sole, h.silent⟩) (fun on => absurd on resume) s h
      · exact not_plays_of_going (stops_of_lifecycle lifecycle s) resume
  | recording event =>
    exact iff_of_true owned (not_plays_of_going (by rw [event]; rfl) (by simp [event]))
  | press event idle press =>
    apply iff_of_true
    · apply World.PlayersSole.ended
      cases press <;> exact ⟨h.sole, h.silent⟩
    · exact not_plays_of_going (by rw [event]; rfl) (by simp [event])
  | stop queue stops stop =>
    have h' : { s with queue }.PlayersSole := ⟨h.sole, h.silent⟩
    refine (h'.stop_iff stop).trans (not_congr ?_)
    have other : i.event ≠ .onResume := by
      intro resume
      simp [resume, World.stops] at stops
    simp [World.Plays, stops, other]
  | tick n event =>
    exact iff_of_true ⟨owned.field, owned.unique, owned.silent⟩
      (not_plays_of_going (by rw [event]; rfl) (by simp [event]))
  | progress queue event going =>
    exact iff_of_true ⟨owned.field, owned.unique, owned.silent⟩
      (not_plays_of_going going (by simp [event]))

/-- The players are owned throughout a run exactly if no step of it comes to
`MediaPlayer.create`. -/
theorem players_owned_iff (cameraCount : Nat) (progress : CustomProgress) (run : List Input) :
    (∀ s ∈ Machine.states step (initView cameraCount progress) run, s.PlayersOwned) ↔
      ∀ x ∈ Machine.steps step (initView cameraCount progress) run, ¬x.before.Plays x.event :=
  Machine.always_iff playerInv_keeps
    (fun _ _ _ inv owned stepped => step_owned_iff (inv (step_eq stepped).1) owned stepped)
    (fun _ => initView_playerInv _ _) ⟨by simp [initView], by simp [initView], by simp [initView]⟩
    run

/-- After a recording of two seconds, two players are not released. -/
theorem players_lost_played :
    ¬∀ s ∈ Machine.states step (initView 2 (.initAttrs 78 78 1 {}))
        [⟨.surfaceCreated 0, {}⟩, ⟨.actionDown, {}⟩, ⟨.actionUp, { now := 2000 }⟩],
      s.PlayersOwned := by
  intro owned
  have last := owned _ (List.mem_of_getLast? (by rfl))
  have := last.unique 0 1 _ _ rfl rfl rfl rfl
  simp at this

end StudyProject.Video
