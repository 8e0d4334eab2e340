import WhRepeater.MediaWorker
import WhRepeater.Runs

/-! An operator's playback command lasts until the video opened for its path
reports its end. Of the worker's transitions two may still overwrite it: the
end of a live session, which is not checked against the mode, and the end of an
earlier video, which is not checked against the path. -/
namespace WhRepeater.PlaybackCommand
open Runs MediaPipeline

variable {β : Type}

/-- A system since the command, and whether a video opened for its path has
reported its end since. -/
structure Playback (β : Type) where
  system : MediaSystem β
  reported : Bool := false
  deriving Repr, DecidableEq

/-- Calls that supersede the command. -/
def Supersedes : MediaEvent β → Bool
  | .call (.select (some _)) | .call .stopFallbackVideo | .call (.playFallbackVideo _) => true
  | _ => false

/-- The event is the report that the video opened for the path has ended. -/
def reportsEnd (path : Bytes) (system : MediaSystem β) : MediaEvent β → Bool
  | .videoFinished => system.worker.fallbackVideoTranscoder.any fun video => video.path == path
  | _ => false

/-- A step after the command: anything but another command. -/
def step (path : Bytes) (playback : Playback β) (event : MediaEvent β) : Option (Playback β) :=
  if Supersedes event then none
  else (playback.system.step event).map fun next =>
    { system := next, reported := playback.reported || reportsEnd path playback.system event }

def Playing (path : Bytes) (pipeline : MediaPipeline β) : Prop :=
  pipeline.mode = .fallbackVideo ∧ pipeline.fallbackVideoPath = some path

/-- What is asked of each step: the command stands until its video has ended. -/
def Kept (path : Bytes) (_ : Playback β) (_ : MediaEvent β) (after : Playback β) : Prop :=
  after.reported = true ∨ Playing path after.system.pipeline

/-- The worker's pass is about to act on the end of a live session, or of a
video other than the one the command waits for. -/
def Overwrites (system : MediaSystem β) : MediaEvent β → Prop
  | .pass _ => ∃ seen, system.worker.observed = some seen ∧
      (seen.mode = .retransmit ∧ system.worker.finishedLive = true ∨
        seen.mode = .fallbackVideo ∧ system.worker.finishedVideo = true)
  | _ => False

def Undisturbed (before : Playback β) (event : MediaEvent β) : Prop :=
  before.reported = true ∨ ¬ Overwrites before.system event

/-- The command stands, with no input to pre-empt it. -/
def Standing (path : Bytes) (playback : Playback β) : Prop :=
  playback.reported = true ∨
    (playback.system.pipeline.active = none ∧ Playing path playback.system.pipeline)

variable {path : Bytes} {pipeline : MediaPipeline β} {before after : MediaSystem β} {event : MediaEvent β}

theorem call_playing (unselected : pipeline.active = none) (playing : Playing path pipeline)
    {call : MediaCall} (stands : Supersedes (.call call : MediaEvent β) = false) :
    (pipeline.call call).active = none ∧ Playing path (pipeline.call call) := by
  obtain ⟨mode, named⟩ := playing
  cases call with
  | select input =>
    cases input with
    | some input => simp [Supersedes] at stands
    | none => exact ⟨rfl, mode, named⟩
  | playFallbackVideo path => simp [Supersedes] at stands
  | stopFallbackVideo => simp [Supersedes] at stands
  | tick now => simp [MediaPipeline.call, MediaPipeline.tick, unselected, mode, Playing, named]
  | _ => exact ⟨unselected, mode, named⟩

/-- The pass keeps the command exactly when it does not act on the end of a
live session or of a video. -/
theorem pass_playing_iff (unselected : before.pipeline.active = none)
    (playing : Playing path before.pipeline) (seen : Observation) (now : Time) :
    Playing path (before.pass seen now).pipeline ↔
      ¬ (seen.mode = .retransmit ∧ before.worker.finishedLive = true ∨
        seen.mode = .fallbackVideo ∧ before.worker.finishedVideo = true) := by
  obtain ⟨mode, named⟩ := playing
  unfold MediaSystem.pass
  split
  · unfold MediaSystem.videoPass
    split
    · simp [*, Playing, setTransmit]
    · simp [*, Playing]
  · unfold MediaSystem.analoguePass
    split
    · simp [*, Playing]
    · simp [*, Playing]
  · unfold MediaSystem.livePass
    split
    · simp [*, Playing, setTransmit]
    · simp [*, Playing]
  · simp [*, Playing]
  · simp [*, Playing]

/-- Any step but another command or an overwriting pass keeps the command. -/
theorem step_playing_iff (unselected : before.pipeline.active = none)
    (playing : Playing path before.pipeline) (stands : Supersedes event = false)
    (stepped : before.step event = some after) :
    after.pipeline.active = none ∧ (Playing path after.pipeline ↔ ¬ Overwrites before event) := by
  cases event with
  | call call =>
    obtain ⟨-, rfl⟩ := MediaSystem.step_call.mp stepped
    obtain ⟨active, kept⟩ := call_playing unselected playing stands
    exact ⟨active, iff_of_true kept not_false⟩
  | write packet checkedAt stampedAt =>
    obtain ⟨-, rfl⟩ := MediaSystem.step_write.mp stepped
    rw [MediaPipeline.admitPacket, if_pos (.inr unselected)]
    exact ⟨unselected, iff_of_true playing not_false⟩
  | queueInput =>
    obtain ⟨packet, -, rfl⟩ := MediaSystem.step_queueInput.mp stepped
    exact ⟨unselected, iff_of_true playing not_false⟩
  | observe =>
    obtain ⟨-, rfl⟩ := MediaSystem.step_observe.mp stepped
    exact ⟨unselected, iff_of_true playing not_false⟩
  | pass now =>
    obtain ⟨seen, observed, rfl⟩ := MediaSystem.step_pass.mp stepped
    have standing := (MediaSystem.pass_standing before seen now).1
    refine ⟨(active_of_standing standing).trans unselected, ?_⟩
    rw [pass_playing_iff unselected playing, Overwrites, observed]
    simp
  | videoStatus statusJson =>
    obtain ⟨video, -, rfl⟩ := Option.map_eq_some_iff.mp stepped
    unfold setFallbackVideoStatus
    dsimp only
    split <;> exact ⟨unselected, iff_of_true playing not_false⟩
  | streamInfo text =>
    obtain ⟨live, -, rfl⟩ := Option.map_eq_some_iff.mp stepped
    unfold setSessionStreamInfo
    dsimp only
    split <;> exact ⟨unselected, iff_of_true playing not_false⟩
  | fail =>
    cases stepped
    exact ⟨unselected, iff_of_true playing not_false⟩
  | muxData data =>
    obtain ⟨-, rfl⟩ := MediaSystem.step_muxData.mp stepped
    exact ⟨unselected, iff_of_true playing not_false⟩
  | liveFinished =>
    obtain ⟨live, -, rfl⟩ := Option.map_eq_some_iff.mp stepped
    exact ⟨unselected, iff_of_true playing not_false⟩
  | videoFinished =>
    obtain ⟨video, -, rfl⟩ := Option.map_eq_some_iff.mp stepped
    exact ⟨unselected, iff_of_true playing not_false⟩
  | analogueFinished =>
    obtain ⟨analogue, -, rfl⟩ := Option.map_eq_some_iff.mp stepped
    exact ⟨unselected, iff_of_true playing not_false⟩

/-- The end of a video is reported in an event of its own, not in a pass. -/
theorem overwrites_reports_nothing (path : Bytes) (overwrites : Overwrites before event) :
    reportsEnd path before event = false := by
  cases event with
  | pass now => rfl
  | _ => exact overwrites.elim

/-- One step after the command keeps it exactly when it is undisturbed, and an
undisturbed step leaves it standing. -/
theorem step_kept_iff {was now : Playback β} (standing : Standing path was)
    (stepped : step path was event = some now) :
    (Kept path was event now ↔ Undisturbed was event) ∧ (Undisturbed was event → Standing path now) := by
  simp only [step, Option.ite_none_left_eq_some, Bool.not_eq_true, Option.map_eq_some_iff] at stepped
  obtain ⟨stands, next, taken, rfl⟩ := stepped
  by_cases done : was.reported = true
  · simp [Kept, Undisturbed, Standing, done]
  · obtain ⟨unselected, playing⟩ := standing.resolve_left done
    obtain ⟨active, kept⟩ := step_playing_iff unselected playing stands taken
    rw [Bool.not_eq_true] at done
    constructor
    · constructor
      · intro holds
        refine .inr fun overwrites => ?_
        have quiet := overwrites_reports_nothing path overwrites
        simp only [Kept, done, quiet, Bool.or_self, Bool.false_eq_true, false_or] at holds
        exact kept.mp holds overwrites
      · rintro (reported | quiet)
        · simp [done] at reported
        · exact .inr (kept.mpr quiet)
    · rintro (reported | quiet)
      · simp [done] at reported
      · exact .inr ⟨active, kept.mpr quiet⟩

/-- The command puts the pipeline into the mode it asks for. -/
theorem played (free : before.writing = none) (named : path ≠ []) :
    ∃ after, before.step (.call (.playFallbackVideo path)) = some after ∧
      Playing path after.pipeline ∧ after.pipeline.active = before.pipeline.active := by
  refine ⟨_, MediaSystem.step_call.mpr ⟨free, rfl⟩, ?_⟩
  simp [MediaPipeline.call, MediaPipeline.playFallbackVideo, enterFallbackVideo, named, Playing, setTransmit]

/-- From any state with no input selected, a playback command stands until its
video reports its end exactly if, until then, the worker runs no pass on the
end of a live session or on the end of another video. -/
theorem command_kept_iff_undisturbed (path : Bytes) (named : path ≠ []) (before after : MediaSystem β)
    (unselected : before.pipeline.active = none)
    (commanded : before.step (.call (.playFallbackVideo path)) = some after)
    (events : List (MediaEvent β)) :
    Throughout (step path) (Kept path) { system := after } events ↔
      Guarded (step path) Undisturbed { system := after } events := by
  have playing : Standing path ({ system := after } : Playback β) := by
    obtain ⟨free, -⟩ := MediaSystem.step_call.mp commanded
    obtain ⟨_, taken, playing, active⟩ := played free named
    rw [commanded, Option.some.injEq] at taken
    subst taken
    exact .inr ⟨active.trans unselected, playing⟩
  exact throughout_iff_guarded (Standing path)
    (fun _ _ _ standing met stepped => (step_kept_iff standing stepped).2 met)
    (fun _ _ _ standing stepped => (step_kept_iff standing stepped).1) playing

/-- The command as the first call after construction. -/
theorem first_command_kept :
    ∃ after : MediaSystem UInt8,
      (MediaSystem.start {} 0).step (.call (.playFallbackVideo (bytes "/v.mp4"))) = some after ∧
      (Throughout (step (bytes "/v.mp4")) (Kept (bytes "/v.mp4")) { system := after } [.observe, .pass 1] ↔
        Guarded (step (bytes "/v.mp4")) Undisturbed { system := after } [.observe, .pass 1]) :=
  ⟨_, rfl, command_kept_iff_undisturbed _ (by decide) (MediaSystem.start {} 0) _ rfl rfl _⟩

/-- The worker is in a pass of a live session that has ended when the input is
deselected and a video is asked for: the pass then sends the pipeline to the
fallback. -/
theorem live_end_overwrites_command :
    ∃ before after : MediaSystem UInt8,
      run MediaSystem.step (.start {} 0)
        [.call (.select (some { receiver := ⟨1⟩, target := {}, status := {} })), .call (.tick 1), .observe,
          .liveFinished, .call (.select none)] = some before ∧
      before.pipeline.active = none ∧
      before.step (.call (.playFallbackVideo (bytes "/v.mp4"))) = some after ∧
      ¬ Throughout (step (bytes "/v.mp4")) (Kept (bytes "/v.mp4")) { system := after } [.pass 2] := by
  refine ⟨_, _, rfl, rfl, rfl, fun along => ?_⟩
  obtain reported | playing := (along _ rfl).1
  · exact absurd reported (by decide)
  · exact absurd playing.1 (by decide)

end WhRepeater.PlaybackCommand
