import WhRepeater.MediaWorker
import WhRepeater.Runs

/-! The daemon keys the PTT by a formula of its own, and the pipeline must
follow it: what its flag, the sink's flag and the Pluto's mute say after a
tick. The flags move together everywhere; the three paths on which a tick does
not apply the formula are the ones `TickApplies` names. -/
namespace WhRepeater

namespace MediaPipeline

variable {β : Type}

/-- The transmit formula of `runPcGateway`, on the pipeline's own state. -/
def transmitPolicy (pipeline : MediaPipeline β) : Bool :=
  pipeline.mode == .fallbackVideo || pipeline.active.isSome ||
    (pipeline.config.fallback.enabled && (pipeline.beaconAllowed || pipeline.accessNotice.isSome))

/-- Both flags are the formula, and so is the mute the broker was last told. -/
structure FollowsPolicy (pipeline : MediaPipeline β) : Prop where
  own : pipeline.transmitEnabled = pipeline.transmitPolicy
  sink : pipeline.output.transmitEnabled = pipeline.transmitPolicy
  mute : pipeline.output.config.mqttEnabled = true → mqttDeviceId pipeline.output.config ≠ [] →
    (pipeline.output.lastControl (bytes "tx/mute") = some (bytes "0") ↔ pipeline.transmitPolicy = true)

/-- What a tick needs for its policy to reach the transmitter: a playing video
still transmits, an idle pipeline does not, and an analogue input whose capture
is waiting to be tried again has a beacon or a notice beside it. -/
def TickApplies (pipeline : MediaPipeline β) (now : Time) : Prop :=
  match pipeline.active with
  | some input =>
    isAnalogueInput pipeline.config input = true → now < pipeline.analogueRetryAfter →
      pipeline.fallbackTransmit = true
  | none =>
    if pipeline.mode = .fallbackVideo then pipeline.transmitEnabled = true
    else pipeline.config.fallback.enabled = false → pipeline.mode = .idle →
      pipeline.transmitEnabled = false

/-- The pipeline and its sink agree on the flag, and the broker with the sink. -/
structure InStep (pipeline : MediaPipeline β) : Prop where
  flags : pipeline.output.transmitEnabled = pipeline.transmitEnabled
  mute : pipeline.output.MuteFollows

variable {pipeline : MediaPipeline β} {now : Time} {enabled : Bool}

theorem setTransmit_inStep (held : InStep pipeline) : InStep (pipeline.setTransmit enabled) :=
  ⟨by simp [setTransmit], PlutoSink.setTransmitEnabled_muteFollows held.mute enabled⟩

/-- Only the two flags and what was published matter. -/
theorem inStep_of_same {other : MediaPipeline β} (held : InStep pipeline)
    (flag : other.transmitEnabled = pipeline.transmitEnabled) (output : other.output = pipeline.output) :
    InStep other :=
  ⟨by rw [flag, output, held.flags], by rw [output]; exact held.mute⟩

theorem enterRetransmit_inStep (held : InStep pipeline) : InStep (pipeline.enterRetransmit now) := by
  unfold enterRetransmit
  split
  · exact held
  · exact setTransmit_inStep (inStep_of_same held rfl rfl)

theorem enterAnalogue_inStep (held : InStep pipeline) : InStep (pipeline.enterAnalogue now) := by
  unfold enterAnalogue
  split
  · exact held
  · exact setTransmit_inStep (inStep_of_same held rfl rfl)

theorem enterFallbackVideo_inStep (held : InStep pipeline) (path : Bytes) :
    InStep (pipeline.enterFallbackVideo path) := by
  unfold enterFallbackVideo
  split
  · exact held
  · exact setTransmit_inStep (inStep_of_same held rfl rfl)

theorem enterFallback_inStep (held : InStep pipeline) : InStep (pipeline.enterFallback enabled) := by
  unfold enterFallback
  split
  · exact held
  · exact setTransmit_inStep (inStep_of_same held rfl rfl)

theorem enterIdle_inStep (held : InStep pipeline) : InStep pipeline.enterIdle := by
  unfold enterIdle
  split
  · exact held
  · exact setTransmit_inStep (inStep_of_same held rfl rfl)

theorem dropFallbackVideo_inStep (held : InStep pipeline) : InStep pipeline.dropFallbackVideo :=
  inStep_of_same held rfl rfl

theorem tickActive_inStep (held : InStep pipeline) (input : ActiveInput) :
    InStep (pipeline.tickActive input now) := by
  unfold tickActive
  split <;> split
  · exact enterFallback_inStep held
  · exact enterAnalogue_inStep held
  · exact enterFallback_inStep held
  · exact enterRetransmit_inStep held

theorem tick_inStep (held : InStep pipeline) : InStep (pipeline.tick now) := by
  unfold tick
  split <;> split
  · exact tickActive_inStep (dropFallbackVideo_inStep held) _
  · exact tickActive_inStep held _
  · exact held
  · split
    · exact enterFallback_inStep held
    · exact enterIdle_inStep held

theorem call_inStep (held : InStep pipeline) (call : MediaCall) : InStep (pipeline.call call) := by
  cases call with
  | select input => cases input <;> exact inStep_of_same held rfl rfl
  | playFallbackVideo path => exact enterFallbackVideo_inStep held path
  | stopFallbackVideo =>
    simp only [call, stopFallbackVideo]
    split
    · exact held
    · exact enterFallback_inStep (dropFallbackVideo_inStep held)
  | setPreviewEnabled enabled =>
    have same := PlutoSink.setPreviewEnabled_control pipeline.output enabled
    refine ⟨?_, PlutoSink.muteFollows_of_control same held.mute⟩
    simp only [PlutoSink.control, Prod.mk.injEq] at same
    exact same.2.2.1.trans held.flags
  | reconfigurePluto enabled => exact ⟨rfl, PlutoSink.reconfigureTransmitter_muteFollows enabled⟩
  | tick now => exact tick_inStep held
  | _ => exact inStep_of_same held rfl rfl

theorem admitLive_inStep (held : InStep pipeline) (checkedAt stampedAt : Time) :
    InStep (pipeline.admitLive checkedAt stampedAt).1 := by
  unfold admitLive
  split
  · exact held
  · exact enterRetransmit_inStep (inStep_of_same held rfl rfl)

theorem admitPacket_inStep (held : InStep pipeline) (packet : List β) (checkedAt stampedAt : Time) :
    InStep (pipeline.admitPacket packet checkedAt stampedAt).1 := by
  unfold admitPacket
  split
  · exact held
  · split
    · exact admitLive_inStep (dropFallbackVideo_inStep held) checkedAt stampedAt
    · exact admitLive_inStep held checkedAt stampedAt

theorem writeMuxData_inStep (held : InStep pipeline) (data : Bytes) :
    InStep { pipeline with output := pipeline.output.writeMuxData data } := by
  refine ⟨?_, PlutoSink.writeMuxData_muteFollows held.mute data⟩
  have same := congrArg (fun control => control.2.2.1)
    (PlutoSink.writeMuxData_control pipeline.output data)
  refine Eq.trans ?_ held.flags
  refine same.trans ?_
  split
  · rfl
  · exact PlutoSink.configureTransmitter_transmitEnabled

/-! ## The tick -/

theorem transmitPolicy_of_standing {other : MediaPipeline β} (same : other.standing = pipeline.standing) :
    other.transmitPolicy = (other.mode == .fallbackVideo || pipeline.active.isSome ||
      (pipeline.config.fallback.enabled && pipeline.fallbackTransmit)) := by
  simp only [standing, Prod.mk.injEq] at same
  obtain ⟨config, active, beacon, notice⟩ := same
  simp only [transmitPolicy, fallbackTransmit, config, active, beacon, notice]

/-- With an input selected the policy is to transmit, and every path but one
does. -/
theorem tickActive_transmitEnabled (pipeline : MediaPipeline β) (input : ActiveInput) :
    (pipeline.tickActive input now).transmitEnabled = true ↔
      (isAnalogueInput pipeline.config input = true → now < pipeline.analogueRetryAfter →
        pipeline.fallbackTransmit = true) := by
  unfold tickActive
  split
  · rename_i analogue
    split <;> simp [*]
  · rename_i digital
    split <;> simp [digital]

/-- After a tick the flag is the policy exactly when the tick applies it. -/
theorem tick_transmitEnabled :
    (pipeline.tick now).transmitEnabled = (pipeline.tick now).transmitPolicy ↔
      TickApplies pipeline now := by
  rw [transmitPolicy_of_standing tick_standing]
  unfold tick TickApplies
  cases active : pipeline.active with
  | some input =>
    simp only [Option.isSome_some, Bool.or_true, Bool.true_or]
    split
    · exact tickActive_transmitEnabled pipeline.dropFallbackVideo input
    · exact tickActive_transmitEnabled pipeline input
  | none =>
    simp only [Option.isSome_none, Bool.or_false]
    by_cases video : pipeline.mode = .fallbackVideo
    · simp [video]
    · by_cases fallback : pipeline.config.fallback.enabled = true
      · simp [video, fallback]
      · have other : (MediaPipelineMode.idle == MediaPipelineMode.fallbackVideo) = false := by decide
        simp [video, fallback, enterIdle_transmitEnabled, other]

/-- What the flag is, the sink and the broker follow. -/
theorem followsPolicy_iff (held : InStep pipeline) :
    FollowsPolicy pipeline ↔ pipeline.transmitEnabled = pipeline.transmitPolicy := by
  constructor
  · exact fun follows => follows.own
  · intro own
    refine ⟨own, held.flags.trans own, fun mqtt device => ?_⟩
    rw [← own, ← held.flags]
    exact (held.mute mqtt device).1

end MediaPipeline

namespace TransmitPolicy
open Runs MediaPipeline

variable {β : Type} {before after : MediaSystem β} {event : MediaEvent β}

/-- What is asked of a run: every tick leaves the transmitter as the policy
says. -/
def TickFollows (_ : MediaSystem β) (event : MediaEvent β) (after : MediaSystem β) : Prop :=
  match event with
  | .call (.tick _) => FollowsPolicy after.pipeline
  | _ => True

/-- The ticks of a run find a state they apply the policy in. -/
def Applies (before : MediaSystem β) : MediaEvent β → Prop
  | .call (.tick now) => TickApplies before.pipeline now
  | _ => True

theorem pass_inStep (held : InStep before.pipeline) (seen : Observation) (now : Time) :
    InStep (before.pass seen now).pipeline := by
  unfold MediaSystem.pass
  split
  · unfold MediaSystem.videoPass
    split
    · dsimp only
      split
      · exact setTransmit_inStep (inStep_of_same held rfl rfl)
      · exact held
    · exact held
  · unfold MediaSystem.analoguePass
    split
    · dsimp only
      split
      · exact setTransmit_inStep (inStep_of_same held rfl rfl)
      · exact held
    · exact held
  · unfold MediaSystem.livePass
    split
    · exact setTransmit_inStep (inStep_of_same held rfl rfl)
    · exact inStep_of_same held rfl rfl
  · exact held
  · exact held

/-- Calls, packets, worker passes and transport data all keep the flags in
step. -/
theorem step_inStep (held : InStep before.pipeline) (stepped : before.step event = some after) :
    InStep after.pipeline := by
  cases event with
  | call call =>
    obtain ⟨-, rfl⟩ := MediaSystem.step_call.mp stepped
    exact call_inStep held call
  | write packet checkedAt stampedAt =>
    obtain ⟨-, rfl⟩ := MediaSystem.step_write.mp stepped
    exact admitPacket_inStep held packet checkedAt stampedAt
  | queueInput =>
    obtain ⟨packet, -, rfl⟩ := MediaSystem.step_queueInput.mp stepped
    exact inStep_of_same held rfl rfl
  | observe =>
    obtain ⟨-, rfl⟩ := MediaSystem.step_observe.mp stepped
    exact inStep_of_same held rfl rfl
  | pass now =>
    obtain ⟨seen, -, rfl⟩ := MediaSystem.step_pass.mp stepped
    exact pass_inStep held seen now
  | fail =>
    cases stepped
    exact held
  | muxData data =>
    obtain ⟨-, rfl⟩ := MediaSystem.step_muxData.mp stepped
    exact writeMuxData_inStep held data
  | liveFinished =>
    obtain ⟨live, -, rfl⟩ := Option.map_eq_some_iff.mp stepped
    exact held
  | videoFinished =>
    obtain ⟨video, -, rfl⟩ := Option.map_eq_some_iff.mp stepped
    exact held
  | analogueFinished =>
    obtain ⟨analogue, -, rfl⟩ := Option.map_eq_some_iff.mp stepped
    exact held
  | videoStatus statusJson =>
    obtain ⟨video, -, rfl⟩ := Option.map_eq_some_iff.mp stepped
    unfold setFallbackVideoStatus
    dsimp only
    split
    · exact held
    · exact inStep_of_same held rfl rfl
  | streamInfo text =>
    obtain ⟨live, -, rfl⟩ := Option.map_eq_some_iff.mp stepped
    unfold setSessionStreamInfo
    dsimp only
    split
    · exact held
    · exact inStep_of_same held rfl rfl

theorem start_inStep (config : RepeaterConfig) (startedAt : Time) :
    InStep (MediaSystem.start config startedAt : MediaSystem β).pipeline :=
  ⟨rfl, PlutoSink.start_muteFollows config.pluto⟩

/-- Every tick of a run leaves the pipeline's flag, the sink's flag and the
Pluto's mute as the daemon's formula says exactly if every tick of the run
finds a state it applies the policy in. -/
theorem ticks_follow_iff_apply (config : RepeaterConfig) (startedAt : Time) (events : List (MediaEvent β)) :
    Throughout MediaSystem.step TickFollows (.start config startedAt) events ↔
      Guarded MediaSystem.step Applies (.start config startedAt) events := by
  refine throughout_iff_guarded (fun system => InStep system.pipeline) ?_ ?_
    (start_inStep config startedAt)
  · exact fun _ _ _ held _ stepped => step_inStep held stepped
  · intro before event after held stepped
    have inStep := step_inStep held stepped
    unfold TickFollows Applies
    split
    · obtain ⟨-, rfl⟩ := MediaSystem.step_call.mp stepped
      exact (followsPolicy_iff inStep).trans tick_transmitEnabled
    · simp_all

/-- The analogue input of the default configuration. -/
def capture : ActiveInput := { receiver := ⟨5⟩, target := {}, status := {} }

/-- A capture that ended is tried again after two seconds; a tick in between,
with the beacon not allowed and no notice, leaves the transmitter muted under
an input that is still selected. -/
theorem retried_capture_is_muted :
    ¬ Throughout MediaSystem.step TickFollows (.start { analogue := { capture := { enabled := true } } } 0)
      ([.call (.setBeaconAllowed false), .call (.select (some capture)), .call (.tick 1),
        .observe, .analogueFinished, .pass 2, .call (.tick 3)] : List (MediaEvent UInt8)) := by
  intro along
  have last := (along _ rfl).2 _ rfl |>.2 _ rfl |>.2 _ rfl |>.2 _ rfl |>.2 _ rfl |>.2 _ rfl |>.1
  exact absurd last.own (by decide)

end TransmitPolicy
end WhRepeater
