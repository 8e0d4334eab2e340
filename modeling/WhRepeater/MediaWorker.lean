import WhRepeater.MediaPipeline

/-! The worker loop (`MediaPipeline::workerLoop`) beside the control thread.
Every region that holds the pipeline's mutex is one step; what the worker does
to its own transcoders between two regions belongs to the region before. A
transcoder is what it was opened for, what it was given and whether it reports
its end. The GStreamer transcoders are never created. -/
namespace WhRepeater

structure LiveTranscoder (β : Type) where
  opened : Option ActiveInput
  appended : List β := []
  finished : Bool := false
  deriving Repr, DecidableEq

/-- `path` is the worker's `activeFallbackVideoPath`. -/
structure FallbackVideoTranscoder where
  path : Bytes
  seek : Option Int := none
  finished : Bool := false
  deriving Repr, DecidableEq

structure AnalogueCaptureTranscoder where
  opened : Option ActiveInput
  finished : Bool := false
  deriving Repr, DecidableEq

/-- What the worker copied at the top of its loop. -/
structure Observation where
  mode : MediaPipelineMode
  active : Option ActiveInput
  fallbackVideoPath : Option Bytes
  fallbackVideoSeek : Option Int
  deriving Repr, DecidableEq

/-- The locals of `workerLoop`. `observed` is set while the pass the worker is
in still has its second region before it. -/
structure MediaWorker (β : Type) where
  observed : Option Observation := none
  fallbackMuxer : Bool := false
  liveTranscoder : Option (LiveTranscoder β) := none
  fallbackVideoTranscoder : Option FallbackVideoTranscoder := none
  analogueTranscoder : Option AnalogueCaptureTranscoder := none
  deriving Repr, DecidableEq

namespace MediaWorker

variable {β : Type}

def finishedLive (worker : MediaWorker β) : Bool :=
  worker.liveTranscoder.any LiveTranscoder.finished

def finishedVideo (worker : MediaWorker β) : Bool :=
  worker.fallbackVideoTranscoder.any FallbackVideoTranscoder.finished

def finishedAnalogue (worker : MediaWorker β) : Bool :=
  worker.analogueTranscoder.any AnalogueCaptureTranscoder.finished

/-- The video transcoder of a pass in `fallbackVideo` mode: another path
replaces it, a missing one is opened, and a seek is passed on. -/
def openVideo (current : Option FallbackVideoTranscoder) (path : Option Bytes) (seek : Option Int) :
    Option FallbackVideoTranscoder :=
  let kept := match current, path with
    | some video, some path => if video.path = path then some video else none
    | video, none => video
    | none, _ => none
  let opened := match kept, path with
    | none, some path => some { path }
    | video, _ => video
  match seek with
  | some position => opened.map fun video => { video with seek := some position }
  | none => opened

/-- What the worker does to its transcoders before the second region of a pass. -/
def prepare (worker : MediaWorker β) (seen : Observation) : MediaWorker β :=
  match seen.mode with
  | .idle => {}
  | .fallback => { fallbackMuxer := true }
  | .fallbackVideo =>
    { observed := some seen
      fallbackMuxer := true
      fallbackVideoTranscoder :=
        openVideo worker.fallbackVideoTranscoder seen.fallbackVideoPath seen.fallbackVideoSeek }
  | .analogue =>
    { observed := some seen
      fallbackMuxer := true
      analogueTranscoder := worker.analogueTranscoder.or (some { opened := seen.active }) }
  | .retransmit =>
    { observed := some seen
      fallbackMuxer := true
      liveTranscoder := worker.liveTranscoder.or (some { opened := seen.active }) }

end MediaWorker

/-- The pipeline, its worker, and the packet a `write` call has still to queue. -/
structure MediaSystem (β : Type) where
  pipeline : MediaPipeline β
  worker : MediaWorker β := {}
  writing : Option (List β) := none
  deriving Repr, DecidableEq

/-- The calls of the control thread that are one mutex region. -/
inductive MediaCall where
  | select (input : Option ActiveInput)
  | setBeaconAllowed (allowed : Bool)
  | setAccessNotice (notice : Option Bytes) (endTone : Bool)
  | setAccessNoticeEndTone (endTone : Bool)
  | playFallbackVideo (path : Bytes)
  | stopFallbackVideo
  | seekFallbackVideo (position : Int)
  | setPreviewEnabled (enabled : Bool)
  | reconfigurePluto (transmitEnabled : Bool)
  | tick (now : Time)
  | takeStreamInfoUpdate
  | takeFallbackVideoStatusUpdate
  deriving Repr, DecidableEq

def MediaPipeline.call (pipeline : MediaPipeline β) : MediaCall → MediaPipeline β
  | .select input => pipeline.select input
  | .setBeaconAllowed allowed => pipeline.setBeaconAllowed allowed
  | .setAccessNotice notice endTone => pipeline.setAccessNotice notice endTone
  | .setAccessNoticeEndTone endTone => pipeline.setAccessNoticeEndTone endTone
  | .playFallbackVideo path => pipeline.playFallbackVideo path
  | .stopFallbackVideo => pipeline.stopFallbackVideo
  | .seekFallbackVideo position => pipeline.seekFallbackVideo position
  | .setPreviewEnabled enabled => pipeline.setPreviewEnabled enabled
  | .reconfigurePluto transmitEnabled => pipeline.reconfigurePluto transmitEnabled
  | .tick now => pipeline.tick now
  | .takeStreamInfoUpdate => pipeline.takeStreamInfoUpdate.2
  | .takeFallbackVideoStatusUpdate => pipeline.takeFallbackVideoStatusUpdate.2

/-- The steps of the control thread, of the worker, and of the threads behind
the worker's transcoders and muxer. -/
inductive MediaEvent (β : Type) where
  | call (call : MediaCall)
  | write (packet : List β) (checkedAt stampedAt : Time)
  | queueInput
  | observe
  | pass (now : Time)
  | fail
  | muxData (data : Bytes)
  | liveFinished
  | videoFinished
  | analogueFinished
  | videoStatus (statusJson : Option Bytes)
  | streamInfo (text : Bytes)
  deriving Repr, DecidableEq

namespace MediaSystem

variable {β : Type}

def start (config : RepeaterConfig) (startedAt : Time) : MediaSystem β :=
  { pipeline := .construct config startedAt }

/-- The region at the top of the loop, and the opening of transcoders after it. -/
def observe (system : MediaSystem β) : MediaSystem β :=
  let seen : Observation :=
    { mode := system.pipeline.mode
      active := system.pipeline.active
      fallbackVideoPath := system.pipeline.fallbackVideoPath
      fallbackVideoSeek := system.pipeline.pendingFallbackVideoSeek }
  { system with
    pipeline := { system.pipeline with pendingFallbackVideoSeek := none }
    worker := system.worker.prepare seen }

/-- The region of a pass that saw `fallbackVideo`. -/
def videoPass (system : MediaSystem β) : MediaSystem β :=
  if system.worker.finishedVideo then
    { system with
      pipeline :=
        if system.pipeline.mode = .fallbackVideo then
          ({ system.pipeline with fallbackVideoPath := none, mode := .fallback } : MediaPipeline β).setTransmit
            system.pipeline.fallbackTransmit
        else system.pipeline
      worker := { system.worker with observed := none, fallbackVideoTranscoder := none } }
  else { system with worker := { system.worker with observed := none } }

/-- The region of a pass that saw `analogue`. -/
def analoguePass (system : MediaSystem β) (now : Time) : MediaSystem β :=
  if system.worker.finishedAnalogue then
    { system with
      pipeline :=
        if system.pipeline.mode = .analogue then
          ({ system.pipeline with
            analogueRetryAfter := now + seconds 2
            mode := .fallback } : MediaPipeline β).setTransmit system.pipeline.fallbackTransmit
        else system.pipeline
      worker := { system.worker with observed := none, analogueTranscoder := none } }
  else { system with worker := { system.worker with observed := none } }

/-- The region of a pass that saw `retransmit`, and the append after it: the
end of the live session does not look at the mode again, and empties the queue. -/
def livePass (system : MediaSystem β) (now : Time) : MediaSystem β :=
  if system.worker.finishedLive then
    { system with
      pipeline :=
        ({ system.pipeline with
          liveRetryAfter := now + seconds 5
          mode := .fallback
          inputQueue := [] } : MediaPipeline β).setTransmit true
      worker := { system.worker with observed := none, liveTranscoder := none } }
  else
    { system with
      pipeline := { system.pipeline with inputQueue := [] }
      worker := { system.worker with
        observed := none
        liveTranscoder := system.worker.liveTranscoder.map fun live =>
          { live with appended := live.appended ++ system.pipeline.inputQueue } } }

/-- The second region of the pass the worker is in. -/
def pass (system : MediaSystem β) (seen : Observation) (now : Time) : MediaSystem β :=
  match seen.mode with
  | .fallbackVideo => system.videoPass
  | .analogue => system.analoguePass now
  | .retransmit => system.livePass now
  | .idle | .fallback => system

/-- One step. The control thread makes one call at a time; the worker looks at
the mode again only after its pass; an exception in a pass closes everything
the worker holds. -/
def step (system : MediaSystem β) : MediaEvent β → Option (MediaSystem β)
  | .call call =>
    if system.writing.isSome then none else some { system with pipeline := system.pipeline.call call }
  | .write packet checkedAt stampedAt =>
    if system.writing.isSome then none
    else
      let (pipeline, admitted) := system.pipeline.admitPacket packet checkedAt stampedAt
      some { system with pipeline, writing := if admitted then some packet else none }
  | .queueInput =>
    system.writing.map fun packet =>
      { system with pipeline := system.pipeline.queueInput packet, writing := none }
  | .observe => if system.worker.observed.isSome then none else some system.observe
  | .pass now => system.worker.observed.map fun seen => system.pass seen now
  | .fail => some { system with worker := {} }
  | .muxData data =>
    if system.worker.fallbackMuxer then
      some { system with
        pipeline := { system.pipeline with output := system.pipeline.output.writeMuxData data } }
    else none
  | .liveFinished =>
    system.worker.liveTranscoder.map fun live =>
      { system with worker := { system.worker with liveTranscoder := some { live with finished := true } } }
  | .videoFinished =>
    system.worker.fallbackVideoTranscoder.map fun video =>
      { system with
        worker := { system.worker with fallbackVideoTranscoder := some { video with finished := true } } }
  | .analogueFinished =>
    system.worker.analogueTranscoder.map fun analogue =>
      { system with
        worker := { system.worker with analogueTranscoder := some { analogue with finished := true } } }
  | .videoStatus statusJson =>
    system.worker.fallbackVideoTranscoder.map fun _ =>
      { system with pipeline := system.pipeline.setFallbackVideoStatus statusJson }
  | .streamInfo text =>
    system.worker.liveTranscoder.map fun _ =>
      { system with pipeline := system.pipeline.setSessionStreamInfo (some text) }

/-! ## What each step needs and does -/

variable {before after : MediaSystem β}

theorem step_call {call : MediaCall} : before.step (.call call) = some after ↔
    before.writing = none ∧ { before with pipeline := before.pipeline.call call } = after := by
  simp [step]

theorem step_write {packet : List β} {checkedAt stampedAt : Time} :
    before.step (.write packet checkedAt stampedAt) = some after ↔
      before.writing = none ∧
      { before with
        pipeline := (before.pipeline.admitPacket packet checkedAt stampedAt).1
        writing := if (before.pipeline.admitPacket packet checkedAt stampedAt).2 then some packet else none } =
          after := by
  simp [step]

theorem step_queueInput : before.step .queueInput = some after ↔
    ∃ packet, before.writing = some packet ∧
      { before with pipeline := before.pipeline.queueInput packet, writing := none } = after :=
  Option.map_eq_some_iff

theorem step_observe : before.step .observe = some after ↔
    before.worker.observed = none ∧ before.observe = after := by
  simp [step]

theorem step_pass {now : Time} : before.step (.pass now) = some after ↔
    ∃ seen, before.worker.observed = some seen ∧ before.pass seen now = after :=
  Option.map_eq_some_iff

theorem step_muxData {data : Bytes} : before.step (.muxData data) = some after ↔
    before.worker.fallbackMuxer = true ∧
    { before with pipeline := { before.pipeline with output := before.pipeline.output.writeMuxData data } } =
      after := by
  simp [step]

/-- The pass leaves the selection, the policy's inputs and the call in progress
alone. -/
theorem pass_standing (system : MediaSystem β) (seen : Observation) (now : Time) :
    (system.pass seen now).pipeline.standing = system.pipeline.standing ∧
      (system.pass seen now).writing = system.writing := by
  unfold pass
  split
  · unfold videoPass
    split
    · dsimp only
      split <;> exact ⟨rfl, rfl⟩
    · exact ⟨rfl, rfl⟩
  · unfold analoguePass
    split
    · dsimp only
      split <;> exact ⟨rfl, rfl⟩
    · exact ⟨rfl, rfl⟩
  · unfold livePass
    split <;> exact ⟨rfl, rfl⟩
  · exact ⟨rfl, rfl⟩
  · exact ⟨rfl, rfl⟩

/-- The steps of the worker and of the threads behind it. -/
def OutsideControl : MediaEvent β → Prop
  | .call _ | .write _ _ _ | .queueInput => False
  | _ => True

/-- They leave the selection, the policy's inputs and the call in progress
alone. -/
theorem step_outside {event : MediaEvent β} (stepped : before.step event = some after)
    (outside : OutsideControl event) :
    after.pipeline.standing = before.pipeline.standing ∧ after.writing = before.writing := by
  cases event with
  | call call => exact outside.elim
  | write packet checkedAt stampedAt => exact outside.elim
  | queueInput => exact outside.elim
  | observe =>
    obtain ⟨-, rfl⟩ := step_observe.mp stepped
    exact ⟨rfl, rfl⟩
  | pass now =>
    obtain ⟨seen, -, rfl⟩ := step_pass.mp stepped
    exact pass_standing before seen now
  | fail =>
    cases stepped
    exact ⟨rfl, rfl⟩
  | muxData data =>
    obtain ⟨-, rfl⟩ := step_muxData.mp stepped
    exact ⟨rfl, rfl⟩
  | videoStatus statusJson =>
    obtain ⟨video, -, rfl⟩ := Option.map_eq_some_iff.mp stepped
    unfold MediaPipeline.setFallbackVideoStatus
    dsimp only
    split <;> exact ⟨rfl, rfl⟩
  | streamInfo text =>
    obtain ⟨live, -, rfl⟩ := Option.map_eq_some_iff.mp stepped
    unfold MediaPipeline.setSessionStreamInfo
    dsimp only
    split <;> exact ⟨rfl, rfl⟩
  | liveFinished =>
    obtain ⟨live, -, rfl⟩ := Option.map_eq_some_iff.mp stepped
    exact ⟨rfl, rfl⟩
  | videoFinished =>
    obtain ⟨video, -, rfl⟩ := Option.map_eq_some_iff.mp stepped
    exact ⟨rfl, rfl⟩
  | analogueFinished =>
    obtain ⟨analogue, -, rfl⟩ := Option.map_eq_some_iff.mp stepped
    exact ⟨rfl, rfl⟩

end MediaSystem
end WhRepeater
