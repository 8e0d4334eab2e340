import WhRepeater.PlutoSink

/-! The part of the media pipeline its mutex guards (`media_pipeline.cpp`): the
mode, the transmit policy, the playback command and the queue of transport
bytes, with the calls of the control thread. The worker is in `MediaWorker`.
The queue is generic in what it holds, so that a proof can ask where a byte
came from. The texts and slides that are only shown are left out. -/
namespace WhRepeater

inductive MediaPipelineMode where
  | idle | retransmit | analogue | fallbackVideo | fallback
  deriving Repr, DecidableEq

structure MediaPipeline (β : Type) where
  config : RepeaterConfig
  output : PlutoSink
  active : Option ActiveInput := none
  lastInput : Time
  liveRetryAfter : Time := 0
  analogueRetryAfter : Time := 0
  mode : MediaPipelineMode := .idle
  beaconAllowed : Bool := true
  transmitEnabled : Bool := false
  accessNotice : Option Bytes := none
  accessNoticeEndTone : Bool := false
  sessionStreamInfo : Option Bytes := none
  pendingSessionStreamInfo : Option Bytes := none
  fallbackVideoPath : Option Bytes := none
  /-- Milliseconds. -/
  pendingFallbackVideoSeek : Option Int := none
  fallbackVideoStatus : Option Bytes := none
  pendingFallbackVideoStatus : Option Bytes := none
  inputQueue : List β := []
  deriving Repr, DecidableEq

/-- `isAnalogueInput`. -/
def isAnalogueInput (config : RepeaterConfig) (input : ActiveInput) : Bool :=
  input.receiver == config.analogue.capture.receiver ||
    input.status.modulation == some (bytes "SD analogue")

/-- `maxQueuedBytes`. -/
def maxQueuedBytes : Nat := 32 * 1024 * 1024

namespace MediaPipeline

variable {β : Type}

/-- The constructor, at the time the member initialiser of `lastInput_` reads. -/
def construct (config : RepeaterConfig) (startedAt : Time) : MediaPipeline β :=
  { config, output := { config := config.pluto }, lastInput := startedAt }

/-- `beaconAllowed_ || accessNotice_.has_value()`. -/
def fallbackTransmit (pipeline : MediaPipeline β) : Bool :=
  pipeline.beaconAllowed || pipeline.accessNotice.isSome

/-- `transmitEnabled_ = enabled; output_.setTransmitEnabled(enabled);` -/
def setTransmit (pipeline : MediaPipeline β) (enabled : Bool) : MediaPipeline β :=
  { pipeline with transmitEnabled := enabled, output := pipeline.output.setTransmitEnabled enabled }

/-- The four assignments that give up a video for live input or a stop. -/
def dropFallbackVideo (pipeline : MediaPipeline β) : MediaPipeline β :=
  { pipeline with
    fallbackVideoPath := none
    pendingFallbackVideoSeek := none
    fallbackVideoStatus := none
    pendingFallbackVideoStatus := some (bytes "null") }

def enterRetransmit (pipeline : MediaPipeline β) (now : Time) : MediaPipeline β :=
  if pipeline.mode = .retransmit ∧ pipeline.transmitEnabled = true then pipeline
  else ({ pipeline with lastInput := now, mode := .retransmit } : MediaPipeline β).setTransmit true

def enterAnalogue (pipeline : MediaPipeline β) (now : Time) : MediaPipeline β :=
  if pipeline.mode = .analogue ∧ pipeline.transmitEnabled = true then pipeline
  else
    ({ pipeline with lastInput := now, inputQueue := [], mode := .analogue } : MediaPipeline β).setTransmit true

def enterFallbackVideo (pipeline : MediaPipeline β) (path : Bytes) : MediaPipeline β :=
  if path = [] then pipeline
  else
    ({ pipeline with
      inputQueue := []
      fallbackVideoPath := some path
      pendingFallbackVideoSeek := none
      fallbackVideoStatus := none
      pendingFallbackVideoStatus := some (bytes "null")
      mode := .fallbackVideo } : MediaPipeline β).setTransmit true

/-- The source's `now` is not used. -/
def enterFallback (pipeline : MediaPipeline β) (transmitEnabled : Bool) : MediaPipeline β :=
  if pipeline.mode = .fallback ∧ pipeline.transmitEnabled = transmitEnabled then pipeline
  else
    ({ pipeline with
      inputQueue := []
      pendingFallbackVideoSeek := none
      fallbackVideoStatus := none
      pendingFallbackVideoStatus := some (bytes "null")
      mode := .fallback } : MediaPipeline β).setTransmit transmitEnabled

def enterIdle (pipeline : MediaPipeline β) : MediaPipeline β :=
  if pipeline.mode = .idle then pipeline
  else ({ pipeline with mode := .idle } : MediaPipeline β).setTransmit false

def select (pipeline : MediaPipeline β) (input : Option ActiveInput) : MediaPipeline β :=
  match input with
  | some input => { pipeline with active := some input }
  | none =>
    { pipeline with
      active := none
      sessionStreamInfo := none
      pendingSessionStreamInfo := none
      liveRetryAfter := 0 }

def setBeaconAllowed (pipeline : MediaPipeline β) (allowed : Bool) : MediaPipeline β :=
  { pipeline with beaconAllowed := allowed }

def setAccessNotice (pipeline : MediaPipeline β) (notice : Option Bytes) (endTone : Bool) : MediaPipeline β :=
  { pipeline with accessNotice := notice, accessNoticeEndTone := notice.isSome && endTone }

def setAccessNoticeEndTone (pipeline : MediaPipeline β) (endTone : Bool) : MediaPipeline β :=
  { pipeline with accessNoticeEndTone := pipeline.accessNotice.isSome && endTone }

def playFallbackVideo (pipeline : MediaPipeline β) (path : Bytes) : MediaPipeline β :=
  pipeline.enterFallbackVideo path

def stopFallbackVideo (pipeline : MediaPipeline β) : MediaPipeline β :=
  if pipeline.mode ≠ .fallbackVideo then pipeline
  else pipeline.dropFallbackVideo.enterFallback pipeline.fallbackTransmit

def seekFallbackVideo (pipeline : MediaPipeline β) (position : Int) : MediaPipeline β :=
  { pipeline with pendingFallbackVideoSeek := some (max 0 position) }

def setPreviewEnabled (pipeline : MediaPipeline β) (enabled : Bool) : MediaPipeline β :=
  { pipeline with output := pipeline.output.setPreviewEnabled enabled }

def reconfigurePluto (pipeline : MediaPipeline β) (transmitEnabled : Bool) : MediaPipeline β :=
  { pipeline with transmitEnabled, output := pipeline.output.reconfigureTransmitter transmitEnabled }

/-- The branch of `tick` with an input selected, after a video was given up. -/
def tickActive (pipeline : MediaPipeline β) (input : ActiveInput) (now : Time) : MediaPipeline β :=
  if isAnalogueInput pipeline.config input then
    if now < pipeline.analogueRetryAfter then pipeline.enterFallback pipeline.fallbackTransmit
    else pipeline.enterAnalogue now
  else
    if now < pipeline.liveRetryAfter then pipeline.enterFallback true
    else pipeline.enterRetransmit now

def tick (pipeline : MediaPipeline β) (now : Time) : MediaPipeline β :=
  match pipeline.active with
  | some input =>
    if pipeline.mode = .fallbackVideo then pipeline.dropFallbackVideo.tickActive input now
    else pipeline.tickActive input now
  | none =>
    if pipeline.mode = .fallbackVideo then pipeline
    else if pipeline.config.fallback.enabled then pipeline.enterFallback pipeline.fallbackTransmit
    else pipeline.enterIdle

/-- The rest of the first mutex region of `write`, after a video was given up. -/
def admitLive (pipeline : MediaPipeline β) (checkedAt stampedAt : Time) : MediaPipeline β × Bool :=
  if checkedAt < pipeline.liveRetryAfter then (pipeline, false)
  else (({ pipeline with lastInput := stampedAt } : MediaPipeline β).enterRetransmit stampedAt, true)

/-- The first mutex region of `write`, with the two times it reads. The packet
goes on to `queueInput` when the second component says so. -/
def admitPacket (pipeline : MediaPipeline β) (packet : List β) (checkedAt stampedAt : Time) :
    MediaPipeline β × Bool :=
  if packet = [] ∨ pipeline.active = none then (pipeline, false)
  else if pipeline.mode = .fallbackVideo then pipeline.dropFallbackVideo.admitLive checkedAt stampedAt
  else pipeline.admitLive checkedAt stampedAt

/-- The second mutex region of `write`. -/
def queueInput (pipeline : MediaPipeline β) (packet : List β) : MediaPipeline β :=
  { pipeline with
    inputQueue :=
      if maxQueuedBytes < pipeline.inputQueue.length + packet.length then packet
      else pipeline.inputQueue ++ packet }

def takeStreamInfoUpdate (pipeline : MediaPipeline β) : Option Bytes × MediaPipeline β :=
  (pipeline.pendingSessionStreamInfo, { pipeline with pendingSessionStreamInfo := none })

def takeFallbackVideoStatusUpdate (pipeline : MediaPipeline β) : Option Bytes × MediaPipeline β :=
  (pipeline.pendingFallbackVideoStatus, { pipeline with pendingFallbackVideoStatus := none })

def setSessionStreamInfo (pipeline : MediaPipeline β) (streamInfo : Option Bytes) : MediaPipeline β :=
  if pipeline.sessionStreamInfo = streamInfo then pipeline
  else { pipeline with sessionStreamInfo := streamInfo, pendingSessionStreamInfo := streamInfo }

def setFallbackVideoStatus (pipeline : MediaPipeline β) (statusJson : Option Bytes) : MediaPipeline β :=
  let pending := some (statusJson.getD (bytes "null"))
  if pipeline.fallbackVideoStatus = statusJson ∧ pipeline.pendingFallbackVideoStatus = pending then pipeline
  else { pipeline with fallbackVideoStatus := statusJson, pendingFallbackVideoStatus := pending }

/-! ## What the transitions set and what they keep -/

/-- What the transmit policy is computed from, the mode apart. No transition
changes it. -/
def standing (pipeline : MediaPipeline β) : RepeaterConfig × Option ActiveInput × Bool × Option Bytes :=
  (pipeline.config, pipeline.active, pipeline.beaconAllowed, pipeline.accessNotice)

variable {pipeline : MediaPipeline β} {now : Time}

theorem active_of_standing {other : MediaPipeline β} (same : other.standing = pipeline.standing) :
    other.active = pipeline.active :=
  congrArg (fun standing => standing.2.1) same

@[simp] theorem enterRetransmit_mode : (pipeline.enterRetransmit now).mode = .retransmit := by
  unfold enterRetransmit
  split
  · rename_i already
    exact already.1
  · rfl

@[simp] theorem enterRetransmit_transmitEnabled : (pipeline.enterRetransmit now).transmitEnabled = true := by
  unfold enterRetransmit
  split
  · rename_i already
    exact already.2
  · rfl

@[simp] theorem enterRetransmit_standing : (pipeline.enterRetransmit now).standing = pipeline.standing := by
  unfold enterRetransmit
  split <;> rfl

@[simp] theorem enterRetransmit_inputQueue : (pipeline.enterRetransmit now).inputQueue = pipeline.inputQueue := by
  unfold enterRetransmit
  split <;> rfl

@[simp] theorem enterAnalogue_mode : (pipeline.enterAnalogue now).mode = .analogue := by
  unfold enterAnalogue
  split
  · rename_i already
    exact already.1
  · rfl

@[simp] theorem enterAnalogue_transmitEnabled : (pipeline.enterAnalogue now).transmitEnabled = true := by
  unfold enterAnalogue
  split
  · rename_i already
    exact already.2
  · rfl

@[simp] theorem enterAnalogue_standing : (pipeline.enterAnalogue now).standing = pipeline.standing := by
  unfold enterAnalogue
  split <;> rfl

@[simp] theorem enterFallback_mode : (pipeline.enterFallback enabled).mode = .fallback := by
  unfold enterFallback
  split
  · rename_i already
    exact already.1
  · rfl

@[simp] theorem enterFallback_transmitEnabled : (pipeline.enterFallback enabled).transmitEnabled = enabled := by
  unfold enterFallback
  split
  · rename_i already
    exact already.2
  · rfl

@[simp] theorem enterFallback_standing : (pipeline.enterFallback enabled).standing = pipeline.standing := by
  unfold enterFallback
  split <;> rfl

@[simp] theorem enterIdle_mode : pipeline.enterIdle.mode = .idle := by
  unfold enterIdle
  split
  · assumption
  · rfl

@[simp] theorem enterIdle_standing : pipeline.enterIdle.standing = pipeline.standing := by
  unfold enterIdle
  split <;> rfl

/-- The early return of `enterIdle` leaves the flag as it finds it. -/
theorem enterIdle_transmitEnabled :
    pipeline.enterIdle.transmitEnabled = (decide (pipeline.mode = .idle) && pipeline.transmitEnabled) := by
  unfold enterIdle
  split <;> simp_all [setTransmit]

theorem tickActive_standing (input : ActiveInput) :
    (pipeline.tickActive input now).standing = pipeline.standing := by
  unfold tickActive
  split <;> split <;> simp

@[simp] theorem tick_standing : (pipeline.tick now).standing = pipeline.standing := by
  unfold tick
  split <;> split
  · exact tickActive_standing _
  · exact tickActive_standing _
  · rfl
  · split <;> simp

/-- What the first region of `write` lets through, and what it changes. -/
theorem admitLive_spec (pipeline : MediaPipeline β) (checkedAt stampedAt : Time) :
    (pipeline.admitLive checkedAt stampedAt).1.standing = pipeline.standing ∧
    (pipeline.admitLive checkedAt stampedAt).1.inputQueue = pipeline.inputQueue ∧
    ((pipeline.admitLive checkedAt stampedAt).2 = true ↔ ¬ checkedAt < pipeline.liveRetryAfter) ∧
    ((pipeline.admitLive checkedAt stampedAt).1.mode =
      if (pipeline.admitLive checkedAt stampedAt).2 then .retransmit else pipeline.mode) := by
  unfold admitLive
  split
  · rename_i early
    simp [early]
  · rename_i late
    refine ⟨enterRetransmit_standing, enterRetransmit_inputQueue, ?_, ?_⟩
    · simp [late]
    · simp

theorem admitPacket_spec (pipeline : MediaPipeline β) (packet : List β) (checkedAt stampedAt : Time) :
    (pipeline.admitPacket packet checkedAt stampedAt).1.standing = pipeline.standing ∧
    (pipeline.admitPacket packet checkedAt stampedAt).1.inputQueue = pipeline.inputQueue ∧
    ((pipeline.admitPacket packet checkedAt stampedAt).2 = true ↔
      packet ≠ [] ∧ pipeline.active ≠ none ∧ ¬ checkedAt < pipeline.liveRetryAfter) ∧
    ((pipeline.admitPacket packet checkedAt stampedAt).1.mode =
      if (pipeline.admitPacket packet checkedAt stampedAt).2 then .retransmit else pipeline.mode) := by
  unfold admitPacket
  split
  · rename_i nothing
    obtain rfl | none := nothing
    · simp
    · simp [none]
  · rename_i something
    simp only [not_or] at something
    simp only [something, ne_eq, not_false_eq_true, true_and]
    split
    · exact admitLive_spec pipeline.dropFallbackVideo checkedAt stampedAt
    · exact admitLive_spec pipeline checkedAt stampedAt

end MediaPipeline
end WhRepeater
