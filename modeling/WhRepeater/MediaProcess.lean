import WhRepeater.MediaMessages
import WhRepeater.MediaPipeline

/-! The media parent (`media_process.cpp`): it keeps a copy of what it asked of
the media child, sends it over a packet socket, and starts the child again
whenever it notices that the child has exited. Sending, reaping, starting and
replaying call each other, so the recursion carries fuel; `none` is a call that
has not returned. Creating a socket pair and forking succeed. -/
namespace WhRepeater

/-- How `send` ends on a socket whose child is there. -/
inductive SendResult where
  | accepted | wouldBlock | failed
  deriving Repr, DecidableEq

/-- One `send`, the `poll` of an essential message that would block, and the
`send` after it. -/
structure SendAttempt where
  first : SendResult := .accepted
  writable : Bool := false
  retry : SendResult := .failed
  deriving Repr, DecidableEq

/-- What the child reports back. -/
inductive ChildReport where
  | streamInfo (text : Bytes)
  | fallbackVideoStatus (text : Bytes)
  deriving Repr, DecidableEq

/-- How children and socket behave, by the number of times the parent has
looked: whether it then finds that the child has exited, what becomes of a
message, and what is there to read. -/
structure ChildScript where
  exited : Nat → Bool
  attempt : Nat → MediaMessage → SendAttempt := fun _ _ => {}
  reports : Nat → List ChildReport := fun _ => []

/-- The members of the class, `childRunning` for an open socket and a child
behind it; then how often the parent has looked at a child and has started one,
and the messages the kernel took for the child now running. -/
structure MediaProcess where
  config : RepeaterConfig
  active : Option ActiveInput := none
  beaconAllowed : Bool := true
  previewEnabled : Bool := false
  accessNotice : Option Bytes := none
  accessNoticeEndTone : Bool := false
  fallbackVideoPath : Option Bytes := none
  /-- Milliseconds. -/
  fallbackVideoSeek : Option Int := none
  mode : MediaPipelineMode := .idle
  childRunning : Bool := false
  transportBuffer : Bytes := []
  lastSelectPayload : Option Bytes := none
  lastBeaconPayload : Option Bytes := none
  lastNoticePayload : Option Bytes := none
  lastNoticeEndTonePayload : Option Bytes := none
  lastPreviewPayload : Option Bytes := none
  streamInfo : Option Bytes := none
  fallbackVideoStatus : Option Bytes := none
  clock : Nat := 0
  starts : Nat := 0
  accepted : List ControlMessage := []
  deriving Repr, DecidableEq

/-- The kernel takes no message the child's receive buffer would cut. -/
def ControlMessage.Fits (message : ControlMessage) : Prop := message.payload.length ≤ 2 * 1024 * 1024

instance (message : ControlMessage) : Decidable message.Fits :=
  inferInstanceAs (Decidable (message.payload.length ≤ 2 * 1024 * 1024))

/-- The message got through, at once or after the `poll`. -/
def SendAttempt.taken (attempt : SendAttempt) (essential : Bool) : Bool :=
  match attempt.first with
  | .accepted => true
  | .wouldBlock => essential && attempt.writable && attempt.retry == .accepted
  | .failed => false

/-- An essential message is taken when any other would be. -/
theorem SendAttempt.taken_essential {attempt : SendAttempt} {essential : Bool}
    (taken : attempt.taken essential = true) : attempt.taken true = true := by
  cases essential with
  | true => exact taken
  | false =>
    obtain ⟨first, writable, retry⟩ := attempt
    cases first with
    | wouldBlock => cases taken
    | _ => exact taken

namespace MediaProcess

/-- A send that returns says whether the message got through. -/
abbrev Send := MediaProcess → ControlMessage → Bool → Option (Bool × MediaProcess)

/-- The cache that suppresses a message of the type. -/
def cached (process : MediaProcess) : MediaMessage → Option Bytes
  | .select => process.lastSelectPayload
  | .beacon => process.lastBeaconPayload
  | .notice => process.lastNoticePayload
  | .noticeEndTone => process.lastNoticeEndTonePayload
  | .preview => process.lastPreviewPayload
  | _ => none

def remember (process : MediaProcess) (message : ControlMessage) : MediaProcess :=
  match message.type with
  | .select => { process with lastSelectPayload := some message.payload }
  | .beacon => { process with lastBeaconPayload := some message.payload }
  | .notice => { process with lastNoticePayload := some message.payload }
  | .noticeEndTone => { process with lastNoticeEndTonePayload := some message.payload }
  | .preview => { process with lastPreviewPayload := some message.payload }
  | _ => process

/-- A message whose cache is filled when it got through. -/
def sendRemembered (send : Send) (process : MediaProcess) (message : ControlMessage) : Option MediaProcess := do
  let (taken, process) ← send process message true
  return if taken then process.remember message else process

/-- A message that is suppressed when its payload is the cached one. -/
def sendIfChanged (send : Send) (process : MediaProcess) (message : ControlMessage) : Option MediaProcess :=
  if process.cached message.type = some message.payload then some process
  else sendRemembered send process message

def selectMessage (process : MediaProcess) : ControlMessage := ⟨.select, activePayload process.active⟩

def beaconMessage (process : MediaProcess) : ControlMessage := ⟨.beacon, boolPayload process.beaconAllowed⟩

/-- No notice is an empty payload. -/
def noticeMessage (process : MediaProcess) : ControlMessage :=
  ⟨.notice, process.accessNotice.elim [] stringPayload⟩

def toneMessage (process : MediaProcess) : ControlMessage :=
  ⟨.noticeEndTone, boolPayload process.accessNoticeEndTone⟩

def previewMessage (process : MediaProcess) : ControlMessage :=
  ⟨.preview, boolPayload process.previewEnabled⟩

/-- The playback a child started again has to resume. -/
def videoMessages (process : MediaProcess) : List ControlMessage :=
  match process.fallbackVideoPath with
  | some path =>
    ⟨.playFallbackVideo, stringPayload path⟩ ::
      (process.fallbackVideoSeek.map fun position => ⟨.seekFallbackVideo, int64Payload position⟩).toList
  | none => []

def replayMessages (process : MediaProcess) : List ControlMessage :=
  [process.selectMessage, process.beaconMessage, process.noticeMessage, process.toneMessage,
    process.previewMessage] ++ process.videoMessages

def replayState (send : Send) (process : MediaProcess) : Option MediaProcess :=
  if process.childRunning = false then some process
  else process.replayMessages.foldlM (sendRemembered send) process

/-- `startChild` up to the replay. The end tone's cache is not reset. -/
def forked (process : MediaProcess) : MediaProcess :=
  { process with
    childRunning := true
    lastSelectPayload := none
    lastBeaconPayload := none
    lastNoticePayload := none
    lastPreviewPayload := none
    starts := process.starts + 1
    accepted := [] }

def startChild (send : Send) (process : MediaProcess) : Option MediaProcess := replayState send process.forked

/-- Returns when the child is gone, at the latest by `SIGKILL`. -/
def stopChild (process : MediaProcess) : MediaProcess := { process with childRunning := false }

/-- The parent looks at its child once more. -/
def looked (process : MediaProcess) : MediaProcess := { process with clock := process.clock + 1 }

/-- `reapChild(true)`. -/
def reapChild (script : ChildScript) (send : Send) (process : MediaProcess) : Option MediaProcess :=
  if process.childRunning = false then some process
  else if script.exited process.clock then startChild send process.looked.stopChild
  else some process.looked

def ensureRunning (script : ChildScript) (send : Send) (process : MediaProcess) : Option MediaProcess := do
  let process ← reapChild script send process
  if process.childRunning = false then startChild send process else return process

/-- `sendMessage` after `ensureRunning`: a closed socket starts the child
again, and the message is not sent. -/
def sendNow (script : ChildScript) (send : Send) (process : MediaProcess) (message : ControlMessage)
    (essential : Bool) : Option (Bool × MediaProcess) :=
  if process.childRunning = false then some (false, process)
  else if script.exited process.clock then
    (startChild send process.looked.stopChild).map fun process => (false, process)
  else if message.Fits ∧ (script.attempt process.clock message.type).taken essential = true then
    some (true, { process.looked with accepted := process.accepted ++ [message] })
  else some (false, process.looked)

def sendMessage (script : ChildScript) : (fuel : Nat) → Send
  | 0 => fun _ _ _ => none
  | fuel + 1 => fun process message essential => do
    let process ← ensureRunning script (sendMessage script fuel) process
    sendNow script (sendMessage script fuel) process message essential

def receiveReport (process : MediaProcess) : ChildReport → MediaProcess
  | .streamInfo text => { process with streamInfo := some text }
  | .fallbackVideoStatus text => { process with fallbackVideoStatus := some text }

/-- What is there is read; a reset connection starts the child again. -/
def drainChildMessages (script : ChildScript) (send : Send) (process : MediaProcess) : Option MediaProcess :=
  if process.childRunning = false then some process
  else
    let drained := (script.reports process.clock).foldl receiveReport process.looked
    if script.exited process.clock then startChild send drained.stopChild else some drained

/-- One round sends a chunk, so the buffer's length bounds the rounds. -/
def flushTransportBuffer (send : Send) : (rounds : Nat) → MediaProcess → Option MediaProcess
  | 0, process => some process
  | rounds + 1, process =>
    if process.transportBuffer = [] then some process
    else do
      let chunk := process.transportBuffer.take maxTransportPayload
      let (taken, process) ← send process ⟨.transportStream, chunk⟩ false
      if taken then
        flushTransportBuffer send rounds
          { process with transportBuffer := process.transportBuffer.drop maxTransportPayload }
      else return process

def select (send : Send) (process : MediaProcess) (input : Option ActiveInput) : Option MediaProcess :=
  let process := { process with active := input }
  sendIfChanged send process process.selectMessage

def setBeaconAllowed (send : Send) (process : MediaProcess) (allowed : Bool) : Option MediaProcess :=
  let process := { process with beaconAllowed := allowed }
  sendIfChanged send process process.beaconMessage

/-- The two assignments at the top of `setAccessNotice`. -/
def noticed (process : MediaProcess) (notice : Option Bytes) (endTone : Bool) : MediaProcess :=
  { process with accessNotice := notice, accessNoticeEndTone := notice.isSome && endTone }

def setAccessNotice (send : Send) (process : MediaProcess) (notice : Option Bytes) (endTone : Bool) :
    Option MediaProcess := do
  let process := process.noticed notice endTone
  let process ← sendIfChanged send process process.noticeMessage
  sendIfChanged send process process.toneMessage

def playFallbackVideo (send : Send) (process : MediaProcess) (path : Bytes) : Option MediaProcess :=
  let process := { process with
    fallbackVideoPath := some path
    fallbackVideoSeek := none
    fallbackVideoStatus := none
    mode := .fallbackVideo }
  sendRemembered send process ⟨.playFallbackVideo, stringPayload path⟩

def stopFallbackVideo (send : Send) (process : MediaProcess) : Option MediaProcess :=
  let process := { process with
    fallbackVideoPath := none
    fallbackVideoSeek := none
    fallbackVideoStatus := none
    mode := .fallback }
  sendRemembered send process ⟨.stopFallbackVideo, []⟩

def seekFallbackVideo (send : Send) (process : MediaProcess) (position : Int) : Option MediaProcess :=
  let process := { process with fallbackVideoSeek := some (max 0 position) }
  sendRemembered send process ⟨.seekFallbackVideo, int64Payload (max 0 position)⟩

def setPreviewEnabled (send : Send) (process : MediaProcess) (enabled : Bool) : Option MediaProcess :=
  let process := { process with previewEnabled := enabled }
  sendIfChanged send process process.previewMessage

def reconfigurePluto (send : Send) (process : MediaProcess) (transmitEnabled : Bool) : Option MediaProcess :=
  sendRemembered send process ⟨.reconfigurePluto, boolPayload transmitEnabled⟩

/-- The mode the parent believes its child to be in. -/
def believedMode (process : MediaProcess) : MediaPipelineMode :=
  if process.fallbackVideoPath.isSome then .fallbackVideo
  else if process.active.isSome then .retransmit
  else if process.config.fallback.enabled then .fallback
  else .idle

def tick (script : ChildScript) (send : Send) (process : MediaProcess) : Option MediaProcess := do
  let process ← drainChildMessages script send process
  let process := { process with mode := process.believedMode }
  let process ← flushTransportBuffer send process.transportBuffer.length process
  let (_, process) ← send process ⟨.tick, []⟩ false
  drainChildMessages script send process

/-- The oldest bytes go once the backlog is too long, whole packets of them. -/
def dropBacklog (process : MediaProcess) : MediaProcess :=
  if maxBufferedTransport < process.transportBuffer.length then
    let keepBytes := maxBufferedTransport / 2
    let alignedKeepBytes := keepBytes - keepBytes % transportPacketBytes
    { process with
      transportBuffer := process.transportBuffer.drop (process.transportBuffer.length - alignedKeepBytes) }
  else process

def write (send : Send) (process : MediaProcess) (packet : Bytes) : Option MediaProcess :=
  if packet = [] then some process
  else do
    let process := { process with transportBuffer := process.transportBuffer ++ packet }
    let process ← flushTransportBuffer send process.transportBuffer.length process
    return process.dropBacklog

end MediaProcess

/-- The public calls that talk to the child. -/
inductive ProcessCall where
  | select (input : Option ActiveInput)
  | setBeaconAllowed (allowed : Bool)
  | setAccessNotice (notice : Option Bytes) (endTone : Bool)
  | playFallbackVideo (path : Bytes)
  | stopFallbackVideo
  | seekFallbackVideo (position : Int)
  | setPreviewEnabled (enabled : Bool)
  | reconfigurePluto (transmitEnabled : Bool)
  | tick
  | write (packet : Bytes)
  deriving Repr, DecidableEq

namespace MediaProcess

/-- The constructor: the first child is started as any other is. -/
def construct (script : ChildScript) (fuel : Nat) (config : RepeaterConfig) : Option MediaProcess :=
  ensureRunning script (sendMessage script fuel) { config }

def call (script : ChildScript) (fuel : Nat) (process : MediaProcess) : ProcessCall → Option MediaProcess
  | .select input => select (sendMessage script fuel) process input
  | .setBeaconAllowed allowed => setBeaconAllowed (sendMessage script fuel) process allowed
  | .setAccessNotice notice endTone => setAccessNotice (sendMessage script fuel) process notice endTone
  | .playFallbackVideo path => playFallbackVideo (sendMessage script fuel) process path
  | .stopFallbackVideo => stopFallbackVideo (sendMessage script fuel) process
  | .seekFallbackVideo position => seekFallbackVideo (sendMessage script fuel) process position
  | .setPreviewEnabled enabled => setPreviewEnabled (sendMessage script fuel) process enabled
  | .reconfigurePluto transmitEnabled => reconfigurePluto (sendMessage script fuel) process transmitEnabled
  | .tick => tick script (sendMessage script fuel) process
  | .write packet => write (sendMessage script fuel) process packet

/-! ## What no message changes -/

/-- What the public calls set: a replay and the suppression are made from it. -/
def wishes (process : MediaProcess) :
    RepeaterConfig × Option ActiveInput × Bool × Bool × Option Bytes × Bool × Option Bytes × Option Int × Bytes :=
  (process.config, process.active, process.beaconAllowed, process.previewEnabled, process.accessNotice,
    process.accessNoticeEndTone, process.fallbackVideoPath, process.fallbackVideoSeek, process.transportBuffer)

variable {process other : MediaProcess}

theorem replayMessages_of_wishes (same : other.wishes = process.wishes) :
    other.replayMessages = process.replayMessages := by
  simp only [wishes, Prod.mk.injEq] at same
  obtain ⟨-, active, beacon, preview, notice, tone, path, seek, -⟩ := same
  simp only [replayMessages, selectMessage, beaconMessage, noticeMessage, toneMessage, previewMessage,
    videoMessages, active, beacon, preview, notice, tone, path, seek]

theorem transportBuffer_of_wishes (same : other.wishes = process.wishes) :
    other.transportBuffer = process.transportBuffer := by
  simp only [wishes, Prod.mk.injEq] at same
  exact same.2.2.2.2.2.2.2.2

@[simp] theorem remember_wishes (message : ControlMessage) : (process.remember message).wishes = process.wishes := by
  unfold remember
  cases message.type <;> rfl

@[simp] theorem remember_childRunning (message : ControlMessage) :
    (process.remember message).childRunning = process.childRunning := by
  unfold remember
  cases message.type <;> rfl

@[simp] theorem remember_clock (message : ControlMessage) : (process.remember message).clock = process.clock := by
  unfold remember
  cases message.type <;> rfl

@[simp] theorem remember_starts (message : ControlMessage) :
    (process.remember message).starts = process.starts := by
  unfold remember
  cases message.type <;> rfl

@[simp] theorem remember_accepted (message : ControlMessage) :
    (process.remember message).accepted = process.accepted := by
  unfold remember
  cases message.type <;> rfl

/-- A child that has just been started is running when it is replayed to. -/
theorem startChild_eq (send : Send) (process : MediaProcess) :
    startChild send process = process.replayMessages.foldlM (sendRemembered send) process.forked := by
  have same : process.forked.replayMessages = process.replayMessages := replayMessages_of_wishes rfl
  simp [startChild, replayState, same, show process.forked.childRunning = true from rfl]

end MediaProcess
end WhRepeater
