import WhRepeater.AccessMessages
import WhRepeater.ReceiversOnAir

/-! The loop of the PC daemon (`Daemon::runPcGateway`), from the sources that are
available to the notice it hands to the media process. Reloads are left out. -/
namespace WhRepeater

def kPcAccessNoticeHold : Duration := seconds 10

/-- The locals that describe the session of one source. -/
structure SourceSession where
  input : Option ActiveInput := none
  serviceName : Option Bytes := none
  videoFormat : Option Bytes := none
  startedAt : Time := 0
  wasActive : Bool := false
  deriving Repr, DecidableEq

/-- The locals of the loop, then what `setAccessNotice` was handed last. -/
structure PcGatewayLoop where
  config : RepeaterConfig
  activeSourceFamily : Option ActiveSourceFamily := none
  active : Option ActiveInput := none
  mediaActive : Option ActiveInput := none
  pcSession : SourceSession := {}
  analogueSession : SourceSession := {}
  accessNotice : Option Bytes := none
  accessNoticeEndTone : Bool := false
  accessNoticeUntil : Time := 0
  handed : Option (Option Bytes × Bool) := none

/-- What comes from outside in one iteration: the gateway input while it is
active, the latest status of the Pi, the debounced capture status, whether the
capture device exists, and the stream info of the media process. -/
structure PcIteration where
  now : Time := 0
  gatewayActive : Option ActiveInput := none
  latestRemoteGatewayStatus : Option Bytes := none
  gatedAnalogueStatus : AnalogueStatus := {}
  deviceExists : Bool := false
  latestMediaStreamInfo : Option Bytes := none
  deriving Repr, DecidableEq

namespace SourceSession

/-- What a session has learnt of its stream. -/
def observe (session : SourceSession) (media : ActiveInput) (streamInfo : Option Bytes) : SourceSession :=
  let serviceName := (media.status.serviceName.bind nonempty).or session.serviceName
  { session with
    serviceName := (streamInfo.bind serviceFromStreamInfo).or serviceName
    videoFormat := (streamInfo.bind videoFormatFromStreamInfo).or session.videoFormat }

def reset (session : SourceSession) : SourceSession :=
  { session with input := none, serviceName := none, videoFormat := none }

/-- The input of a session that was active. -/
def ended (session : SourceSession) : Option ActiveInput := if session.wasActive then session.input else none

end SourceSession

namespace PcGatewayLoop

/-- The gateway input, and what is shown of it. -/
def gatewayInputs (stod : Bytes → Option DoubleBits) (iteration : PcIteration) :
    Except String (Option (ActiveInput × ActiveInput)) :=
  match iteration.gatewayActive with
  | none => return none
  | some input => return some (input, ← mediaDisplayInput stod input (iteration.latestRemoteGatewayStatus.getD []))

def analogueInput (loop : PcGatewayLoop) (iteration : PcIteration) : Option ActiveInput :=
  analogueActiveInput loop.config iteration.gatedAnalogueStatus iteration.deviceExists

def onAir (loop : PcGatewayLoop) (family : ActiveSourceFamily) (active mediaActive : ActiveInput) : PcGatewayLoop :=
  { loop with activeSourceFamily := some family, active := some active, mediaActive := some mediaActive }

def offAir (loop : PcGatewayLoop) : PcGatewayLoop :=
  { loop with activeSourceFamily := none, active := none, mediaActive := none }

/-- The family on air goes on, or gives way. -/
def continueFamily (loop : PcGatewayLoop) (gateway : Option (ActiveInput × ActiveInput)) (analogueActive : Option ActiveInput) :
    PcGatewayLoop :=
  match loop.activeSourceFamily with
  | some .nimOrGateway => gateway.elim loop.offAir fun inputs => loop.onAir .nimOrGateway inputs.1 inputs.2
  | some .analogue => analogueActive.elim loop.offAir fun input => loop.onAir .analogue input input
  | none => loop.offAir

def selectSource (loop : PcGatewayLoop) (gateway : Option (ActiveInput × ActiveInput)) (analogueActive : Option ActiveInput) :
    PcGatewayLoop :=
  let loop := loop.continueFamily gateway analogueActive
  if loop.activeSourceFamily = none then
    match gateway with
    | some (active, mediaActive) => loop.onAir .nimOrGateway active mediaActive
    | none => analogueActive.elim loop fun input => loop.onAir .analogue input input
  else loop

variable (oneDecimal : DoubleBits → Bytes)

/-- The notice of a session that has ended. -/
def leave (loop : PcGatewayLoop) (session : SourceSession) (input : ActiveInput) (now : Time) : PcGatewayLoop :=
  { loop with
    accessNotice := some (postAccessMessage oneDecimal loop.config input {
      activeDuration := some (now - session.startedAt)
      serviceOverride := session.serviceName
      videoFormat := session.videoFormat })
    accessNoticeEndTone := true
    accessNoticeUntil := now + kPcAccessNoticeHold }

def gatewayNotice (loop : PcGatewayLoop) (media : ActiveInput) (iteration : PcIteration) : PcGatewayLoop :=
  let session := if loop.pcSession.wasActive then loop.pcSession else { loop.pcSession.reset with startedAt := iteration.now }
  let session := if hasSpecificDisplayInput media ∨ session.input = none then { session with input := some media } else session
  { loop with
    accessNotice := some (accessMessage oneDecimal loop.config media)
    accessNoticeEndTone := false
    pcSession := { session.observe media iteration.latestMediaStreamInfo with wasActive := true }
    analogueSession :=
      if loop.analogueSession.ended.isSome then { loop.analogueSession.reset with wasActive := false }
      else loop.analogueSession }

/-- The gateway session has ended, if there was one. -/
def leavePc (loop : PcGatewayLoop) (now : Time) : PcGatewayLoop :=
  match loop.pcSession.ended with
  | some input => { loop.leave oneDecimal loop.pcSession input now with pcSession := { loop.pcSession with wasActive := false } }
  | none => loop

def analogueNotice (loop : PcGatewayLoop) (media : ActiveInput) (iteration : PcIteration) : PcGatewayLoop :=
  let loop := loop.leavePc oneDecimal iteration.now
  let session :=
    if loop.analogueSession.wasActive then loop.analogueSession
    else { loop.analogueSession.reset with startedAt := iteration.now }
  { loop with
    accessNotice := some (accessMessage oneDecimal loop.config media)
    accessNoticeEndTone := false
    analogueSession :=
      { ({ session with input := some media } : SourceSession).observe media iteration.latestMediaStreamInfo with wasActive := true } }

def idleNotice (loop : PcGatewayLoop) (now : Time) : PcGatewayLoop :=
  match loop.pcSession.ended, loop.analogueSession.ended with
  | some input, _ => { loop.leave oneDecimal loop.pcSession input now with pcSession := { loop.pcSession with wasActive := false } }
  | none, some input =>
    { loop.leave oneDecimal loop.analogueSession input now with
      analogueSession := { loop.analogueSession.reset with wasActive := false } }
  | none, none =>
    if loop.accessNotice.isSome = true ∧ loop.accessNoticeUntil ≤ now then
      { loop with accessNotice := none, accessNoticeEndTone := false }
    else loop

def updateNotice (loop : PcGatewayLoop) (iteration : PcIteration) : PcGatewayLoop :=
  match loop.activeSourceFamily, loop.mediaActive with
  | some .nimOrGateway, some media => loop.gatewayNotice oneDecimal media iteration
  | some .analogue, some media => loop.analogueNotice oneDecimal media iteration
  | _, _ => loop.idleNotice oneDecimal iteration.now

def iterate (stod : Bytes → Option DoubleBits) (loop : PcGatewayLoop) (iteration : PcIteration) : Except String PcGatewayLoop := do
  let gateway ← gatewayInputs stod iteration
  let loop := (loop.selectSource gateway (loop.analogueInput iteration)).updateNotice oneDecimal iteration
  return { loop with handed := some (loop.accessNotice, loop.accessNoticeEndTone) }

/-- An exception ends the daemon. -/
def step (stod : Bytes → Option DoubleBits) (loop : PcGatewayLoop) (iteration : PcIteration) : Option PcGatewayLoop :=
  (loop.iterate oneDecimal stod iteration).toOption

end PcGatewayLoop
end WhRepeater
