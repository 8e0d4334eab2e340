import WhRepeater.TextScan
import WhRepeater.ConfigText
import WhRepeater.TsGatewaySink

/-! The members of the API server and the status text it writes of them
(`api_server.cpp`). What the machine reports of itself is a text, and so is the
status of the Pi, whose members are searched for in it. -/
namespace WhRepeater

open TextScan

namespace ApiServer

structure AnalogueStatus where
  enabled : Bool := false
  present : Bool := false
  ready : Bool := false
  locked : Bool := false
  cameraRunning : Bool := false
  model : Bytes := []
  selectedSource : Bytes := []
  activeSource : Bytes := []
  firmwareVersion : Bytes := []
  longVersion : Bytes := []
  hardwareId : Bytes := []
  rawLock : UInt8 := 0
  updatedAt : Time := 0
  error : Option Bytes := none
  deriving Repr, DecidableEq

/-- The values are in the order of their keys. -/
structure PlutoMqttStatus where
  enabled : Bool := false
  connected : Bool := false
  host : Bytes := []
  port : UInt16 := 0
  protocol : Bytes := []
  deviceId : Bytes := []
  callsign : Bytes := []
  updatedAt : Time := 0
  error : Option Bytes := none
  values : List (Bytes × Bytes) := []
  deriving Repr, DecidableEq

structure ReceiverTransition where
  receiver : Option ReceiverId := none
  source : Bytes := []
  target : Bytes := []
  detail : Bytes := []
  updatedAt : Time := 0
  deriving Repr, DecidableEq

end ApiServer

/-- The members of the class. -/
structure ApiServer where
  repeaterConfig : RepeaterConfig := {}
  statuses : List ReceiverStatus := []
  analogueStatus : Option ApiServer.AnalogueStatus := none
  plutoStatus : Option ApiServer.PlutoMqttStatus := none
  tsGatewayStatus : Option TsGatewayStatus := none
  remoteGatewayStatusJson : Option Bytes := none
  receiverTransitions : List ApiServer.ReceiverTransition := []
  beaconScheduleActive : Bool := true
  previewRequested : Bool := false
  previewActive : Bool := false
  active : Option ActiveInput := none
  pendingConfig : Option RepeaterConfig := none
  pendingFallbackVideo : Option Bytes := none
  pendingFallbackVideoStop : Bool := false
  /-- Milliseconds. -/
  pendingFallbackVideoSeek : Option Int64 := none
  fallbackVideoStatusJson : Option Bytes := none
  pendingPreviewEnabled : Option Bool := none
  deriving Repr, DecidableEq

namespace ApiServer

/-! ## Texts -/

def member (name : String) (value : Bytes) : Bytes := code '"' :: bytes name ++ code '"' :: code ':' :: value

def object (members : List Bytes) : Bytes := code '{' :: separated [code ','] members ++ [code '}']

def array (items : List Bytes) : Bytes := code '[' :: separated [code ','] items ++ [code ']']

def boolean (flag : Bool) : Bytes := if flag then bytes "true" else bytes "false"

def orNull (write : α → Bytes) : Option α → Bytes
  | none => bytes "null"
  | some value => write value

def receiverStateName : ReceiverState → Bytes
  | .idle => bytes "idle"
  | .searching => bytes "searching"
  | .foundHeader => bytes "foundHeader"
  | .lockedDvbs => bytes "lockedDvbs"
  | .lockedDvbs2 => bytes "lockedDvbs2"
  | .lost => bytes "lost"
  | .timeout => bytes "timeout"
  | .fault => bytes "fault"

def optionalTargetJson : Option ScanTarget → Bytes := orNull fun target => object [
  member "frequencyKhz" (printNat target.frequencyKhz.toNat),
  member "symbolRateKs" (printNat target.symbolRateKs.toNat),
  member "localOscillatorKhz" (printNat target.localOscillatorKhz.toNat),
  member "antenna" (jsonString (antennaName target.antenna)),
  member "system" (jsonString (systemName target.system)),
  member "fec" (jsonString target.fec),
  member "label" (jsonString target.label)]

def receiverNimName (receiver : ReceiverId) : Bytes := if receiver.value ≤ 2 then bytes "A" else bytes "B"

def receiverTunerNumber (receiver : ReceiverId) : Int := if receiver.value = 1 ∨ receiver.value = 3 then 1 else 2

def receiverAntennaName (receiver : ReceiverId) : Bytes :=
  if receiver.value = 1 ∨ receiver.value = 3 then bytes "top" else bytes "bottom"

def updatedMsAgo (now updatedAt : Time) : Nat :=
  if now < updatedAt then 0 else ((now - updatedAt).tdiv 1000000).toNat

def receiverEnabled (config : RepeaterConfig) (receiver : ReceiverId) : Bool :=
  match config.receivers.find? fun configured => configured.receiver = receiver with
  | some configured => configured.enabled
  | none => true

/-! ## Values of members -/

def isBlank (ch : UInt8) : Bool := ch = 32 || ch = 9 || ch = 13 || ch = 10

theorem isBlank_digit {ch : UInt8} (digit : isDigit ch = true) : isBlank ch = false := by
  have other : ∀ byte, isDigit byte = false → ch ≠ byte := by
    rintro byte never rfl
    rw [digit] at never
    cases never
  simp [isBlank, other 32 rfl, other 9 rfl, other 13 rfl, other 10 rfl]

def trimJson (value : Bytes) : Except String Bytes :=
  let first := (value.takeWhile isBlank).length
  if first = value.length then return []
  else
    let last := value.length - 1 - (value.reverse.takeWhile isBlank).length
    substr value first (last - first + 1)

/-- Digits behind a sign, and nothing else. -/
def jsonInteger (value : Bytes) : Except String (Option Int) := do
  let value ← trimJson value
  let digits := if value.head? = some (code '-') then value.tail else value
  if digits = [] ∨ digits.all isDigit = false then return none
  else return some (if value.head? = some (code '-') then -digitsValue digits else digitsValue digits)

/-- What overflows wraps around, which the language leaves open. -/
def jsonIntValue (value : Bytes) : Except String (Option Int32) := do
  return (← jsonInteger value).map Int32.ofInt

def jsonInt64Value (value : Bytes) : Except String (Option Int64) := do
  return (← jsonInteger value).map Int64.ofInt

/-- The receivers of the array that are enabled, from a position on. What is no
array of objects is `none`. -/
def filterReceivers (config : RepeaterConfig) (body : Bytes) (position : Nat) (wrote : Bool) :
    Except String (Option Bytes) :=
  if _inside : position + 1 < body.length then
    let start := position + ((body.drop position).takeWhile fun ch => isSpace ch || ch = code ',').length
    match body.drop start with
    | [] => return some (bytes "]")
    | ch :: rest =>
      if ch = code ']' then return some (bytes "]")
      else if ch ≠ code '{' then return none
      else
        match _closed : enclosed (code '{') (code '}') 0 false false (ch :: rest) with
        | none => return none
        | some count => do
          let object ← substr body start count
          let id ← match ← jsonMember object (bytes "id") with
            | none => pure none
            | some value => jsonIntValue value
          let enabled := match id with
            | none => true
            | some id => receiverEnabled config ⟨id⟩
          let written := if enabled = false then [] else if wrote then code ',' :: object else object
          let others ← filterReceivers config body (start + count) (wrote || enabled)
          return others.map (written ++ ·)
  else return some (bytes "]")
termination_by body.length - position
decreasing_by
  have := enclosed_pos _closed
  omega

def filterReceiverArrayByConfig (receiversJson : Bytes) (config : RepeaterConfig) : Except String Bytes := do
  let body ← trimJson receiversJson
  if body.length < 2 ∨ body.head? ≠ some (code '[') ∨ body.getLast? ≠ some (code ']') then return receiversJson
  else
    match ← filterReceivers config body 1 false with
    | none => return receiversJson
    | some filtered => return code '[' :: filtered

/-! ## The status -/

variable (printDouble : DoubleBits → Bytes) (systemStats : Bytes → Bytes) (now : Time)

def analogueReceiverJson (config : RepeaterConfig) (analogue : AnalogueStatus) : Bytes :=
  let capture := config.analogue.capture
  let label := if capture.label = [] then bytes "Analogue" else capture.label
  let state := if analogue.present = false then bytes "fault" else if analogue.locked then bytes "lockedAnalogue"
    else if analogue.ready then bytes "idle" else bytes "fault"
  object [
    member "id" (printInt capture.receiver.value.toInt),
    member "name" (jsonString label),
    member "type" (jsonString (bytes "analogue")),
    member "deviceId" (jsonString capture.deviceId),
    member "state" (jsonString state),
    member "target" (bytes "null"),
    member "merDb" (bytes "null"),
    member "dNumberDb" (bytes "null"),
    member "serviceName" (jsonString label),
    member "modulation" (jsonString (bytes "SD analogue")),
    member "transportPackets" (bytes "0"),
    member "continuityErrors" (bytes "0"),
    member "updatedMsAgo" (printNat (updatedMsAgo now analogue.updatedAt)),
    member "present" (boolean analogue.present),
    member "detected" (boolean analogue.present),
    member "ready" (boolean analogue.ready),
    member "locked" (boolean analogue.locked),
    member "rawLock" (printNat analogue.rawLock.toNat),
    member "cameraRunning" (boolean analogue.cameraRunning),
    member "source" (jsonString (if analogue.activeSource = [] then analogue.selectedSource else analogue.activeSource)),
    member "firmwareVersion" (jsonString analogue.firmwareVersion),
    member "hardwareId" (jsonString analogue.hardwareId),
    member "error" (orNull jsonString analogue.error)]

def receiverStatusJson (mode : Bytes) (status : ReceiverStatus) : Bytes :=
  let gateway := mode = bytes "pc-gateway"
  let number := printInt status.receiver.value.toInt
  object [
    member "id" number,
    member "name" (jsonString (if gateway then bytes "Pi UDP gateway" else bytes "RX" ++ number)),
    member "type" (jsonString (if gateway then bytes "gateway" else bytes "nim")),
    member "deviceId" (jsonString (if gateway then bytes "udp-gateway" else bytes "nim" ++ number)),
    member "nim" (if gateway then bytes "null" else jsonString (receiverNimName status.receiver)),
    member "tuner" (if gateway then bytes "null" else printInt (receiverTunerNumber status.receiver)),
    member "antenna" (if gateway then bytes "null" else jsonString (receiverAntennaName status.receiver)),
    member "state" (jsonString (receiverStateName status.state)),
    member "target" (optionalTargetJson status.target),
    member "merDb" (orNull printDouble status.merDb),
    member "dNumberDb" (orNull printDouble status.dNumberDb),
    member "serviceName" (orNull jsonString status.serviceName),
    member "modulation" (orNull jsonString status.modulation),
    member "transportPackets" (printNat status.transportPackets.toNat),
    member "continuityErrors" (printNat status.continuityErrors.toNat),
    member "updatedMsAgo" (printNat (updatedMsAgo now status.updatedAt))]

def tsGatewayStatusJson (config : RepeaterConfig) : Option TsGatewayStatus → Bytes
  | some status => object [
      member "enabled" (boolean status.enabled),
      member "address" (jsonString status.address),
      member "port" (printNat status.port.toNat),
      member "activeReceiver" (orNull (fun receiver : ReceiverId => printInt receiver.value.toInt) status.activeReceiver),
      member "transportPackets" (printNat status.transportPackets.toNat),
      member "datagrams" (printNat status.datagrams.toNat),
      member "bytes" (printNat status.bytes.toNat),
      member "sendErrors" (printNat status.sendErrors.toNat),
      member "updatedMsAgo" (printNat (updatedMsAgo now status.updatedAt)),
      member "lastError" (orNull jsonString status.lastError)]
  | none => object [
      member "enabled" (bytes "false"),
      member "address" (jsonString config.tsGateway.address),
      member "port" (printNat config.tsGateway.port.toNat),
      member "activeReceiver" (bytes "null"),
      member "transportPackets" (bytes "0"),
      member "datagrams" (bytes "0"),
      member "bytes" (bytes "0"),
      member "sendErrors" (bytes "0"),
      member "updatedMsAgo" (bytes "null"),
      member "lastError" (bytes "null")]

def transitionJson (transition : ReceiverTransition) : Bytes := object [
  member "receiver" (orNull (fun receiver : ReceiverId => printInt receiver.value.toInt) transition.receiver),
  member "from" (jsonString transition.source),
  member "to" (jsonString transition.target),
  member "detail" (jsonString transition.detail),
  member "updatedMsAgo" (printNat (updatedMsAgo now transition.updatedAt))]

def analogueStatusJson (analogue : AnalogueStatus) : Bytes := object [
  member "enabled" (boolean analogue.enabled),
  member "present" (boolean analogue.present),
  member "ready" (boolean analogue.ready),
  member "locked" (boolean analogue.locked),
  member "cameraRunning" (boolean analogue.cameraRunning),
  member "model" (jsonString analogue.model),
  member "selectedSource" (jsonString analogue.selectedSource),
  member "activeSource" (jsonString analogue.activeSource),
  member "firmwareVersion" (jsonString analogue.firmwareVersion),
  member "longVersion" (jsonString analogue.longVersion),
  member "hardwareId" (jsonString analogue.hardwareId),
  member "rawLock" (printNat analogue.rawLock.toNat),
  member "updatedMsAgo" (printNat (updatedMsAgo now analogue.updatedAt)),
  member "error" (orNull jsonString analogue.error)]

def plutoStatusJson (pluto : PlutoMqttStatus) : Bytes := object [
  member "enabled" (boolean pluto.enabled),
  member "connected" (boolean pluto.connected),
  member "host" (jsonString pluto.host),
  member "port" (printNat pluto.port.toNat),
  member "protocol" (jsonString pluto.protocol),
  member "deviceId" (jsonString pluto.deviceId),
  member "callsign" (jsonString pluto.callsign),
  member "updatedMsAgo" (printNat (updatedMsAgo now pluto.updatedAt)),
  member "error" (orNull jsonString pluto.error),
  member "values" (object (pluto.values.map fun (key, value) => jsonString key ++ code ':' :: jsonString value))]

/-- The receivers the Pi wrote, those aside that are not enabled here, with the
analogue one behind them. -/
def remoteReceiversJson (config : RepeaterConfig) (analogue : Option AnalogueStatus) (receivers : Bytes) :
    Except String Bytes := do
  let filtered ← filterReceiverArrayByConfig receivers config
  match analogue with
  | none => return filtered
  | some analogue =>
    let body ← trimJson filtered
    if 2 ≤ body.length ∧ body.head? = some (code '[') ∧ body.getLast? = some (code ']') then do
      let contents ← trimJson (← substr body 1 (body.length - 2))
      return code '[' :: (if contents = [] then [] else contents ++ [code ',']) ++ analogueReceiverJson now config analogue ++
        [code ']']
    else return filtered

/-- The receivers of this process that are enabled, and the analogue one. -/
def receiversJson (config : RepeaterConfig) (analogue : Option AnalogueStatus) (statuses : List ReceiverStatus) : Bytes :=
  array ((statuses.filter fun status => receiverEnabled config status.receiver).map
    (receiverStatusJson printDouble now config.mode) ++ (analogue.map (analogueReceiverJson now config)).toList)

/-- A member of what the Pi reports, on the PC. -/
def remoteMember (server : ApiServer) (name : String) : Except String (Option Bytes) :=
  if server.repeaterConfig.mode = bytes "pc-gateway" then
    match server.remoteGatewayStatusJson with
    | none => return none
    | some remoteStatus => if remoteStatus = [] then return none else jsonMember remoteStatus (bytes name)
  else return none

def memberOf (object : Option Bytes) (name : String) : Except String (Option Bytes) :=
  match object with
  | none => return none
  | some object => jsonMember object (bytes name)

def activeReceiverJson (server : ApiServer) (remoteActive : Option Bytes) : Except String Bytes := do
  let config := server.repeaterConfig
  let ours := orNull (fun active : ActiveInput => printInt active.receiver.value.toInt) server.active
  if (server.active.map (·.receiver)) = some config.analogue.capture.receiver then return ours
  else
    match remoteActive with
    | none => return ours
    | some remoteActive =>
      match ← jsonIntValue remoteActive with
      | none => return remoteActive
      | some id => return if receiverEnabled config ⟨id⟩ then remoteActive else ours

def systemStatsJson (mode : Bytes) (remoteSystem remoteSystemLocal remoteSystemPi : Option Bytes) : Bytes :=
  if mode = bytes "pc-gateway" then
    object [member "pc" (systemStats mode),
      member "pi" (orNull id (remoteSystemPi.or (remoteSystemLocal.or remoteSystem)))]
  else if mode = bytes "ts-gateway" then object [member "pc" (bytes "null"), member "pi" (systemStats mode)]
  else object [member "local" (systemStats mode)]

def statusJson (server : ApiServer) : Except String Bytes := do
  let config := server.repeaterConfig
  let remoteActive ← remoteMember server "activeReceiver"
  let remoteReceivers ← remoteMember server "receivers"
  let remoteTransitions ← remoteMember server "receiverTransitions"
  let remoteSystem ← remoteMember server "systemStats"
  let remoteSystemLocal ← memberOf remoteSystem "local"
  let remoteSystemPi ← memberOf remoteSystem "pi"
  let analogue := server.analogueStatus.filter (·.enabled)
  let activeReceiver ← activeReceiverJson server remoteActive
  let receivers ← match remoteReceivers with
    | some remoteReceivers => remoteReceiversJson now config analogue remoteReceivers
    | none => pure (receiversJson printDouble now config analogue server.statuses)
  return object [
    member "mode" (jsonString config.mode),
    member "activeReceiver" activeReceiver,
    member "receivers" receivers,
    member "tsGateway" (tsGatewayStatusJson now config server.tsGatewayStatus),
    member "receiverTransitions" (match remoteTransitions with
      | some remoteTransitions => remoteTransitions
      | none => array (server.receiverTransitions.map (transitionJson now))),
    member "analogue" (orNull (analogueStatusJson now) server.analogueStatus),
    member "beaconSchedule" (object [
      member "enabled" (boolean config.beaconSchedule.enabled),
      member "active" (boolean server.beaconScheduleActive),
      member "startTime" (jsonString config.beaconSchedule.startTime),
      member "endTime" (jsonString config.beaconSchedule.endTime)]),
    member "preview" (object [
      member "requested" (boolean server.previewRequested),
      member "active" (boolean server.previewActive)]),
    member "fallbackVideo" (orNull id server.fallbackVideoStatusJson),
    member "systemStats" (systemStatsJson systemStats config.mode remoteSystem remoteSystemLocal remoteSystemPi),
    member "pluto" (orNull (plutoStatusJson now) server.plutoStatus)] ++ bytes "\n"

/-! ## No status throws -/

variable {printDouble systemStats now}

theorem completes_trimJson (value : Bytes) : Completes (trimJson value) := by
  unfold trimJson
  have short : (value.takeWhile isBlank).length ≤ value.length := List.IsPrefix.length_le <| List.takeWhile_prefix isBlank
  dsimp only
  split
  · exact completes_pure []
  · exact completes_substr short _

theorem completes_jsonInteger (value : Bytes) : Completes (jsonInteger value) := by
  refine completes_bind (completes_trimJson value) fun trimmed => ?_
  dsimp only
  generalize (if trimmed.head? = some (code '-') then trimmed.tail else trimmed) = digits
  split
  · exact completes_pure none
  · exact completes_pure _

theorem completes_jsonIntValue (value : Bytes) : Completes (jsonIntValue value) :=
  completes_bind (completes_jsonInteger value) fun _ => completes_pure _

theorem completes_filterReceivers (config : RepeaterConfig) (body : Bytes) (position : Nat) (wrote : Bool) :
    Completes (filterReceivers config body position wrote) := by
  fun_induction filterReceivers config body position wrote with
  | case1 => exact completes_pure _
  | case2 => exact completes_pure _
  | case3 => exact completes_pure _
  | case4 => exact completes_pure _
  | case5 position wrote inside start ch rest there bracket brace count closed ih =>
    have within : start ≤ body.length := by
      by_contra past
      rw [List.drop_eq_nil_of_le (by omega)] at there
      cases there
    refine completes_bind (completes_substr within count) fun object => ?_
    refine completes_bind (completes_jsonMember object _) fun found => ?_
    cases found with
    | none =>
      refine completes_bind (completes_pure none) fun id => ?_
      exact completes_bind (ih id) fun _ => completes_pure _
    | some value =>
      refine completes_bind (completes_jsonIntValue value) fun id => ?_
      exact completes_bind (ih id) fun _ => completes_pure _
  | case6 => exact completes_pure _

theorem completes_filterReceiverArrayByConfig (receivers : Bytes) (config : RepeaterConfig) :
    Completes (filterReceiverArrayByConfig receivers config) := by
  refine completes_bind (completes_trimJson receivers) fun body => ?_
  split
  · exact completes_pure _
  · refine completes_bind (completes_filterReceivers config body 1 false) fun filtered => ?_
    cases filtered with
    | none => exact completes_pure _
    | some filtered => exact completes_pure _

theorem completes_remoteReceiversJson (config : RepeaterConfig) (analogue : Option AnalogueStatus) (receivers : Bytes) :
    Completes (remoteReceiversJson now config analogue receivers) := by
  refine completes_bind (completes_filterReceiverArrayByConfig receivers config) fun filtered => ?_
  cases analogue with
  | none => exact completes_pure _
  | some analogue =>
    refine completes_bind (completes_trimJson filtered) fun body => ?_
    split
    · rename_i bracketed
      refine completes_bind (completes_substr (by omega) _) fun inside => ?_
      exact completes_bind (completes_trimJson inside) fun _ => completes_pure _
    · exact completes_pure _

theorem completes_remoteMember (server : ApiServer) (name : String) : Completes (remoteMember server name) := by
  unfold remoteMember
  repeat' split
  all_goals first
    | exact completes_pure none
    | exact completes_jsonMember _ _

theorem completes_memberOf (object : Option Bytes) (name : String) : Completes (memberOf object name) := by
  cases object with
  | none => exact completes_pure none
  | some object => exact completes_jsonMember _ _

theorem completes_activeReceiverJson (server : ApiServer) (remoteActive : Option Bytes) :
    Completes (activeReceiverJson server remoteActive) := by
  unfold activeReceiverJson
  dsimp only
  by_cases ours : server.active.map (·.receiver) = some server.repeaterConfig.analogue.capture.receiver
  · rw [if_pos ours]
    exact completes_pure _
  · rw [if_neg ours]
    cases remoteActive with
    | none => exact completes_pure _
    | some remoteActive =>
      refine completes_bind (completes_jsonIntValue remoteActive) fun id => ?_
      cases id with
      | none => exact completes_pure _
      | some id => exact completes_pure _

theorem completes_statusJson (server : ApiServer) : Completes (statusJson printDouble systemStats now server) := by
  refine completes_bind (completes_remoteMember server _) fun remoteActive => ?_
  refine completes_bind (completes_remoteMember server _) fun remoteReceivers => ?_
  refine completes_bind (completes_remoteMember server _) fun remoteTransitions => ?_
  refine completes_bind (completes_remoteMember server _) fun remoteSystem => ?_
  refine completes_bind (completes_memberOf remoteSystem _) fun remoteSystemLocal => ?_
  refine completes_bind (completes_memberOf remoteSystem _) fun remoteSystemPi => ?_
  refine completes_bind (completes_activeReceiverJson server remoteActive) fun activeReceiver => ?_
  cases remoteReceivers with
  | none => exact completes_bind (completes_pure _) fun _ => completes_pure _
  | some remoteReceivers => exact completes_bind (completes_remoteReceiversJson _ _ _) fun _ => completes_pure _

end ApiServer
end WhRepeater
