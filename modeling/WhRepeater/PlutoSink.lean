import WhRepeater.Config

/-! The Pluto output (`pluto_sink.cpp`): transport datagrams over UDP, the HDMI
preview mirror and the MQTT control of the transmitter. The record keeps what
has gone out beside the members of the class. The broker takes every publish,
sockets open, and the configured address is a valid one. -/
namespace WhRepeater

def tsPacketSize : Nat := 188

def packetsPerDatagram : Nat := 7

def datagramSize : Nat := tsPacketSize * packetsPerDatagram

/-- The members of the class, then what it has put on the network, the latest
first. -/
structure PlutoSink where
  config : PlutoConfig
  socket : Bool := false
  previewSocket : Bool := false
  datagram : Bytes := []
  previewDatagram : Bytes := []
  configured : Bool := false
  transmitEnabled : Bool := false
  previewEnabled : Bool := false
  published : List (Bytes × Bytes) := []
  sent : List Bytes := []
  previewed : List Bytes := []
  deriving Repr, DecidableEq

def mqttDeviceId (config : PlutoConfig) : Bytes :=
  if config.mqttDeviceId = [] then config.callsign else config.mqttDeviceId

/-- `std::to_string`. -/
def decimal [ToString α] (value : α) : Bytes := bytes (toString value)

def tsSourceAddress (config : PlutoConfig) : Bytes :=
  config.address ++ bytes ":" ++ decimal config.port

def controlTopic (config : PlutoConfig) (suffix : Bytes) : Bytes :=
  bytes "cmd/pluto/" ++ mqttDeviceId config ++ bytes "/" ++ suffix

namespace PlutoSink

def publishMqtt (sink : PlutoSink) (topic payload : Bytes) : PlutoSink :=
  { sink with published := (topic, payload) :: sink.published }

def publishControl (sink : PlutoSink) (suffix payload : Bytes) : PlutoSink :=
  if sink.config.mqttEnabled = false ∨ mqttDeviceId sink.config = [] then sink
  else sink.publishMqtt (controlTopic sink.config suffix) payload

def publishTransmitState (sink : PlutoSink) (enabled : Bool) : PlutoSink :=
  if enabled then
    (sink.publishControl (bytes "tx/stream/run") (bytes "1")).publishControl (bytes "tx/mute") (bytes "0")
  else
    (sink.publishControl (bytes "tx/mute") (bytes "1")).publishControl (bytes "tx/stream/run") (bytes "0")

/-- The controls `configureTransmitter` publishes after the callsign, in order. -/
def transmitterControls (config : PlutoConfig) : List (Bytes × Bytes) :=
  [(bytes "tx/gain", decimal config.txGainDb),
    (bytes "tx/mute", bytes "1"),
    (bytes "tx/frequency", decimal config.txFrequencyHz),
    (bytes "tx/nco", decimal config.ncoHz),
    (bytes "tx/dvbs2/sr", decimal config.symbolRateS),
    (bytes "tx/dvbs2/tssourcemode", bytes "0"),
    (bytes "tx/dvbs2/tssourceaddress", tsSourceAddress config)] ++
  if config.system = bytes "dvbs" then
    [(bytes "tx/stream/mode", bytes "dvbs"),
      (bytes "tx/dvbs2/fec", config.fec)]
  else
    [(bytes "tx/stream/mode", bytes "dvbs2-ts"),
      (bytes "tx/dvbs2/fec", config.fec),
      (bytes "tx/dvbs2/constel", config.constellation),
      (bytes "tx/dvbs2/pilots", if config.pilots then bytes "1" else bytes "0"),
      (bytes "tx/dvbs2/frame", config.frame),
      (bytes "tx/dvbs2/fecmode", config.fecMode),
      (bytes "tx/dvbs2/gainvariable", bytes "-100"),
      (bytes "tx/dvbs2/agcgain", bytes "-100"),
      (bytes "tx/dvbs2/digitalgain", decimal config.digitalGainDb),
      (bytes "tx/dvbs2/firfilter", if config.firFilter then bytes "1" else bytes "0")]

def publishControls (sink : PlutoSink) (controls : List (Bytes × Bytes)) : PlutoSink :=
  controls.foldl (fun sink control => sink.publishControl control.1 control.2) sink

def configureTransmitter (sink : PlutoSink) : PlutoSink :=
  if sink.configured = true ∨ sink.config.mqttEnabled = false then sink
  else if mqttDeviceId sink.config = [] then { sink with configured := true }
  else
    let called :=
      if sink.config.mqttProtocol = bytes "tezuka" then sink
      else sink.publishMqtt (bytes "cmd/pluto/call") sink.config.callsign
    { called.publishControls (transmitterControls sink.config) with configured := true }

/-- `datagram_.clear(); closeSocket(socket_); socket_ = -1;` -/
def dropOutput (sink : PlutoSink) : PlutoSink := { sink with datagram := [], socket := false }

def setTransmitEnabled (sink : PlutoSink) (enabled : Bool) : PlutoSink :=
  if sink.transmitEnabled = enabled then sink
  else
    let sink := sink.configureTransmitter
    let sink := if enabled then sink else sink.dropOutput
    { sink.publishTransmitState enabled with transmitEnabled := enabled }

def reconfigureTransmitter (sink : PlutoSink) (transmitEnabled : Bool) : PlutoSink :=
  let sink := ({ sink with configured := false } : PlutoSink).configureTransmitter
  let sink := if transmitEnabled then sink else sink.dropOutput
  { sink.publishTransmitState transmitEnabled with transmitEnabled }

def flushDatagram (sink : PlutoSink) : PlutoSink :=
  if sink.datagram = [] then sink
  else { sink with sent := sink.datagram :: sink.sent, datagram := [] }

def flushPreviewDatagram (sink : PlutoSink) : PlutoSink :=
  if sink.previewDatagram = [] ∨ sink.previewSocket = false then { sink with previewDatagram := [] }
  else { sink with previewed := sink.previewDatagram :: sink.previewed, previewDatagram := [] }

def writePreviewData (sink : PlutoSink) (data : Bytes) : PlutoSink :=
  if sink.previewEnabled = false ∨ data = [] then sink
  else
    data.foldl (fun sink byte =>
      let sink := { sink with previewDatagram := sink.previewDatagram ++ [byte] }
      if sink.previewDatagram.length = datagramSize then sink.flushPreviewDatagram else sink)
      { sink with previewSocket := true }

def writeMuxData (sink : PlutoSink) (data : Bytes) : PlutoSink :=
  if data = [] then sink
  else
    let sink := sink.configureTransmitter.writePreviewData data
    if sink.transmitEnabled = false then { sink with datagram := [] }
    else
      data.foldl (fun sink byte =>
        let sink := { sink with datagram := sink.datagram ++ [byte] }
        if sink.datagram.length = datagramSize then sink.flushDatagram else sink)
        { sink with socket := true }

def setPreviewEnabled (sink : PlutoSink) (enabled : Bool) : PlutoSink :=
  if sink.previewEnabled = enabled then sink
  else
    let sink := if enabled then sink else sink.flushPreviewDatagram
    { sink with previewEnabled := enabled }

/-! ## What the broker last saw -/

/-- The last payload published on a control topic of the device. -/
def lastControl (sink : PlutoSink) (suffix : Bytes) : Option Bytes :=
  (sink.published.find? fun message => message.1 == controlTopic sink.config suffix).map Prod.snd

/-- With MQTT enabled and a device id set, `tx/mute` was last told `0` exactly
if the sink believes it transmits, and a transmitting sink is configured. -/
def MuteFollows (sink : PlutoSink) : Prop :=
  sink.config.mqttEnabled = true → mqttDeviceId sink.config ≠ [] →
    (sink.lastControl (bytes "tx/mute") = some (bytes "0") ↔ sink.transmitEnabled = true) ∧
      (sink.transmitEnabled = true → sink.configured = true)

variable {sink : PlutoSink} {pluto : PlutoConfig} {suffix payload asked : Bytes}

theorem controlTopic_inj : controlTopic pluto suffix = controlTopic pluto asked ↔ suffix = asked := by
  simp [controlTopic]

@[simp] theorem publishControl_config : (sink.publishControl suffix payload).config = sink.config := by
  unfold publishControl
  split <;> rfl

@[simp] theorem publishControl_transmitEnabled :
    (sink.publishControl suffix payload).transmitEnabled = sink.transmitEnabled := by
  unfold publishControl
  split <;> rfl

@[simp] theorem publishControl_configured :
    (sink.publishControl suffix payload).configured = sink.configured := by
  unfold publishControl
  split <;> rfl

theorem lastControl_publishControl (mqtt : sink.config.mqttEnabled = true)
    (device : mqttDeviceId sink.config ≠ []) :
    (sink.publishControl suffix payload).lastControl asked =
      if suffix = asked then some payload else sink.lastControl asked := by
  have taken : sink.publishControl suffix payload =
      sink.publishMqtt (controlTopic sink.config suffix) payload := by
    simp [publishControl, mqtt, device]
  rw [taken]
  by_cases same : suffix = asked
  · simp [lastControl, publishMqtt, same]
  · have apart : controlTopic sink.config suffix ≠ controlTopic sink.config asked :=
      fun topics => same (controlTopic_inj.mp topics)
    simp [lastControl, publishMqtt, same, apart]

@[simp] theorem publishControls_config (controls : List (Bytes × Bytes)) :
    (sink.publishControls controls).config = sink.config := by
  induction controls generalizing sink with
  | nil => rfl
  | cons control rest ih => exact ih.trans publishControl_config

@[simp] theorem publishControls_transmitEnabled (controls : List (Bytes × Bytes)) :
    (sink.publishControls controls).transmitEnabled = sink.transmitEnabled := by
  induction controls generalizing sink with
  | nil => rfl
  | cons control rest ih => exact ih.trans publishControl_transmitEnabled

/-- After a list of controls the last payload on a topic is the list's last
one for it. -/
theorem lastControl_publishControls (sink : PlutoSink) (mqtt : sink.config.mqttEnabled = true)
    (device : mqttDeviceId sink.config ≠ []) (controls : List (Bytes × Bytes)) :
    (sink.publishControls controls).lastControl asked =
      controls.foldl (fun last control => if control.1 = asked then some control.2 else last)
        (sink.lastControl asked) := by
  induction controls generalizing sink with
  | nil => rfl
  | cons control rest ih =>
    refine (ih (sink.publishControl control.1 control.2) (by simpa using mqtt)
      (by simpa using device)).trans ?_
    rw [lastControl_publishControl mqtt device]
    rfl

/-- Whatever the modulation, configuring the transmitter mutes it. -/
theorem transmitterControls_mute (config : PlutoConfig) (last : Option Bytes) :
    (transmitterControls config).foldl
      (fun last control => if control.1 = bytes "tx/mute" then some control.2 else last) last =
      some (bytes "1") := by
  unfold transmitterControls
  split <;> simp [bytes_inj]

@[simp] theorem configureTransmitter_config : sink.configureTransmitter.config = sink.config := by
  unfold configureTransmitter
  split
  · rfl
  · split
    · rfl
    · split <;> simp [publishMqtt]

@[simp] theorem configureTransmitter_transmitEnabled :
    sink.configureTransmitter.transmitEnabled = sink.transmitEnabled := by
  unfold configureTransmitter
  split
  · rfl
  · split
    · rfl
    · split <;> simp [publishMqtt]

/-- Configuring does nothing the second time, and mutes the first time. -/
theorem configureTransmitter_mute (mqtt : sink.config.mqttEnabled = true)
    (device : mqttDeviceId sink.config ≠ []) :
    sink.configureTransmitter.configured = true ∧
    sink.configureTransmitter.lastControl (bytes "tx/mute") =
      if sink.configured then sink.lastControl (bytes "tx/mute") else some (bytes "1") := by
  by_cases done : sink.configured = true
  · simp [configureTransmitter, done]
  · unfold configureTransmitter
    rw [if_neg (by simp [done, mqtt]), if_neg device]
    refine ⟨rfl, ?_⟩
    rw [if_neg done]
    split
    · exact (lastControl_publishControls sink mqtt device _).trans (transmitterControls_mute _ _)
    · exact (lastControl_publishControls (sink.publishMqtt _ _) mqtt device _).trans
        (transmitterControls_mute _ _)

/-- Publishing the transmit state tells `tx/mute` the opposite of it. -/
theorem publishTransmitState_mute (mqtt : sink.config.mqttEnabled = true)
    (device : mqttDeviceId sink.config ≠ []) (enabled : Bool) :
    (sink.publishTransmitState enabled).lastControl (bytes "tx/mute") =
      some (if enabled then bytes "0" else bytes "1") := by
  cases enabled with
  | true =>
    simp only [publishTransmitState, ↓reduceIte]
    rw [lastControl_publishControl (by simpa using mqtt) (by simpa using device), if_pos rfl]
  | false =>
    simp only [publishTransmitState, Bool.false_eq_true, ↓reduceIte]
    rw [lastControl_publishControl (by simpa using mqtt) (by simpa using device), if_neg (by simp),
      lastControl_publishControl mqtt device, if_pos rfl]

@[simp] theorem publishTransmitState_config (enabled : Bool) :
    (sink.publishTransmitState enabled).config = sink.config := by
  cases enabled <;> simp [publishTransmitState]

@[simp] theorem publishTransmitState_configured (enabled : Bool) :
    (sink.publishTransmitState enabled).configured = sink.configured := by
  cases enabled <;> simp [publishTransmitState]

/-! ## The transmit flag and the broker -/

@[simp] theorem setTransmitEnabled_transmitEnabled (enabled : Bool) :
    (sink.setTransmitEnabled enabled).transmitEnabled = enabled := by
  unfold setTransmitEnabled
  split
  · assumption
  · rfl

@[simp] theorem reconfigureTransmitter_transmitEnabled (enabled : Bool) :
    (sink.reconfigureTransmitter enabled).transmitEnabled = enabled := rfl

@[simp] theorem reconfigureTransmitter_config (enabled : Bool) :
    (sink.reconfigureTransmitter enabled).config = sink.config := by
  cases enabled <;> simp [reconfigureTransmitter, dropOutput]

theorem start_muteFollows (config : PlutoConfig) : MuteFollows { config } := by
  simp [MuteFollows, lastControl]

/-- A configured sink that has just published its transmit state. -/
theorem published_muteFollows (configured : sink.config.mqttEnabled = true →
      mqttDeviceId sink.config ≠ [] → sink.configured = true) (enabled : Bool) :
    MuteFollows { sink.publishTransmitState enabled with transmitEnabled := enabled } := by
  intro mqtt device
  simp only [publishTransmitState_config] at mqtt device
  refine ⟨?_, fun _ => by simpa using configured mqtt device⟩
  have told := publishTransmitState_mute mqtt device enabled
  refine (iff_of_eq (congrArg (· = some (bytes "0")) told)).trans ?_
  cases enabled <;> simp

theorem setTransmitEnabled_muteFollows (follows : MuteFollows sink) (enabled : Bool) :
    MuteFollows (sink.setTransmitEnabled enabled) := by
  unfold setTransmitEnabled
  split
  · exact follows
  · refine published_muteFollows (fun mqtt device => ?_) enabled
    cases enabled <;>
      exact (configureTransmitter_mute (by simpa [dropOutput] using mqtt)
        (by simpa [dropOutput] using device)).1

theorem reconfigureTransmitter_muteFollows (enabled : Bool) :
    MuteFollows (sink.reconfigureTransmitter enabled) := by
  refine published_muteFollows (fun mqtt device => ?_) enabled
  cases enabled <;>
    exact (configureTransmitter_mute (by simpa [dropOutput] using mqtt)
      (by simpa [dropOutput] using device)).1

/-- The members the transmit flag's meaning rests on. -/
def control (sink : PlutoSink) : PlutoConfig × Bool × Bool × List (Bytes × Bytes) :=
  (sink.config, sink.configured, sink.transmitEnabled, sink.published)

theorem muteFollows_of_control {other : PlutoSink} (same : other.control = sink.control)
    (follows : MuteFollows sink) : MuteFollows other := by
  simp only [control, Prod.mk.injEq] at same
  obtain ⟨config, configured, transmit, published⟩ := same
  simpa only [MuteFollows, lastControl, config, configured, transmit, published] using follows

theorem flushPreviewDatagram_control (sink : PlutoSink) : sink.flushPreviewDatagram.control = sink.control := by
  unfold flushPreviewDatagram
  split <;> rfl

theorem flushDatagram_control : sink.flushDatagram.control = sink.control := by
  unfold flushDatagram
  split <;> rfl

theorem setPreviewEnabled_control (sink : PlutoSink) (enabled : Bool) :
    (sink.setPreviewEnabled enabled).control = sink.control := by
  unfold setPreviewEnabled
  split
  · rfl
  · cases enabled with
    | true => rfl
    | false => exact flushPreviewDatagram_control sink

/-- A fold over bytes that leaves a member alone at each byte. -/
theorem foldl_kept (member : PlutoSink → α) (data : Bytes) (each : PlutoSink → UInt8 → PlutoSink)
    (kept : ∀ sink byte, member (each sink byte) = member sink) :
    member (data.foldl each sink) = member sink := by
  induction data generalizing sink with
  | nil => rfl
  | cons byte rest ih => exact ih.trans (kept sink byte)

theorem writePreviewData_control (sink : PlutoSink) (data : Bytes) : (sink.writePreviewData data).control = sink.control := by
  unfold writePreviewData
  split
  · rfl
  · refine (foldl_kept control data _ fun sink byte => ?_).trans rfl
    dsimp only
    split
    · exact flushPreviewDatagram_control _
    · rfl

/-- Transport data leaves the transmit flag and the broker's view alone, up to
the first configuration. -/
theorem writeMuxData_control (sink : PlutoSink) (data : Bytes) :
    (sink.writeMuxData data).control = if data = [] then sink.control else sink.configureTransmitter.control := by
  unfold writeMuxData
  split
  · rfl
  · have preview := writePreviewData_control sink.configureTransmitter data
    dsimp only
    split
    · exact preview
    · refine (foldl_kept control data _ fun sink byte => ?_).trans preview
      split
      · exact flushDatagram_control
      · rfl

theorem configureTransmitter_muteFollows (follows : MuteFollows sink) :
    MuteFollows sink.configureTransmitter := by
  intro mqtt device
  simp only [configureTransmitter_config] at mqtt device
  obtain ⟨mute, ready⟩ := follows mqtt device
  obtain ⟨configured, last⟩ := configureTransmitter_mute mqtt device
  refine ⟨?_, fun _ => configured⟩
  rw [last, configureTransmitter_transmitEnabled]
  by_cases done : sink.configured = true
  · rwa [if_pos done]
  · rw [if_neg done]
    have muted : sink.transmitEnabled ≠ true := fun transmitting => done (ready transmitting)
    exact iff_of_false (by simp) muted

theorem writeMuxData_muteFollows (follows : MuteFollows sink) (data : Bytes) :
    MuteFollows (sink.writeMuxData data) := by
  have same := writeMuxData_control sink data
  split at same
  · exact muteFollows_of_control same follows
  · exact muteFollows_of_control same (configureTransmitter_muteFollows follows)

/-! ## The preview switch -/

@[simp] theorem publishControl_previewEnabled :
    (sink.publishControl suffix payload).previewEnabled = sink.previewEnabled := by
  unfold publishControl
  split <;> rfl

@[simp] theorem publishControls_previewEnabled (controls : List (Bytes × Bytes)) :
    (sink.publishControls controls).previewEnabled = sink.previewEnabled := by
  induction controls generalizing sink with
  | nil => rfl
  | cons control rest ih => exact ih.trans publishControl_previewEnabled

@[simp] theorem publishTransmitState_previewEnabled (enabled : Bool) :
    (sink.publishTransmitState enabled).previewEnabled = sink.previewEnabled := by
  cases enabled <;> simp [publishTransmitState]

@[simp] theorem configureTransmitter_previewEnabled :
    sink.configureTransmitter.previewEnabled = sink.previewEnabled := by
  unfold configureTransmitter
  split
  · rfl
  · split
    · rfl
    · split <;> simp [publishMqtt]

@[simp] theorem setTransmitEnabled_previewEnabled (enabled : Bool) :
    (sink.setTransmitEnabled enabled).previewEnabled = sink.previewEnabled := by
  unfold setTransmitEnabled
  split
  · rfl
  · cases enabled <;> simp [dropOutput]

@[simp] theorem reconfigureTransmitter_previewEnabled (enabled : Bool) :
    (sink.reconfigureTransmitter enabled).previewEnabled = sink.previewEnabled := by
  cases enabled <;> simp [reconfigureTransmitter, dropOutput]

@[simp] theorem setPreviewEnabled_previewEnabled (enabled : Bool) :
    (sink.setPreviewEnabled enabled).previewEnabled = enabled := by
  unfold setPreviewEnabled
  split
  · assumption
  · rfl

theorem writePreviewData_previewEnabled (data : Bytes) :
    (sink.writePreviewData data).previewEnabled = sink.previewEnabled := by
  unfold writePreviewData
  split
  · rfl
  · refine (foldl_kept previewEnabled data _ fun sink byte => ?_).trans rfl
    dsimp only
    split
    · unfold flushPreviewDatagram
      split <;> rfl
    · rfl

@[simp] theorem writeMuxData_previewEnabled (data : Bytes) :
    (sink.writeMuxData data).previewEnabled = sink.previewEnabled := by
  unfold writeMuxData
  split
  · rfl
  · have preview : (sink.configureTransmitter.writePreviewData data).previewEnabled = sink.previewEnabled :=
      (writePreviewData_previewEnabled data).trans configureTransmitter_previewEnabled
    dsimp only
    split
    · exact preview
    · refine (foldl_kept previewEnabled data _ fun sink byte => ?_).trans preview
      split
      · unfold flushDatagram
        split <;> rfl
      · rfl

end PlutoSink
end WhRepeater
