import WhRepeater.PlutoSink

/-! The control of the transmitter when publishes fail (`publishMqtt` and
`publishControl` in `pluto_sink.cpp`). A try may reach the broker or not, and may be
reported either way: a control is tried again when its first try is reported to
have failed, and what the sink does next does not depend on it. -/
namespace WhRepeater

/-- What becomes of a try, and what `publishMqtt` returns for it. -/
structure Try where
  taken : Bool
  reported : Bool
  deriving Repr, DecidableEq

structure Publish where
  message : Bytes × Bytes
  tries : List Try
  deriving Repr, DecidableEq

namespace Publish

/-- The message as often as it reached the broker. -/
def heard (publish : Publish) : List (Bytes × Bytes) :=
  List.replicate (publish.tries.countP Try.taken) publish.message

/-- One try, or a second one after a failure was reported. -/
def Tried (publish : Publish) : Prop :=
  ∃ first, publish.tries = [first] ∨ first.reported = false ∧ ∃ second, publish.tries = [first, second]

end Publish

/-- The sink, and its publishes with their tries, the latest first. `tried` counts the
tries so far. -/
structure PlutoLink where
  sink : PlutoSink
  publishes : List Publish := []
  tried : Nat := 0
  deriving Repr, DecidableEq

inductive PlutoCall where
  | setTransmitEnabled (enabled : Bool)
  | reconfigureTransmitter (transmitEnabled : Bool)
  | setPreviewEnabled (enabled : Bool)
  | writeMuxData (data : Bytes)
  deriving Repr, DecidableEq

def PlutoSink.call (sink : PlutoSink) : PlutoCall → PlutoSink
  | .setTransmitEnabled enabled => sink.setTransmitEnabled enabled
  | .reconfigureTransmitter transmitEnabled => sink.reconfigureTransmitter transmitEnabled
  | .setPreviewEnabled enabled => sink.setPreviewEnabled enabled
  | .writeMuxData data => sink.writeMuxData data

namespace PlutoLink

section

variable (fate : Nat → Try)

def record (link : PlutoLink) (topic payload : Bytes) (tries : List Try) : PlutoLink where
  sink := link.sink.publishMqtt topic payload
  publishes := { message := (topic, payload), tries } :: link.publishes
  tried := link.tried + tries.length

def publishMqtt (link : PlutoLink) (topic payload : Bytes) : PlutoLink :=
  link.record topic payload [fate link.tried]

def publishControl (link : PlutoLink) (suffix payload : Bytes) : PlutoLink :=
  if link.sink.config.mqttEnabled = false ∨ mqttDeviceId link.sink.config = [] then link
  else
    let first := fate link.tried
    link.record (controlTopic link.sink.config suffix) payload
      (if first.reported then [first] else [first, fate (link.tried + 1)])

def publishTransmitState (link : PlutoLink) (enabled : Bool) : PlutoLink :=
  if enabled then
    (link.publishControl fate (bytes "tx/stream/run") (bytes "1")).publishControl fate (bytes "tx/mute") (bytes "0")
  else
    (link.publishControl fate (bytes "tx/mute") (bytes "1")).publishControl fate (bytes "tx/stream/run") (bytes "0")

def publishControls (link : PlutoLink) (controls : List (Bytes × Bytes)) : PlutoLink :=
  controls.foldl (fun link control => link.publishControl fate control.1 control.2) link

/-- A step of the sink that publishes nothing. -/
def within (link : PlutoLink) (step : PlutoSink → PlutoSink) : PlutoLink := { link with sink := step link.sink }

def configureTransmitter (link : PlutoLink) : PlutoLink :=
  let finish := fun link : PlutoLink => link.within fun sink => { sink with configured := true }
  if link.sink.configured = true ∨ link.sink.config.mqttEnabled = false then link
  else if mqttDeviceId link.sink.config = [] then finish link
  else
    let called :=
      if link.sink.config.mqttProtocol = bytes "tezuka" then link
      else link.publishMqtt fate (bytes "cmd/pluto/call") link.sink.config.callsign
    finish (called.publishControls fate (PlutoSink.transmitterControls link.sink.config))

def setTransmitEnabled (link : PlutoLink) (enabled : Bool) : PlutoLink :=
  if link.sink.transmitEnabled = enabled then link
  else
    let link := link.configureTransmitter fate
    let link := if enabled then link else link.within PlutoSink.dropOutput
    (link.publishTransmitState fate enabled).within fun sink => { sink with transmitEnabled := enabled }

def reconfigureTransmitter (link : PlutoLink) (transmitEnabled : Bool) : PlutoLink :=
  let link := (link.within fun sink => { sink with configured := false }).configureTransmitter fate
  let link := if transmitEnabled then link else link.within PlutoSink.dropOutput
  (link.publishTransmitState fate transmitEnabled).within fun sink => { sink with transmitEnabled }

/-- Once the transmitter is configured, the data publish nothing. -/
def writeMuxData (link : PlutoLink) (data : Bytes) : PlutoLink :=
  if data = [] then link
  else (link.configureTransmitter fate).within fun sink => sink.writeMuxData data

def call (link : PlutoLink) : PlutoCall → PlutoLink
  | .setTransmitEnabled enabled => link.setTransmitEnabled fate enabled
  | .reconfigureTransmitter transmitEnabled => link.reconfigureTransmitter fate transmitEnabled
  | .setPreviewEnabled enabled => link.within (·.setPreviewEnabled enabled)
  | .writeMuxData data => link.writeMuxData fate data

end

variable {fate : Nat → Try} {link : PlutoLink} {suffix topic payload : Bytes} {tries : List Try}

/-! ## What the sink does rests on no outcome -/

@[simp] theorem publishMqtt_sink : (link.publishMqtt fate topic payload).sink = link.sink.publishMqtt topic payload := rfl

@[simp] theorem within_sink (step : PlutoSink → PlutoSink) : (link.within step).sink = step link.sink := rfl

@[simp] theorem publishControl_sink : (link.publishControl fate suffix payload).sink = link.sink.publishControl suffix payload := by
  unfold publishControl PlutoSink.publishControl
  split <;> rfl

@[simp] theorem publishTransmitState_sink (enabled : Bool) :
    (link.publishTransmitState fate enabled).sink = link.sink.publishTransmitState enabled := by
  cases enabled <;> simp [publishTransmitState, PlutoSink.publishTransmitState]

@[simp] theorem publishControls_sink (controls : List (Bytes × Bytes)) :
    (link.publishControls fate controls).sink = link.sink.publishControls controls := by
  induction controls generalizing link with
  | nil => rfl
  | cons control rest ih =>
    refine (@ih (link.publishControl fate control.1 control.2)).trans ?_
    rw [publishControl_sink]
    rfl

@[simp] theorem configureTransmitter_sink : (link.configureTransmitter fate).sink = link.sink.configureTransmitter := by
  unfold configureTransmitter PlutoSink.configureTransmitter
  split
  · rfl
  · split
    · rfl
    · split <;> simp

@[simp] theorem setTransmitEnabled_sink (enabled : Bool) :
    (link.setTransmitEnabled fate enabled).sink = link.sink.setTransmitEnabled enabled := by
  unfold setTransmitEnabled PlutoSink.setTransmitEnabled
  split
  · rfl
  · cases enabled <;> simp

@[simp] theorem reconfigureTransmitter_sink (enabled : Bool) :
    (link.reconfigureTransmitter fate enabled).sink = link.sink.reconfigureTransmitter enabled := by
  unfold reconfigureTransmitter PlutoSink.reconfigureTransmitter
  cases enabled <;> simp

theorem configureTransmitter_idem (sink : PlutoSink) :
    sink.configureTransmitter.configureTransmitter = sink.configureTransmitter := by
  by_cases off : sink.config.mqttEnabled = false
  · simp [PlutoSink.configureTransmitter, off]
  · have configured : sink.configureTransmitter.configured = true := by
      unfold PlutoSink.configureTransmitter
      split_ifs with done nameless
      · exact done.resolve_right off
      · rfl
      · rfl
      · rfl
    conv_lhs => rw [PlutoSink.configureTransmitter]
    rw [if_pos (.inl configured)]

@[simp] theorem writeMuxData_sink (data : Bytes) : (link.writeMuxData fate data).sink = link.sink.writeMuxData data := by
  unfold writeMuxData
  split
  case isTrue empty => simp [PlutoSink.writeMuxData, empty]
  case isFalse some =>
    rw [within_sink, configureTransmitter_sink]
    simp only [PlutoSink.writeMuxData, configureTransmitter_idem, if_neg some]

@[simp] theorem call_sink (call : PlutoCall) : (link.call fate call).sink = link.sink.call call := by
  cases call <;> simp [PlutoLink.call, PlutoSink.call]

/-! ## What the broker hears of it -/

/-- The publishes are those of the sink, each tried once or twice. -/
structure Accounted (link : PlutoLink) : Prop where
  messages : link.publishes.map Publish.message = link.sink.published
  tried : ∀ publish ∈ link.publishes, publish.Tried

theorem record_accounted (accounted : link.Accounted) (tried : ({ message := (topic, payload), tries } : Publish).Tried) :
    (link.record topic payload tries).Accounted := by
  refine ⟨?_, ?_⟩
  · simp [record, PlutoSink.publishMqtt, accounted.messages]
  · intro publish among
    obtain rfl | before := List.mem_cons.mp among
    · exact tried
    · exact accounted.tried publish before

theorem within_accounted (accounted : link.Accounted) {step : PlutoSink → PlutoSink}
    (same : (step link.sink).published = link.sink.published) : (link.within step).Accounted :=
  ⟨accounted.messages.trans same.symm, accounted.tried⟩

theorem publishControl_accounted (accounted : link.Accounted) : (link.publishControl fate suffix payload).Accounted := by
  unfold publishControl
  split
  · exact accounted
  · apply record_accounted accounted
    refine ⟨fate link.tried, ?_⟩
    cases reported : (fate link.tried).reported with
    | true => exact .inl rfl
    | false => exact .inr ⟨rfl, fate (link.tried + 1), rfl⟩

theorem publishTransmitState_accounted (accounted : link.Accounted) (enabled : Bool) :
    (link.publishTransmitState fate enabled).Accounted := by
  cases enabled <;> exact publishControl_accounted (publishControl_accounted accounted)

theorem publishControls_accounted (accounted : link.Accounted) (controls : List (Bytes × Bytes)) :
    (link.publishControls fate controls).Accounted := by
  induction controls generalizing link with
  | nil => exact accounted
  | cons control rest ih => exact ih (publishControl_accounted accounted)

theorem configureTransmitter_accounted (accounted : link.Accounted) : (link.configureTransmitter fate).Accounted := by
  unfold configureTransmitter
  dsimp only
  split
  · exact accounted
  · split
    · exact within_accounted accounted rfl
    · refine within_accounted (publishControls_accounted ?_ _) rfl
      split
      · exact accounted
      · exact record_accounted accounted ⟨fate link.tried, .inl rfl⟩

theorem finish_accounted (accounted : link.Accounted) (enabled : Bool) :
    (((if enabled then link else link.within PlutoSink.dropOutput).publishTransmitState fate enabled).within
      fun sink => { sink with transmitEnabled := enabled }).Accounted := by
  refine within_accounted (publishTransmitState_accounted ?_ enabled) rfl
  cases enabled with
  | true => exact accounted
  | false => exact within_accounted accounted rfl

/-- Transport data, once the transmitter is configured, publish nothing. -/
theorem writeMuxData_published (sink : PlutoSink) (data : Bytes) :
    (sink.configureTransmitter.writeMuxData data).published = sink.configureTransmitter.published := by
  have same := PlutoSink.writeMuxData_control sink.configureTransmitter data
  rw [configureTransmitter_idem, ite_self] at same
  exact congrArg (fun control => control.2.2.2) same

theorem call_accounted (accounted : link.Accounted) (call : PlutoCall) : (link.call fate call).Accounted := by
  cases call with
  | setTransmitEnabled enabled =>
    unfold PlutoLink.call setTransmitEnabled
    dsimp only
    split
    · exact accounted
    · exact finish_accounted (configureTransmitter_accounted accounted) enabled
  | reconfigureTransmitter transmitEnabled =>
    exact finish_accounted (configureTransmitter_accounted (within_accounted accounted rfl)) transmitEnabled
  | setPreviewEnabled enabled =>
    have same := PlutoSink.setPreviewEnabled_control link.sink enabled
    exact @within_accounted link accounted (·.setPreviewEnabled enabled) (congrArg (fun control => control.2.2.2) same)
  | writeMuxData data =>
    unfold PlutoLink.call writeMuxData
    dsimp only
    split
    · exact accounted
    · refine within_accounted (configureTransmitter_accounted accounted) ?_
      rw [configureTransmitter_sink]
      exact writeMuxData_published link.sink data

/-- The last payload that the broker heard on a control topic of the device. -/
def lastHeard (link : PlutoLink) (suffix : Bytes) : Option Bytes :=
  ((link.publishes.flatMap Publish.heard).find? fun message => message.1 == controlTopic link.sink.config suffix).map Prod.snd

/-- Of the latest message on the topic, if there is one, a try reached the broker. -/
def LatestTaken (link : PlutoLink) (suffix : Bytes) : Prop :=
  ∀ publish, (link.publishes.find? fun publish => publish.message.1 == controlTopic link.sink.config suffix) = some publish →
    publish.tries.any Try.taken = true

theorem find_heard {publishes : List Publish} {wanted : Bytes × Bytes → Bool}
    (taken : ∀ publish, (publishes.find? fun publish => wanted publish.message) = some publish →
      publish.tries.any Try.taken = true) :
    (publishes.flatMap Publish.heard).find? wanted = (publishes.map Publish.message).find? wanted := by
  induction publishes with
  | nil => rfl
  | cons publish rest ih =>
    rw [List.flatMap_cons, List.find?_append, List.map_cons]
    cases here : wanted publish.message with
    | true =>
      have reached := taken publish (by rw [List.find?_cons, here])
      have often : 0 < publish.tries.countP Try.taken := List.countP_pos_iff.mpr (by simpa using reached)
      rw [Publish.heard, List.find?_replicate_of_length_pos often]
      simp [here]
    | false =>
      have later := ih fun found first => taken found (by rw [List.find?_cons, here]; exact first)
      have silent : publish.heard.find? wanted = none := by
        rw [Publish.heard, List.find?_replicate]
        simp [here]
      rw [silent, Option.none_or, later, List.find?_cons, here]

theorem lastHeard_of_taken (accounted : link.Accounted) (taken : link.LatestTaken suffix) :
    link.lastHeard suffix = link.sink.lastControl suffix := by
  rw [lastHeard, PlutoSink.lastControl, ← accounted.messages]
  exact congrArg (Option.map Prod.snd) (@find_heard link.publishes (fun message => message.1 == controlTopic link.sink.config suffix) taken)

/-! ## Runs -/

def run (fate : Nat → Try) (link : PlutoLink) (calls : List PlutoCall) : PlutoLink := calls.foldl (PlutoLink.call fate) link

theorem run_sink (calls : List PlutoCall) : (link.run fate calls).sink = calls.foldl PlutoSink.call link.sink := by
  induction calls generalizing link with
  | nil => rfl
  | cons call rest ih =>
    refine (@ih (link.call fate call)).trans ?_
    rw [call_sink]
    rfl

theorem run_accounted (accounted : link.Accounted) (calls : List PlutoCall) : (link.run fate calls).Accounted := by
  induction calls generalizing link with
  | nil => exact accounted
  | cons call rest ih => exact ih (call_accounted accounted call)

end PlutoLink

namespace PlutoSink

theorem call_muteFollows {sink : PlutoSink} (follows : MuteFollows sink) (call : PlutoCall) : MuteFollows (sink.call call) := by
  cases call with
  | setTransmitEnabled enabled => exact setTransmitEnabled_muteFollows follows enabled
  | reconfigureTransmitter transmitEnabled => exact reconfigureTransmitter_muteFollows transmitEnabled
  | setPreviewEnabled enabled => exact muteFollows_of_control (setPreviewEnabled_control sink enabled) follows
  | writeMuxData data => exact writeMuxData_muteFollows follows data

theorem calls_muteFollows {sink : PlutoSink} (follows : MuteFollows sink) (calls : List PlutoCall) :
    MuteFollows (calls.foldl call sink) := by
  induction calls generalizing sink with
  | nil => exact follows
  | cons call rest ih => exact ih (call_muteFollows follows call)

@[simp] theorem setTransmitEnabled_config {sink : PlutoSink} (enabled : Bool) :
    (sink.setTransmitEnabled enabled).config = sink.config := by
  unfold setTransmitEnabled
  split
  · rfl
  · cases enabled <;> simp [dropOutput]

theorem call_config (sink : PlutoSink) (call : PlutoCall) : (sink.call call).config = sink.config := by
  cases call with
  | setTransmitEnabled enabled => exact setTransmitEnabled_config enabled
  | reconfigureTransmitter transmitEnabled => exact reconfigureTransmitter_config transmitEnabled
  | setPreviewEnabled enabled => exact congrArg Prod.fst (setPreviewEnabled_control sink enabled)
  | writeMuxData data =>
    have same := congrArg Prod.fst (writeMuxData_control sink data)
    split at same
    · exact same
    · exact same.trans configureTransmitter_config

theorem calls_config (sink : PlutoSink) (calls : List PlutoCall) : (calls.foldl call sink).config = sink.config := by
  induction calls generalizing sink with
  | nil => rfl
  | cons call rest ih => exact (ih (sink.call call)).trans (call_config sink call)

end PlutoSink

/-- Whatever becomes of the tries, the sink publishes what it would if none failed,
each message in one try or two; and when a try of the latest `tx/mute` reached the
broker, the last that it heard is `0` exactly if the sink believes it transmits. -/
theorem transmitter_hears_mute (fate : Nat → Try) (config : PlutoConfig) (calls : List PlutoCall)
    (mqtt : config.mqttEnabled = true) (device : mqttDeviceId config ≠ []) :
    let final := PlutoLink.run fate { sink := { config } } calls
    final.sink = calls.foldl PlutoSink.call { config } ∧
      final.publishes.map Publish.message = final.sink.published ∧
      (∀ publish ∈ final.publishes, publish.Tried) ∧
      (final.LatestTaken (bytes "tx/mute") →
        (final.lastHeard (bytes "tx/mute") = some (bytes "0") ↔ final.sink.transmitEnabled = true)) := by
  intro final
  have plain : final.sink = calls.foldl PlutoSink.call { config } := PlutoLink.run_sink calls
  have accounted : final.Accounted := PlutoLink.run_accounted ⟨rfl, by simp⟩ calls
  refine ⟨plain, accounted.messages, accounted.tried, fun taken => ?_⟩
  have follows : PlutoSink.MuteFollows final.sink := by
    rw [plain]
    exact PlutoSink.calls_muteFollows (PlutoSink.start_muteFollows config) calls
  have same : final.sink.config = config := by
    rw [plain]
    exact PlutoSink.calls_config _ calls
  rw [PlutoLink.lastHeard_of_taken accounted taken]
  exact (follows (by rw [same]; exact mqtt) (by rw [same]; exact device)).1

/-- Every first try is reported to have failed, though the broker took it. -/
def answersLost (number : Nat) : Try := ⟨true, number % 2 = 1⟩

theorem transmitter_hears_mute_answersLost :
    (PlutoLink.run answersLost { sink := { config := {} } } [.setTransmitEnabled true]).lastHeard (bytes "tx/mute") =
      some (bytes "0") := by
  have heard := (transmitter_hears_mute answersLost {} [.setTransmitEnabled true] rfl (by decide)).2.2.2
  refine (heard ?_).mpr rfl
  intro publish latest
  have taken : ∀ publish ∈ (PlutoLink.run answersLost { sink := { config := {} } } [.setTransmitEnabled true]).publishes,
      publish.tries.any Try.taken = true := by decide
  exact taken publish (List.mem_of_find?_eq_some latest)

end WhRepeater
