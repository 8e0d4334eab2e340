import WhRepeater.RemoteReceiver

/-! The texts of the access notices (`daemon.cpp`): what the PC shows of an input
while it is on air, and of the session it leaves behind. How a number is written
with one decimal is a parameter. -/
namespace WhRepeater

open TextScan

def repeaterName (config : RepeaterConfig) : Bytes :=
  if config.pluto.callsign ≠ [] then config.pluto.callsign
  else if config.pluto.watermarkText ≠ [] then config.pluto.watermarkText
  else bytes "WH Repeater"

def compactNoticeLine (text : Bytes) (maxLength : Nat := 42) : Bytes :=
  if text.length ≤ maxLength then text
  else if maxLength ≤ 3 then text.take maxLength
  else text.take (maxLength - 3) ++ bytes "..."

def compactDuration (duration : Duration) : Bytes :=
  -- `duration_cast` rounds towards zero.
  let total := (duration.tdiv 1000000000).toNat
  let hours := total / 3600
  let minutes := total % 3600 / 60
  let seconds := total % 3600 % 60
  if 0 < hours then decimal hours ++ bytes "h " ++ decimal minutes ++ bytes "m " ++ decimal seconds ++ bytes "s"
  else if 0 < minutes then decimal minutes ++ bytes "m " ++ decimal seconds ++ bytes "s"
  else decimal seconds ++ bytes "s"

def isGenericDisplayInput (active : ActiveInput) : Bool :=
  active.receiver.value = 0 ∧ active.target.frequencyKhz = 0 ∧ active.target.symbolRateKs = 0 ∧
    active.target.label = bytes "Received stream" ∧ active.status.serviceName = none ∧ active.status.modulation = none ∧
    active.status.merDb = none

def hasSpecificDisplayInput (active : ActiveInput) : Bool := !isGenericDisplayInput active

/-- What the PC shows of its gateway input. -/
def mediaDisplayInput (stod : Bytes → Option DoubleBits) (active : ActiveInput) (remoteStatus : Bytes) :
    Except String ActiveInput := do
  let active ← RemoteReceiver.applyRemoteReceiverDetails stod active remoteStatus
  if active.status.serviceName.getD [] = bytes "Pi UDP gateway" ∨ active.target.label = bytes "Pi UDP gateway" then
    let target : ScanTarget := { label := bytes "Received stream" }
    return {
      receiver := ⟨0⟩
      target
      status := { active.status with
        receiver := ⟨0⟩
        target := some target
        serviceName := none
        modulation := none
        merDb := none
        dNumberDb := none } }
  else return active

def streamInfoLines (text : Bytes) : List Bytes := (text.splitOn 10).filter (· ≠ [])

/-- A text, unless it is empty. -/
def nonempty (text : Bytes) : Option Bytes := if text = [] then none else some text

def serviceFromStreamInfo (text : Bytes) : Option Bytes :=
  match streamInfoLines text with
  | _ :: _ :: service :: _ =>
    match find service (bytes " | ") 0 with
    | some separator => nonempty (service.take separator)
    | none => nonempty service
  | _ => none

def videoFormatFromStreamInfo (text : Bytes) : Option Bytes :=
  match streamInfoLines text with
  | _ :: line :: _ => (find line (bytes " | ") 0).bind fun separator => nonempty (line.drop (separator + 3))
  | _ => none

/-- What is said of a session beside its input. -/
structure SessionDetails where
  activeDuration : Option Duration := none
  serviceOverride : Option Bytes := none
  videoFormat : Option Bytes := none
  deriving Repr, DecidableEq

/-- The parts of a line, with a separator between them. -/
def lineOf (parts : List (Option Bytes)) : Bytes := List.intercalate (bytes " | ") (parts.filterMap id)

/-- A line of its own for a text that is not empty. -/
def onLine (before text : Bytes) : Bytes := if text = [] then [] else bytes "\n" ++ before ++ text

/-- `std::fixed` with one decimal. -/
def merText (oneDecimal : DoubleBits → Bytes) (mer : DoubleBits) : Bytes := oneDecimal mer ++ bytes " dB"

def rfText (active : ActiveInput) : Option Bytes :=
  if active.target.frequencyKhz ≠ 0 ∨ active.target.symbolRateKs ≠ 0 then
    some (decimal active.target.frequencyKhz ++ bytes " kHz / " ++ decimal active.target.symbolRateKs ++ bytes " kS")
  else none

/-- `serviceOverride`, unless there is none or it is empty. -/
def serviceShown (active : ActiveInput) (details : SessionDetails) : Bytes :=
  ((details.serviceOverride.bind nonempty).or active.status.serviceName).getD []

/-- `accessMessage` with `postAccess`. -/
def postAccessMessage (oneDecimal : DoubleBits → Bytes) (config : RepeaterConfig) (active : ActiveInput)
    (details : SessionDetails) : Bytes :=
  let source :=
    if 0 < active.receiver.value then
      some (bytes "RX" ++ decimal active.receiver.value ++
        if active.target.label = [] then [] else bytes " " ++ active.target.label)
    else if active.target.label ≠ [] ∧ isGenericDisplayInput active = false then some active.target.label
    else none
  let sourceLine := lineOf [source, details.activeDuration.map fun duration => bytes "Active " ++ compactDuration duration]
  let rfLine := lineOf [rfText active, active.status.merDb.map fun mer => bytes "MER " ++ merText oneDecimal mer]
  let serviceLine := lineOf [(nonempty (serviceShown active details)).map (bytes "Svc " ++ ·),
    details.videoFormat.bind nonempty]
  repeaterName config ++ bytes "\nhas just been accessed" ++ onLine [] (compactNoticeLine sourceLine 44) ++
    onLine [] (compactNoticeLine rfLine 44) ++ onLine [] (compactNoticeLine serviceLine 44) ++
    onLine [] (compactNoticeLine (active.status.modulation.getD []) 44)

/-- `accessMessage` while the input is on air. -/
def accessMessage (oneDecimal : DoubleBits → Bytes) (config : RepeaterConfig) (active : ActiveInput) : Bytes :=
  repeaterName config ++
    (if 0 < active.receiver.value then bytes "\nSignal received on RX" ++ decimal active.receiver.value
      else bytes "\nSignal received") ++
    onLine [] (compactNoticeLine active.target.label 38) ++ onLine [] ((rfText active).getD []) ++
    onLine (bytes "Service/callsign: ") (compactNoticeLine (active.status.serviceName.getD [])) ++
    onLine [] (compactNoticeLine (active.status.modulation.getD [])) ++
    onLine (bytes "MER: ") ((active.status.merDb.map (merText oneDecimal)).getD [])

end WhRepeater
