import WhRepeater.ConfigSections
import WhRepeater.IntegerRules
import WhRepeater.JsonSpellings

/-! The integers of the configuration (`config.cpp`): under which path each one is
given, the rule it is stored by, and where it is kept. The two rates of the
transmitter are calculated, and stand for nothing that is given. -/
namespace WhRepeater

open Binary64 (truncate)

/-! ## Paths -/

inductive PathStep where
  | member (name : String)
  | item (index : Nat)

def Json.step : Json → PathStep → Option Json
  | json, .member name => optionalMember json name
  | .array items, .item index => items[index]?
  | _, .item _ => none

def Json.follow (json : Json) (path : List PathStep) : Option Json := path.foldlM Json.step json

namespace Spelling

def step : Spelling → PathStep → Option Spelling
  | .object members, .member name => members.lookup (bytes name)
  | .array items, .item index => items[index]?
  | _, _ => none

def follow (spelling : Spelling) (path : List PathStep) : Option Spelling := path.foldlM step spelling

/-- What the number under the path stands for, exactly. -/
def literal (spelling : Spelling) (path : List PathStep) : Option Rat :=
  match spelling.follow path with
  | some (.number negative whole fraction) => some (JsonParser.decimalValue negative whole fraction)
  | _ => none

end Spelling

/-! ## Fields -/

/-- A member of a section, and where its integer is kept. -/
structure IntegerMember (σ : Type) where
  name : String
  rule : Rule
  stored : σ → Int

structure IntegerField where
  path : List PathStep
  rule : Rule
  stored : RepeaterConfig → Option Int

def rootMembers : List (IntegerMember RepeaterConfig) := [
  ⟨"statusIntervalMs", .whole .int, (·.statusInterval)⟩]

def plutoMembers : List (IntegerMember PlutoConfig) := [
  ⟨"port", .whole .uint16, (·.port.toNat)⟩,
  ⟨"mqttPort", .whole .uint16, (·.mqttPort.toNat)⟩,
  ⟨"txFrequencyHz", .whole .uint32, (·.txFrequencyHz.toNat)⟩,
  ⟨"symbolRateS", .whole .uint32, (·.symbolRateS.toNat)⟩,
  ⟨"txGainDb", .whole .int, (·.txGainDb.toInt)⟩,
  ⟨"ncoHz", .whole .int, (·.ncoHz.toInt)⟩,
  ⟨"digitalGainDb", .clamped .int (-100) 100, (·.digitalGainDb.toInt)⟩,
  ⟨"audioBitrateKbps", .whole .uint32, (·.audioBitrateKbps.toNat)⟩,
  ⟨"outputAudioChannels", .clamped .uint32 1 2, (·.outputAudioChannels.toNat)⟩,
  ⟨"outputWidth", .even 320 1920, (·.outputWidth.toNat)⟩,
  ⟨"outputHeight", .even 240 1080, (·.outputHeight.toNat)⟩,
  ⟨"outputFrameRate", .clamped .uint32 1 50, (·.outputFrameRate.toNat)⟩]

def fallbackMembers : List (IntegerMember FallbackConfig) := [
  ⟨"slideDurationSeconds", .seconds, (·.slideDuration)⟩,
  ⟨"inputTimeoutMs", .whole .int, (·.inputTimeout)⟩,
  ⟨"staticFrameRate", .clamped .uint32 1 25, (·.staticFrameRate.toNat)⟩]

def tsGatewayMembers : List (IntegerMember TsGatewayConfig) := [
  ⟨"port", .whole .uint16, (·.port.toNat)⟩]

def gatewayInputMembers : List (IntegerMember GatewayInputConfig) := [
  ⟨"listenPort", .whole .uint16, (·.listenPort.toNat)⟩,
  ⟨"packetSize", .whole .uint32, (·.packetSize.toNat)⟩]

def piStatusMembers : List (IntegerMember PiStatusConfig) := [
  ⟨"port", .whole .uint16, (·.port.toNat)⟩,
  ⟨"pollIntervalMs", .atLeast 100, (·.pollInterval)⟩]

def hardwarePttMembers : List (IntegerMember HardwarePttConfig) := [
  ⟨"line", .whole .uint32, (·.line.toNat)⟩]

def identMembers : List (IntegerMember IdentConfig) := [
  ⟨"intervalSeconds", .whole .int, (·.interval)⟩,
  ⟨"morseToneHz", .clamped .uint32 100 3000, (·.morseToneHz.toNat)⟩,
  ⟨"morseWpm", .clamped .uint32 5 40, (·.morseWpm.toNat)⟩]

def captureMembers : List (IntegerMember AnalogueCaptureConfig) := [
  ⟨"receiverId", .whole .int, (·.receiver.value.toInt)⟩,
  ⟨"captureWidth", .clamped .uint32 160 1920, (·.captureWidth.toNat)⟩,
  ⟨"captureHeight", .clamped .uint32 120 1080, (·.captureHeight.toNat)⟩,
  ⟨"captureFrameRate", .clamped .uint32 1 50, (·.captureFrameRate.toNat)⟩,
  ⟨"captureFrameRateNumerator", .clamped .uint32 1 60000, (·.captureFrameRateNumerator.toNat)⟩,
  ⟨"captureFrameRateDenominator", .clamped .uint32 1 1001, (·.captureFrameRateDenominator.toNat)⟩,
  ⟨"audioSampleRate", .clamped .uint32 8000 192000, (·.audioSampleRate.toNat)⟩,
  ⟨"audioChannels", .clamped .uint32 1 8, (·.audioChannels.toNat)⟩,
  ⟨"audioDelayMs", .clamped .uint32 0 2000, (·.audioDelayMs.toNat)⟩,
  ⟨"gpioLine", .whole .uint32, (·.gpioLine.toNat)⟩]

def receiverMembers : List (IntegerMember ReceiverConfig) := [
  ⟨"id", .whole .int, (·.receiver.value.toInt)⟩,
  ⟨"dwellMs", .whole .int, (·.dwellTime)⟩,
  ⟨"hangMs", .whole .int, (·.hangTime)⟩]

def targetMembers : List (IntegerMember ScanTarget) := [
  ⟨"frequencyKhz", .whole .uint32, (·.frequencyKhz.toNat)⟩,
  ⟨"symbolRateKs", .whole .uint32, (·.symbolRateKs.toNat)⟩,
  ⟨"localOscillatorKhz", .whole .uint32, (·.localOscillatorKhz.toNat)⟩]

/-- The fields of a section under its path. -/
def fieldsOf (path : List PathStep) (get : RepeaterConfig → Option σ) (members : List (IntegerMember σ)) : List IntegerField :=
  members.map fun member =>
    ⟨path ++ [.member member.name], member.rule, fun config => (get config).map member.stored⟩

def sectionFields : List IntegerField :=
  fieldsOf [] (fun config => some config) rootMembers ++
  fieldsOf [.member "pluto"] (fun config => some config.pluto) plutoMembers ++
  fieldsOf [.member "fallback"] (fun config => some config.fallback) fallbackMembers ++
  fieldsOf [.member "tsGateway"] (fun config => some config.tsGateway) tsGatewayMembers ++
  fieldsOf [.member "gatewayInput"] (fun config => some config.gatewayInput) gatewayInputMembers ++
  fieldsOf [.member "piStatus"] (fun config => some config.piStatus) piStatusMembers ++
  fieldsOf [.member "hardwarePtt"] (fun config => some config.hardwarePtt) hardwarePttMembers ++
  fieldsOf [.member "ident"] (fun config => some config.ident) identMembers ++
  fieldsOf [.member "analogue", .member "capture"] (fun config => some config.analogue.capture) captureMembers

def receiverFields (index : Nat) : List IntegerField :=
  fieldsOf [.member "receivers", .item index] (fun config => config.receivers[index]?) receiverMembers

def targetFields (index position : Nat) : List IntegerField :=
  fieldsOf [.member "receivers", .item index, .member "targets", .item position]
    (fun config => do (← config.receivers[index]?).targets[position]?) targetMembers

/-- An integer of the configuration. -/
def IntegerField.InConfig (field : IntegerField) : Prop :=
  field ∈ sectionFields ∨ (∃ index, field ∈ receiverFields index) ∨ ∃ index position, field ∈ targetFields index position

/-- What is stored is what the literal means, and no conversion or product on the
way is out of range. -/
def IntegerField.Unaltered (field : IntegerField) (config : RepeaterConfig) (literal : Rat) : Prop :=
  field.rule.InRange (Binary64.round literal) ∧
    ∃ stored, field.stored config = some stored ∧ (stored : Rat) = field.rule.meaning literal

/-- Every number that is given for an integer is stored as what it means. -/
def NumbersUnaltered (spelling : Spelling) (config : RepeaterConfig) : Prop :=
  ∀ field : IntegerField, field.InConfig → ∀ literal, spelling.literal field.path = some literal →
    field.Unaltered config literal

/-- Every number that is given for an integer is one that its rule keeps. -/
def NumbersSound (spelling : Spelling) : Prop :=
  ∀ field : IntegerField, field.InConfig → ∀ literal, spelling.literal field.path = some literal → field.rule.Sound literal

end WhRepeater
