import WhRepeater.Types

/-! The messages between the media parent and the media child
(`media_process.cpp`): plain values one after another, little-endian, with
strings behind their length. A read past the end throws. -/
namespace WhRepeater

inductive MediaMessage where
  | shutdown | select | beacon | notice | playFallbackVideo | stopFallbackVideo | tick
  | transportStream | preview | streamInfo | seekFallbackVideo | fallbackVideoStatus
  | noticeEndTone | reconfigurePluto
  deriving Repr, DecidableEq

/-- One packet of the socket, without its header. -/
structure ControlMessage where
  type : MediaMessage
  payload : Bytes
  deriving Repr, DecidableEq

def messageHeaderBytes : Nat := 8

def transportPacketBytes : Nat := 188

def maxTransportPayload : Nat := transportPacketBytes * 340

def maxBufferedTransport : Nat := transportPacketBytes * 65536

/-! ## Writing -/

/-- The bytes of a value of the given width. -/
def littleEndian : (width : Nat) → (value : Nat) → Bytes
  | 0, _ => []
  | width + 1, value => UInt8.ofNat value :: littleEndian width (value / 256)

def ofLittleEndian : Bytes → Nat
  | [] => 0
  | byte :: rest => byte.toNat + 256 * ofLittleEndian rest

def appendBool (value : Bool) : Bytes := littleEndian 1 (if value then 1 else 0)

def appendString (value : Bytes) : Bytes := littleEndian 4 value.length ++ value

def appendOptionalString (value : Option Bytes) : Bytes :=
  appendBool value.isSome ++ value.elim [] appendString

def Antenna.code : Antenna → Nat
  | .top => 0
  | .bottom => 1

def DvbSystem.code : DvbSystem → Nat
  | .dvbs => 0
  | .dvbs2 => 1
  | .unknown => 2

def ReceiverState.code : ReceiverState → Nat
  | .idle => 0
  | .searching => 1
  | .foundHeader => 2
  | .lockedDvbs => 3
  | .lockedDvbs2 => 4
  | .lost => 5
  | .timeout => 6
  | .fault => 7

def appendScanTarget (target : ScanTarget) : Bytes :=
  littleEndian 4 target.frequencyKhz.toNat ++ littleEndian 4 target.symbolRateKs.toNat ++
    littleEndian 4 target.localOscillatorKhz.toNat ++ littleEndian 4 target.antenna.code ++
    littleEndian 4 target.system.code ++ appendString target.fec ++ appendString target.label

def appendOptionalDouble (value : Option DoubleBits) : Bytes :=
  appendBool value.isSome ++ value.elim [] fun bits => littleEndian 8 bits.toNat

def appendReceiverStatus (status : ReceiverStatus) : Bytes :=
  littleEndian 4 status.receiver.value.toUInt32.toNat ++ littleEndian 4 status.state.code ++
    appendBool status.target.isSome ++ status.target.elim [] appendScanTarget ++
    appendOptionalDouble status.merDb ++ appendOptionalDouble status.dNumberDb ++
    appendOptionalString status.serviceName ++ appendOptionalString status.modulation ++
    littleEndian 8 status.transportPackets.toNat ++ littleEndian 8 status.continuityErrors.toNat

/-- The status is sent without its measurements, so that they do not make a
new selection. -/
def appendActiveInput (input : ActiveInput) : Bytes :=
  littleEndian 4 input.receiver.value.toUInt32.toNat ++ appendScanTarget input.target ++
    appendReceiverStatus { input.status with
      merDb := none, dNumberDb := none, transportPackets := 0, continuityErrors := 0 }

def activePayload (input : Option ActiveInput) : Bytes :=
  appendBool input.isSome ++ input.elim [] appendActiveInput

def boolPayload (value : Bool) : Bytes := appendBool value

def stringPayload (value : Bytes) : Bytes := appendString value

/-- A 64-bit count in two's complement. -/
def int64Payload (value : Int) : Bytes := littleEndian 8 (value % 2 ^ 64).toNat

/-! ## Reading -/

/-- `PayloadReader`: `none` when it throws. -/
abbrev PayloadReader := StateT Bytes Option

namespace PayloadReader

def readPod (width : Nat) : PayloadReader Nat := fun payload =>
  if payload.length < width then none
  else some (ofLittleEndian (payload.take width), payload.drop width)

def readBool : PayloadReader Bool := do
  return (← readPod 1) != 0

def readString : PayloadReader Bytes := do
  let size ← readPod 4
  fun payload => if payload.length < size then none else some (payload.take size, payload.drop size)

def readOptional (value : PayloadReader α) : PayloadReader (Option α) := do
  if ← readBool then return some (← value) else return none

/-- An enumerator the code does not name has no value here. -/
def readCode (named : Nat → Option α) : PayloadReader α := do
  let code ← readPod 4
  StateT.lift (named code)

end PayloadReader

def Antenna.ofCode : Nat → Option Antenna
  | 0 => some .top
  | 1 => some .bottom
  | _ => none

def DvbSystem.ofCode : Nat → Option DvbSystem
  | 0 => some .dvbs
  | 1 => some .dvbs2
  | 2 => some .unknown
  | _ => none

def ReceiverState.ofCode : Nat → Option ReceiverState
  | 0 => some .idle
  | 1 => some .searching
  | 2 => some .foundHeader
  | 3 => some .lockedDvbs
  | 4 => some .lockedDvbs2
  | 5 => some .lost
  | 6 => some .timeout
  | 7 => some .fault
  | _ => none

open PayloadReader

def readReceiverId : PayloadReader ReceiverId := do
  return ⟨(UInt32.ofNat (← readPod 4)).toInt32⟩

def readScanTarget : PayloadReader ScanTarget := do
  let frequencyKhz := UInt32.ofNat (← readPod 4)
  let symbolRateKs := UInt32.ofNat (← readPod 4)
  let localOscillatorKhz := UInt32.ofNat (← readPod 4)
  let antenna ← readCode Antenna.ofCode
  let system ← readCode DvbSystem.ofCode
  let fec ← readString
  let label ← readString
  return { frequencyKhz, symbolRateKs, localOscillatorKhz, antenna, system, fec, label }

/-- `updatedAt` is the time of the reading. -/
def readReceiverStatus (now : Time) : PayloadReader ReceiverStatus := do
  let receiver ← readReceiverId
  let state ← readCode ReceiverState.ofCode
  let target ← readOptional readScanTarget
  let merDb ← readOptional (UInt64.ofNat <$> readPod 8)
  let dNumberDb ← readOptional (UInt64.ofNat <$> readPod 8)
  let serviceName ← readOptional readString
  let modulation ← readOptional readString
  let transportPackets := UInt64.ofNat (← readPod 8)
  let continuityErrors := UInt64.ofNat (← readPod 8)
  return { receiver, state, target, merDb, dNumberDb, serviceName, modulation, transportPackets,
           continuityErrors, updatedAt := now }

def readActiveInput (now : Time) : PayloadReader ActiveInput := do
  let receiver ← readReceiverId
  let target ← readScanTarget
  let status ← readReceiverStatus now
  return { receiver, target, status }

def readActive (now : Time) (payload : Bytes) : Option (Option ActiveInput) :=
  (readOptional (readActiveInput now)).run' payload

def readBoolPayload (payload : Bytes) : Option Bool := readBool.run' payload

def readStringPayload (payload : Bytes) : Option Bytes := readString.run' payload

def readInt64Payload (payload : Bytes) : Option Int :=
  (readPod 8).run' payload |>.map fun value => if value < 2 ^ 63 then (value : Int) else value - 2 ^ 64

/-! ## What was written is read back -/

theorem ofLittleEndian_littleEndian (width value : Nat) :
    ofLittleEndian (littleEndian width value) = value % 256 ^ width := by
  induction width generalizing value with
  | zero => simp [littleEndian, ofLittleEndian, Nat.mod_one]
  | succ width ih =>
    simp only [littleEndian, ofLittleEndian, ih, UInt8.toNat_ofNat', Nat.reducePow]
    rw [Nat.pow_succ', Nat.mod_mul]

@[simp] theorem littleEndian_length (width value : Nat) : (littleEndian width value).length = width := by
  induction width generalizing value with
  | zero => rfl
  | succ width ih => simp [littleEndian, ih]

theorem readPod_append (width value : Nat) (rest : Bytes) :
    readPod width (littleEndian width value ++ rest) = some (value % 256 ^ width, rest) := by
  have long : ¬ (littleEndian width value ++ rest).length < width := by simp
  simp only [readPod, if_neg long]
  rw [List.take_left' (littleEndian_length width value), List.drop_left' (littleEndian_length width value),
    ofLittleEndian_littleEndian]

theorem readBool_append (value : Bool) (rest : Bytes) :
    readBool (appendBool value ++ rest) = some (value, rest) := by
  have read := readPod_append 1 (if value then 1 else 0) rest
  simp only [readBool, appendBool, bind, StateT.bind, read]
  cases value <;> rfl

/-- A string shorter than its 32-bit length field allows is read back. -/
theorem readString_append (value rest : Bytes) (short : value.length < 2 ^ 32) :
    readString (appendString value ++ rest) = some (value, rest) := by
  have read := readPod_append 4 value.length (value ++ rest)
  rw [Nat.mod_eq_of_lt (by simpa using short)] at read
  simp [readString, appendString, bind, StateT.bind, List.append_assoc, read]

@[simp] theorem readBoolPayload_boolPayload (value : Bool) :
    readBoolPayload (boolPayload value) = some value := by
  have read := readBool_append value []
  rw [List.append_nil] at read
  simp [readBoolPayload, boolPayload, StateT.run', read]

theorem readStringPayload_stringPayload (value : Bytes) (short : value.length < 2 ^ 32) :
    readStringPayload (stringPayload value) = some value := by
  have read := readString_append value [] short
  rw [List.append_nil] at read
  simp [readStringPayload, stringPayload, StateT.run', read]

end WhRepeater
