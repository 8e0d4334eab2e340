import WhRepeater.CheckedSpans
import WhRepeater.Types

/-! The packets and the tables that `ts_gateway_inspect.cpp` reads. Every byte it reads
is checked, and every sum and difference of sizes where one could leave its word. -/
namespace WhRepeater.TsGatewayInspect

open CheckedSpans

def kTsPacketSize : Nat := 188

structure PidStats where
  packets : UInt64 := 0
  continuityErrors : UInt64 := 0
  lastContinuity : Option UInt8 := none

structure ProgramInfo where
  serviceId : UInt16 := 0
  pmtPid : UInt16 := 0
  pcrPid : UInt16 := 0
  provider : Bytes := []
  serviceName : Bytes := []
  streamTypes : List UInt8 := []

/-- By service. -/
abbrev Programs := Std.TreeMap UInt16 ProgramInfo

structure SectionBuffer where
  bytes : Bytes := []
  expectedSize : Option Nat := none

structure Stats where
  syncErrors : UInt64 := 0
  pids : Std.TreeMap UInt16 PidStats := {}
  programs : Programs := {}
  sections : Std.TreeMap UInt16 SectionBuffer := {}
  /-- The sections `parseSection` was called with, and their PIDs. The source does not
  keep them. -/
  parsed : List (UInt16 × Bytes) := []

/-- Two bytes with the bits of a mask in the first. -/
def masked (mask high low : UInt8) : UInt16 := (high &&& mask).toUInt16 <<< 8 ||| low.toUInt16

/-- The length in 12 bits of two bytes. -/
def length12 (high low : UInt8) : Nat := (masked 0x0f high low).toNat

def readMasked (mask : UInt8) (bytes : Bytes) (offset : Nat) : Except Fault UInt16 := do
  let high ← read bytes offset
  let low ← read bytes (offset + 1)
  return masked mask high low

def read16 : Bytes → Nat → Except Fault UInt16 := readMasked 0xff

def readLength (bytes : Bytes) (offset : Nat) : Except Fault Nat := do
  return length12 (← read bytes offset) (← read bytes (offset + 1))

/-- Without the byte that selects a table of characters. -/
def dvbString (bytes : Bytes) : Bytes :=
  match bytes with
  | [] => []
  | first :: others =>
    (if first < 0x20 then others else bytes).map fun ch => if 0x20 ≤ ch ∧ ch < 0x7f then ch else 0x20

/-! ## Tables -/

/-- The loop of `parsePat`, up to `last`. -/
def parsePrograms (section_ : Bytes) (last offset : Nat) (programs : Programs) : Except Fault Programs := do
  fits (offset + 4)
  if offset + 4 ≤ last then
    let serviceId ← read16 section_ offset
    let pid ← readMasked 0x1f section_ (offset + 2)
    if serviceId = 0 then parsePrograms section_ last (offset + 4) programs
    else
      let program := programs.getD serviceId {}
      parsePrograms section_ last (offset + 4) (programs.insert serviceId { program with serviceId, pmtPid := pid })
  else return programs
termination_by last - offset

def parsePat (section_ : Bytes) (programs : Programs) : Except Fault Programs := do
  if section_.length < 12 then return programs
  else if (← read section_ 0) ≠ 0x00 then return programs
  else
    let sectionLength ← readLength section_ 1
    let endOffset := 3 + sectionLength
    if section_.length < endOffset ∨ endOffset < 4 then return programs
    else parsePrograms section_ (← difference endOffset 4) 8 programs

/-- The loop of `parsePmt`. -/
def parseStreams (section_ : Bytes) (last offset : Nat) (streamTypes : List UInt8) : Except Fault (List UInt8) := do
  fits (offset + 5)
  if offset + 5 ≤ last then
    let streamType ← read section_ offset
    let esInfoLength ← readLength section_ (offset + 3)
    parseStreams section_ last (offset + (5 + esInfoLength)) (streamTypes ++ [streamType])
  else return streamTypes
termination_by last - offset

def parsePmt (pid : UInt16) (section_ : Bytes) (programs : Programs) : Except Fault Programs := do
  if section_.length < 16 then return programs
  else if (← read section_ 0) ≠ 0x02 then return programs
  else
    let serviceId ← read16 section_ 3
    let sectionLength ← readLength section_ 1
    let endOffset := 3 + sectionLength
    if section_.length < endOffset ∨ endOffset < 4 then return programs
    else
      let program := programs.getD serviceId {}
      let pcrPid ← readMasked 0x1f section_ 8
      let programInfoLength ← readLength section_ 10
      let streamTypes ← parseStreams section_ (← difference endOffset 4) (12 + programInfoLength) []
      return programs.insert serviceId { program with serviceId, pmtPid := pid, pcrPid, streamTypes }

/-- A service descriptor of `parseSdt`: the name of the provider, then that of the
service. -/
def parseService (section_ : Bytes) (serviceId : UInt16) (body length : Nat) (programs : Programs) : Except Fault Programs := do
  let providerLength := (← read section_ (body + 1)).toNat
  let providerOffset := body + 2
  fits (providerOffset + providerLength)
  if providerOffset + providerLength < body + length then
    let serviceLength := (← read section_ (providerOffset + providerLength)).toNat
    let serviceOffset := providerOffset + providerLength + 1
    let provider := dvbString (← subspan section_ providerOffset providerLength)
    let program := { programs.getD serviceId {} with serviceId, provider }
    fits (serviceOffset + serviceLength)
    if serviceOffset + serviceLength ≤ body + length then
      let serviceName := dvbString (← subspan section_ serviceOffset serviceLength)
      return programs.insert serviceId { program with serviceName }
    else return programs.insert serviceId program
  else return programs

/-- The inner loop of `parseSdt`, over the descriptors of a service. -/
def parseDescriptors (section_ : Bytes) (serviceId : UInt16) (last descEnd desc : Nat) (programs : Programs) :
    Except Fault Programs := do
  fits (desc + 2)
  if desc + 2 ≤ descEnd ∧ descEnd ≤ last then
    let tag ← read section_ desc
    let length := (← read section_ (desc + 1)).toNat
    let body := desc + 2
    fits (body + length)
    if tag = 0x48 ∧ body + length ≤ descEnd ∧ length ≥ 3 then
      let programs ← parseService section_ serviceId body length programs
      parseDescriptors section_ serviceId last descEnd (desc + (2 + length)) programs
    else parseDescriptors section_ serviceId last descEnd (desc + (2 + length)) programs
  else return programs
termination_by descEnd - desc

/-- The outer loop of `parseSdt`. -/
def parseServices (section_ : Bytes) (last offset : Nat) (programs : Programs) : Except Fault Programs := do
  fits (offset + 5)
  if offset + 5 ≤ last then
    let serviceId ← read16 section_ offset
    let descriptorLength ← readLength section_ (offset + 3)
    let desc := offset + 5
    let descEnd := desc + descriptorLength
    let programs ← parseDescriptors section_ serviceId last descEnd desc programs
    parseServices section_ last descEnd programs
  else return programs
termination_by last - offset

def parseSdt (section_ : Bytes) (programs : Programs) : Except Fault Programs := do
  if section_.length < 15 then return programs
  else if (← read section_ 0) ≠ 0x42 then return programs
  else
    let sectionLength ← readLength section_ 1
    let endOffset := 3 + sectionLength
    if section_.length < endOffset ∨ endOffset < 4 then return programs
    else parseServices section_ (← difference endOffset 4) 11 programs

/-! ## Sections -/

def parseSection (stats : Stats) (pid : UInt16) (section_ : Bytes) : Except Fault Stats := do
  let stats := { stats with parsed := stats.parsed ++ [(pid, section_)] }
  if pid = 0x0000 then return { stats with programs := ← parsePat section_ stats.programs }
  else if pid = 0x0011 then return { stats with programs := ← parseSdt section_ stats.programs }
  else if stats.programs.toList.any fun (_, program) => program.pmtPid == pid then
    return { stats with programs := ← parsePmt pid section_ stats.programs }
  else return stats

def Stats.setSection (stats : Stats) (pid : UInt16) (buffer : SectionBuffer) : Stats :=
  { stats with sections := stats.sections.insert pid buffer }

/-- The size of the section, once its length is there. -/
def SectionBuffer.expected (buffer : SectionBuffer) : Except Fault (Option Nat) := do
  if buffer.expectedSize.isNone ∧ 3 ≤ buffer.bytes.length then return some (3 + (← readLength buffer.bytes 1))
  else return buffer.expectedSize

/-- `appendPayloadSection`, from what is behind the pointer. -/
def appendSection (stats : Stats) (pid : UInt16) (buffer : SectionBuffer) (payload : Bytes) : Except Fault Stats := do
  if payload.isEmpty then return stats.setSection pid buffer
  else if (← read payload 0) = 0xff then return stats.setSection pid buffer
  else
    let buffer := { buffer with bytes := buffer.bytes ++ payload }
    let expectedSize ← buffer.expected
    match expectedSize with
    | none => return stats.setSection pid { buffer with expectedSize }
    | some size =>
      if size ≤ buffer.bytes.length then
        let stats ← parseSection stats pid (← subspan buffer.bytes 0 size)
        return stats.setSection pid {}
      else return stats.setSection pid { buffer with expectedSize }

def appendPayloadSection (stats : Stats) (pid : UInt16) (payloadStart : Bool) (payload : Bytes) : Except Fault Stats := do
  if payload.isEmpty then return stats
  else
    let buffer := stats.sections.getD pid {}
    if payloadStart then
      let pointer := (← read payload 0).toNat
      if payload.length < pointer + 1 then return stats.setSection pid buffer
      else appendSection stats pid {} (← subspanFrom payload (pointer + 1))
    else appendSection stats pid buffer payload

/-! ## Packets -/

/-- The counters of a PID. -/
def PidStats.count (pidStats : PidStats) (counted : Bool) (continuity : UInt8) : PidStats :=
  let packets := pidStats.packets + 1
  if counted then
    let wrong := pidStats.lastContinuity.any fun last => continuity ≠ (last + 1) &&& 0x0f
    let continuityErrors := if wrong then pidStats.continuityErrors + 1 else pidStats.continuityErrors
    { packets, continuityErrors, lastContinuity := some continuity }
  else { pidStats with packets }

/-- Where the payload begins, behind the adaptation field. -/
def payloadOffset (packet : Bytes) (adaptationControl : UInt8) : Except Fault Nat := do
  if adaptationControl = 2 ∨ adaptationControl = 3 then return 4 + (1 + (← read packet 4).toNat) else return 4

def inspectPacket (stats : Stats) (packet : Bytes) : Except Fault Stats := do
  if packet.length ≠ kTsPacketSize then return { stats with syncErrors := stats.syncErrors + 1 }
  else if (← read packet 0) ≠ 0x47 then return { stats with syncErrors := stats.syncErrors + 1 }
  else
    let payloadStart := (← read packet 1) &&& 0x40 ≠ 0
    let pid ← readMasked 0x1f packet 1
    let adaptationControl := (← read packet 3) >>> 4 &&& 0x03
    let continuity := (← read packet 3) &&& 0x0f
    let hasPayload := adaptationControl = 1 ∨ adaptationControl = 3
    let pidStats := (stats.pids.getD pid {}).count (hasPayload ∧ pid ≠ 0x1fff) continuity
    let stats := { stats with pids := stats.pids.insert pid pidStats }
    let offset ← payloadOffset packet adaptationControl
    if hasPayload ∧ offset < packet.length then
      appendPayloadSection stats pid payloadStart (← subspanFrom packet offset)
    else return stats

def inspectPackets (stats : Stats) (packets : List Bytes) : Except Fault Stats := packets.foldlM inspectPacket stats

end WhRepeater.TsGatewayInspect
