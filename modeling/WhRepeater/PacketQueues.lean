import Mathlib.Logic.Function.Basic
import WhRepeater.DroppingQueue
import WhRepeater.Types

/-! The packet counters and queues of the Serit controller
(`nim_controller.cpp`): the records of the driver are ingested by the reader
thread, and other threads drain the queues and clear them. -/
namespace WhRepeater

/-- What one read of the driver returns, when it is whole. -/
abbrev DriverRecord := { record : Bytes // record.length = 192 }

structure WhDriverPacket where
  ts : TransportPacket
  status : UInt32
  deriving Repr, DecidableEq

def littleEndianU32 (data : Bytes) : UInt32 :=
  (data.getD 0 0).toUInt32 ||| ((data.getD 1 0).toUInt32 <<< 8) ||| ((data.getD 2 0).toUInt32 <<< 16) |||
    ((data.getD 3 0).toUInt32 <<< 24)

namespace WhDriverPacket

def ofRecord (record : DriverRecord) : WhDriverPacket :=
  { ts := ⟨record.1.take 188, by rw [List.length_take, record.2]; decide⟩, status := littleEndianU32 (record.1.drop 188) }

def receiverIndex (packet : WhDriverPacket) : Fin 4 :=
  ⟨((packet.status >>> 12) &&& 0x03).toNat, Nat.lt_succ_of_le Nat.and_le_right⟩

def valid (packet : WhDriverPacket) : Bool := (packet.status >>> 8) &&& 0x01 ≠ 0

def restart (packet : WhDriverPacket) : Bool := (packet.status >>> 9) &&& 0x01 ≠ 0

def overflow (packet : WhDriverPacket) : Bool := (packet.status >>> 10) &&& 0x01 ≠ 0

def nullPackets (packet : WhDriverPacket) : UInt8 := ((packet.status >>> 20) &&& 0x0f).toUInt8

def outSequence (packet : WhDriverPacket) : UInt8 := ((packet.status >>> 24) &&& 0x0f).toUInt8

def inSequence (packet : WhDriverPacket) : UInt8 := ((packet.status >>> 28) &&& 0x0f).toUInt8

/-- The first receiver of the same PIC. -/
def picIndex (packet : WhDriverPacket) : Fin 4 :=
  ⟨packet.receiverIndex.val &&& 0x02, Nat.lt_of_le_of_lt Nat.and_le_left packet.receiverIndex.isLt⟩

def synced (packet : WhDriverPacket) : Bool := packet.ts.1.head? = some 0x47

end WhDriverPacket

def nullPacket : TransportPacket :=
  ⟨0x47 :: 0x1f :: 0xff :: 0x00 :: List.replicate 184 0xff, by rw [List.length_cons, List.length_cons, List.length_cons,
    List.length_cons, List.length_replicate]⟩

structure PacketCounters where
  transportPackets : UInt64 := 0
  validPackets : UInt64 := 0
  nullPackets : UInt64 := 0
  syncErrors : UInt64 := 0
  inSequenceErrors : UInt64 := 0
  outSequenceErrors : UInt64 := 0
  restartErrors : UInt64 := 0
  overflowErrors : UInt64 := 0
  lastInSequence : UInt8 := 0
  lastOutSequence : UInt8 := 0
  hasInSequence : Bool := false
  hasOutSequence : Bool := false
  deriving Repr, DecidableEq

/-- The previous sequence number, whether there is one, and the errors. -/
def updateSequence (hasPrevious : Bool) (previous current : UInt8) (errors : UInt64) : Bool × UInt8 × UInt64 :=
  if hasPrevious = false then (true, current, errors)
  else (true, current, if (current - previous) &&& 0x0f ≠ 1 then errors + 1 else errors)

namespace PacketCounters

def updateOutSequence (counters : PacketCounters) (current : UInt8) : PacketCounters :=
  let (hasOutSequence, lastOutSequence, outSequenceErrors) :=
    updateSequence counters.hasOutSequence counters.lastOutSequence current counters.outSequenceErrors
  { counters with hasOutSequence, lastOutSequence, outSequenceErrors }

def updateInSequence (counters : PacketCounters) (current : UInt8) : PacketCounters :=
  let (hasInSequence, lastInSequence, inSequenceErrors) :=
    updateSequence counters.hasInSequence counters.lastInSequence current counters.inSequenceErrors
  { counters with hasInSequence, lastInSequence, inSequenceErrors }

/-- A record of the receiver arrived, whatever it holds. -/
def arrive (counters : PacketCounters) (packet : WhDriverPacket) : PacketCounters :=
  { counters with
    transportPackets := counters.transportPackets + (1 + packet.nullPackets.toUInt64)
    nullPackets := counters.nullPackets + packet.nullPackets.toUInt64 }

def flag (counters : PacketCounters) (packet : WhDriverPacket) : PacketCounters :=
  { counters with
    restartErrors := if packet.restart then counters.restartErrors + 1 else counters.restartErrors
    overflowErrors := if packet.overflow then counters.overflowErrors + 1 else counters.overflowErrors }

end PacketCounters

def maxQueuedPacketsPerReceiver : Nat := 65536

structure PacketQueues where
  packetCounters : Fin 4 → PacketCounters := fun _ => {}
  packetQueues : Fin 4 → List TransportPacket := fun _ => []

/-- `receiver.value - 1` as an index, when it is in range. -/
def ReceiverId.index (receiver : ReceiverId) : Option (Fin 4) :=
  let index := receiver.value.toInt - 1
  if inRange : 0 ≤ index ∧ index < 4 then some ⟨index.toNat, by omega⟩ else none

namespace PacketQueues

def updateCounters (queues : PacketQueues) (receiver : Fin 4) (change : PacketCounters → PacketCounters) : PacketQueues :=
  { queues with
    packetCounters := Function.update queues.packetCounters receiver (change (queues.packetCounters receiver)) }

/-- `ingestPacket` up to the packets it enqueues. -/
def countPacket (queues : PacketQueues) (packet : WhDriverPacket) : PacketQueues :=
  let receiver := packet.receiverIndex
  let queues := queues.updateCounters receiver (·.arrive packet)
  if packet.synced = false then
    queues.updateCounters receiver fun counters => { counters with syncErrors := counters.syncErrors + 1 }
  else if packet.valid = false then queues
  else
    let queues := queues.updateCounters receiver fun counters => { counters with validPackets := counters.validPackets + 1 }
    let queues := queues.updateCounters packet.picIndex (·.updateOutSequence packet.outSequence)
    let queues := queues.updateCounters receiver (·.updateInSequence packet.inSequence)
    queues.updateCounters receiver (·.flag packet)

/-- The packets `ingestPacket` enqueues. -/
def packetsOf (packet : WhDriverPacket) : List TransportPacket :=
  if packet.synced = false ∨ packet.valid = false then []
  else List.replicate packet.nullPackets.toNat nullPacket ++ [packet.ts]

def enqueuePacketLocked (queues : PacketQueues) (receiver : Fin 4) (ts : TransportPacket) : PacketQueues :=
  let queue := queues.packetQueues receiver
  let full := maxQueuedPacketsPerReceiver ≤ queue.length
  { packetCounters :=
      if full then
        Function.update queues.packetCounters receiver
          { queues.packetCounters receiver with overflowErrors := (queues.packetCounters receiver).overflowErrors + 1 }
      else queues.packetCounters
    packetQueues :=
      Function.update queues.packetQueues receiver ((if full then queue.tail else queue) ++ [ts]) }

def ingestPacket (queues : PacketQueues) (packet : WhDriverPacket) : PacketQueues :=
  (packetsOf packet).foldl (·.enqueuePacketLocked packet.receiverIndex ·) (queues.countPacket packet)

/-- The packets that are returned, unless there is no memory for so many. -/
def drainTransportPackets (queues : PacketQueues) (receiver : ReceiverId) (maxPackets : Nat) (reserved : Bool) :
    Option (List TransportPacket) × PacketQueues :=
  match receiver.index with
  | none => (some [], queues)
  | some index =>
    if maxPackets = 0 then (some [], queues)
    else if reserved = false then (none, queues)
    else
      (some ((queues.packetQueues index).take maxPackets),
        { queues with
          packetQueues := Function.update queues.packetQueues index ((queues.packetQueues index).drop maxPackets) })

def clearReceiverPacketQueue (queues : PacketQueues) (receiver : ReceiverId) : PacketQueues :=
  match receiver.index with
  | none => queues
  | some index => { queues with packetQueues := Function.update queues.packetQueues index [] }

end PacketQueues

/-! ## The threads -/

/-- What the threads do. Ingesting a record counts it first; then each of its
packets is enqueued under the lock of the queues, which a drain or a clear may
take in between. -/
inductive QueueEvent where
  | ingest (record : DriverRecord)
  | enqueue
  | drain (receiver : ReceiverId) (maxPackets : Nat) (reserved : Bool)
  | clear (receiver : ReceiverId)

/-- The queues, and the packets the reader thread has still to enqueue, with
their receiver; then every record it read, and the books of the receivers. -/
structure PacketRun where
  queues : PacketQueues := {}
  ingesting : Fin 4 × List TransportPacket := (0, [])
  records : List WhDriverPacket := []
  books : Fin 4 → DroppingQueue.Books TransportPacket := fun _ => {}

namespace PacketRun

open PacketQueues

def keep (run : PacketRun) (receiver : Fin 4) (entry : DroppingQueue.Books TransportPacket → DroppingQueue.Books TransportPacket) :
    PacketRun :=
  { run with books := Function.update run.books receiver (entry (run.books receiver)) }

def step (run : PacketRun) : QueueEvent → Option PacketRun
  | .ingest record =>
    let packet := WhDriverPacket.ofRecord record
    if run.ingesting.2 = [] then
      some { run with
        queues := run.queues.countPacket packet
        ingesting := (packet.receiverIndex, packetsOf packet)
        records := run.records ++ [packet] }
    else none
  | .enqueue =>
    match run.ingesting with
    | (_, []) => none
    | (receiver, ts :: rest) =>
      let queues := run.queues.enqueuePacketLocked receiver ts
      let gone := (run.queues.packetQueues receiver).length + 1 - (queues.packetQueues receiver).length
      some ({ run with queues, ingesting := (receiver, rest) }.keep receiver (·.enter ts gone))
  | .drain receiver maxPackets reserved =>
    let (returned, queues) := run.queues.drainTransportPackets receiver maxPackets reserved
    let run := { run with queues }
    some (receiver.index.elim run fun index => run.keep index (·.take (returned.getD [])))
  | .clear receiver =>
    some (receiver.index.elim run fun index =>
      { run with queues := run.queues.clearReceiverPacketQueue receiver }.keep index
        (·.clear (run.queues.packetQueues index).length))

end PacketRun
end WhRepeater
