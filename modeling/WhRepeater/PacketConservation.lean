import Mathlib.Algebra.GroupWithZero.Nat
import WhRepeater.PacketQueues
import WhRepeater.Runs

/-! No packet is lost between the driver and a drain without being counted:
whatever the order of the reader thread, the drains and the clears, each
receiver's books balance. -/
namespace WhRepeater

open Runs DroppingQueue

/-- A record of the receiver, with a sync byte and valid. -/
def WhDriverPacket.acceptedFor (receiver : Fin 4) (packet : WhDriverPacket) : Bool :=
  packet.receiverIndex = receiver ∧ packet.synced ∧ packet.valid

namespace PacketRun

/-- What of the record being ingested is still to come for a receiver. -/
def pendingFor (run : PacketRun) (receiver : Fin 4) : List TransportPacket :=
  if run.ingesting.1 = receiver then run.ingesting.2 else []

/-- The records that were accepted for a receiver. -/
def acceptedRecords (run : PacketRun) (receiver : Fin 4) : List WhDriverPacket := run.records.filter (·.acceptedFor receiver)

/-- What is asked of the queue of a receiver. -/
structure Conserved (run : PacketRun) (receiver : Fin 4) : Prop where
  bounded : (run.queues.packetQueues receiver).length ≤ maxQueuedPacketsPerReceiver
  ordered : (run.books receiver).taken.Sublist (run.books receiver).sinceClear
  recent : (run.books receiver).sinceClear <:+ (run.books receiver).entered
  own : (run.books receiver).entered ++ run.pendingFor receiver =
    (run.acceptedRecords receiver).flatMap fun packet => List.replicate packet.nullPackets.toNat nullPacket ++ [packet.ts]
  offered : (run.books receiver).entered.length + (run.pendingFor receiver).length =
    ((run.acceptedRecords receiver).map fun packet => 1 + packet.nullPackets.toNat).sum
  balance : (run.books receiver).entered.length = (run.books receiver).drained +
    (run.queues.packetQueues receiver).length + (run.books receiver).dropped + (run.books receiver).cleared
  overflow : (run.queues.packetCounters receiver).overflowErrors =
    UInt64.ofNat ((run.books receiver).dropped + ((run.acceptedRecords receiver).filter WhDriverPacket.overflow).length)

/-- What a drain returns is the front of the receiver's queue, in order, and the
other queues stand. -/
def DrainsOwn (before : PacketRun) (event : QueueEvent) (after : PacketRun) : Prop :=
  ∀ receiver maxPackets reserved packets, event = .drain receiver maxPackets reserved →
    (before.queues.drainTransportPackets receiver maxPackets reserved).1 = some packets →
    packets.length ≤ maxPackets ∧
      (∀ index, receiver.index = some index → packets ++ after.queues.packetQueues index = before.queues.packetQueues index) ∧
      ∀ index, receiver.index ≠ some index → after.queues.packetQueues index = before.queues.packetQueues index

/-! ## The counters -/

variable {queues : PacketQueues} {packet : WhDriverPacket} {receiver other : Fin 4} {run next : PacketRun}

@[simp] theorem arrive_overflow {counters : PacketCounters} : (counters.arrive packet).overflowErrors = counters.overflowErrors := rfl

@[simp] theorem updateOutSequence_overflow {counters : PacketCounters} {current : UInt8} :
    (counters.updateOutSequence current).overflowErrors = counters.overflowErrors := rfl

@[simp] theorem updateInSequence_overflow {counters : PacketCounters} {current : UInt8} :
    (counters.updateInSequence current).overflowErrors = counters.overflowErrors := rfl

@[simp] theorem packetQueues_updateCounters {change : PacketCounters → PacketCounters} :
    (queues.updateCounters other change).packetQueues = queues.packetQueues := rfl

theorem overflow_updateCounters {change : PacketCounters → PacketCounters} :
    ((queues.updateCounters other change).packetCounters receiver).overflowErrors =
      if receiver = other then (change (queues.packetCounters receiver)).overflowErrors
      else (queues.packetCounters receiver).overflowErrors := by
  unfold PacketQueues.updateCounters
  by_cases mine : receiver = other
  · subst mine
    simp
  · simp [mine]

/-- Only a flag of an accepted record counts as an overflow of the driver. -/
theorem countPacket_overflow : ((queues.countPacket packet).packetCounters receiver).overflowErrors =
    (queues.packetCounters receiver).overflowErrors + if packet.acceptedFor receiver ∧ packet.overflow then 1 else 0 := by
  unfold PacketQueues.countPacket WhDriverPacket.acceptedFor
  dsimp only
  cases synced : packet.synced with
  | false => simp [overflow_updateCounters]
  | true =>
    cases valid : packet.valid with
    | false => simp [overflow_updateCounters]
    | true =>
      by_cases mine : receiver = packet.receiverIndex
      · cases flagged : packet.overflow <;>
          simp [overflow_updateCounters, mine, PacketCounters.flag, flagged]
      · simp [overflow_updateCounters, mine, Ne.symm mine]

@[simp] theorem packetQueues_countPacket : (queues.countPacket packet).packetQueues = queues.packetQueues := by
  unfold PacketQueues.countPacket
  dsimp only
  split
  · rfl
  · split <;> rfl

/-! ## The books -/

/-- The receiver's queue balances with its books, and these with the records. -/
structure Sound (run : PacketRun) (receiver : Fin 4) : Prop where
  balanced : (run.books receiver).Balanced maxQueuedPacketsPerReceiver (run.queues.packetQueues receiver)
  own : (run.books receiver).entered ++ run.pendingFor receiver =
    (run.acceptedRecords receiver).flatMap fun packet => List.replicate packet.nullPackets.toNat nullPacket ++ [packet.ts]
  overflow : (run.queues.packetCounters receiver).overflowErrors =
    UInt64.ofNat ((run.books receiver).dropped + ((run.acceptedRecords receiver).filter WhDriverPacket.overflow).length)

theorem sound_start : Sound {} receiver := ⟨Books.balanced_nil, by simp [pendingFor, acceptedRecords], rfl⟩

theorem Sound.conserved (sound : Sound run receiver) : Conserved run receiver := by
  refine ⟨sound.balanced.bounded, sound.balanced.taken_sublist, sound.balanced.recent, sound.own, ?_, sound.balanced.balance,
    sound.overflow⟩
  rw [← List.length_append, sound.own, List.length_flatMap]
  simp [Nat.add_comm]

theorem keep_books_self {entry : Books TransportPacket → Books TransportPacket} :
    (run.keep receiver entry).books receiver = entry (run.books receiver) := Function.update_self ..

theorem keep_books_other {entry : Books TransportPacket → Books TransportPacket} (apart : receiver ≠ other) :
    (run.keep other entry).books receiver = run.books receiver := Function.update_of_ne apart ..

/-! ## The steps -/

theorem ingest_sound {record : DriverRecord} (sound : Sound run receiver) (stepped : run.step (.ingest record) = some next) :
    Sound next receiver := by
  obtain ⟨balanced, own, overflow⟩ := sound
  unfold step at stepped
  dsimp only at stepped
  generalize WhDriverPacket.ofRecord record = packet at stepped
  split at stepped
  · rename_i idle
    obtain rfl := Option.some.inj stepped
    have nothing : run.pendingFor receiver = [] := by simp [pendingFor, idle]
    rw [nothing, List.append_nil] at own
    refine ⟨by simpa using balanced, ?_, ?_⟩
    · unfold acceptedRecords at own ⊢
      unfold pendingFor
      rw [own, List.filter_append, List.flatMap_append, List.append_cancel_left_eq]
      unfold PacketQueues.packetsOf WhDriverPacket.acceptedFor
      by_cases mine : packet.receiverIndex = receiver <;> cases synced : packet.synced <;> cases valid : packet.valid <;>
        simp [mine, synced, valid]
    · rw [countPacket_overflow, overflow]
      unfold acceptedRecords
      rw [List.filter_append, List.filter_append, List.length_append, ← Nat.add_assoc, UInt64.ofNat_add]
      cases accepted : packet.acceptedFor receiver <;> cases flagged : packet.overflow <;> simp [accepted, flagged]
  · cases stepped

theorem enqueuePacketLocked_queue {ts : TransportPacket} : (queues.enqueuePacketLocked other ts).packetQueues =
    Function.update queues.packetQueues other (push maxQueuedPacketsPerReceiver (queues.packetQueues other) ts) := rfl

/-- A packet that is dropped is counted as an overflow. -/
theorem enqueuePacketLocked_overflow {ts : TransportPacket} :
    ((queues.enqueuePacketLocked receiver ts).packetCounters receiver).overflowErrors =
      (queues.packetCounters receiver).overflowErrors + UInt64.ofNat ((queues.packetQueues receiver).length + 1 -
        (push maxQueuedPacketsPerReceiver (queues.packetQueues receiver) ts).length) := by
  unfold PacketQueues.enqueuePacketLocked push
  by_cases full : maxQueuedPacketsPerReceiver ≤ (queues.packetQueues receiver).length
  · have some : 0 < (queues.packetQueues receiver).length := Nat.lt_of_lt_of_le (by decide) full
    have one : (queues.packetQueues receiver).length + 1 - ((queues.packetQueues receiver).length - 1 + 1) = 1 := by omega
    simp [full, one]
  · simp [full]

theorem enqueuePacketLocked_counters {ts : TransportPacket} (apart : receiver ≠ other) :
    (queues.enqueuePacketLocked other ts).packetCounters receiver = queues.packetCounters receiver := by
  unfold PacketQueues.enqueuePacketLocked
  dsimp only
  split_ifs <;> simp [apart]

theorem enqueue_sound (sound : Sound run receiver) (stepped : run.step .enqueue = some next) : Sound next receiver := by
  obtain ⟨balanced, own, overflow⟩ := sound
  unfold step at stepped
  dsimp only at stepped
  split at stepped
  · cases stepped
  · rename_i index ts rest ingesting
    obtain rfl := Option.some.inj stepped
    by_cases mine : receiver = index
    · subst mine
      refine ⟨?_, ?_, ?_⟩
      · simpa [keep, enqueuePacketLocked_queue] using balanced.enter (by decide) ts
      · simpa [keep, Books.enter, pendingFor, ingesting, acceptedRecords] using own
      · simp only [keep, Function.update_self, Books.enter, enqueuePacketLocked_overflow, overflow, ← UInt64.ofNat_add,
          enqueuePacketLocked_queue, acceptedRecords]
        congr 1
        omega
    · refine ⟨?_, ?_, ?_⟩
      · simpa [keep, enqueuePacketLocked_queue, mine] using balanced
      · simpa [keep, pendingFor, ingesting, Ne.symm mine, mine, acceptedRecords] using own
      · simpa [keep, enqueuePacketLocked_counters mine, mine, acceptedRecords] using overflow

/-- A drain takes so many packets off the front of the receiver's queue. -/
theorem drainTransportPackets_spec {id : ReceiverId} {index : Fin 4} (maxPackets : Nat) (reserved : Bool)
    (found : id.index = some index) : ∃ count ≤ maxPackets,
      (queues.drainTransportPackets id maxPackets reserved).1.getD [] = (queues.packetQueues index).take count ∧
      (queues.drainTransportPackets id maxPackets reserved).2 = { queues with
        packetQueues := Function.update queues.packetQueues index ((queues.packetQueues index).drop count) } := by
  unfold PacketQueues.drainTransportPackets
  rw [found]
  dsimp only
  split_ifs
  · exact ⟨0, Nat.zero_le _, rfl, by simp⟩
  · exact ⟨0, Nat.zero_le _, rfl, by simp⟩
  · exact ⟨maxPackets, le_rfl, rfl, rfl⟩

theorem step_drain {id : ReceiverId} {maxPackets : Nat} {reserved : Bool} : run.step (.drain id maxPackets reserved) =
    let drained := run.queues.drainTransportPackets id maxPackets reserved
    let after := { run with queues := drained.2 }
    some (id.index.elim after fun index => after.keep index (·.take (drained.1.getD []))) := rfl

theorem drain_sound {id : ReceiverId} {maxPackets : Nat} {reserved : Bool} (sound : Sound run receiver)
    (stepped : run.step (.drain id maxPackets reserved) = some next) : Sound next receiver := by
  obtain ⟨balanced, own, overflow⟩ := sound
  rw [step_drain] at stepped
  obtain rfl := Option.some.inj stepped
  cases found : id.index with
  | none => exact ⟨by simpa [PacketQueues.drainTransportPackets, found] using balanced, own,
      by simpa [PacketQueues.drainTransportPackets, found, acceptedRecords] using overflow⟩
  | some index =>
    obtain ⟨count, -, returned, left⟩ := drainTransportPackets_spec maxPackets reserved found
    dsimp only [Option.elim]
    rw [returned, left]
    by_cases mine : receiver = index
    · subst mine
      refine ⟨by simpa [keep] using balanced.take count, ?_, ?_⟩ <;> rw [keep_books_self]
      · exact own
      · exact overflow
    · refine ⟨by simpa [keep, mine] using balanced, ?_, ?_⟩ <;> rw [keep_books_other mine]
      · exact own
      · exact overflow

theorem clear_sound {id : ReceiverId} (sound : Sound run receiver) (stepped : run.step (.clear id) = some next) :
    Sound next receiver := by
  obtain ⟨balanced, own, overflow⟩ := sound
  obtain rfl := Option.some.inj stepped
  unfold PacketQueues.clearReceiverPacketQueue
  cases found : id.index with
  | none => exact ⟨balanced, own, overflow⟩
  | some index =>
    dsimp only [Option.elim]
    by_cases mine : receiver = index
    · subst mine
      refine ⟨by simpa [keep] using balanced.clear, ?_, ?_⟩ <;> rw [keep_books_self]
      · exact own
      · exact overflow
    · refine ⟨by simpa [keep, mine] using balanced, ?_, ?_⟩ <;> rw [keep_books_other mine]
      · exact own
      · exact overflow

theorem step_sound {event : QueueEvent} (sound : Sound run receiver) (stepped : run.step event = some next) :
    Sound next receiver := by
  cases event with
  | ingest record => exact ingest_sound sound stepped
  | enqueue => exact enqueue_sound sound stepped
  | drain id maxPackets reserved => exact drain_sound sound stepped
  | clear id => exact clear_sound sound stepped

theorem step_drains {event : QueueEvent} (stepped : run.step event = some next) : DrainsOwn run event next := by
  rintro id maxPackets reserved packets rfl handed
  rw [step_drain] at stepped
  obtain rfl := Option.some.inj stepped
  cases found : id.index with
  | none =>
    have nothing : packets = [] := by simpa [PacketQueues.drainTransportPackets, found] using handed.symm
    subst nothing
    exact ⟨Nat.zero_le _, by simp, fun index _ => by simp [PacketQueues.drainTransportPackets, found]⟩
  | some index =>
    obtain ⟨count, most, returned, left⟩ := @drainTransportPackets_spec run.queues _ _ maxPackets reserved found
    rw [handed, Option.getD_some] at returned
    subst returned
    dsimp only [Option.elim, keep]
    rw [left]
    refine ⟨(List.length_take_le _ _).trans most, ?_, ?_⟩
    · rintro other mine
      obtain rfl := Option.some.inj mine
      simp
    · intro other apart
      have distinct : other ≠ index := fun same => apart (by rw [same])
      simp [distinct]

/-- When nothing comes in between, ingesting a record and its packets is what
`ingestPacket` does. -/
theorem run_ingestPacket {record : DriverRecord} (idle : run.ingesting.2 = []) : ∃ after,
    Runs.run step run (.ingest record :: List.replicate (PacketQueues.packetsOf (.ofRecord record)).length .enqueue) = some after ∧
      after.queues = run.queues.ingestPacket (.ofRecord record) := by
  have enqueued : ∀ (packets : List TransportPacket) (start : PacketRun), start.ingesting.2 = packets → ∃ after,
      Runs.run step start (List.replicate packets.length .enqueue) = some after ∧
        after.queues = packets.foldl (·.enqueuePacketLocked start.ingesting.1 ·) start.queues := by
    intro packets
    induction packets with
    | nil => exact fun start _ => ⟨start, rfl, rfl⟩
    | cons ts rest ih =>
      rintro ⟨queues, ⟨receiver, left⟩, records, books⟩ (rfl : left = ts :: rest)
      exact ih (_ : PacketRun) rfl
  unfold PacketQueues.ingestPacket
  rw [run_cons, step, if_pos idle, Option.bind_some]
  exact enqueued _ _ rfl

end PacketRun

/-- Whatever the interleaving of the reader thread with drains and clears, the
books of every receiver balance after every step, and every drain returns the
front of its own receiver's queue. -/
theorem packets_conserved (events : List QueueEvent) :
    Throughout PacketRun.step
      (fun before event after => (∀ receiver, after.Conserved receiver) ∧ PacketRun.DrainsOwn before event after) {} events := by
  refine throughout_of_invariant (fun run => ∀ receiver, run.Sound receiver) (fun run event next sound stepped => ?_)
    fun _ => PacketRun.sound_start
  have kept : ∀ receiver, next.Sound receiver := fun receiver => PacketRun.step_sound (sound receiver) stepped
  exact ⟨kept, fun receiver => (kept receiver).conserved, PacketRun.step_drains stepped⟩

/-- A record without a sync byte that is flagged valid and as an overflow. -/
def unsyncedOverflow : DriverRecord := ⟨List.replicate 189 0 ++ [0x05, 0, 0], by rw [List.length_append, List.length_replicate]; rfl⟩

/-- It counts as a sync error only. -/
theorem unsynced_overflow_is_not_counted : ¬ ∀ events final, run PacketRun.step {} events = some final → ∀ receiver,
    (final.queues.packetCounters receiver).overflowErrors = UInt64.ofNat ((final.books receiver).dropped +
      (final.records.filter fun packet => packet.receiverIndex = receiver ∧ packet.valid ∧ packet.overflow).length) := by
  intro counted
  exact absurd (counted [.ingest unsyncedOverflow] _ rfl 0) (by decide +kernel)

end WhRepeater
