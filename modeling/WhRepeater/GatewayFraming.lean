import Mathlib.Data.List.Induction
import WhRepeater.TsGatewaySocket

/-! What the UDP sink of the Pi does with the bytes it takes, however its sends
turn out: datagrams of whole packets, in order, each of them sent or dropped as
a whole, and a remainder that is short of a datagram. -/
namespace WhRepeater

open Gathering GatewayTransport

namespace ObservedSink

/-- The bytes of the writes that are taken. -/
def acceptedInput : List (Time × SinkCall) → Bytes
  | [] => []
  | (_, .write packet) :: rest => (if packet.length % tsPacketSize = 0 then packet else []) ++ acceptedInput rest
  | (_, .setActive _) :: rest | (_, .flush) :: rest => acceptedInput rest

/-- The datagrams that were cut, with what became of them, the latest first. -/
def cut (sink : ObservedSink) : List (Bytes × Sending) :=
  sink.calls.filterMap fun call =>
    match call with
    | .socket _ => none
    | .datagram data sending => some (data, sending)

/-- The bytes of the datagrams with such an end. -/
def bytesWith (ended : Sending → Bool) (datagrams : List (Bytes × Sending)) : Nat :=
  ((datagrams.filter fun datagram => ended datagram.2).map fun datagram => datagram.1.length).sum

def sentBytes (sink : ObservedSink) : Nat := bytesWith (· = .sent) sink.cut

def droppedBytes (sink : ObservedSink) : Nat := bytesWith (· ≠ .sent) sink.cut

/-- The sink after the calls. -/
def performed (network : Network) (sink : ObservedSink) (calls : List (Time × SinkCall)) : ObservedSink :=
  calls.foldl (fun sink call => (sink.perform network call).2) sink

/-- The calls that flush. -/
def Flushes (call : SinkCall) : Prop := call = .flush ∨ call = .setActive none

/-- What is asked of the sink after the calls. -/
structure Conserved (calls : List (Time × SinkCall)) (sink : ObservedSink) : Prop where
  whole : ∀ datagram ∈ sink.cut, datagram.1 ≠ [] ∧ datagram.1.length % tsPacketSize = 0
  ordered : (sink.cut.reverse.map Prod.fst).flatten ++ sink.datagram = acceptedInput calls
  accounted : (acceptedInput calls).length = sink.sentBytes + sink.droppedBytes + sink.datagram.length
  pending : sink.datagram.length % tsPacketSize = 0
  room : sink.datagram.length < datagramSize
  bytes : sink.status.bytes = UInt64.ofNat sink.sentBytes
  counted : sink.status.bytes = UInt64.ofNat tsPacketSize * sink.status.transportPackets

/-- What is asked of one more call: only a flush cuts a datagram that is not
full, and a write that is refused leaves all but the error behind. -/
structure Framed (call : Time × SinkCall) (before after : ObservedSink) : Prop where
  full : ∃ fresh, after.cut = fresh ++ before.cut ∧
    ((∀ datagram ∈ fresh, datagram.1.length = datagramSize) ∨ Flushes call.2)
  refused : ∀ packet, call.2 = .write packet → packet.length % tsPacketSize ≠ 0 →
    ∃ error, after = { before with
      status := { before.status with
        sendErrors := before.status.sendErrors + 1
        lastError := some error
        updatedAt := call.1 } }

/-! ## What gathers -/

variable {network : Network} {sink : ObservedSink} {now : Time} {packet : Bytes}

/-- What the sink holds and has cut. -/
def lane (sink : ObservedSink) : Gathered UInt8 := ⟨sink.datagram, sink.cut.map Prod.fst⟩

theorem flushDatagram_datagram : (sink.flushDatagram network now).datagram = [] := by
  unfold flushDatagram TsGatewaySink.flushDatagram
  dsimp only
  split
  · assumption
  · split <;> rfl

theorem flushDatagram_cut : (sink.flushDatagram network now).cut =
    if sink.datagram = [] then sink.cut else (sink.datagram, network.sends sink.attempts) :: sink.cut := by
  unfold flushDatagram cut
  dsimp only
  split <;> rfl

/-- What a datagram adds to the counters. -/
theorem flushDatagram_status (some : sink.datagram ≠ []) :
    let added := if network.sends sink.attempts = .sent then sink.datagram.length else 0
    (sink.flushDatagram network now).status.bytes = sink.status.bytes + UInt64.ofNat added ∧
      (sink.flushDatagram network now).status.transportPackets =
        sink.status.transportPackets + UInt64.ofNat (added / tsPacketSize) := by
  unfold flushDatagram TsGatewaySink.flushDatagram
  dsimp only
  rw [if_neg some]
  split <;> rename_i ended <;> simp [ended]

/-- The counters are those of the datagrams that were sent. -/
structure Counts (sink : ObservedSink) : Prop where
  bytes : sink.status.bytes = UInt64.ofNat sink.sentBytes
  counted : sink.status.bytes = UInt64.ofNat tsPacketSize * sink.status.transportPackets

theorem bytesWith_cons (ended : Sending → Bool) (datagram : Bytes × Sending) (rest : List (Bytes × Sending)) :
    bytesWith ended (datagram :: rest) = (if ended datagram.2 then datagram.1.length else 0) + bytesWith ended rest := by
  unfold bytesWith
  rw [List.filter_cons]
  split <;> simp

theorem flushDatagram_counts (counts : Counts sink) (whole : sink.datagram.length % tsPacketSize = 0) :
    Counts (sink.flushDatagram network now) := by
  by_cases nothing : sink.datagram = []
  · have same : sink.flushDatagram network now = sink := by
      unfold flushDatagram TsGatewaySink.flushDatagram
      simp [nothing]
    rwa [same]
  · have cut := @flushDatagram_cut network sink now
    rw [if_neg nothing] at cut
    obtain ⟨more, packets⟩ := @flushDatagram_status network sink now nothing
    have sent : (sink.flushDatagram network now).sentBytes =
        (if network.sends sink.attempts = .sent then sink.datagram.length else 0) + sink.sentBytes := by
      rw [sentBytes, cut, bytesWith_cons]
      simp [sentBytes]
    constructor
    · rw [sent, more, UInt64.ofNat_add, ← counts.bytes, UInt64.add_comm]
    · rw [more, packets, counts.counted, UInt64.mul_add, ← UInt64.ofNat_mul, Nat.mul_div_cancel']
      split
      · exact Nat.dvd_of_mod_eq_zero whole
      · exact Nat.dvd_zero _

theorem flushDatagram_lane : (sink.flushDatagram network now).lane =
    if sink.datagram = [] then sink.lane else ⟨[], sink.datagram :: sink.cut.map Prod.fst⟩ := by
  unfold lane
  rw [flushDatagram_datagram, flushDatagram_cut]
  split
  · rename_i nothing
    rw [nothing]
  · rfl

theorem writeByte_lane (byte : UInt8) : (sink.writeByte network now byte).lane = add datagramSize sink.lane byte := by
  unfold writeByte
  dsimp only [add, lane]
  split
  · refine flushDatagram_lane.trans ?_
    rw [if_neg (by simp)]
    rfl
  · rfl

/-- A byte cuts one datagram or none, and leaves the counters right. -/
theorem writeByte_grows (byte : UInt8) :
    (∃ fresh, (sink.writeByte network now byte).cut = fresh ++ sink.cut) ∧
      (Counts sink → Counts (sink.writeByte network now byte)) := by
  unfold writeByte
  dsimp only
  split
  · rename_i full
    refine ⟨?_, fun counts => ?_⟩
    · rw [flushDatagram_cut, if_neg (by simp)]
      exact ⟨[_], rfl⟩
    · refine flushDatagram_counts ⟨counts.bytes, counts.counted⟩ ?_
      rw [full]
      rfl
  · exact ⟨⟨[], rfl⟩, fun counts => ⟨counts.bytes, counts.counted⟩⟩

theorem foldl_writeByte_grows (data : Bytes) :
    (∃ fresh, (data.foldl (writeByte network now) sink).cut = fresh ++ sink.cut) ∧
      (Counts sink → Counts (data.foldl (writeByte network now) sink)) := by
  induction data generalizing sink with
  | nil => exact ⟨⟨[], rfl⟩, id⟩
  | cons byte rest ih =>
    obtain ⟨⟨first, cut⟩, counts⟩ := @writeByte_grows network sink now byte
    obtain ⟨⟨later, cut'⟩, counts'⟩ := @ih (sink.writeByte network now byte)
    rw [List.foldl_cons]
    exact ⟨⟨later ++ first, by rw [cut', cut, List.append_assoc]⟩, fun before => counts' (counts before)⟩

/-! ## What one call does -/

/-- What a call takes in is in what it cuts and what it holds. -/
structure Moves (more : Bytes) (fresh : List (Bytes × Sending)) (before after : ObservedSink) : Prop where
  cut : after.cut = fresh ++ before.cut
  whole : ∀ datagram ∈ fresh, datagram.1 ≠ [] ∧ datagram.1.length % tsPacketSize = 0
  ordered : before.datagram ++ more = (fresh.reverse.map Prod.fst).flatten ++ after.datagram
  pending : after.datagram.length % tsPacketSize = 0
  room : after.datagram.length < datagramSize
  counts : Counts before → Counts after

theorem flushDatagram_moves (pending : sink.datagram.length % tsPacketSize = 0) :
    ∃ fresh, Moves [] fresh sink (sink.flushDatagram network now) := by
  have cut := @flushDatagram_cut network sink now
  have empty := @flushDatagram_datagram network sink now
  have counts := fun before => @flushDatagram_counts network sink now before pending
  by_cases nothing : sink.datagram = []
  · rw [if_pos nothing] at cut
    exact ⟨[], cut, nofun, by simp [nothing, empty], by rw [empty]; rfl, by rw [empty]; decide, counts⟩
  · rw [if_neg nothing] at cut
    refine ⟨[(sink.datagram, network.sends sink.attempts)], cut, ?_, by simp [empty], by rw [empty]; rfl,
      by rw [empty]; decide, counts⟩
    intro datagram among
    obtain rfl := List.mem_singleton.mp among
    exact ⟨nothing, pending⟩

theorem openSocket_opened (opened : ∀ attempt, network.sockets attempt = none) :
    (sink.openSocket network now).1 = none ∧ (sink.openSocket network now).2.datagram = sink.datagram ∧
      (sink.openSocket network now).2.cut = sink.cut ∧ (sink.openSocket network now).2.status = sink.status := by
  unfold openSocket
  split
  · exact ⟨rfl, rfl, rfl, rfl⟩
  · rw [opened]
    exact ⟨rfl, rfl, rfl, rfl⟩

/-- Whole packets leave full datagrams and whole packets. -/
theorem foldl_writeByte_moves (pending : sink.datagram.length % tsPacketSize = 0)
    (room : sink.datagram.length < datagramSize) (aligned : packet.length % tsPacketSize = 0) :
    ∃ fresh, Moves packet fresh sink (packet.foldl (writeByte network now) sink) ∧
      ∀ datagram ∈ fresh, datagram.1.length = datagramSize := by
  have lane : (packet.foldl (writeByte network now) sink).lane = gather datagramSize sink.lane packet :=
    foldl_gathers datagramSize (fun _ => True) lane _ (fun _ _ _ => trivial) (fun _ byte _ => writeByte_lane byte) trivial packet
  obtain ⟨length, -, -⟩ := gather_length sink.lane packet room
  obtain ⟨groups, cut', sizes, ordered, short⟩ := gather_spec sink.lane packet room
  obtain ⟨⟨fresh, cut⟩, counts⟩ := @foldl_writeByte_grows network sink now packet
  rw [← lane] at cut' ordered short length
  change (packet.foldl (writeByte network now) sink).cut.map Prod.fst = _ at cut'
  rw [cut, List.map_append] at cut'
  have same : fresh.map Prod.fst = groups.reverse := List.append_cancel_right cut'
  have full : ∀ datagram ∈ fresh, datagram.1.length = datagramSize := by
    intro datagram among
    refine sizes datagram.1 (List.mem_reverse.mp ?_)
    rw [← same]
    exact List.mem_map_of_mem among
  have listed : fresh.reverse.map Prod.fst = groups := by rw [List.map_reverse, same, List.reverse_reverse]
  refine ⟨fresh, ⟨cut, ?_, by rw [listed]; exact ordered, ?_, short, counts⟩, full⟩
  · intro datagram among
    have size := full datagram among
    refine ⟨fun nothing => ?_, by rw [size]; rfl⟩
    rw [nothing] at size
    exact absurd size (by decide)
  · have sevenfold : datagramSize = 188 * 7 := rfl
    rw [show (packet.foldl (writeByte network now) sink).datagram.length = _ from length, sevenfold]
    rw [show tsPacketSize = 188 from rfl] at *
    change (sink.datagram.length + packet.length) % (188 * 7) % 188 = 0
    omega

theorem counts_of_same {next : ObservedSink} (cut : next.cut = sink.cut) (bytes : next.status.bytes = sink.status.bytes)
    (packets : next.status.transportPackets = sink.status.transportPackets) (counts : Counts sink) : Counts next := by
  constructor
  · rw [bytes, sentBytes, cut]
    exact counts.bytes
  · rw [bytes, packets]
    exact counts.counted

theorem perform_moves (opened : ∀ attempt, network.sockets attempt = none)
    (pending : sink.datagram.length % tsPacketSize = 0) (room : sink.datagram.length < datagramSize) (call : SinkCall) :
    ∃ fresh, Moves (acceptedInput [(now, call)]) fresh sink (sink.perform network (now, call)).2 ∧
      ((∀ datagram ∈ fresh, datagram.1.length = datagramSize) ∨ Flushes call) := by
  cases call with
  | flush =>
    obtain ⟨fresh, moves⟩ := @flushDatagram_moves network sink now pending
    exact ⟨fresh, moves, .inr (.inl rfl)⟩
  | setActive active =>
    cases active with
    | none =>
      obtain ⟨fresh, moves⟩ := @flushDatagram_moves network
        { sink with status := { sink.status with activeReceiver := none, updatedAt := now } } now pending
      exact ⟨fresh, ⟨moves.cut, moves.whole, moves.ordered, moves.pending, moves.room,
        fun counts => moves.counts (@counts_of_same sink _ rfl rfl rfl counts)⟩, .inr (.inr rfl)⟩
    | some input =>
      exact ⟨[], ⟨rfl, nofun, by simp [acceptedInput, perform, setActive], pending, room, counts_of_same rfl rfl rfl⟩, .inl nofun⟩
  | write packet =>
    simp only [acceptedInput, List.append_nil, perform, write]
    by_cases aligned : packet.length % tsPacketSize = 0
    · rw [if_pos aligned]
      by_cases nothing : packet = []
      · rw [if_pos nothing, nothing]
        exact ⟨[], ⟨rfl, nofun, by simp, pending, room, id⟩, .inl nofun⟩
      · rw [if_neg nothing, if_neg (not_not.mpr aligned)]
        obtain ⟨fine, datagram, cut, status⟩ := @openSocket_opened network sink now opened
        generalize sink.openSocket network now = called at fine datagram cut status
        obtain ⟨exception, called⟩ := called
        dsimp only at fine datagram cut status
        subst fine
        obtain ⟨fresh, moves, full⟩ := @foldl_writeByte_moves network called now packet (by rwa [datagram]) (by rwa [datagram]) aligned
        refine ⟨fresh, ⟨by rw [moves.cut, cut], moves.whole, by rw [← datagram, moves.ordered], moves.pending, moves.room, ?_⟩,
          .inl full⟩
        exact fun counts => moves.counts (counts_of_same cut (by rw [status]) (by rw [status]) counts)
    · have some : packet ≠ [] := by
        rintro rfl
        exact aligned rfl
      rw [if_neg aligned, if_neg some, if_pos aligned]
      exact ⟨[], ⟨rfl, nofun, by simp, pending, room, counts_of_same rfl rfl rfl⟩, .inl nofun⟩

/-! ## Runs of calls -/

theorem acceptedInput_append (front back : List (Time × SinkCall)) :
    acceptedInput (front ++ back) = acceptedInput front ++ acceptedInput back := by
  induction front with
  | nil => rfl
  | cons call rest ih =>
    obtain ⟨now, write | flush⟩ := call <;> simp [acceptedInput, ih]

/-- A datagram is sent or dropped. -/
theorem sent_add_dropped (sink : ObservedSink) :
    sink.sentBytes + sink.droppedBytes = (sink.cut.reverse.map Prod.fst).flatten.length := by
  unfold sentBytes droppedBytes
  generalize sink.cut = cut
  induction cut with
  | nil => rfl
  | cons datagram rest ih =>
    rw [bytesWith_cons, bytesWith_cons, List.reverse_cons, List.map_append, List.flatten_append, List.length_append, ← ih]
    by_cases sent : datagram.2 = .sent <;> simp [sent] <;> omega

theorem perform_conserved {calls : List (Time × SinkCall)} (opened : ∀ attempt, network.sockets attempt = none)
    (conserved : Conserved calls sink) (call : Time × SinkCall) :
    Conserved (calls ++ [call]) (sink.perform network call).2 := by
  obtain ⟨fresh, moves, -⟩ := @perform_moves network sink call.1 opened conserved.pending conserved.room call.2
  have counts := moves.counts ⟨conserved.bytes, conserved.counted⟩
  have ordered : ((sink.perform network call).2.cut.reverse.map Prod.fst).flatten ++ (sink.perform network call).2.datagram =
      acceptedInput (calls ++ [call]) := by
    rw [acceptedInput_append, ← conserved.ordered, List.append_assoc, moves.ordered, ← List.append_assoc, ← List.flatten_append,
      ← List.map_append, ← List.reverse_append, ← moves.cut]
  refine ⟨?_, ordered, ?_, moves.pending, moves.room, counts.bytes, counts.counted⟩
  · rw [moves.cut]
    intro datagram among
    obtain new | old := List.mem_append.mp among
    · exact moves.whole datagram new
    · exact conserved.whole datagram old
  · rw [← ordered, List.length_append, sent_add_dropped]

theorem perform_framed {calls : List (Time × SinkCall)} (opened : ∀ attempt, network.sockets attempt = none)
    (conserved : Conserved calls sink) (call : Time × SinkCall) : Framed call sink (sink.perform network call).2 := by
  obtain ⟨fresh, moves, full⟩ := @perform_moves network sink call.1 opened conserved.pending conserved.room call.2
  refine ⟨⟨fresh, moves.cut, full⟩, ?_⟩
  obtain ⟨now, call⟩ := call
  rintro packet rfl unaligned
  have some : packet ≠ [] := by
    rintro rfl
    exact unaligned rfl
  simp only [perform, write]
  rw [if_neg some, if_pos unaligned]
  exact ⟨_, rfl⟩

theorem constructed_conserved (config : TsGatewayConfig) (start : Time) : Conserved [] (constructed config start) :=
  ⟨nofun, rfl, rfl, rfl, Nat.zero_lt_succ _, rfl, rfl⟩

theorem performed_conserved (opened : ∀ attempt, network.sockets attempt = none) (config : TsGatewayConfig) (start : Time)
    (calls : List (Time × SinkCall)) : Conserved calls (performed network (constructed config start) calls) := by
  induction calls using List.reverseRecOn with
  | nil => exact constructed_conserved config start
  | append_singleton calls call ih =>
    unfold performed
    rw [List.foldl_append]
    exact perform_conserved opened ih call

/-- After any calls, and however the sends turn out, the datagrams are whole
packets of the accepted input in order, nothing is lost but what is dropped, and
the next call frames what it cuts. -/
theorem calls_conserved (network : Network) (opened : ∀ attempt, network.sockets attempt = none) (config : TsGatewayConfig)
    (start : Time) (calls : List (Time × SinkCall)) :
    Conserved calls (performed network (constructed config start) calls) ∧
      ∀ call, Framed call (performed network (constructed config start) calls)
        ((performed network (constructed config start) calls).perform network call).2 :=
  have conserved := performed_conserved opened config start calls
  ⟨conserved, perform_framed opened conserved⟩

/-- A network whose first datagram fails. -/
def failsOnce : Network := ⟨fun _ => none, fun attempt => if attempt = 0 then .failed (bytes "Network is unreachable") else .sent⟩

theorem dropped_datagram_conserved :
    (∀ attempt, failsOnce.sockets attempt = none) ∧
      Conserved [(1, .write (List.replicate 188 0x47)), (2, .flush)] (performed failsOnce (constructed {} 0)
        [(1, .write (List.replicate 188 0x47)), (2, .flush)]) :=
  ⟨fun _ => rfl, (calls_conserved failsOnce (fun _ => rfl) {} 0 [(1, .write (List.replicate 188 0x47)), (2, .flush)]).1⟩

end ObservedSink
end WhRepeater
