import WhRepeater.GatewayFraming
import WhRepeater.Runs

/-! The output of the gateway loop when the network fails. Every failure is
recorded, and no failure keeps a later write from succeeding; but a `socket`
that fails leaves the sink as an exception, and the loop around it has no
handler. -/
namespace WhRepeater

open GatewayTransport

/-- `TsRouter`, without the dump of what it routes. -/
structure TsRouter where
  active : Option ActiveInput := none
  deriving Repr, DecidableEq

/-- The router and the sink of the loop, then the exception and the status that
the last call left. -/
structure GatewayOutput where
  router : TsRouter := {}
  sink : ObservedSink
  exception : Option Bytes := none
  reported : Option TsGatewayStatus := none
  deriving Repr, DecidableEq

/-- The calls of the loop. A pump is given the packets that the tuner has for it,
and the time of each write. -/
inductive OutputCall where
  | select (input : Option ActiveInput)
  | setActive (active : Option ActiveInput)
  | pump (drained : List (Time × TransportPacket))
  | status
  deriving DecidableEq

namespace GatewayOutput

variable (network : Network)

def start (config : TsGatewayConfig) (now : Time) : GatewayOutput := { sink := .constructed config now }

/-- The loop of `TsRouter::pump`, which an exception ends. -/
def writeAll (sink : ObservedSink) : List (Time × TransportPacket) → Option Bytes × ObservedSink
  | [] => (none, sink)
  | (now, packet) :: rest =>
    match sink.write network packet.1 now with
    | (some exception, sink) => (some exception, sink)
    | (none, sink) => writeAll sink rest

def pump (output : GatewayOutput) (drained : List (Time × TransportPacket)) : GatewayOutput :=
  if output.router.active = none then { output with exception := none }
  else
    let (exception, sink) := writeAll network output.sink drained
    { output with exception, sink }

def step (output : GatewayOutput) : Time × OutputCall → Option GatewayOutput
  | (_, .select input) => some { output with router := ⟨input⟩, exception := none }
  | (now, .setActive active) => some { output with sink := output.sink.setActive network active now, exception := none }
  | (_, .pump drained) => some (output.pump network drained)
  | (_, .status) => some { output with reported := some output.sink.status, exception := none }

/-! ## What is asked -/

/-- The text that a failed call leaves in the status. -/
def failureText (config : TsGatewayConfig) : NetworkCall → Option Bytes
  | .socket error => error.map (bytes "create UDP socket: " ++ ·)
  | .datagram _ .invalidAddress => some (bytes "invalid destination address: " ++ config.address)
  | .datagram _ (.failed error) => some (bytes "UDP send: " ++ error)
  | .datagram _ .sent => none

/-- The failures so far, the latest first. -/
def failures (sink : ObservedSink) : List Bytes := sink.calls.filterMap (failureText sink.config)

/-- Every failure is counted, and the latest is shown. -/
structure Recorded (sink : ObservedSink) : Prop where
  counted : sink.status.sendErrors = UInt64.ofNat (failures sink).length
  shown : sink.status.lastError = (failures sink).head?

/-- Once nothing fails, a write does not: it cuts what was pending and what it is
given into datagrams that are sent. -/
def Recovers (sink : ObservedSink) : Prop :=
  ∀ network : Network, (∀ attempt, sink.opens ≤ attempt → network.sockets attempt = none) →
    (∀ attempt, sink.attempts ≤ attempt → network.sends attempt = .sent) →
    ∀ (packet : TransportPacket) now,
      (sink.write network packet.1 now).1 = none ∧
        failures (sink.write network packet.1 now).2 = failures sink ∧
        ∃ fresh, (sink.write network packet.1 now).2.cut = fresh ++ sink.cut ∧ (∀ datagram ∈ fresh, datagram.2 = .sent) ∧
          sink.datagram ++ packet.1 = (fresh.reverse.map Prod.fst).flatten ++ (sink.write network packet.1 now).2.datagram

/-- What is asked of a call. -/
structure Survives (after : GatewayOutput) : Prop where
  returned : after.exception = none
  recorded : Recorded after.sink
  recovers : Recovers after.sink

/-- A pump that needs a socket gets it. -/
def SocketGranted (output : GatewayOutput) (event : Time × OutputCall) : Prop :=
  ∀ packet rest, event.2 = .pump (packet :: rest) → output.router.active ≠ none → output.sink.socket = false →
    network.sockets output.sink.opens = none

/-! ## What a write records -/

variable {network} {sink : ObservedSink} {now : Time} {packet : Bytes}

theorem flushDatagram_failures : failures (sink.flushDatagram network now) =
    (if sink.datagram = [] then []
      else (failureText sink.config (.datagram sink.datagram (network.sends sink.attempts))).toList) ++ failures sink := by
  have config : (sink.flushDatagram network now).config = sink.config := by
    unfold ObservedSink.flushDatagram TsGatewaySink.flushDatagram
    dsimp only
    split
    · rfl
    · split <;> rfl
  unfold failures
  rw [config]
  unfold ObservedSink.flushDatagram
  dsimp only
  split
  · rfl
  · rw [List.filterMap_cons]
    split <;> rename_i text <;> rw [text] <;> rfl

theorem flushDatagram_recorded (recorded : Recorded sink) : Recorded (sink.flushDatagram network now) := by
  have listed := @flushDatagram_failures network sink now
  obtain ⟨counted, shown⟩ := recorded
  constructor
  · rw [listed, List.length_append, UInt64.ofNat_add, ← counted]
    unfold ObservedSink.flushDatagram TsGatewaySink.flushDatagram
    dsimp only
    split
    · simp
    · split <;> rename_i ended <;> simp [ended, failureText, UInt64.add_comm]
  · rw [listed, List.head?_append, ← shown]
    unfold ObservedSink.flushDatagram TsGatewaySink.flushDatagram
    dsimp only
    split
    · rfl
    · split <;> rename_i ended <;> simp [ended, failureText]

theorem writeByte_recorded (byte : UInt8) (recorded : Recorded sink) : Recorded (sink.writeByte network now byte) := by
  unfold ObservedSink.writeByte
  dsimp only
  split
  · exact flushDatagram_recorded ⟨recorded.counted, recorded.shown⟩
  · exact ⟨recorded.counted, recorded.shown⟩

theorem foldl_writeByte_recorded (recorded : Recorded sink) :
    Recorded (packet.foldl (ObservedSink.writeByte network now) sink) := by
  induction packet generalizing sink with
  | nil => exact recorded
  | cons byte rest ih => exact ih (writeByte_recorded byte recorded)

/-- What a byte leaves alone, or only grows. -/
theorem writeByte_frame (byte : UInt8) :
    (sink.writeByte network now byte).config = sink.config ∧ (sink.writeByte network now byte).socket = sink.socket ∧
      (sink.writeByte network now byte).opens = sink.opens ∧ sink.attempts ≤ (sink.writeByte network now byte).attempts := by
  unfold ObservedSink.writeByte ObservedSink.flushDatagram TsGatewaySink.flushDatagram
  dsimp only
  split
  · rw [if_neg (by simp)]
    split <;> exact ⟨rfl, rfl, rfl, Nat.le_succ _⟩
  · exact ⟨rfl, rfl, rfl, Nat.le_refl _⟩

theorem foldl_writeByte_frame :
    (packet.foldl (ObservedSink.writeByte network now) sink).config = sink.config ∧
      (packet.foldl (ObservedSink.writeByte network now) sink).socket = sink.socket := by
  induction packet generalizing sink with
  | nil => exact ⟨rfl, rfl⟩
  | cons byte rest ih =>
    obtain ⟨config, socket, -, -⟩ := @writeByte_frame network sink now byte
    obtain ⟨config', socket'⟩ := @ih (sink.writeByte network now byte)
    exact ⟨config'.trans config, socket'.trans socket⟩

/-- While sends succeed, only sent datagrams are cut. -/
theorem foldl_writeByte_sends (sent : ∀ attempt, sink.attempts ≤ attempt → network.sends attempt = .sent) :
    ∃ datagrams : List Bytes, (packet.foldl (ObservedSink.writeByte network now) sink).calls =
      datagrams.map (fun data => .datagram data .sent) ++ sink.calls := by
  induction packet generalizing sink with
  | nil => exact ⟨[], rfl⟩
  | cons byte rest ih =>
    obtain ⟨-, -, -, later⟩ := @writeByte_frame network sink now byte
    obtain ⟨datagrams, calls⟩ := ih fun attempt after => sent attempt (Nat.le_trans later after)
    have first : ∃ data : List Bytes, (sink.writeByte network now byte).calls =
        data.map (fun data => .datagram data .sent) ++ sink.calls := by
      unfold ObservedSink.writeByte ObservedSink.flushDatagram
      dsimp only
      split
      · rw [if_neg (by simp), sent _ (Nat.le_refl _)]
        exact ⟨[_], rfl⟩
      · exact ⟨[], rfl⟩
    obtain ⟨data, calls'⟩ := first
    exact ⟨datagrams ++ data, by rw [List.foldl_cons, calls, calls', List.map_append, List.append_assoc]⟩

/-! ## What opening a socket does -/

theorem openSocket_recorded (recorded : Recorded sink) : Recorded (sink.openSocket network now).2 := by
  unfold ObservedSink.openSocket
  split
  · exact recorded
  · obtain ⟨counted, shown⟩ := recorded
    cases found : network.sockets sink.opens with
    | none => exact ⟨counted, shown⟩
    | some error =>
      constructor
      · simp [failures, failureText, counted, UInt64.ofNat_add]
      · simp [failures, failureText]

theorem openSocket_exception :
    (sink.openSocket network now).1 = none ↔ sink.socket = true ∨ network.sockets sink.opens = none := by
  unfold ObservedSink.openSocket
  by_cases standing : sink.socket = true
  · simp [standing]
  · rw [if_neg standing]
    cases network.sockets sink.opens <;> simp [standing]

theorem openSocket_frame :
    (sink.openSocket network now).2.datagram = sink.datagram ∧ (sink.openSocket network now).2.cut = sink.cut ∧
      (sink.openSocket network now).2.attempts = sink.attempts ∧ (sink.openSocket network now).2.config = sink.config := by
  unfold ObservedSink.openSocket
  split
  · exact ⟨rfl, rfl, rfl, rfl⟩
  · cases network.sockets sink.opens <;> exact ⟨rfl, rfl, rfl, rfl⟩

/-- A socket that opens is no failure, and stays open. -/
theorem openSocket_granted (granted : sink.socket = true ∨ network.sockets sink.opens = none) :
    failures (sink.openSocket network now).2 = failures sink ∧ (sink.openSocket network now).2.socket = true := by
  unfold ObservedSink.openSocket
  by_cases standing : sink.socket = true
  · rw [if_pos standing]
    exact ⟨rfl, standing⟩
  · rw [if_neg standing, granted.resolve_left standing]
    exact ⟨rfl, rfl⟩

/-! ## Writes of packets -/

/-- The failures are recorded, and whole packets are pending. -/
structure Sound (sink : ObservedSink) : Prop where
  recorded : Recorded sink
  pending : sink.datagram.length % tsPacketSize = 0
  room : sink.datagram.length < datagramSize

theorem write_packet (packet : TransportPacket) : sink.write network packet.1 now =
    match sink.openSocket network now with
    | (some exception, sink) => (some exception, sink)
    | (none, sink) => (none, packet.1.foldl (ObservedSink.writeByte network now) sink) := by
  have some : packet.1 ≠ [] := by
    intro nothing
    have size := packet.2
    rw [nothing] at size
    exact absurd size (by decide)
  have aligned : packet.1.length % tsPacketSize = 0 := by
    rw [packet.2]
    rfl
  unfold ObservedSink.write
  refine (if_neg some).trans ((if_neg (not_not.mpr aligned)).trans ?_)
  obtain ⟨_ | exception, called⟩ := sink.openSocket network now <;> rfl

/-- A write that gets its socket gathers the packet, and keeps the socket. -/
theorem write_granted (granted : sink.socket = true ∨ network.sockets sink.opens = none) (packet : TransportPacket) :
    sink.write network packet.1 now =
        (none, packet.1.foldl (ObservedSink.writeByte network now) (sink.openSocket network now).2) ∧
      (sink.write network packet.1 now).2.socket = true := by
  have fine := (@openSocket_exception network sink now).mpr granted
  have stays := (@openSocket_granted network sink now granted).2
  rw [write_packet]
  generalize sink.openSocket network now = called at fine stays
  obtain ⟨exception, called⟩ := called
  dsimp only at fine stays
  subst fine
  exact ⟨rfl, foldl_writeByte_frame.2.trans stays⟩

theorem write_refused (refused : ¬ (sink.socket = true ∨ network.sockets sink.opens = none)) (packet : TransportPacket) :
    (sink.write network packet.1 now).1 ≠ none ∧
      (sink.write network packet.1 now).2 = (sink.openSocket network now).2 := by
  have thrown := fun fine => refused ((@openSocket_exception network sink now).mp fine)
  rw [write_packet]
  generalize sink.openSocket network now = called at thrown
  obtain ⟨_ | exception, called⟩ := called
  · exact (thrown rfl).elim
  · exact ⟨nofun, rfl⟩

theorem opened_sound (sound : Sound sink) : Sound (sink.openSocket network now).2 := by
  obtain ⟨datagram, -, -, -⟩ := @openSocket_frame network sink now
  exact ⟨openSocket_recorded sound.recorded, by rw [datagram]; exact sound.pending, by rw [datagram]; exact sound.room⟩

theorem foldl_writeByte_sound (sound : Sound sink) (packet : TransportPacket) :
    Sound (packet.1.foldl (ObservedSink.writeByte network now) sink) := by
  have aligned : packet.1.length % tsPacketSize = 0 := by
    rw [packet.2]
    rfl
  obtain ⟨fresh, moves, -⟩ :=
    @ObservedSink.foldl_writeByte_moves network sink now packet.1 sound.pending sound.room aligned
  exact ⟨foldl_writeByte_recorded sound.recorded, moves.pending, moves.room⟩

theorem write_sound (sound : Sound sink) (packet : TransportPacket) : Sound (sink.write network packet.1 now).2 := by
  by_cases granted : sink.socket = true ∨ network.sockets sink.opens = none
  · rw [(write_granted granted packet).1]
    exact foldl_writeByte_sound (opened_sound sound) packet
  · rw [(write_refused granted packet).2]
    exact opened_sound sound

theorem recovers_of_sound (sound : Sound sink) : Recovers sink := by
  intro network opened sent packet now
  have granted : sink.socket = true ∨ network.sockets sink.opens = none := .inr (opened _ (Nat.le_refl _))
  obtain ⟨written, -⟩ := @write_granted network sink now granted packet
  obtain ⟨datagram, cut, attempts, config⟩ := @openSocket_frame network sink now
  have ready := @opened_sound network sink now sound
  obtain ⟨quiet, -⟩ := @openSocket_granted network sink now granted
  have aligned : packet.1.length % tsPacketSize = 0 := by
    rw [packet.2]
    rfl
  obtain ⟨fresh, moves, -⟩ :=
    @ObservedSink.foldl_writeByte_moves network (sink.openSocket network now).2 now packet.1 ready.pending ready.room aligned
  obtain ⟨datagrams, calls⟩ := @foldl_writeByte_sends network (sink.openSocket network now).2 now packet.1
    fun attempt after => sent attempt (by rwa [attempts] at after)
  obtain ⟨config', -⟩ := @foldl_writeByte_frame network (sink.openSocket network now).2 now packet.1
  rw [written]
  refine ⟨rfl, ?_, fresh, by rw [moves.cut, cut], ?_, by rw [← datagram, moves.ordered]⟩
  · -- What was sent is no failure.
    rw [← quiet]
    unfold failures
    rw [config', calls, List.filterMap_append]
    simp [failureText, List.filterMap_map]
  · have same : fresh = datagrams.map fun data => (data, .sent) := by
      refine List.append_cancel_right (moves.cut.symm.trans ?_)
      unfold ObservedSink.cut
      rw [calls, List.filterMap_append, List.filterMap_map]
      simp
    rw [same]
    simp

/-! ## Runs of the loop -/

/-- A pump throws exactly if its first write does. -/
theorem writeAll_spec (sound : Sound sink) (drained : List (Time × TransportPacket)) :
    Sound (writeAll network sink drained).2 ∧
      ((writeAll network sink drained).1 = none ↔
        (drained ≠ [] → sink.socket = true ∨ network.sockets sink.opens = none)) := by
  induction drained generalizing sink with
  | nil => exact ⟨sound, by simp [writeAll]⟩
  | cons first rest ih =>
    obtain ⟨now, packet⟩ := first
    have next := @write_sound network sink now sound packet
    unfold writeAll
    by_cases granted : sink.socket = true ∨ network.sockets sink.opens = none
    · obtain ⟨written, stays⟩ := @write_granted network sink now granted packet
      rw [written] at next stays ⊢
      dsimp only at next stays ⊢
      obtain ⟨last, fine⟩ := ih next
      exact ⟨last, iff_of_true (fine.mpr fun _ => .inl stays) fun _ => granted⟩
    · obtain ⟨thrown, -⟩ := @write_refused network sink now granted packet
      generalize sink.write network packet.1 now = written at next thrown
      obtain ⟨_ | exception, written⟩ := written
      · exact (thrown rfl).elim
      · exact ⟨next, iff_of_false nofun fun met => granted (met (List.cons_ne_nil _ _))⟩

theorem setActive_sound (sound : Sound sink) (active : Option ActiveInput) : Sound (sink.setActive network active now) := by
  cases active with
  | some input => exact ⟨⟨sound.recorded.counted, sound.recorded.shown⟩, sound.pending, sound.room⟩
  | none =>
    have emptied : (sink.setActive network none now).datagram = [] := ObservedSink.flushDatagram_datagram
    refine ⟨?_, by rw [emptied]; rfl, by rw [emptied]; decide⟩
    exact flushDatagram_recorded ⟨sound.recorded.counted, sound.recorded.shown⟩

variable {output next : GatewayOutput} {event : Time × OutputCall}

theorem step_spec (sound : Sound output.sink) (stepped : output.step network event = some next) :
    Sound next.sink ∧ (next.exception = none ↔ SocketGranted network output event) := by
  obtain ⟨now, call⟩ := event
  cases call with
  | select input =>
    cases stepped
    exact ⟨sound, iff_of_true rfl nofun⟩
  | setActive active =>
    cases stepped
    exact ⟨setActive_sound sound active, iff_of_true rfl nofun⟩
  | status =>
    cases stepped
    exact ⟨sound, iff_of_true rfl nofun⟩
  | pump drained =>
    obtain rfl := Option.some.inj stepped
    unfold pump
    by_cases idle : output.router.active = none
    · rw [if_pos idle]
      exact ⟨sound, iff_of_true rfl fun _ _ _ routed => absurd idle routed⟩
    · rw [if_neg idle]
      obtain ⟨last, fine⟩ := @writeAll_spec network output.sink sound drained
      refine ⟨last, fine.trans ?_⟩
      cases drained with
      | nil => exact iff_of_true (absurd rfl ·) nofun
      | cons first rest =>
        constructor
        · intro met packet rest same routed closed
          exact (met (List.cons_ne_nil _ _)).resolve_left (by simp [closed])
        · intro granted _
          cases closed : output.sink.socket with
          | true => exact .inl rfl
          | false => exact .inr (granted first rest rfl idle closed)

theorem start_sound (config : TsGatewayConfig) (now : Time) : Sound (start config now).sink :=
  ⟨⟨rfl, rfl⟩, rfl, Nat.zero_lt_succ _⟩

/-- The calls of the loop all return, record their failures and leave a sink
that recovers, exactly if every pump that needs a socket gets it. -/
theorem survives_iff_sockets_granted (network : Network) (config : TsGatewayConfig) (now : Time)
    (events : List (Time × OutputCall)) :
    Runs.Throughout (step network) (fun _ _ after => Survives after) (start config now) events ↔
      Runs.Guarded (step network) (SocketGranted network) (start config now) events := by
  refine Runs.throughout_iff_guarded (fun output => Sound output.sink) ?_ ?_ (start_sound config now)
  · intro output event next sound _ stepped
    exact (step_spec sound stepped).1
  · intro output event next sound stepped
    obtain ⟨after, fine⟩ := step_spec sound stepped
    refine Iff.trans ⟨Survives.returned, fun returned => ?_⟩ fine
    exact ⟨returned, after.recorded, recovers_of_sound after⟩

/-- Out of sockets. -/
def noSockets : Network := ⟨fun _ => some (bytes "Too many open files"), fun _ => .sent⟩

/-- The first packet routed is met by an exception. -/
theorem first_packet_throws :
    ¬ Runs.Throughout (step noSockets) (fun _ _ after => Survives after) (start {} 0)
      [(0, .select (some ⟨⟨1⟩, {}, {}⟩)), (0, .setActive (some ⟨⟨1⟩, {}, {}⟩)),
        (0, .pump [(0, ⟨List.replicate 188 0x47, List.length_replicate⟩)])] := by
  intro throughout
  obtain ⟨-, later⟩ := throughout _ rfl
  obtain ⟨-, later⟩ := later _ rfl
  obtain ⟨survives, -⟩ := later _ rfl
  exact absurd survives.returned (by decide +kernel)

end GatewayOutput
end WhRepeater
