import Mathlib.Data.List.Basic
import WhRepeater.Config

/-! The UDP input of the PC (`pc_gateway_input.cpp`): datagrams of transport
packets are checked and handed to a sink. The record keeps what the sink was
handed, and when, beside the members of the class. The input counts as active
while its one time stamp is recent, and bad traffic renews that stamp too. -/
namespace WhRepeater

/-- One `recv`: a datagram on the socket, nothing to read yet (or a signal), or
an error. -/
inductive Received where
  | datagram (data : Bytes)
  | wouldBlock
  | failed (error : Bytes)
  deriving Repr, DecidableEq

structure PcGatewayInputStatus where
  enabled : Bool := false
  listenAddress : Bytes := []
  listenPort : UInt16 := 0
  transportPackets : UInt64 := 0
  datagrams : UInt64 := 0
  bytes : UInt64 := 0
  alignmentErrors : UInt64 := 0
  syncErrors : UInt64 := 0
  updatedAt : Time
  lastError : Option Bytes := none
  deriving Repr, DecidableEq

/-- The members of the class, then the packets its sink was handed, in order. -/
structure PcGatewayInput where
  config : GatewayInputConfig
  status : PcGatewayInputStatus
  delivered : List (Time × Bytes) := []
  deriving Repr, DecidableEq

namespace PcGatewayInput

def transportPacketBytes : Nat := 188

def defaultDatagramBytes : UInt64 := 1316

/-- The packets at the offsets of a datagram. -/
def packetsOf (data : Bytes) : List Bytes :=
  (List.range (data.length / transportPacketBytes)).map fun index =>
    (data.drop (transportPacketBytes * index)).take transportPacketBytes

/-- Every packet of the datagram begins with the sync byte. -/
def syncValid (data : Bytes) : Bool :=
  (List.range (data.length / transportPacketBytes)).all fun index =>
    data[transportPacketBytes * index]? = some 0x47

/-- The constructor, once its socket is bound. -/
def opened (config : GatewayInputConfig) (now : Time) : PcGatewayInput :=
  { config := if config.packetSize = 0 then { config with packetSize := defaultDatagramBytes } else config
    status := { enabled := true, listenAddress := config.listenAddress, listenPort := config.listenPort, updatedAt := now } }

/-- `buffer_` takes the front of a datagram, and the rest is lost. -/
def receivedBytes (input : PcGatewayInput) (data : Bytes) : Bytes := data.take input.config.packetSize.toNat

def recordError (input : PcGatewayInput) (now : Time) (error : Bytes) : PcGatewayInput :=
  { input with status := { input.status with lastError := some error, updatedAt := now } }

/-- `sink.write` and the packet counter. -/
def forward (now : Time) (input : PcGatewayInput) (packet : Bytes) : PcGatewayInput :=
  { input with
    status := { input.status with transportPackets := input.status.transportPackets + 1 }
    delivered := input.delivered ++ [(now, packet)] }

/-- The loop of `pump` after a `recv` that returned bytes. -/
def receive (input : PcGatewayInput) (now : Time) (data : Bytes) : PcGatewayInput :=
  let status := { input.status with
    datagrams := input.status.datagrams + 1
    bytes := input.status.bytes + UInt64.ofNat data.length
    updatedAt := now }
  if data.length % transportPacketBytes ≠ 0 then
    { input with
      status := { status with
        alignmentErrors := status.alignmentErrors + 1
        lastError := some (bytes "received UDP datagram is not 188-byte aligned") } }
  else if syncValid data = false then
    { input with
      status := { status with
        syncErrors := status.syncErrors + 1
        lastError := some (bytes "received UDP datagram has MPEG-TS sync errors") } }
  else (packetsOf data).foldl (forward now) { input with status }

/-- What the socket has for one call, with the time of each `recv`. When there
is no more, `recv` would block. -/
def pump (input : PcGatewayInput) : List (Time × Received) → PcGatewayInput
  | [] => input
  | (now, received) :: rest =>
    match received with
    | .wouldBlock => input
    | .failed error => input.recordError now (bytes "PC gateway UDP receive failed: " ++ error)
    | .datagram data =>
      if input.receivedBytes data = [] then input
      else (input.receive now (input.receivedBytes data)).pump rest

def active (input : PcGatewayInput) (now : Time) (timeout : Duration) : Bool :=
  input.status.transportPackets ≠ 0 ∧ now - input.status.updatedAt ≤ timeout

/-! ## What one datagram does -/

variable {input : PcGatewayInput} {now : Time} {data : Bytes}

/-- A datagram that is handed on. -/
def Accepted (data : Bytes) : Prop := data.length % transportPacketBytes = 0 ∧ syncValid data = true

instance : Decidable (Accepted data) := inferInstanceAs (Decidable (_ ∧ _))

theorem forward_foldl (packets : List Bytes) :
    packets.foldl (forward now) input =
      { input with
        status := { input.status with
          transportPackets := input.status.transportPackets + UInt64.ofNat packets.length }
        delivered := input.delivered ++ packets.map (now, ·) } := by
  induction packets generalizing input with
  | nil => simp
  | cons packet rest ih =>
    rw [List.foldl_cons, ih]
    simp only [forward, List.length_cons, List.map_cons, List.append_assoc, List.cons_append, List.nil_append,
      UInt64.ofNat_add, mk.injEq, PcGatewayInputStatus.mk.injEq, and_true, true_and]
    rw [UInt64.add_assoc, UInt64.add_comm 1]
    rfl

theorem length_packetsOf (data : Bytes) : (packetsOf data).length = data.length / transportPacketBytes := by
  simp [packetsOf]

@[simp] theorem receive_config : (input.receive now data).config = input.config := by
  unfold receive
  dsimp only
  split
  · rfl
  · split
    · rfl
    · rw [forward_foldl]

@[simp] theorem receive_updatedAt : (input.receive now data).status.updatedAt = now := by
  unfold receive
  dsimp only
  split
  · rfl
  · split
    · rfl
    · rw [forward_foldl]

theorem receive_of_accepted (accepted : Accepted data) :
    (input.receive now data).delivered = input.delivered ++ (packetsOf data).map (now, ·) ∧
      (input.receive now data).status.transportPackets =
        input.status.transportPackets + UInt64.ofNat (data.length / transportPacketBytes) ∧
      (input.receive now data).status.alignmentErrors = input.status.alignmentErrors ∧
      (input.receive now data).status.syncErrors = input.status.syncErrors := by
  unfold receive
  dsimp only
  rw [if_neg (by simpa using accepted.1), if_neg (by simp [accepted.2]), forward_foldl, length_packetsOf]
  exact ⟨rfl, rfl, rfl, rfl⟩

theorem receive_of_refused (refused : ¬ Accepted data) :
    (input.receive now data).delivered = input.delivered ∧
      (input.receive now data).status.transportPackets = input.status.transportPackets := by
  unfold receive
  dsimp only
  split
  · exact ⟨rfl, rfl⟩
  · rename_i aligned
    split
    · exact ⟨rfl, rfl⟩
    · rename_i synced
      exact absurd ⟨by simpa using aligned, by simpa using synced⟩ refused

/-- A transport packet of nothing but its sync byte. -/
def emptyPacket : Bytes := 0x47 :: List.replicate 187 0

/-- Whole packets are accepted piece by piece. -/
theorem accepted_append {front back : Bytes} (aligned : front.length % transportPacketBytes = 0) :
    Accepted (front ++ back) ↔ Accepted front ∧ Accepted back := by
  unfold Accepted syncValid
  simp only [List.all_eq_true, List.mem_range, decide_eq_true_eq, List.length_append]
  rw [show transportPacketBytes = 188 from rfl] at *
  constructor
  · rintro ⟨whole, synced⟩
    refine ⟨⟨aligned, fun index inside => ?_⟩, by omega, fun index inside => ?_⟩
    · rw [← List.getElem?_append_left (by omega)]
      exact synced index (by omega)
    · have later := synced (front.length / 188 + index) (by omega)
      rwa [List.getElem?_append_right (by omega),
        show 188 * (front.length / 188 + index) - front.length = 188 * index by omega] at later
  · rintro ⟨⟨-, first⟩, whole, second⟩
    refine ⟨by omega, fun index inside => ?_⟩
    by_cases before : index < front.length / 188
    · rw [List.getElem?_append_left (by omega)]
      exact first index before
    · rw [List.getElem?_append_right (by omega),
        show 188 * index - front.length = 188 * (index - front.length / 188) by omega]
      exact second _ (by omega)

theorem accepted_take (accepted : Accepted data) {count : Nat} (whole : count % transportPacketBytes = 0) :
    Accepted (data.take count) := by
  by_cases inside : count ≤ data.length
  · rw [← List.take_append_drop count data] at accepted
    have aligned : (data.take count).length % transportPacketBytes = 0 := by
      rwa [List.length_take, Nat.min_eq_left inside]
    exact ((accepted_append aligned).mp accepted).1
  · rwa [List.take_of_length_le (by omega)]

/-! ## What the calls receive -/

/-- The packets a `recv` brings to the sink, with a buffer of so many bytes. -/
def delivers (size : Nat) : Received → Nat
  | .datagram data => if Accepted (data.take size) then (data.take size).length / transportPacketBytes else 0
  | .wouldBlock | .failed _ => 0

/-- The `recv`s after which the status is stamped. -/
def stamps (size : Nat) : Received → Bool
  | .datagram data => data.take size ≠ []
  | .failed _ => true
  | .wouldBlock => false

/-- The `recv`s of one call: it returns after the first that brings no bytes. -/
def taken (size : Nat) : List (Time × Received) → List (Time × Received)
  | [] => []
  | (now, .datagram data) :: rest =>
    if data.take size = [] then [(now, .datagram data)] else (now, .datagram data) :: taken size rest
  | event :: _ => [event]

def observe (input : PcGatewayInput) (event : Time × Received) : PcGatewayInput :=
  match event.2 with
  | .wouldBlock => input
  | .failed error => input.recordError event.1 (bytes "PC gateway UDP receive failed: " ++ error)
  | .datagram data => if input.receivedBytes data = [] then input else input.receive event.1 (input.receivedBytes data)

@[simp] theorem observe_config (event : Time × Received) : (input.observe event).config = input.config := by
  unfold observe
  split
  · rfl
  · rfl
  · split
    · rfl
    · exact receive_config

theorem pump_eq (events : List (Time × Received)) :
    input.pump events = (taken input.config.packetSize.toNat events).foldl observe input := by
  induction events generalizing input with
  | nil => rfl
  | cons event rest ih =>
    obtain ⟨now, received⟩ := event
    cases received with
    | wouldBlock => rfl
    | failed error => rfl
    | datagram data =>
      simp only [pump, taken]
      by_cases nothing : input.receivedBytes data = []
      · have empty : data.take input.config.packetSize.toNat = [] := nothing
        rw [if_pos nothing, if_pos empty]
        exact (if_pos nothing).symm
      · have some : ¬ data.take input.config.packetSize.toNat = [] := nothing
        have first : input.observe (now, .datagram data) = input.receive now (input.receivedBytes data) := if_neg nothing
        rw [if_neg nothing, if_neg some, ih, receive_config, List.foldl_cons, first]

theorem observed_config (events : List (Time × Received)) : (events.foldl observe input).config = input.config := by
  induction events generalizing input with
  | nil => rfl
  | cons event rest ih => exact ih.trans (observe_config event)

/-- All that was received in the calls. -/
def history (size : Nat) (calls : List (List (Time × Received))) : List (Time × Received) := calls.flatMap (taken size)

theorem pumps_eq (calls : List (List (Time × Received))) :
    calls.foldl pump input = (history input.config.packetSize.toNat calls).foldl observe input := by
  induction calls generalizing input with
  | nil => rfl
  | cons events rest ih =>
    rw [List.foldl_cons, ih, pump_eq, observed_config]
    simp [history, List.foldl_append]

theorem stamps_of_delivers (delivered : 0 < delivers size received) : stamps size received = true := by
  cases received with
  | wouldBlock => exact absurd delivered (lt_irrefl 0)
  | failed error => rfl
  | datagram data =>
    refine decide_eq_true ?_
    intro nothing
    simp [delivers, nothing] at delivered

theorem observe_of_stamps {event : Time × Received} (stamped : stamps input.config.packetSize.toNat event.2 = true) :
    (input.observe event).status.updatedAt = event.1 := by
  obtain ⟨now, received⟩ := event
  cases received with
  | wouldBlock => cases stamped
  | failed error => rfl
  | datagram data =>
    have some : input.receivedBytes data ≠ [] := of_decide_eq_true stamped
    have first : input.observe (now, .datagram data) = input.receive now (input.receivedBytes data) := if_neg some
    rw [first, receive_updatedAt]

theorem observe_of_unstamped {event : Time × Received}
    (unstamped : stamps input.config.packetSize.toNat event.2 = false) : input.observe event = input := by
  obtain ⟨now, received⟩ := event
  cases received with
  | wouldBlock => rfl
  | failed error => cases unstamped
  | datagram data => exact if_pos (not_not.mp (of_decide_eq_false unstamped))

/-- A `recv` brings the sink its packets, at its time, and counts them. -/
theorem observe_delivers (event : Time × Received) :
    (input.observe event).delivered.map Prod.fst =
      input.delivered.map Prod.fst ++ List.replicate (delivers input.config.packetSize.toNat event.2) event.1 ∧
    (input.observe event).status.transportPackets =
      input.status.transportPackets + UInt64.ofNat (delivers input.config.packetSize.toNat event.2) := by
  obtain ⟨now, received⟩ := event
  cases received with
  | wouldBlock => simp [observe, delivers]
  | failed error => simp [observe, delivers, recordError]
  | datagram data =>
    by_cases nothing : input.receivedBytes data = []
    · have same : input.observe (now, .datagram data) = input := if_pos nothing
      have empty : data.take input.config.packetSize.toNat = [] := nothing
      simp [same, delivers, empty]
    · have first : input.observe (now, .datagram data) = input.receive now (input.receivedBytes data) := if_neg nothing
      rw [first]
      by_cases accepted : Accepted (input.receivedBytes data)
      · obtain ⟨delivered, packets, -⟩ := @receive_of_accepted input now _ accepted
        have count : delivers input.config.packetSize.toNat (.datagram data) =
            (input.receivedBytes data).length / transportPacketBytes := if_pos accepted
        have times : (packetsOf (input.receivedBytes data)).map (Prod.fst ∘ (now, ·)) =
            List.replicate ((input.receivedBytes data).length / transportPacketBytes) now := by
          rw [← length_packetsOf, ← List.map_const']
          rfl
        rw [delivered, packets, count, List.map_append, List.map_map, times]
        exact ⟨rfl, rfl⟩
      · obtain ⟨delivered, packets⟩ := @receive_of_refused input now _ accepted
        have count : delivers input.config.packetSize.toNat (.datagram data) = 0 := if_neg accepted
        rw [delivered, packets, count]
        simp

end PcGatewayInput
end WhRepeater
