import WhRepeater.GatewayTransport

/-! The UDP sink of the Pi on a network that fails. The socket is opened by the
first write that needs it, and its refusal is the one failure that leaves the
sink as an exception. Beside the members the record keeps the calls of the
network, the latest first, with what became of each datagram. -/
namespace WhRepeater

open Gathering GatewayTransport

/-- A call of the network: `socket`, with its error, or the end of a datagram. -/
inductive NetworkCall where
  | socket (error : Option Bytes)
  | datagram (data : Bytes) (sending : Sending)
  deriving Repr, DecidableEq

/-- How the calls of `socket` and the ends of the datagrams turn out, in order. -/
structure Network where
  sockets : Nat → Option Bytes
  sends : Nat → Sending

structure ObservedSink extends TsGatewaySink where
  opens : Nat := 0
  calls : List NetworkCall := []
  deriving Repr, DecidableEq

namespace ObservedSink

def constructed (config : TsGatewayConfig) (now : Time) : ObservedSink :=
  { toTsGatewaySink := .constructed config now }

variable (network : Network)

def flushDatagram (sink : ObservedSink) (now : Time) : ObservedSink :=
  { sink with
    toTsGatewaySink := sink.toTsGatewaySink.flushDatagram network.sends now
    calls :=
      if sink.datagram = [] then sink.calls
      else .datagram sink.datagram (network.sends sink.attempts) :: sink.calls }

def flush (sink : ObservedSink) (now : Time) : ObservedSink := sink.flushDatagram network now

def setActive (sink : ObservedSink) (active : Option ActiveInput) (now : Time) : ObservedSink :=
  let sink := { sink with
    status := { sink.status with activeReceiver := active.map ActiveInput.receiver, updatedAt := now } }
  if active = none then sink.flush network now else sink

/-- The text of the exception, if there is one, and the sink. -/
def openSocket (sink : ObservedSink) (now : Time) : Option Bytes × ObservedSink :=
  if sink.socket then (none, sink)
  else
    let result := network.sockets sink.opens
    let called := { sink with opens := sink.opens + 1, calls := .socket result :: sink.calls }
    match result with
    | none => (none, { called with socket := true })
    | some error =>
      (some (bytes "create TS gateway UDP socket failed: " ++ error), { called with
        status := { sink.status with
          sendErrors := sink.status.sendErrors + 1
          lastError := some (bytes "create UDP socket: " ++ error)
          updatedAt := now } })

def writeByte (now : Time) (sink : ObservedSink) (byte : UInt8) : ObservedSink :=
  let sink := { sink with datagram := sink.datagram ++ [byte] }
  if sink.datagram.length = datagramSize then sink.flushDatagram network now else sink

def write (sink : ObservedSink) (packet : Bytes) (now : Time) : Option Bytes × ObservedSink :=
  if packet = [] then (none, sink)
  else if packet.length % tsPacketSize ≠ 0 then
    (none, { sink with
      status := { sink.status with
        sendErrors := sink.status.sendErrors + 1
        lastError := some (bytes "unaligned TS write: " ++ decimal packet.length ++ bytes " bytes")
        updatedAt := now } })
  else
    match sink.openSocket network now with
    | (some exception, sink) => (some exception, sink)
    | (none, sink) => (none, packet.foldl (writeByte network now) sink)

def perform (sink : ObservedSink) : Time × SinkCall → Option Bytes × ObservedSink
  | (now, .setActive active) => (none, sink.setActive network active now)
  | (now, .write packet) => sink.write network packet now
  | (now, .flush) => (none, sink.flush network now)

/-! ## The sink without its network -/

variable {network} {sink : ObservedSink} {now : Time} {packet : Bytes}

theorem writeByte_sink (byte : UInt8) :
    (sink.writeByte network now byte).toTsGatewaySink =
      let grown := { sink.toTsGatewaySink with datagram := sink.datagram ++ [byte] }
      if grown.datagram.length = datagramSize then grown.flushDatagram network.sends now else grown := by
  unfold writeByte
  dsimp only
  split <;> rfl

theorem foldl_writeByte_sink (data : Bytes) :
    (data.foldl (writeByte network now) sink).toTsGatewaySink =
      data.foldl (fun sink byte =>
        let sink := { sink with datagram := sink.datagram ++ [byte] }
        if sink.datagram.length = datagramSize then sink.flushDatagram network.sends now else sink) sink.toTsGatewaySink := by
  induction data generalizing sink with
  | nil => rfl
  | cons byte rest ih =>
    rw [List.foldl_cons, List.foldl_cons, ih, writeByte_sink]

/-- Where sockets open, the observed sink is the sink. -/
theorem perform_sink (opened : ∀ attempt, network.sockets attempt = none) (call : SinkCall) :
    (sink.perform network (now, call)).1 = none ∧
      (sink.perform network (now, call)).2.toTsGatewaySink = SinkCall.run network.sends sink.toTsGatewaySink (now, call) := by
  cases call with
  | flush => exact ⟨rfl, rfl⟩
  | setActive active =>
    refine ⟨rfl, ?_⟩
    unfold perform setActive SinkCall.run TsGatewaySink.setActive
    dsimp only
    split <;> rfl
  | write packet =>
    unfold perform write SinkCall.run TsGatewaySink.write
    dsimp only
    by_cases nothing : packet = []
    · rw [if_pos nothing, if_pos nothing]
      exact ⟨rfl, rfl⟩
    · rw [if_neg nothing, if_neg nothing]
      by_cases aligned : packet.length % tsPacketSize = 0
      · rw [if_neg (not_not.mpr aligned), if_neg (not_not.mpr aligned)]
        unfold openSocket
        by_cases standing : sink.socket = true
        · rw [if_pos standing]
          refine ⟨rfl, (foldl_writeByte_sink packet).trans ?_⟩
          rw [← standing]
        · rw [if_neg standing, opened]
          exact ⟨rfl, foldl_writeByte_sink packet⟩
      · rw [if_pos aligned, if_pos aligned]
        exact ⟨rfl, rfl⟩

end ObservedSink
end WhRepeater
