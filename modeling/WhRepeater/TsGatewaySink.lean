import WhRepeater.Gathering
import WhRepeater.PlutoSink

/-! The UDP sink of the Pi (`ts_gateway_sink.cpp`): transport packets gathered
into datagrams of seven. What the network makes of each send is a parameter, and
the record keeps what was sent, the latest first, beside the members of the
class. Sockets open. -/
namespace WhRepeater

open Gathering

structure TsGatewayStatus where
  enabled : Bool := false
  address : Bytes := []
  port : UInt16 := 0
  activeReceiver : Option ReceiverId := none
  transportPackets : UInt64 := 0
  datagrams : UInt64 := 0
  bytes : UInt64 := 0
  sendErrors : UInt64 := 0
  updatedAt : Time
  lastError : Option Bytes := none
  deriving Repr, DecidableEq

/-- What becomes of a datagram: `inet_pton` refuses the address, `sendto` fails,
or the datagram is sent. -/
inductive Sending where
  | invalidAddress
  | failed (error : Bytes)
  | sent
  deriving Repr, DecidableEq

/-- The members of the class, the sends so far, and what they sent. -/
structure TsGatewaySink where
  config : TsGatewayConfig
  socket : Bool := false
  datagram : Bytes := []
  status : TsGatewayStatus
  attempts : Nat := 0
  sent : List Bytes := []
  deriving Repr, DecidableEq

namespace TsGatewaySink

/-- The constructor. -/
def constructed (config : TsGatewayConfig) (now : Time) : TsGatewaySink :=
  { config, status := { enabled := true, address := config.address, port := config.port, updatedAt := now } }

variable (sends : Nat → Sending)

def flushDatagram (sink : TsGatewaySink) (now : Time) : TsGatewaySink :=
  if sink.datagram = [] then sink
  else
    let status := { sink.status with updatedAt := now }
    let attempt := sink.attempts
    let sink := { sink with attempts := attempt + 1 }
    match sends attempt with
    | .invalidAddress =>
      { sink with
        status := { status with
          sendErrors := status.sendErrors + 1
          lastError := some (bytes "invalid destination address: " ++ sink.config.address) }
        datagram := [] }
    | .failed error =>
      { sink with
        status := { status with
          sendErrors := status.sendErrors + 1
          lastError := some (bytes "UDP send: " ++ error) }
        datagram := [] }
    | .sent =>
      let count := sink.datagram.length
      { sink with
        status := { status with
          bytes := status.bytes + UInt64.ofNat count
          transportPackets := status.transportPackets + UInt64.ofNat (count / tsPacketSize)
          datagrams := status.datagrams + 1 }
        datagram := []
        sent := sink.datagram :: sink.sent }

def flush (sink : TsGatewaySink) (now : Time) : TsGatewaySink := sink.flushDatagram sends now

def setActive (sink : TsGatewaySink) (active : Option ActiveInput) (now : Time) : TsGatewaySink :=
  let sink := { sink with
    status := { sink.status with activeReceiver := active.map ActiveInput.receiver, updatedAt := now } }
  if active = none then sink.flush sends now else sink

def write (sink : TsGatewaySink) (packet : Bytes) (now : Time) : TsGatewaySink :=
  if packet = [] then sink
  else if packet.length % tsPacketSize ≠ 0 then
    { sink with
      status := { sink.status with
        sendErrors := sink.status.sendErrors + 1
        lastError := some (bytes "unaligned TS write: " ++ decimal packet.length ++ bytes " bytes")
        updatedAt := now } }
  else
    packet.foldl (fun sink byte =>
      let sink := { sink with datagram := sink.datagram ++ [byte] }
      if sink.datagram.length = datagramSize then sink.flushDatagram sends now else sink)
      { sink with socket := true }

/-! ## Sends that succeed -/

variable {sends} {sink : TsGatewaySink}

/-- What the sink holds and has sent. -/
def lane (sink : TsGatewaySink) : Gathered UInt8 := ⟨sink.datagram, sink.sent⟩

theorem flushDatagram_lane (succeed : ∀ attempt, sends attempt = .sent) (now : Time) :
    (sink.flushDatagram sends now).lane =
      if sink.datagram = [] then sink.lane else ⟨[], sink.datagram :: sink.sent⟩ := by
  unfold flushDatagram
  split
  · rfl
  · simp only [succeed]
    rfl

theorem flush_lane (succeed : ∀ attempt, sends attempt = .sent) (now : Time) :
    (sink.flush sends now).lane = if sink.datagram = [] then sink.lane else ⟨[], sink.datagram :: sink.sent⟩ :=
  flushDatagram_lane succeed now

theorem setActive_lane (succeed : ∀ attempt, sends attempt = .sent) (active : Option ActiveInput) (now : Time) :
    (sink.setActive sends active now).lane =
      if active = none then if sink.datagram = [] then sink.lane else ⟨[], sink.datagram :: sink.sent⟩
      else sink.lane := by
  unfold setActive
  cases active with
  | some input => rfl
  | none =>
    rw [if_pos rfl, if_pos rfl]
    exact flush_lane succeed now

theorem write_lane (succeed : ∀ attempt, sends attempt = .sent) (packet : Bytes) (now : Time) :
    (sink.write sends packet now).lane =
      if packet.length % tsPacketSize = 0 then gather datagramSize sink.lane packet else sink.lane := by
  by_cases nothing : packet = []
  · have unchanged : sink.write sends packet now = sink := if_pos nothing
    rw [unchanged, nothing]
    simp [gather]
  · unfold write
    rw [if_neg nothing]
    by_cases aligned : packet.length % tsPacketSize = 0
    · rw [if_neg (by simp [aligned]), if_pos aligned]
      refine foldl_gathers datagramSize (fun _ : TsGatewaySink => True) lane _ (fun _ _ _ => trivial) ?_ trivial packet
      intro sink byte _
      dsimp only [add, lane]
      split
      · refine (flushDatagram_lane succeed now).trans ?_
        rw [if_neg (by simp)]
      · rfl
    · rw [if_pos aligned, if_neg aligned]
      rfl

end TsGatewaySink
end WhRepeater
