import WhRepeater.ConfigRoundTrip
import WhRepeater.PcGatewayInput
import WhRepeater.TsGatewaySink

/-! The transport from the Pi to the PC, over a network that keeps datagrams and
their order. The Pi groups up to seven packets in a datagram, and the PC cuts a
datagram to its own packet size. As a cut of whole packets looks like a datagram,
what is cut off is neither delivered nor counted as an error. -/
namespace WhRepeater

open Gathering PcGatewayInput

namespace GatewayTransport

/-- The calls of the router at the sink of the Pi. -/
inductive SinkCall where
  | setActive (active : Option ActiveInput)
  | write (packet : Bytes)
  | flush
  deriving Repr, DecidableEq

def SinkCall.run (sends : Nat → Sending) (sink : TsGatewaySink) : Time × SinkCall → TsGatewaySink
  | (now, .setActive active) => sink.setActive sends active now
  | (now, .write packet) => sink.write sends packet now
  | (now, .flush) => sink.flush sends now

/-- The datagrams among what was received. -/
def datagramsOf (events : List (Time × Received)) : List Bytes :=
  events.filterMap fun event =>
    match event.2 with
    | .datagram data => some data
    | .wouldBlock | .failed _ => none

/-- A datagram that fits the buffer and passes the checks. -/
def InFull (size : Nat) (datagram : Bytes) : Prop := datagram.length ≤ size ∧ Accepted datagram

instance : Decidable (InFull size datagram) := inferInstanceAs (Decidable (_ ∧ _))

/-- What is asked of the transport: the sink of the PC is handed the packets that
were sent, or there is an error for each datagram that was not delivered in full. -/
def DeliveredOrCounted (sent : List Bytes) (input : PcGatewayInput) : Prop :=
  input.delivered.map Prod.snd = sent.flatMap packetsOf ∨
    sent.countP (fun datagram => ¬ InFull input.config.packetSize.toNat datagram) ≤
      input.status.alignmentErrors.toNat + input.status.syncErrors.toNat

/-- With so many bytes pending, no datagram of the calls is longer than the
buffer: a datagram is what gathers up to a flush or a deselection, or 1316 bytes. -/
def Fits (size : Nat) : (pending : Nat) → List (Time × SinkCall) → Prop
  | _, [] => True
  | pending, (_, .write packet) :: rest =>
    (pending + packet.length < datagramSize ∨ datagramSize ≤ size) ∧ Fits size ((pending + packet.length) % datagramSize) rest
  | pending, (_, .setActive (some _)) :: rest => Fits size pending rest
  | pending, (_, .setActive none) :: rest | pending, (_, .flush) :: rest => pending ≤ size ∧ Fits size 0 rest

/-! ## The Pi -/

/-- Whole packets are pending, and whole packets were sent. -/
structure Packets (sink : TsGatewaySink) : Prop where
  pending : Accepted sink.datagram
  room : sink.datagram.length < datagramSize
  sent : ∀ datagram ∈ sink.sent, Accepted datagram

variable {sends : Nat → Sending} {sink : TsGatewaySink} {size : Nat} {now : Time} {packet : Bytes}

theorem packets_of_lane {pending : Bytes} {groups : List Bytes} (lane : sink.lane = ⟨pending, groups⟩) (whole : Accepted pending)
    (room : pending.length < datagramSize) (sent : ∀ datagram ∈ groups, Accepted datagram) : Packets sink := by
  cases lane
  exact ⟨whole, room, sent⟩

theorem accepted_nil : Accepted [] := by decide

/-- Groups of whole packets, cut from whole packets, are whole packets. -/
theorem accepted_flatten {fresh : List Bytes} {rest : Bytes} (accepted : Accepted (fresh.flatten ++ rest))
    (sizes : ∀ group ∈ fresh, group.length = datagramSize) : (∀ group ∈ fresh, Accepted group) ∧ Accepted rest := by
  induction fresh with
  | nil => exact ⟨nofun, accepted⟩
  | cons group fresh ih =>
    rw [List.flatten_cons, List.append_assoc] at accepted
    have aligned : group.length % PcGatewayInput.transportPacketBytes = 0 := by
      rw [sizes group List.mem_cons_self]
      rfl
    obtain ⟨first, later⟩ := (accepted_append aligned).mp accepted
    obtain ⟨groups, last⟩ := ih later fun other among => sizes other (List.mem_cons_of_mem _ among)
    exact ⟨List.forall_mem_cons.mpr ⟨first, groups⟩, last⟩

theorem gather_packets (packets : Packets sink) (accepted : Accepted packet) :
    Accepted (gather datagramSize sink.lane packet).pending ∧
      (gather datagramSize sink.lane packet).pending.length < datagramSize ∧
      ∀ datagram ∈ (gather datagramSize sink.lane packet).groups, Accepted datagram := by
  obtain ⟨fresh, groups, sizes, same, short⟩ := gather_spec sink.lane packet packets.room
  have all : Accepted (sink.datagram ++ packet) := (accepted_append packets.pending.1).mpr ⟨packets.pending, accepted⟩
  rw [show sink.datagram ++ packet = _ from same] at all
  obtain ⟨whole, rest⟩ := accepted_flatten all sizes
  refine ⟨rest, short, ?_⟩
  rw [groups]
  intro datagram among
  obtain new | earlier := List.mem_append.mp among
  · exact whole datagram (List.mem_reverse.mp new)
  · exact packets.sent datagram earlier

/-- What one write sends fits exactly if it does not fill a datagram, or the
buffer takes full ones. -/
theorem gather_fits (packets : Packets sink) :
    (∀ datagram ∈ (gather datagramSize sink.lane packet).groups, datagram.length ≤ size) ↔
      (∀ datagram ∈ sink.sent, datagram.length ≤ size) ∧
        (sink.datagram.length + packet.length < datagramSize ∨ datagramSize ≤ size) := by
  obtain ⟨fresh, groups, sizes, -, -⟩ := gather_spec sink.lane packet packets.room
  obtain ⟨-, few, many⟩ := gather_length sink.lane packet packets.room
  constructor
  · intro fits
    refine ⟨fun datagram among => fits datagram (by rw [groups]; exact List.mem_append_right _ among), ?_⟩
    by_cases full : sink.datagram.length + packet.length < datagramSize
    · exact .inl full
    · obtain ⟨group, among, length⟩ := many (Nat.le_of_not_lt full)
      exact .inr (length ▸ fits group among)
  · rintro ⟨earlier, few' | large⟩
    · rw [few few']
      exact earlier
    · rw [groups]
      intro datagram among
      obtain new | old := List.mem_append.mp among
      · rw [sizes datagram (List.mem_reverse.mp new)]
        exact large
      · exact earlier datagram old

theorem constructed_packets (config : TsGatewayConfig) (start : Time) : Packets (.constructed config start) :=
  ⟨accepted_nil, Nat.zero_lt_succ _, nofun⟩

/-- A flush sends what is pending. -/
theorem flushed_fits (packets : Packets sink) {next : TsGatewaySink}
    (lane : next.lane = if sink.datagram = [] then sink.lane else ⟨[], sink.datagram :: sink.sent⟩) :
    Packets next ∧ next.datagram.length = 0 ∧ ((∀ datagram ∈ next.sent, datagram.length ≤ size) ↔
      (∀ datagram ∈ sink.sent, datagram.length ≤ size) ∧ sink.datagram.length ≤ size) := by
  by_cases nothing : sink.datagram = []
  · rw [if_pos nothing] at lane
    obtain ⟨pending, sent⟩ : next.datagram = sink.datagram ∧ next.sent = sink.sent := by
      simpa [TsGatewaySink.lane] using lane
    refine ⟨packets_of_lane lane packets.pending packets.room packets.sent, by rw [pending, nothing]; rfl, ?_⟩
    rw [sent, nothing]
    simp
  · rw [if_neg nothing] at lane
    obtain ⟨pending, sent⟩ : next.datagram = [] ∧ next.sent = sink.datagram :: sink.sent := by
      simpa [TsGatewaySink.lane] using lane
    refine ⟨packets_of_lane lane accepted_nil (by decide) (List.forall_mem_cons.mpr ⟨packets.pending, packets.sent⟩),
      by rw [pending]; rfl, ?_⟩
    rw [sent, List.forall_mem_cons, and_comm]

theorem run_fits (succeed : ∀ attempt, sends attempt = .sent) (packets : Packets sink) (call : SinkCall)
    (whole : ∀ packet, call = .write packet → Accepted packet) (rest : List (Time × SinkCall)) :
    Packets (SinkCall.run sends sink (now, call)) ∧
      (((∀ datagram ∈ (SinkCall.run sends sink (now, call)).sent, datagram.length ≤ size) ∧
          Fits size (SinkCall.run sends sink (now, call)).datagram.length rest) ↔
        (∀ datagram ∈ sink.sent, datagram.length ≤ size) ∧ Fits size sink.datagram.length ((now, call) :: rest)) := by
  cases call with
  | write packet =>
    have accepted := whole packet rfl
    have aligned : packet.length % tsPacketSize = 0 := accepted.1
    have lane := @TsGatewaySink.write_lane sends sink succeed packet now
    rw [if_pos aligned] at lane
    obtain ⟨pending, room, sent⟩ := gather_packets packets accepted
    refine ⟨packets_of_lane lane pending room sent, ?_⟩
    have length := (gather_length sink.lane packet packets.room).1
    have fits := @gather_fits sink size packet packets
    rw [← lane] at length fits
    rw [show (SinkCall.run sends sink (now, .write packet)).datagram.length = _ from length]
    exact (and_congr_left fun _ => fits).trans and_assoc
  | flush =>
    obtain ⟨next, empty, sent⟩ := @flushed_fits sink size packets _ (TsGatewaySink.flush_lane succeed now)
    refine ⟨next, ?_⟩
    rw [show (SinkCall.run sends sink (now, .flush)).datagram.length = 0 from empty]
    exact (and_congr_left fun _ => sent).trans and_assoc
  | setActive active =>
    have lane := @TsGatewaySink.setActive_lane sends sink succeed active now
    cases active with
    | some input =>
      rw [if_neg (by simp)] at lane
      refine ⟨packets_of_lane lane packets.pending packets.room packets.sent, Iff.rfl⟩
    | none =>
      rw [if_pos rfl] at lane
      obtain ⟨next, empty, sent⟩ := @flushed_fits sink size packets _ lane
      refine ⟨next, ?_⟩
      rw [show (SinkCall.run sends sink (now, .setActive none)).datagram.length = 0 from empty]
      exact (and_congr_left fun _ => sent).trans and_assoc

/-- The calls send whole packets, in datagrams that fit the buffer exactly if
the calls do. -/
theorem runs_fit (succeed : ∀ attempt, sends attempt = .sent) (calls : List (Time × SinkCall))
    (whole : ∀ now packet, (now, SinkCall.write packet) ∈ calls → Accepted packet) (packets : Packets sink) :
    Packets (calls.foldl (SinkCall.run sends) sink) ∧
      ((∀ datagram ∈ (calls.foldl (SinkCall.run sends) sink).sent, datagram.length ≤ size) ↔
        (∀ datagram ∈ sink.sent, datagram.length ≤ size) ∧ Fits size sink.datagram.length calls) := by
  induction calls generalizing sink with
  | nil => exact ⟨packets, by simp [Fits]⟩
  | cons call rest ih =>
    obtain ⟨now, call⟩ := call
    obtain ⟨next, first⟩ := @run_fits sends sink size now succeed packets call
      (fun packet same => whole now packet (by rw [same]; exact List.mem_cons_self)) rest
    obtain ⟨last, later⟩ := ih (fun now packet among => whole now packet (List.mem_cons_of_mem _ among)) next
    exact ⟨last, later.trans first⟩

/-! ## The PC -/

variable {input : PcGatewayInput} {events : List (Time × Received)}

/-- A datagram whose front is accepted brings the packets of its front. -/
theorem observe_fronts (event : Time × Received)
    (fronts : ∀ data ∈ datagramsOf [event], Accepted (data.take input.config.packetSize.toNat)) :
    (input.observe event).delivered.map Prod.snd = input.delivered.map Prod.snd ++
        (datagramsOf [event]).flatMap (fun data => packetsOf (data.take input.config.packetSize.toNat)) ∧
      (input.observe event).status.alignmentErrors = input.status.alignmentErrors ∧
      (input.observe event).status.syncErrors = input.status.syncErrors := by
  obtain ⟨now, received⟩ := event
  cases received with
  | wouldBlock => simp [observe, datagramsOf]
  | failed error => simp [observe, datagramsOf, recordError]
  | datagram data =>
    have only : datagramsOf [(now, .datagram data)] = [data] := rfl
    rw [only, List.flatMap_singleton]
    by_cases nothing : input.receivedBytes data = []
    · have same : input.observe (now, .datagram data) = input := if_pos nothing
      have empty : data.take input.config.packetSize.toNat = [] := nothing
      rw [same, empty]
      simp [packetsOf]
    · have first : input.observe (now, .datagram data) = input.receive now (input.receivedBytes data) := if_neg nothing
      obtain ⟨delivered, -, alignment, sync⟩ :=
        @receive_of_accepted input now _ (fronts data (by rw [only]; exact List.mem_cons_self))
      rw [first]
      refine ⟨?_, alignment, sync⟩
      rw [show (input.receive now (input.receivedBytes data)).delivered = _ from delivered, List.map_append, List.map_map]
      exact congrArg _ (List.map_id _)

theorem observed_fronts (fronts : ∀ data ∈ datagramsOf events, Accepted (data.take input.config.packetSize.toNat)) :
    (events.foldl observe input).delivered.map Prod.snd = input.delivered.map Prod.snd ++
        (datagramsOf events).flatMap (fun data => packetsOf (data.take input.config.packetSize.toNat)) ∧
      (events.foldl observe input).status.alignmentErrors = input.status.alignmentErrors ∧
      (events.foldl observe input).status.syncErrors = input.status.syncErrors := by
  induction events generalizing input with
  | nil => simp [datagramsOf]
  | cons event rest ih =>
    have split : datagramsOf (event :: rest) = datagramsOf [event] ++ datagramsOf rest :=
      List.filterMap_append (l := [event])
    rw [split] at fronts ⊢
    obtain ⟨delivered, alignment, sync⟩ :=
      @observe_fronts input event fun data among => fronts data (List.mem_append_left _ among)
    obtain ⟨delivered', alignment', sync'⟩ := @ih (input.observe event)
      (by rw [observe_config]; exact fun data among => fronts data (List.mem_append_right _ among))
    rw [List.foldl_cons]
    refine ⟨?_, alignment'.trans alignment, sync'.trans sync⟩
    rw [delivered', delivered, observe_config, List.flatMap_append, List.append_assoc]

/-- Cut to whole packets, datagrams bring all their packets only if they fit. -/
theorem cut_iff_fit {datagrams : List Bytes}
    (aligned : ∀ datagram ∈ datagrams, datagram.length % PcGatewayInput.transportPacketBytes = 0)
    (whole : size % PcGatewayInput.transportPacketBytes = 0) :
    datagrams.flatMap (fun datagram => packetsOf (datagram.take size)) = datagrams.flatMap packetsOf ↔
      ∀ datagram ∈ datagrams, datagram.length ≤ size := by
  have fewer : ∀ datagrams : List Bytes, (datagrams.flatMap fun datagram => packetsOf (datagram.take size)).length ≤
      (datagrams.flatMap packetsOf).length := by
    intro datagrams
    induction datagrams with
    | nil => rfl
    | cons datagram rest ih =>
      rw [List.flatMap_cons, List.flatMap_cons, List.length_append, List.length_append, length_packetsOf, length_packetsOf,
        List.length_take]
      exact Nat.add_le_add (Nat.div_le_div_right (Nat.min_le_right _ _)) ih
  induction datagrams with
  | nil => simp
  | cons datagram rest ih =>
    obtain ⟨first, later⟩ := List.forall_mem_cons.mp aligned
    rw [List.flatMap_cons, List.flatMap_cons, List.forall_mem_cons]
    refine Iff.trans ?_ (and_congr_right fun _ => ih later)
    constructor
    · intro same
      have lengths := congrArg List.length same
      have bound := fewer rest
      rw [List.length_append, List.length_append, length_packetsOf, length_packetsOf, List.length_take] at lengths
      have fits : datagram.length ≤ size := by
        rw [show PcGatewayInput.transportPacketBytes = 188 from rfl] at *
        omega
      rw [List.take_of_length_le fits] at same
      exact ⟨fits, List.append_cancel_left same⟩
    · rintro ⟨fits, same⟩
      rw [List.take_of_length_le fits, same]

/-! ## The whole link -/

theorem gatewayInput_of_config {config : RepeaterConfig} (read : readConfig arithmetic root = .ok config) :
    optional root "gatewayInput" {} (readGatewayInput arithmetic) = .ok config.gatewayInput := by
  simp only [readConfig, bind_eq_ok, pure_eq_ok] at read
  obtain ⟨_, _, _, _, _, _, _, _, _, _, _, _, _, _, _, _, gatewayInput, gatewayInput_read, _, _, _, _, _, _, _, _, _, _, _, _,
    rfl⟩ := read
  exact gatewayInput_read

/-- An accepted packet size is a positive number of whole packets. -/
theorem packetSize_of_config {config : RepeaterConfig} (read : readConfig arithmetic root = .ok config) :
    config.gatewayInput.packetSize ≠ 0 ∧ config.gatewayInput.packetSize.toNat % PcGatewayInput.transportPacketBytes = 0 := by
  obtain ⟨-, same⟩ | ⟨json, -, section_⟩ := optional_cases (gatewayInput_of_config read)
  · rw [same]
    decide
  · simp only [readGatewayInput, bind_eq_ok, pure_eq_ok] at section_
    obtain ⟨_, _, _, _, packetSize, packetSize_read, same⟩ := section_
    rw [← same]
    obtain ⟨-, standing⟩ | ⟨value, -, given⟩ := optional_cases packetSize_read
    · rw [standing]
      have standing_size : (1316 : UInt64) ≠ 0 ∧ (1316 : UInt64).toNat % PcGatewayInput.transportPacketBytes = 0 := by decide
      exact standing_size
    · simp only [bind_eq_ok] at given
      obtain ⟨number, -, finished⟩ := given
      split at finished
      · cases finished
      · rename_i checked
        rw [pure_eq_ok] at finished
        subst finished
        obtain ⟨positive, aligned⟩ := not_or.mp checked
        rw [not_not] at aligned
        refine ⟨?_, ?_⟩
        · simpa [← UInt64.toNat_inj, ← UInt32.toNat_inj] using positive
        · simpa [← UInt32.toNat_inj, UInt32.toNat_mod, PcGatewayInput.transportPacketBytes] using aligned

/-- With all sends taken and all datagrams received, the transport delivers or
counts every packet exactly if no datagram is longer than the buffer of the PC. -/
theorem delivered_iff_fits (arithmetic : Arithmetic) {text : Bytes} {config : RepeaterConfig} (pi : TsGatewayConfig)
    (calls : List (Time × SinkCall)) (start started : Time) (received : List (List (Time × Received)))
    (accepted : configFromJson arithmetic text = some (.ok config))
    (succeed : ∀ attempt, sends attempt = .sent)
    (whole : ∀ now packet, (now, SinkCall.write packet) ∈ calls → Accepted packet)
    (channel : datagramsOf (history config.gatewayInput.packetSize.toNat received) =
      (calls.foldl (SinkCall.run sends) (.constructed pi start)).sent.reverse) :
    DeliveredOrCounted (calls.foldl (SinkCall.run sends) (.constructed pi start)).sent.reverse
        (received.foldl pump (opened config.gatewayInput started)) ↔
      Fits config.gatewayInput.packetSize.toNat 0 calls := by
  obtain ⟨result, parsed⟩ := JsonParser.parse_finishes text
  have read : result >>= readConfig arithmetic = .ok config :=
    Option.some.inj ((configFromJson_of_parse parsed).symm.trans accepted)
  obtain ⟨root, rfl, read⟩ := bind_eq_ok.mp read
  obtain ⟨positive, cut⟩ := packetSize_of_config read
  obtain ⟨packets, sizes⟩ := @runs_fit sends _ config.gatewayInput.packetSize.toNat succeed calls whole
    (constructed_packets pi start)
  have fits : (∀ datagram ∈ (calls.foldl (SinkCall.run sends) (.constructed pi start)).sent.reverse,
      datagram.length ≤ config.gatewayInput.packetSize.toNat) ↔ Fits config.gatewayInput.packetSize.toNat 0 calls := by
    simp only [List.mem_reverse]
    exact sizes.trans (and_iff_right nofun)
  have good : ∀ datagram ∈ (calls.foldl (SinkCall.run sends) (.constructed pi start)).sent.reverse, Accepted datagram :=
    fun datagram among => packets.sent datagram (List.mem_reverse.mp among)
  generalize (calls.foldl (SinkCall.run sends) (.constructed pi start)).sent.reverse = sent at *
  have buffer : (opened config.gatewayInput started).config = config.gatewayInput := if_neg positive
  obtain ⟨delivered, alignment, sync⟩ := @observed_fronts (opened config.gatewayInput started)
    (history config.gatewayInput.packetSize.toNat received) (by
      rw [buffer, channel]
      exact fun datagram among => accepted_take (good datagram among) cut)
  rw [channel, buffer] at delivered
  have whole' := @cut_iff_fit config.gatewayInput.packetSize.toNat _ (fun datagram among => (good datagram among).1) cut
  rw [pumps_eq, buffer, ← fits]
  unfold DeliveredOrCounted
  rw [observed_config, buffer, delivered, alignment, sync]
  constructor
  · rintro (all | counted)
    · exact whole'.mp all
    · -- Nothing was counted, so everything was delivered in full.
      intro datagram among
      have none := List.countP_eq_zero.mp (Nat.le_zero.mp counted) datagram among
      simp only [decide_eq_true_eq, not_not] at none
      exact none.1
  · intro all
    exact .inl (whole'.mpr all)

/-- A configuration whose datagrams are one packet. -/
def smallText : Bytes := bytes "\x7b\"gatewayInput\":\x7b\"packetSize\":188\x7d,\"receivers\":[]\x7d"

theorem smallText_accepted :
    configFromJson wrapping smallText = some (.ok { gatewayInput := { packetSize := 188 } }) := by
  have decided : @Eq (Option (Except String RepeaterConfig)) (configFromJson wrapping smallText)
      (some (.ok { gatewayInput := { packetSize := 188 } })) := by decide +kernel
  exact decided

/-- A write, and a flush after it. -/
def writeAndFlush (packet : Bytes) : List (Time × SinkCall) := [(0, .write packet), (0, .flush)]

/-- What the calls send. -/
def sentBy (calls : List (Time × SinkCall)) : List Bytes :=
  (calls.foldl (SinkCall.run fun _ => .sent) (.constructed {} 0)).sent.reverse

/-- Less than a full datagram is sent by the flush. -/
theorem sentBy_writeAndFlush (some : packet ≠ []) (aligned : packet.length % tsPacketSize = 0)
    (short : packet.length < datagramSize) : sentBy (writeAndFlush packet) = [packet] := by
  have succeed : ∀ attempt, (fun _ : Nat => Sending.sent) attempt = .sent := fun _ => rfl
  let opened := TsGatewaySink.constructed {} 0
  have room : opened.lane.pending.length < datagramSize := by decide
  obtain ⟨fresh, groups, -, items, -⟩ := gather_spec opened.lane packet room
  have few := (gather_length opened.lane packet room).2.1
    (by simpa [opened, TsGatewaySink.lane, TsGatewaySink.constructed] using short)
  have none : fresh = [] := by simpa [groups] using few
  rw [none] at groups items
  have written : (opened.write (fun _ => .sent) packet 0).lane = gather datagramSize opened.lane packet :=
    (TsGatewaySink.write_lane succeed packet 0).trans (if_pos aligned)
  have sent : (opened.write (fun _ => .sent) packet 0).sent = [] := (congrArg Gathered.groups written).trans groups
  have pending : (opened.write (fun _ => .sent) packet 0).datagram = packet :=
    (congrArg Gathered.pending written).trans items.symm
  have flushed := @TsGatewaySink.flush_lane _ (opened.write (fun _ => .sent) packet 0) succeed 0
  rw [pending, sent, if_neg some] at flushed
  exact congrArg List.reverse (congrArg Gathered.groups flushed)

/-- One packet between two flushes is delivered. -/
theorem packet_delivered :
    DeliveredOrCounted (sentBy (writeAndFlush emptyPacket))
      ([[(1, .datagram emptyPacket)]].foldl pump (opened { packetSize := 188 } 0)) := by
  have channel : datagramsOf (history 188 [[(1, .datagram emptyPacket)]]) = sentBy (writeAndFlush emptyPacket) := by
    decide +kernel
  have fits : Fits 188 0 (writeAndFlush emptyPacket) := by
    refine ⟨.inl ?_, ?_, trivial⟩ <;> decide +kernel
  refine (@delivered_iff_fits (fun _ => .sent) wrapping _ _ {} (writeAndFlush emptyPacket) 0 0
    [[(1, .datagram emptyPacket)]] smallText_accepted (fun _ => rfl) ?_ channel).mpr fits
  intro now packet among
  obtain ⟨-, rfl⟩ : now = 0 ∧ packet = emptyPacket := by simpa [writeAndFlush] using among
  decide +kernel

/-- Of two packets in one datagram, the second is neither delivered nor counted. -/
theorem second_packet_cut :
    configFromJson wrapping smallText = some (.ok { gatewayInput := { packetSize := 188 } }) ∧
      sentBy (writeAndFlush (emptyPacket ++ emptyPacket)) = [emptyPacket ++ emptyPacket] ∧
      ¬ DeliveredOrCounted (sentBy (writeAndFlush (emptyPacket ++ emptyPacket)))
        ([[(1, .datagram (emptyPacket ++ emptyPacket))]].foldl pump (opened { packetSize := 188 } 0)) := by
  have sent : sentBy (writeAndFlush (emptyPacket ++ emptyPacket)) = [emptyPacket ++ emptyPacket] :=
    sentBy_writeAndFlush (List.cons_ne_nil _ _) (by decide +kernel) (by decide +kernel)
  refine ⟨smallText_accepted, sent, ?_⟩
  rw [sent, DeliveredOrCounted]
  decide +kernel

end GatewayTransport
end WhRepeater
