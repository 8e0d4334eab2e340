import WhRepeater.Gathering
import WhRepeater.PlutoSink
import WhRepeater.Runs

/-! Where the datagrams of the Pluto sink lie in the stream of its muxer. Both
outputs gather what is written while they are on, so a datagram begins wherever
its output was switched on, and a preview that is switched off sends what it
has. Whole packets go out while the switches fall between packets. -/
namespace WhRepeater

open Gathering

namespace PlutoSink

variable {sink : PlutoSink} {suffix payload : Bytes}

/-- What the two outputs hold and have sent. -/
def lanes (sink : PlutoSink) : Gathered UInt8 × Gathered UInt8 :=
  (⟨sink.datagram, sink.sent⟩, ⟨sink.previewDatagram, sink.previewed⟩)

@[simp] theorem publishControl_lanes : (sink.publishControl suffix payload).lanes = sink.lanes := by
  unfold publishControl
  split <;> rfl

@[simp] theorem publishControls_lanes (controls : List (Bytes × Bytes)) :
    (sink.publishControls controls).lanes = sink.lanes := by
  induction controls generalizing sink with
  | nil => rfl
  | cons control rest ih => exact ih.trans publishControl_lanes

@[simp] theorem publishTransmitState_lanes (enabled : Bool) : (sink.publishTransmitState enabled).lanes = sink.lanes := by
  cases enabled <;> simp [publishTransmitState]

@[simp] theorem configureTransmitter_lanes : sink.configureTransmitter.lanes = sink.lanes := by
  unfold configureTransmitter
  split
  · rfl
  · split
    · rfl
    · split
      · exact publishControls_lanes _
      · exact publishControls_lanes _

/-- An output that is switched off drops what it holds. -/
theorem setTransmitEnabled_lanes (sink : PlutoSink) (enabled : Bool) :
    (sink.setTransmitEnabled enabled).lanes =
      if enabled = false ∧ sink.transmitEnabled = true then (⟨[], sink.sent⟩, sink.lanes.2) else sink.lanes := by
  have configured := @configureTransmitter_lanes sink
  simp only [lanes, Prod.mk.injEq, Gathered.mk.injEq] at configured
  by_cases same : sink.transmitEnabled = enabled
  · have unchanged : sink.setTransmitEnabled enabled = sink := if_pos same
    rw [unchanged]
    cases enabled <;> simp [same]
  · unfold setTransmitEnabled
    rw [if_neg same]
    cases enabled with
    | true =>
      simp only [Bool.true_eq_false, false_and, ↓reduceIte]
      exact (publishTransmitState_lanes true).trans configureTransmitter_lanes
    | false =>
      simp only [show sink.transmitEnabled = true by simpa using same, and_self, ↓reduceIte]
      refine (publishTransmitState_lanes false).trans ?_
      simp [lanes, dropOutput, configured]

theorem reconfigureTransmitter_lanes (sink : PlutoSink) (transmitEnabled : Bool) :
    (sink.reconfigureTransmitter transmitEnabled).lanes =
      if transmitEnabled = false then (⟨[], sink.sent⟩, sink.lanes.2) else sink.lanes := by
  have configured := @configureTransmitter_lanes { sink with configured := false }
  simp only [lanes, Prod.mk.injEq, Gathered.mk.injEq] at configured
  unfold reconfigureTransmitter
  cases transmitEnabled with
  | true => exact (publishTransmitState_lanes true).trans configureTransmitter_lanes
  | false =>
    refine (publishTransmitState_lanes false).trans ?_
    simp [lanes, dropOutput, configured]

/-- The preview sends what it holds when it is switched off, if it ever
opened its socket. -/
theorem setPreviewEnabled_lanes (sink : PlutoSink) (enabled : Bool) :
    (sink.setPreviewEnabled enabled).lanes =
      if enabled = false ∧ sink.previewEnabled = true then
        (sink.lanes.1, ⟨[], if sink.previewDatagram = [] ∨ sink.previewSocket = false then sink.previewed
          else sink.previewDatagram :: sink.previewed⟩)
      else sink.lanes := by
  by_cases same : sink.previewEnabled = enabled
  · have unchanged : sink.setPreviewEnabled enabled = sink := if_pos same
    rw [unchanged]
    cases enabled <;> simp [same]
  · unfold setPreviewEnabled
    rw [if_neg same]
    cases enabled with
    | true =>
      simp only [Bool.true_eq_false, false_and, ↓reduceIte]
      rfl
    | false =>
      simp only [show sink.previewEnabled = true by simpa using same, and_self, ↓reduceIte, Bool.false_eq_true,
        flushPreviewDatagram]
      split <;> rfl

theorem writePreviewData_lanes (sink : PlutoSink) (data : Bytes) :
    (sink.writePreviewData data).lanes =
      (sink.lanes.1, if sink.previewEnabled = true then gather datagramSize sink.lanes.2 data else sink.lanes.2) := by
  by_cases idle : sink.previewEnabled = false ∨ data = []
  · have unchanged : sink.writePreviewData data = sink := if_pos idle
    rw [unchanged]
    obtain off | nothing := idle
    · simp [off]
    · simp [nothing, gather]
  · unfold writePreviewData
    rw [if_neg idle, if_pos (by simpa using (not_or.mp idle).1)]
    -- The main output is left alone, and the preview gathers behind an open socket.
    refine Prod.ext_iff.mpr ⟨?_, ?_⟩
    · refine (foldl_kept (fun sink => sink.lanes.1) data _ fun sink byte => ?_).trans rfl
      dsimp only
      split
      · unfold flushPreviewDatagram
        split <;> rfl
      · rfl
    · refine (foldl_gathers datagramSize (fun sink : PlutoSink => sink.previewSocket = true) (fun sink => sink.lanes.2) _ ?_ ?_ rfl
        data).trans rfl
      · intro sink byte socket
        dsimp only
        split
        · unfold flushPreviewDatagram
          split <;> exact socket
        · exact socket
      · intro sink byte socket
        dsimp only [add, lanes]
        split
        · simp [flushPreviewDatagram, socket]
        · rfl

theorem writeMuxData_lanes (sink : PlutoSink) (data : Bytes) :
    (sink.writeMuxData data).lanes =
      if data = [] then sink.lanes
      else (if sink.transmitEnabled = true then gather datagramSize sink.lanes.1 data else ⟨[], sink.sent⟩,
        if sink.previewEnabled = true then gather datagramSize sink.lanes.2 data else sink.lanes.2) := by
  by_cases nothing : data = []
  · rw [if_pos nothing]
    have unchanged : sink.writeMuxData data = sink := if_pos nothing
    rw [unchanged]
  · rw [if_neg nothing]
    have previewed := writePreviewData_lanes sink.configureTransmitter data
    rw [configureTransmitter_lanes, configureTransmitter_previewEnabled] at previewed
    have transmit : (sink.configureTransmitter.writePreviewData data).transmitEnabled = sink.transmitEnabled := by
      have same := writePreviewData_control sink.configureTransmitter data
      simp only [control, Prod.mk.injEq] at same
      rw [same.2.2.1, configureTransmitter_transmitEnabled]
    unfold writeMuxData
    rw [if_neg nothing]
    dsimp only
    rw [transmit]
    by_cases off : sink.transmitEnabled = false
    · rw [if_pos off, if_neg (by simp [off])]
      simp only [lanes, Prod.mk.injEq, Gathered.mk.injEq] at previewed ⊢
      exact ⟨⟨trivial, previewed.1.2⟩, previewed.2⟩
    · rw [if_neg off, if_pos (by simpa using off)]
      refine Prod.ext_iff.mpr ⟨?_, ?_⟩
      · refine (foldl_gathers datagramSize (fun _ : PlutoSink => True) (fun sink => sink.lanes.1) _ (fun _ _ _ => trivial) ?_ trivial
          data).trans ?_
        · intro sink byte _
          dsimp only [add, lanes]
          split
          · simp [flushDatagram]
          · rfl
        · have held := congrArg Prod.fst previewed
          exact congrArg (gather datagramSize · data) held
      · refine (foldl_kept (fun sink => sink.lanes.2) data _ fun sink byte => ?_).trans ?_
        · split
          · unfold flushDatagram
            split <;> rfl
          · rfl
        · have mirrored := congrArg Prod.snd previewed
          exact mirrored

end PlutoSink

namespace PlutoAlignment

open Runs

/-- The sink, and the stream its muxer has written so far. -/
structure MuxRun where
  sink : PlutoSink
  written : Bytes := []
  deriving Repr, DecidableEq

inductive MuxEvent where
  | writeMuxData (data : Bytes)
  | setTransmitEnabled (enabled : Bool)
  | reconfigureTransmitter (transmitEnabled : Bool)
  | setPreviewEnabled (enabled : Bool)
  deriving Repr, DecidableEq

def step (run : MuxRun) : MuxEvent → Option MuxRun
  | .writeMuxData data => some { sink := run.sink.writeMuxData data, written := run.written ++ data }
  | .setTransmitEnabled enabled => some { run with sink := run.sink.setTransmitEnabled enabled }
  | .reconfigureTransmitter transmitEnabled =>
    some { run with sink := run.sink.reconfigureTransmitter transmitEnabled }
  | .setPreviewEnabled enabled => some { run with sink := run.sink.setPreviewEnabled enabled }

/-- What is asked of every step: the datagrams of both outputs are whole packets
of the stream in its order, and a muted output sends none. -/
structure Packeted (before : MuxRun) (after : MuxRun) : Prop where
  main : Placed tsPacketSize after.written after.sink.sent
  preview : Placed tsPacketSize after.written after.sink.previewed
  muted : before.sink.transmitEnabled = false → after.sink.sent = before.sink.sent

/-- The stream stands between two packets. -/
def BetweenPackets (run : MuxRun) : Prop := run.written.length % tsPacketSize = 0

/-- An output is switched on, and the preview also off, only between packets. -/
def SwitchesBetween (run : MuxRun) : MuxEvent → Prop
  | .writeMuxData _ => True
  | .setTransmitEnabled enabled | .reconfigureTransmitter enabled =>
    enabled = true → run.sink.transmitEnabled = false → BetweenPackets run
  | .setPreviewEnabled enabled => run.sink.previewEnabled ≠ enabled → BetweenPackets run

/-- What an output holds is the end of the stream, and begins on a packet while
the output is on. -/
def Lane (stream : Bytes) (on : Bool) (held : Gathered UInt8) : Prop :=
  ∃ front, stream = front ++ held.pending ∧ Placed tsPacketSize front held.groups ∧
    (on = true → front.length % tsPacketSize = 0 ∧ held.pending.length < datagramSize) ∧ (on = false → held.pending = [])

variable {stream data : Bytes} {on : Bool} {held : Gathered UInt8}

theorem Lane.placed (lane : Lane stream on held) : Placed tsPacketSize stream held.groups := by
  obtain ⟨front, rfl, placed, -⟩ := lane
  exact .pass held.pending placed

/-- An output that is on sends datagrams of seven packets. -/
theorem Lane.gather (lane : Lane stream true held) (data : Bytes) :
    Lane (stream ++ data) true (gather datagramSize held data) := by
  obtain ⟨front, rfl, placed, aligned, -⟩ := lane
  obtain ⟨packets, room⟩ := aligned rfl
  obtain ⟨fresh, groups, sizes, same, short⟩ := gather_spec held data room
  have whole : ∀ group ∈ fresh, group.length % tsPacketSize = 0 ∧ group ≠ [] := by
    intro group among
    have size := sizes group among
    refine ⟨by rw [size]; rfl, ?_⟩
    rintro rfl
    cases size
  obtain ⟨later, multiple⟩ := placed_append placed packets whole
  refine ⟨front ++ fresh.flatten, ?_, ?_, fun _ => ⟨multiple, short⟩, nofun⟩
  · rw [List.append_assoc, same, List.append_assoc]
  · rwa [groups]

/-- An output that is off lets the stream pass. -/
theorem Lane.dropped (lane : Lane stream on held) (data : Bytes) : Lane (stream ++ data) false ⟨[], held.groups⟩ :=
  ⟨stream ++ data, by simp, .pass data lane.placed, nofun, fun _ => rfl⟩

theorem Lane.switchedOn (lane : Lane stream false held) (between : stream.length % tsPacketSize = 0) :
    Lane stream true held := by
  have empty := lane.choose_spec.2.2.2 rfl
  refine ⟨stream, by simp [empty], lane.placed, fun _ => ⟨between, ?_⟩, nofun⟩
  rw [empty]
  decide

/-- What is held between packets is whole packets. -/
theorem Lane.flushed (lane : Lane stream true held) (between : stream.length % tsPacketSize = 0)
    (some : held.pending ≠ []) : Lane stream false ⟨[], held.pending :: held.groups⟩ := by
  obtain ⟨front, rfl, placed, aligned, -⟩ := lane
  obtain ⟨packets, -⟩ := aligned rfl
  have whole : held.pending.length % tsPacketSize = 0 := by
    rw [show tsPacketSize = 188 from rfl] at *
    rw [List.length_append] at between
    omega
  exact ⟨front ++ held.pending, by simp, .take held.pending placed packets whole some, nofun, fun _ => rfl⟩

/-- Both outputs are in step with the stream. -/
structure InStep (run : MuxRun) : Prop where
  main : Lane run.written run.sink.transmitEnabled run.sink.lanes.1
  preview : Lane run.written run.sink.previewEnabled run.sink.lanes.2

variable {before after : MuxRun} {event : MuxEvent}

theorem setTransmitEnabled_inStep (held : InStep before) (enabled : Bool)
    (met : SwitchesBetween before (.setTransmitEnabled enabled)) :
    InStep { before with sink := before.sink.setTransmitEnabled enabled } := by
  constructor
  · dsimp only
    rw [PlutoSink.setTransmitEnabled_lanes, PlutoSink.setTransmitEnabled_transmitEnabled]
    cases enabled with
    | true =>
      rw [if_neg (by simp)]
      cases off : before.sink.transmitEnabled with
      | true => exact off ▸ held.main
      | false => exact (off ▸ held.main).switchedOn (met rfl off)
    | false =>
      have dropped := held.main.dropped []
      rw [List.append_nil] at dropped
      split
      · exact dropped
      · rename_i already
        have off : before.sink.transmitEnabled = false := by simpa using already
        exact off ▸ held.main
  · dsimp only
    rw [PlutoSink.setTransmitEnabled_lanes, PlutoSink.setTransmitEnabled_previewEnabled]
    split <;> exact held.preview

theorem reconfigureTransmitter_inStep (held : InStep before) (enabled : Bool)
    (met : SwitchesBetween before (.reconfigureTransmitter enabled)) :
    InStep { before with sink := before.sink.reconfigureTransmitter enabled } := by
  constructor
  · dsimp only
    rw [PlutoSink.reconfigureTransmitter_lanes, PlutoSink.reconfigureTransmitter_transmitEnabled]
    cases enabled with
    | true =>
      rw [if_neg (by simp)]
      -- A sink that transmits already goes on gathering.
      cases off : before.sink.transmitEnabled with
      | true => exact off ▸ held.main
      | false => exact (off ▸ held.main).switchedOn (met rfl off)
    | false =>
      have dropped := held.main.dropped []
      rw [List.append_nil] at dropped
      exact dropped
  · dsimp only
    rw [PlutoSink.reconfigureTransmitter_lanes, PlutoSink.reconfigureTransmitter_previewEnabled]
    split <;> exact held.preview

theorem setPreviewEnabled_inStep (held : InStep before) (enabled : Bool)
    (met : SwitchesBetween before (.setPreviewEnabled enabled)) :
    InStep { before with sink := before.sink.setPreviewEnabled enabled } := by
  have transmit : (before.sink.setPreviewEnabled enabled).transmitEnabled = before.sink.transmitEnabled := by
    have same := PlutoSink.setPreviewEnabled_control before.sink enabled
    simp only [PlutoSink.control, Prod.mk.injEq] at same
    exact same.2.2.1
  constructor
  · dsimp only
    rw [PlutoSink.setPreviewEnabled_lanes, transmit]
    split <;> exact held.main
  · dsimp only
    rw [PlutoSink.setPreviewEnabled_lanes, PlutoSink.setPreviewEnabled_previewEnabled]
    cases on : before.sink.previewEnabled with
    | false =>
      rw [if_neg (by simp)]
      have lane := on ▸ held.preview
      cases enabled with
      | false => exact lane
      | true => exact lane.switchedOn (met (by simp [on]))
    | true =>
      have lane := on ▸ held.preview
      cases enabled with
      | true => exact lane
      | false =>
        have between : BetweenPackets before := met (by simp [on])
        rw [if_pos ⟨rfl, rfl⟩]
        dsimp only
        split
        · have dropped := lane.dropped []
          rw [List.append_nil] at dropped
          exact dropped
        · rename_i some
          exact lane.flushed between (not_or.mp some).1

theorem writeMuxData_inStep (held : InStep before) (data : Bytes) :
    InStep { sink := before.sink.writeMuxData data, written := before.written ++ data } := by
  by_cases nothing : data = []
  · subst nothing
    rw [List.append_nil]
    exact held
  · have transmit : (before.sink.writeMuxData data).transmitEnabled = before.sink.transmitEnabled := by
      have same := PlutoSink.writeMuxData_control before.sink data
      rw [if_neg nothing] at same
      simp only [PlutoSink.control, Prod.mk.injEq] at same
      exact same.2.2.1.trans PlutoSink.configureTransmitter_transmitEnabled
    constructor
    · dsimp only
      rw [PlutoSink.writeMuxData_lanes, if_neg nothing, transmit]
      cases on : before.sink.transmitEnabled with
      | true => exact (on ▸ held.main).gather data
      | false => exact (on ▸ held.main).dropped data
    · dsimp only
      rw [PlutoSink.writeMuxData_lanes, if_neg nothing, PlutoSink.writeMuxData_previewEnabled]
      cases on : before.sink.previewEnabled with
      | true => exact (on ▸ held.preview).gather data
      | false =>
        obtain ⟨front, same, placed, -, off⟩ := on ▸ held.preview
        have empty : before.sink.lanes.2.pending = [] := off rfl
        refine ⟨front ++ data, ?_, .pass data placed, fun on => absurd on Bool.false_ne_true, fun _ => empty⟩
        rw [same]
        simp [empty]

/-! ## Runs -/

theorem step_inStep (held : InStep before) (met : SwitchesBetween before event)
    (stepped : step before event = some after) : InStep after := by
  cases event with
  | writeMuxData data =>
    obtain rfl : _ = after := Option.some.inj stepped
    exact writeMuxData_inStep held data
  | setTransmitEnabled enabled =>
    obtain rfl : _ = after := Option.some.inj stepped
    exact setTransmitEnabled_inStep held enabled met
  | reconfigureTransmitter enabled =>
    obtain rfl : _ = after := Option.some.inj stepped
    exact reconfigureTransmitter_inStep held enabled met
  | setPreviewEnabled enabled =>
    obtain rfl : _ = after := Option.some.inj stepped
    exact setPreviewEnabled_inStep held enabled met

/-- No call sends on the main output while transmission is disabled. -/
theorem step_muted (off : before.sink.transmitEnabled = false) (stepped : step before event = some after) :
    after.sink.sent = before.sink.sent := by
  cases event with
  | writeMuxData data =>
    obtain rfl : _ = after := Option.some.inj stepped
    have lanes := congrArg (fun lanes => lanes.1.groups) (PlutoSink.writeMuxData_lanes before.sink data)
    rw [off] at lanes
    refine lanes.trans ?_
    split <;> rfl
  | setTransmitEnabled enabled =>
    obtain rfl : _ = after := Option.some.inj stepped
    refine (congrArg (fun lanes => lanes.1.groups) (PlutoSink.setTransmitEnabled_lanes before.sink enabled)).trans ?_
    split <;> rfl
  | reconfigureTransmitter enabled =>
    obtain rfl : _ = after := Option.some.inj stepped
    refine (congrArg (fun lanes => lanes.1.groups) (PlutoSink.reconfigureTransmitter_lanes before.sink enabled)).trans ?_
    split <;> rfl
  | setPreviewEnabled enabled =>
    obtain rfl : _ = after := Option.some.inj stepped
    refine (congrArg (fun lanes => lanes.1.groups) (PlutoSink.setPreviewEnabled_lanes before.sink enabled)).trans ?_
    split <;> rfl

theorem start_inStep (config : PlutoConfig) : InStep { sink := { config } } := by
  constructor <;> exact ⟨[], rfl, .start, nofun, fun _ => rfl⟩

/-- While the outputs are switched between packets, every datagram is whole
packets of the stream, in its order, and a muted output is silent. -/
theorem packeted_while_switched_between (config : PlutoConfig) (events : List MuxEvent)
    (guarded : Guarded step SwitchesBetween { sink := { config } } events) :
    Throughout step (fun before _ after => Packeted before after) { sink := { config } } events := by
  refine throughout_of_guarded InStep ?_ (start_inStep config) guarded
  intro before event after held met stepped
  have next := step_inStep held met stepped
  exact ⟨next, next.main.placed, next.preview.placed, fun off => step_muted off stepped⟩

/-- A transmitter switched on before the stream begins, and off within a
packet of it. -/
theorem packeted_while_transmitting :
    Throughout step (fun before _ after => Packeted before after) { sink := { config := {} } }
      [.setTransmitEnabled true, .writeMuxData (List.replicate 200 0), .setTransmitEnabled false] := by
  refine packeted_while_switched_between {} _ ?_
  intro started _
  refine ⟨fun _ _ => rfl, ?_⟩
  intro written _
  refine ⟨trivial, ?_⟩
  intro stopped _
  exact ⟨nofun, trivial⟩

/-- A preview that is switched off within a packet sends the piece it has. -/
theorem preview_sends_piece :
    ¬ Throughout step (fun before _ after => Packeted before after) { sink := { config := {} } }
      [.setPreviewEnabled true, .writeMuxData (List.replicate 10 0), .setPreviewEnabled false] := by
  intro packeted
  obtain ⟨-, packeted⟩ := packeted _ rfl
  obtain ⟨-, packeted⟩ := packeted _ rfl
  obtain ⟨last, -⟩ := packeted _ rfl
  have piece := last.preview.units (List.replicate 10 0) (by decide)
  exact absurd piece.1 (by decide)

end PlutoAlignment
end WhRepeater
