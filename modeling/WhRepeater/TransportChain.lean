import Mathlib.Data.List.Flatten
import WhRepeater.MediaLink
import WhRepeater.MediaTransport
import WhRepeater.SessionStream

/-! The transport stream from the media parent's `write` to the live sessions of its
child: the parent's buffer and messages, the socket, the child's queue and its worker,
with every order of their steps and with children that exit. -/
namespace WhRepeater

namespace MediaTransport

open MediaProcess MediaSends ChildRestarts

variable {script : ChildScript} {fuel : Nat} {process after : MediaProcess} {call : ProcessCall} {moved : Moved}

/-- What is no transport message leaves the transport messages of the child alone, or
starts another child, which has none. -/
theorem silent_invariant (script : ChildScript) (told : List Bytes) :
    Invariant script (fun message => message.type ≠ .transportStream) fun process => transports process.accepted <:+ told := by
  refine ⟨?_, fun _ kept => kept, fun _ _ => List.nil_suffix, ?_, ?_⟩
  · intro one other same kept
    simp only [standing, Prod.mk.injEq] at same
    simpa only [same] using kept
  · intro process message _ among
    exact replayed_not_transport among
  · intro process message essential kept silent _
    rwa [transports_delivered silent]

theorem silent_carries (script : ChildScript) (fuel : Nat) (told : List Bytes)
    (silent : ∀ process message, OwnMessage process message call → message.type ≠ .transportStream) :
    Carries script (sendMessage script fuel) call fun process => transports process.accepted <:+ told :=
  have invariant := silent_invariant script told
  carries_of_follows _ (invariant.follows fuel) (invariant.replays (invariant.follows fuel)) invariant.stands
    invariant.believed (fun process message _ own => silent process message own) invariant.delivered

theorem drain_transports {told : List Bytes} (kept : transports process.accepted <:+ told) (running : process.childRunning = true)
    (drained : drainChildMessages script (sendMessage script fuel) process = some after) :
    after.childRunning = true ∧ transports after.accepted <:+ told := by
  have carries : Carries script (sendMessage script fuel) .stopFallbackVideo fun process => transports process.accepted <:+ told :=
    silent_carries script fuel told fun process message own => by
      rw [show message = ⟨.stopFallbackVideo, []⟩ from own]
      simp
  exact drain_carries carries kept running drained

/-- The messages that a flush was told to have gone out are behind those of the child,
unless another child was started among them. -/
theorem flushTold_transports {rounds : Nat} {messages told : List Bytes} (kept : transports process.accepted <:+ told)
    (running : process.childRunning = true)
    (flushed : flushTold (sendMessage script fuel) rounds process = some (messages, after)) :
    after.childRunning = true ∧ transports after.accepted <:+ told ++ messages := by
  induction rounds generalizing process messages told with
  | zero =>
    cases flushed
    exact ⟨running, by simpa using kept⟩
  | succ rounds ih =>
    unfold flushTold at flushed
    split at flushed
    · cases flushed
      exact ⟨running, by simpa using kept⟩
    · obtain ⟨⟨taken, sent⟩, returned, flushed⟩ := Option.bind_eq_some_iff.mp flushed
      have up := (sendMessage_accounted script fuel process _ false (taken, sent) running returned).running
      have gone := sendMessage_transports running returned
      dsimp only at up flushed
      have front : (if sent.starts = process.starts then transports process.accepted else []) <:+ told := by
        split
        · exact kept
        · exact List.nil_suffix
      cases taken with
      | true =>
        obtain ⟨⟨rest, done⟩, more, flushed⟩ := Option.bind_eq_some_iff.mp flushed
        cases flushed
        have grown : transports sent.accepted <:+ told ++ [process.transportBuffer.take maxTransportPayload] := by
          rw [gone]
          exact (List.suffix_append_self_iff).mpr front
        obtain ⟨stays, behind⟩ :=
          @ih { sent with transportBuffer := sent.transportBuffer.drop maxTransportPayload } rest _ grown up more
        exact ⟨stays, by simpa using behind⟩
      | false =>
        cases flushed
        refine ⟨up, ?_⟩
        rw [gone]
        simpa using front

theorem callTold_transports {told : List Bytes} (kept : transports process.accepted <:+ told)
    (running : process.childRunning = true) (called : process.callTold script fuel call = some (moved, after)) :
    transports after.accepted <:+ told ++ moved.messages := by
  have other (silent : ∀ process message, OwnMessage process message call → message.type ≠ .transportStream)
      (assigns : (assigned process call).accepted = process.accepted)
      (nothing : (process.call script fuel call).map (fun process =>
        (({ left := process.transportBuffer } : Moved), process)) = some (moved, after)) :
      transports after.accepted <:+ told ++ moved.messages := by
    obtain ⟨done, returned, same⟩ := Option.map_eq_some_iff.mp nothing
    cases same
    have behind := (call_carries (silent_carries script fuel told silent) (by rwa [assigns]) running returned).2
    simpa using behind
  cases call with
  | tick =>
    obtain ⟨drained, first, called⟩ := Option.bind_eq_some_iff.mp called
    obtain ⟨up, kept⟩ := drain_transports kept running first
    obtain ⟨⟨messages, flushed⟩, second, called⟩ := Option.bind_eq_some_iff.mp called
    have before : transports ({ drained with mode := drained.believedMode } : MediaProcess).accepted <:+ told := kept
    obtain ⟨up, behind⟩ := flushTold_transports before up second
    obtain ⟨⟨taken, sent⟩, third, called⟩ := Option.bind_eq_some_iff.mp called
    have alive := (sendMessage_accounted script fuel flushed _ false (taken, sent) up third).running
    have same := sendMessage_transports up third
    have ticked : transports sent.accepted <:+ told ++ messages := by
      rw [same]
      have none_sent : (if taken = true then transports [⟨.tick, []⟩] else []) = ([] : List Bytes) := by
        cases taken <;> rfl
      rw [none_sent, List.append_nil]
      split
      · exact behind
      · exact List.nil_suffix
    obtain ⟨last, fourth, called⟩ := Option.bind_eq_some_iff.mp called
    cases called
    exact (drain_transports ticked alive fourth).2
  | write packet =>
    simp only [callTold] at called
    split at called
    · cases called
      simpa using kept
    · obtain ⟨⟨messages, flushed⟩, flushes, called⟩ := Option.bind_eq_some_iff.mp called
      cases called
      have before : transports ({ process with transportBuffer := process.transportBuffer ++ packet } : MediaProcess).accepted
          <:+ told := kept
      have behind := (flushTold_transports before running flushes).2
      have same : flushed.dropBacklog.accepted = flushed.accepted := by
        unfold dropBacklog
        split <;> rfl
      rwa [same]
  | select input =>
    refine other (fun process message own => ?_) rfl called
    rw [show message = process.selectMessage from own]
    simp [selectMessage]
  | setBeaconAllowed allowed =>
    refine other (fun process message own => ?_) rfl called
    rw [show message = process.beaconMessage from own]
    simp [beaconMessage]
  | setAccessNotice notice endTone =>
    refine other (fun process message own => ?_) rfl called
    obtain rfl | rfl := own
    · simp [noticeMessage]
    · simp [toneMessage]
  | playFallbackVideo path =>
    refine other (fun process message own => ?_) rfl called
    rw [show message = ⟨.playFallbackVideo, stringPayload path⟩ from own]
    simp
  | stopFallbackVideo =>
    refine other (fun process message own => ?_) rfl called
    rw [show message = ⟨.stopFallbackVideo, []⟩ from own]
    simp
  | seekFallbackVideo position =>
    refine other (fun process message own => ?_) rfl called
    rw [show message.type = .seekFallbackVideo from own]
    simp
  | setPreviewEnabled enabled =>
    refine other (fun process message own => ?_) rfl called
    rw [show message = process.previewMessage from own]
    simp [previewMessage]
  | reconfigurePluto transmitEnabled =>
    refine other (fun process message own => ?_) rfl called
    rw [show message.type = .reconfigurePluto from own]
    simp

end MediaTransport

/-- The link, the stream written to the parent, and what the live sessions of the
child that is there now were given. -/
structure TransportChain where
  link : MediaLink
  written : Bytes := []
  given : Bytes := []
  deriving Repr, DecidableEq

namespace TransportChain

open MediaTransport SessionStream

def fedBy : LinkEvent → Bytes
  | .call call _ _ _ => fed call
  | _ => []

def givenBy (link : MediaLink) : LinkEvent → Bytes
  | .child event => appendedBy link.child event
  | _ => []

def step (chain : TransportChain) (event : LinkEvent) : Option TransportChain :=
  (chain.link.step event).map fun link =>
    { link
      written := chain.written ++ fedBy event
      given := if link.parent.starts = chain.link.parent.starts then chain.given ++ givenBy chain.link event else [] }

/-- The parent keeps the stream in whole packets, its child was told the latest of the
messages that went out, and gives its sessions what it has handled of them. -/
structure Chained (chain : TransportChain) : Prop where
  attached : chain.link.Attached
  parent : ∃ moved, MediaTransport.Kept { process := chain.link.parent, written := chain.written, moved } ∧
    transports chain.link.parent.accepted <:+ moved.flatMap Moved.messages
  child : Streamed chain.link.child (transports (chain.link.parent.accepted.take chain.link.handled)) chain.given

variable {before after : TransportChain} {event : LinkEvent}

theorem step_eq_some : before.step event = some after ↔
    before.link.step event = some after.link ∧ after.written = before.written ++ fedBy event ∧
      after.given = if after.link.parent.starts = before.link.parent.starts then before.given ++ givenBy before.link event else [] := by
  obtain ⟨link, written, given⟩ := after
  simp only [step, Option.map_eq_some_iff, TransportChain.mk.injEq]
  constructor
  · rintro ⟨_, stepped, rfl, rfl, rfl⟩
    exact ⟨stepped, rfl, rfl⟩
  · rintro ⟨stepped, rfl, gives⟩
    exact ⟨_, stepped, rfl, rfl, gives.symm⟩

theorem start_chained {config : RepeaterConfig} {script : ChildScript} {fuel : Nat} {startedAt : Time} {link : MediaLink}
    (started : MediaLink.start config script fuel startedAt = some link) : ({ link } : TransportChain).Chained := by
  have attached := MediaLink.start_attached started
  obtain ⟨parent, constructed, rfl⟩ := Option.map_eq_some_iff.mp started
  have begun : MediaProcess.startChild (MediaProcess.sendMessage script fuel) { config } = some parent := by
    simpa [MediaProcess.construct, MediaProcess.ensureRunning, MediaProcess.reapChild] using constructed
  obtain ⟨running, buffer⟩ := MediaProcess.startChild_stays begun
  have empty : parent.transportBuffer = [] := buffer
  have invariant := silent_invariant script []
  obtain ⟨-, untold⟩ := MediaSends.construct_replays (invariant.replays (invariant.follows fuel)) List.nil_suffix constructed
  refine ⟨attached, ⟨[], ⟨⟨by simp [empty], by simp, by simp, by simp, by simp [empty]⟩, running, by simp [empty]⟩, untold⟩, ?_⟩
  exact start_streamed config startedAt

theorem call_chained {call : ProcessCall} {script : ChildScript} {fuel : Nat} {startedAt : Time} (chained : before.Chained)
    (packets : (fed call).length % transportPacketBytes = 0)
    (stepped : before.step (.call call script fuel startedAt) = some after) : after.Chained := by
  obtain ⟨linked, fedNow, givenNow⟩ := step_eq_some.mp stepped
  obtain ⟨attached, ⟨moved, kept, behind⟩, child⟩ := chained
  have still := MediaLink.step_attached attached linked
  obtain ⟨called, returned, is⟩ := MediaLink.step_call.mp linked
  have erased := MediaProcess.callTold_erases script fuel before.link.parent call
  rw [returned, Option.map_eq_some_iff] at erased
  obtain ⟨⟨now, parent⟩, told, rfl⟩ := erased
  dsimp only at returned is
  have kept_now := step_kept kept packets
    (show MediaTransport.step script fuel { process := before.link.parent, written := before.written, moved } call = _ by
      rw [MediaTransport.step, told]
      rfl)
  have behind_now := callTold_transports behind attached.1 told
  obtain ⟨-, extended⟩ := (MediaLink.call_extends attached.1 returned).2
  have parent_is : after.link.parent = parent := by
    rw [← is, MediaLink.called]
    split <;> rfl
  refine ⟨still, ⟨moved ++ [now], ?_, ?_⟩, ?_⟩
  · rw [parent_is, fedNow]
    exact kept_now
  · rw [parent_is]
    simpa using behind_now
  · rw [givenNow, parent_is]
    by_cases same : parent.starts = before.link.parent.starts
    · have unchanged : after.link.child = before.link.child ∧ after.link.handled = before.link.handled := by
        rw [← is, MediaLink.called, if_pos same]
        exact ⟨rfl, rfl⟩
      obtain ⟨more, longer⟩ := extended same
      have front : parent.accepted.take before.link.handled = before.link.parent.accepted.take before.link.handled := by
        rw [← longer, List.take_append_of_le_length attached.2]
      rw [if_pos same, unchanged.1, unchanged.2, front]
      simpa [givenBy] using child
    · have fresh : after.link.child = .start parent.config startedAt ∧ after.link.handled = 0 := by
        rw [← is, MediaLink.called, if_neg same]
        exact ⟨rfl, rfl⟩
      rw [if_neg same, fresh.1, fresh.2]
      exact start_streamed parent.config startedAt

theorem handle_chained {now stampedAt : Time} (chained : before.Chained)
    (stepped : before.step (.handle now stampedAt) = some after) : after.Chained := by
  obtain ⟨linked, fedNow, givenNow⟩ := step_eq_some.mp stepped
  obtain ⟨attached, parent, child⟩ := chained
  have still := MediaLink.step_attached attached linked
  obtain ⟨-, message, next, is⟩ := MediaLink.step_handle.mp linked
  have same : after.link.parent = before.link.parent := by
    rw [← is, MediaLink.received]
    split <;> rfl
  have written : after.written = before.written := fedNow.trans (List.append_nil _)
  have given : after.given = before.given := by
    rw [givenNow, same, if_pos rfl]
    exact List.append_nil _
  refine ⟨still, by rw [same, written]; exact parent, ?_⟩
  rw [given, same, ← is, MediaLink.received]
  cases handled : before.link.child.handle message now stampedAt with
  | none => exact child
  | some handling =>
    have taken : before.link.parent.accepted.take (before.link.handled + 1) =
        before.link.parent.accepted.take before.link.handled ++ [message] := by
      rw [List.take_add_one, next]
      rfl
    dsimp only
    rw [taken, transports, List.filter_append, List.map_append]
    by_cases transport : message.type = .transportStream
    · have wrote : before.link.child.step (.write message.payload now stampedAt) = some handling := by
        rw [← handled, MediaSystem.handle, transport]
      have streamed := step_streamed child wrote
      simpa [writtenBy, appendedBy, transports, transport] using streamed
    · have none_written : (([message] : List ControlMessage).filter fun message => message.type = .transportStream) = [] := by
        simp [transport]
      rw [none_written, List.map_nil, List.append_nil]
      by_cases info : message.type = .streamInfo ∨ message.type = .fallbackVideoStatus
      · have unchanged : handling = before.link.child := by
          obtain info | status := info
          · simpa [MediaSystem.handle, info, eq_comm] using handled
          · simpa [MediaSystem.handle, status, eq_comm] using handled
        rw [unchanged]
        exact child
      · rw [not_or] at info
        obtain ⟨call, -, rfl⟩ := MediaSystem.handle_call handled ⟨transport, info⟩
        exact streamed_of_less child rfl (DecoderSession.call_inputQueue before.link.child.pipeline call)
          (.inl fun live opened => ⟨live, opened, rfl⟩)

theorem child_chained {happened : MediaEvent UInt8} (chained : before.Chained)
    (stepped : before.step (.child happened) = some after) : after.Chained := by
  obtain ⟨linked, fedNow, givenNow⟩ := step_eq_some.mp stepped
  obtain ⟨attached, parent, child⟩ := chained
  have still := MediaLink.step_attached attached linked
  obtain ⟨⟨-, own⟩, next, moved, is⟩ := MediaLink.step_child.mp linked
  have same : after.link.parent = before.link.parent := by rw [← is]
  have written : after.written = before.written := fedNow.trans (List.append_nil _)
  have given : after.given = before.given ++ appendedBy before.link.child happened := by
    rw [givenNow, same, if_pos rfl]
    rfl
  have silent : writtenBy happened = [] := by
    cases happened with
    | write packet checkedAt stampedAt => exact absurd own (by simp [OwnStep])
    | _ => rfl
  refine ⟨still, by rw [same, written]; exact parent, ?_⟩
  have streamed := step_streamed child moved
  rw [silent, List.append_nil] at streamed
  rw [given, same, ← is]
  exact streamed

theorem step_chained (chained : before.Chained) (packets : (fedBy event).length % transportPacketBytes = 0)
    (stepped : before.step event = some after) : after.Chained := by
  cases event with
  | call call script fuel startedAt => exact call_chained chained packets stepped
  | handle now stampedAt => exact handle_chained chained stepped
  | child happened => exact child_chained chained stepped
  | exit =>
    obtain ⟨linked, fedNow, givenNow⟩ := step_eq_some.mp stepped
    have is : { before.link with alive := false } = after.link := Option.some.inj linked
    obtain ⟨attached, parent, child⟩ := chained
    have still := MediaLink.step_attached attached linked
    have written : after.written = before.written := fedNow.trans (List.append_nil _)
    have given : after.given = before.given := by
      rw [givenNow, ← is, if_pos rfl]
      exact List.append_nil _
    exact ⟨still, by rw [written, ← is]; exact parent, by rw [given, ← is]; exact child⟩

theorem run_chained {events : List LinkEvent} (chained : before.Chained)
    (packets : ∀ event ∈ events, (fedBy event).length % transportPacketBytes = 0)
    (ran : Runs.run step before events = some after) : after.Chained := by
  induction events generalizing before with
  | nil =>
    cases ran
    exact chained
  | cons event rest ih =>
    obtain ⟨next, stepped, ran⟩ := Option.bind_eq_some_iff.mp ran
    exact ih (step_chained chained (packets event List.mem_cons_self) stepped)
      (fun other among => packets other (List.mem_cons_of_mem _ among)) ran

/-- The messages that went out are in the stream, in order. -/
theorem messages_sublist {history : TransportHistory} (conserved : Conserved history) :
    (history.moved.flatMap Moved.messages).flatten.Sublist history.written := by
  rw [conserved.stream]
  refine List.Sublist.trans ?_ (List.sublist_append_left _ _)
  generalize history.moved = moved
  induction moved with
  | nil => exact List.Sublist.refl _
  | cons first rest ih =>
    rw [List.flatMap_cons, List.flatten_append, List.flatMap_cons]
    exact (List.sublist_append_left _ _).append ih

/-- The packets that the sessions were given are messages that went out. -/
theorem Chained.messages {chain : TransportChain} (chained : chain.Chained) :
    ∃ front session : List Bytes, chain.given = front.flatten ++ session.flatten ∧
      (front ++ session).flatten.Sublist chain.written ∧ (∀ message ∈ front ++ session, MediaProcess.FullMessage message) ∧
      ∀ live, chain.link.child.worker.liveTranscoder = some live → live.appended = session.flatten := by
  obtain ⟨-, ⟨moved, kept, behind⟩, front, session, back, among, gave, -, held⟩ := chained
  have prefix_of : (transports (chain.link.parent.accepted.take chain.link.handled)).Sublist
      (transports chain.link.parent.accepted) := ((List.take_sublist _ _).filter _).map _
  have sessions : (front ++ session).Sublist (moved.flatMap Moved.messages) := by
    refine List.Sublist.trans ?_ (prefix_of.trans behind.sublist)
    refine List.Sublist.trans ?_ among
    rw [List.append_assoc _ back]
    exact List.sublist_append_left _ _
  refine ⟨front, session, gave, sessions.flatten.trans (messages_sublist kept.toConserved), ?_, held⟩
  intro message one
  obtain ⟨call, within, out⟩ := List.mem_flatMap.mp (sessions.subset one)
  exact kept.messages call within message out

/-- A receiver is selected and one packet of it written, and the child handles what
it is told and opens a session for it. -/
def onePacket : List LinkEvent :=
  [.call (.select (some (DecoderSession.onReceiver 1))) .steady 2 0, .call (.write (List.replicate 188 71)) .steady 2 0] ++
    List.replicate 7 (.handle 1 1) ++ [.child .queueInput, .child .observe, .child (.pass 2)]

end TransportChain
end WhRepeater
