import WhRepeater.MediaProcess

/-! What a message of the media parent leads to. It gets through, is lost, or
meets a child that has exited, and then another child has been started and told
everything again. What holds after a complete replay is assumed of the replays
inside it: the rule is an induction on how deep they nest. -/
namespace WhRepeater

namespace MediaProcess

/-- The kernel takes the message of the parent in this state. -/
def GetsThrough (script : ChildScript) (process : MediaProcess) (message : ControlMessage)
    (essential : Bool) : Prop :=
  message.Fits ∧ (script.attempt process.clock message.type).taken essential = true

/-- The message got through, and its cache is filled. -/
def delivered (process : MediaProcess) (message : ControlMessage) : MediaProcess :=
  ({ process.looked with accepted := process.accepted ++ [message] } : MediaProcess).remember message

@[simp] theorem delivered_starts (process : MediaProcess) (message : ControlMessage) :
    (process.delivered message).starts = process.starts :=
  remember_starts message

@[simp] theorem delivered_accepted (process : MediaProcess) (message : ControlMessage) :
    (process.delivered message).accepted = process.accepted ++ [message] :=
  remember_accepted message

theorem mem_videoMessages {process : MediaProcess} {message : ControlMessage} :
    message ∈ process.videoMessages ↔
      ∃ path, process.fallbackVideoPath = some path ∧
        (message = ⟨.playFallbackVideo, stringPayload path⟩ ∨
          ∃ position, process.fallbackVideoSeek = some position ∧
            message = ⟨.seekFallbackVideo, int64Payload position⟩) := by
  unfold videoMessages
  cases process.fallbackVideoPath with
  | none => simp
  | some path => cases process.fallbackVideoSeek <;> simp

/-- The kernel's answer changes nothing a call has set. -/
theorem delivered_wishes (process : MediaProcess) (message : ControlMessage) :
    (process.delivered message).wishes = process.wishes :=
  remember_wishes message

/-- What is asked of a parent is asked of these members and of its messages:
not of the clock, the socket, the buffer and the reports. -/
def standing (process : MediaProcess) :=
  (process.active, process.beaconAllowed, process.previewEnabled, process.accessNotice,
    process.accessNoticeEndTone, process.fallbackVideoPath, process.fallbackVideoSeek, process.mode,
    process.lastSelectPayload, process.lastBeaconPayload, process.lastNoticePayload,
    process.lastNoticeEndTonePayload, process.lastPreviewPayload, process.starts, process.accepted)

end MediaProcess

namespace MediaSends
open MediaProcess

variable {script : ChildScript} {Start Replayed Stage Next : MediaProcess → Prop}
variable {send : Send} {process after : MediaProcess} {message : ControlMessage} {essential : Bool}
variable {result : Bool × MediaProcess} {fuel : Nat}

/-- How a send ends when the states in which it looks at its child satisfy
`Stage`, and the states after a replay `Replayed`. -/
inductive Sent (script : ChildScript) (Stage Replayed : MediaProcess → Prop) (message : ControlMessage)
    (essential : Bool) : Bool × MediaProcess → Prop
  | through (ready : MediaProcess) : Stage ready → GetsThrough script ready message essential →
      Sent script Stage Replayed message essential
        (true, { ready.looked with accepted := ready.accepted ++ [message] })
  | lost (ready : MediaProcess) : Stage ready → ¬ GetsThrough script ready message essential →
      Sent script Stage Replayed message essential (false, ready.looked)
  | restarted (after : MediaProcess) : Replayed after → Sent script Stage Replayed message essential (false, after)

/-- A condition on what stands in the parent, from which a child can be started,
and that a replay restores. -/
structure Stands (Start Replayed Stage : MediaProcess → Prop) : Prop where
  blind : ∀ process other : MediaProcess, other.standing = process.standing → Stage process → Stage other
  stopped : ∀ process, Stage process → Start process.stopChild
  replayed : ∀ process, Replayed process → Stage process

theorem Stands.looked (stands : Stands Start Replayed Stage) (stage : Stage process) : Stage process.looked :=
  stands.blind process _ rfl stage

/-- A send that keeps what stands. -/
def Follows (script : ChildScript) (Start Replayed : MediaProcess → Prop) (send : Send) : Prop :=
  ∀ Stage, Stands Start Replayed Stage → ∀ process message essential result,
    Stage process → process.childRunning = true → send process message essential = some result →
      result.2.childRunning = true ∧ Sent script Stage Replayed message essential result

/-- Starting a child with the send leads from `Start` to `Replayed`. -/
def Replays (Start Replayed : MediaProcess → Prop) (send : Send) : Prop :=
  ∀ process after, Start process → startChild send process = some after →
    after.childRunning = true ∧ Replayed after

theorem sendNow_sent (replays : Replays Start Replayed send) (stands : Stands Start Replayed Stage)
    (stage : Stage process) (running : process.childRunning = true)
    (sent : sendNow script send process message essential = some result) :
    result.2.childRunning = true ∧ Sent script Stage Replayed message essential result := by
  have up : ¬ process.childRunning = false := by simp [running]
  rw [sendNow, if_neg up] at sent
  split at sent
  · obtain ⟨after, started, rfl⟩ := Option.map_eq_some_iff.mp sent
    obtain ⟨running, replayed⟩ := replays _ after (stands.stopped _ (stands.looked stage)) started
    exact ⟨running, .restarted after replayed⟩
  · split at sent
    · rename_i through
      cases sent
      exact ⟨running, .through process stage through⟩
    · rename_i lost
      cases sent
      exact ⟨running, .lost process stage lost⟩

theorem ensureRunning_stands (replays : Replays Start Replayed send) (stands : Stands Start Replayed Stage)
    (stage : Stage process) (running : process.childRunning = true)
    (ensured : ensureRunning script send process = some after) : after.childRunning = true ∧ Stage after := by
  have up : ¬ process.childRunning = false := by simp [running]
  simp only [ensureRunning, reapChild, if_neg up] at ensured
  obtain ⟨reaped, looked, ensured⟩ := Option.bind_eq_some_iff.mp ensured
  have there : reaped.childRunning = true ∧ Stage reaped := by
    split at looked
    · obtain ⟨running, replayed⟩ := replays _ reaped (stands.stopped _ (stands.looked stage)) looked
      exact ⟨running, stands.replayed reaped replayed⟩
    · cases looked
      exact ⟨running, stands.looked stage⟩
  rw [if_neg (by simp [there.1])] at ensured
  cases ensured
  exact there

/-- When replaying with a send that keeps what stands restores what is to be
replayed, the parent's own send keeps what stands. -/
theorem sendMessage_follows
    (replays : ∀ send, Follows script Start Replayed send → Replays Start Replayed send) (fuel : Nat) :
    Follows script Start Replayed (sendMessage script fuel) := by
  induction fuel with
  | zero =>
    intro Stage _ process message essential result _ _ sent
    cases sent
  | succ fuel ih =>
    intro Stage stands process message essential result stage running sent
    obtain ⟨ready, ensured, sent⟩ := Option.bind_eq_some_iff.mp sent
    obtain ⟨running, stage⟩ := ensureRunning_stands (replays _ ih) stands stage running ensured
    exact sendNow_sent (replays _ ih) stands stage running sent

/-- A send whose message is remembered when it gets through. -/
theorem sendRemembered_reaches (follows : Follows script Start Replayed send)
    (stands : Stands Start Replayed Stage) (restarted : ∀ process, Replayed process → Next process)
    (through : ∀ ready, Stage ready → GetsThrough script ready message true → Next (ready.delivered message))
    (lost : ∀ ready, Stage ready → ¬ GetsThrough script ready message true → Next ready.looked)
    (stage : Stage process) (running : process.childRunning = true)
    (sent : sendRemembered send process message = some after) : after.childRunning = true ∧ Next after := by
  obtain ⟨result, returned, done⟩ := Option.bind_eq_some_iff.mp sent
  cases done
  obtain ⟨running, ends⟩ := follows Stage stands process message true result stage running returned
  cases ends with
  | through ready stage passed => exact ⟨by simpa using running, through ready stage passed⟩
  | lost ready stage missed => exact ⟨running, lost ready stage missed⟩
  | restarted after replayed => exact ⟨running, restarted after replayed⟩

/-- Messages that keep what stands, one after another. -/
theorem messages_keep (follows : Follows script Start Replayed send) (stands : Stands Start Replayed Stage)
    {messages : List ControlMessage}
    (through : ∀ message ∈ messages, ∀ ready, Stage ready → GetsThrough script ready message true →
      Stage (ready.delivered message))
    (stage : Stage process) (running : process.childRunning = true)
    (sent : messages.foldlM (sendRemembered send) process = some after) :
    after.childRunning = true ∧ Stage after := by
  induction messages generalizing process with
  | nil =>
    cases sent
    exact ⟨running, stage⟩
  | cons message rest ih =>
    obtain ⟨next, first, sent⟩ := Option.bind_eq_some_iff.mp sent
    obtain ⟨running, stage⟩ := sendRemembered_reaches follows stands stands.replayed
      (through message List.mem_cons_self) (fun ready stage _ => stands.looked stage) stage running first
    exact ih (fun other among => through other (List.mem_cons_of_mem _ among)) stage running sent

/-- A child that was there when the parent looked gets the message at the next
look. -/
theorem sendMessage_present (running : process.childRunning = true) (present : script.exited process.clock = false) :
    sendMessage script (fuel + 1) process message essential =
      sendNow script (sendMessage script fuel) process.looked message essential := by
  have up : process.looked.childRunning = true := running
  simp [sendMessage, ensureRunning, reapChild, running, present, up]

/-! ## Calls -/

/-- The messages a call sends on its own account. -/
def OwnMessage (process : MediaProcess) (message : ControlMessage) : ProcessCall → Prop
  | .select _ => message = process.selectMessage
  | .setBeaconAllowed _ => message = process.beaconMessage
  | .setAccessNotice _ _ => message = process.noticeMessage ∨ message = process.toneMessage
  | .playFallbackVideo path => message = ⟨.playFallbackVideo, stringPayload path⟩
  | .stopFallbackVideo => message = ⟨.stopFallbackVideo, []⟩
  | .seekFallbackVideo _ => message.type = .seekFallbackVideo
  | .setPreviewEnabled _ => message = process.previewMessage
  | .reconfigurePluto _ => message.type = .reconfigurePluto
  | .tick => message.type = .transportStream ∨ message.type = .tick
  | .write _ => message.type = .transportStream

/-- The assignments a call makes before its first message. -/
def assigned (process : MediaProcess) : ProcessCall → MediaProcess
  | .select input => { process with active := input }
  | .setBeaconAllowed allowed => { process with beaconAllowed := allowed }
  | .setAccessNotice notice endTone => process.noticed notice endTone
  | .playFallbackVideo path =>
    { process with
      fallbackVideoPath := some path, fallbackVideoSeek := none, fallbackVideoStatus := none
      mode := .fallbackVideo }
  | .stopFallbackVideo =>
    { process with
      fallbackVideoPath := none, fallbackVideoSeek := none, fallbackVideoStatus := none
      mode := .fallback }
  | .seekFallbackVideo position => { process with fallbackVideoSeek := some (max 0 position) }
  | .setPreviewEnabled enabled => { process with previewEnabled := enabled }
  | .reconfigurePluto _ | .tick | .write _ => process

/-- What a send must do for a call to keep the condition. -/
structure Carries (script : ChildScript) (send : Send) (call : ProcessCall) (Stage : MediaProcess → Prop) :
    Prop where
  blind : ∀ process other : MediaProcess, other.standing = process.standing → Stage process → Stage other
  believed : ∀ process : MediaProcess, Stage process → Stage { process with mode := process.believedMode }
  sent : ∀ process message essential result, Stage process → process.childRunning = true →
    OwnMessage process message call → send process message essential = some result →
      result.2.childRunning = true ∧ Stage (if result.1 then result.2.remember message else result.2)
  started : ∀ process after, Stage process → startChild send process.stopChild = some after →
    after.childRunning = true ∧ Stage after

variable {call : ProcessCall}

theorem sendRemembered_carries (carries : Carries script send call Stage) (own : OwnMessage process message call)
    (stage : Stage process) (running : process.childRunning = true)
    (sent : sendRemembered send process message = some after) : after.childRunning = true ∧ Stage after := by
  obtain ⟨result, returned, done⟩ := Option.bind_eq_some_iff.mp sent
  cases done
  obtain ⟨running, kept⟩ := carries.sent process message true result stage running own returned
  refine ⟨?_, kept⟩
  split <;> simpa using running

theorem sendIfChanged_carries (carries : Carries script send call Stage) (own : OwnMessage process message call)
    (stage : Stage process) (running : process.childRunning = true)
    (sent : sendIfChanged send process message = some after) : after.childRunning = true ∧ Stage after := by
  unfold sendIfChanged at sent
  split at sent
  · cases sent
    exact ⟨running, stage⟩
  · exact sendRemembered_carries carries own stage running sent

theorem reports_carry (carries : Carries script send call Stage) (reports : List ChildReport)
    (stage : Stage process) (running : process.childRunning = true) :
    (reports.foldl receiveReport process).childRunning = true ∧ Stage (reports.foldl receiveReport process) := by
  induction reports generalizing process with
  | nil => exact ⟨running, stage⟩
  | cons report rest ih =>
    have same : (process.receiveReport report).standing = process.standing := by cases report <;> rfl
    refine ih (carries.blind process _ same stage) ?_
    cases report <;> exact running

theorem drain_carries (carries : Carries script send call Stage) (stage : Stage process)
    (running : process.childRunning = true) (drained : drainChildMessages script send process = some after) :
    after.childRunning = true ∧ Stage after := by
  have up : ¬ process.childRunning = false := by simp [running]
  have read := reports_carry carries (script.reports process.clock) (carries.blind process process.looked rfl stage) running
  simp only [drainChildMessages, if_neg up] at drained
  split at drained
  · exact carries.started _ after read.2 drained
  · cases drained
    exact read

theorem flush_carries (carries : Carries script send call Stage)
    (own : ∀ process chunk, OwnMessage process ⟨.transportStream, chunk⟩ call) (rounds : Nat)
    (stage : Stage process) (running : process.childRunning = true)
    (flushed : flushTransportBuffer send rounds process = some after) :
    after.childRunning = true ∧ Stage after := by
  induction rounds generalizing process with
  | zero =>
    cases flushed
    exact ⟨running, stage⟩
  | succ rounds ih =>
    rw [flushTransportBuffer] at flushed
    split at flushed
    · cases flushed
      exact ⟨running, stage⟩
    · obtain ⟨⟨taken, sent⟩, step, flushed⟩ := Option.bind_eq_some_iff.mp flushed
      obtain ⟨running, kept⟩ := carries.sent process _ false (taken, sent) stage running (own _ _) step
      cases taken with
      | true =>
        have shorter : Stage { sent with transportBuffer := sent.transportBuffer.drop maxTransportPayload } :=
          carries.blind sent _ rfl kept
        exact ih shorter running flushed
      | false =>
        cases flushed
        exact ⟨running, kept⟩

theorem tick_carries (carries : Carries script send .tick Stage) (stage : Stage process)
    (running : process.childRunning = true) (ticked : process.tick script send = some after) :
    after.childRunning = true ∧ Stage after := by
  obtain ⟨drained, first, ticked⟩ := Option.bind_eq_some_iff.mp ticked
  obtain ⟨up, kept⟩ := drain_carries carries stage running first
  obtain ⟨flushed, second, ticked⟩ := Option.bind_eq_some_iff.mp ticked
  obtain ⟨up, kept⟩ := flush_carries carries (fun _ _ => .inl rfl) _ (carries.believed drained kept) up second
  obtain ⟨⟨taken, sent⟩, third, last⟩ := Option.bind_eq_some_iff.mp ticked
  obtain ⟨up, kept⟩ := carries.sent flushed ⟨.tick, []⟩ false (taken, sent) kept up (.inr rfl) third
  have same : Stage sent := by
    cases taken <;> exact kept
  exact drain_carries carries same up last

theorem write_carries {packet : Bytes} (carries : Carries script send (.write packet) Stage)
    (stage : Stage process) (running : process.childRunning = true)
    (written : process.write send packet = some after) : after.childRunning = true ∧ Stage after := by
  unfold write at written
  split at written
  · cases written
    exact ⟨running, stage⟩
  · obtain ⟨flushed, first, last⟩ := Option.bind_eq_some_iff.mp written
    have grown : Stage { process with transportBuffer := process.transportBuffer ++ packet } :=
      carries.blind process _ rfl stage
    obtain ⟨up, kept⟩ := flush_carries carries (fun _ _ => rfl) _ grown running first
    cases last
    have same : flushed.dropBacklog.standing = flushed.standing ∧
        flushed.dropBacklog.childRunning = flushed.childRunning := by
      unfold dropBacklog
      split
      · simp only [standing, and_self]
      · exact ⟨rfl, rfl⟩
    exact ⟨same.2.trans up, carries.blind flushed _ same.1 kept⟩

/-- What the send carries, every call keeps from its assignments on. -/
theorem call_carries (carries : Carries script (sendMessage script fuel) call Stage)
    (stage : Stage (assigned process call)) (running : process.childRunning = true)
    (called : process.call script fuel call = some after) : after.childRunning = true ∧ Stage after := by
  cases call with
  | select input =>
    exact sendIfChanged_carries carries rfl stage running called
  | setBeaconAllowed allowed =>
    exact sendIfChanged_carries carries rfl stage running called
  | setAccessNotice notice endTone =>
    obtain ⟨middle, first, second⟩ := Option.bind_eq_some_iff.mp called
    obtain ⟨up, kept⟩ := sendIfChanged_carries carries (.inl rfl) stage running first
    exact sendIfChanged_carries carries (.inr rfl) kept up second
  | playFallbackVideo path => exact sendRemembered_carries carries rfl stage running called
  | stopFallbackVideo => exact sendRemembered_carries carries rfl stage running called
  | seekFallbackVideo position =>
    refine sendRemembered_carries carries ?_ stage running called
    rfl
  | setPreviewEnabled enabled =>
    exact sendIfChanged_carries carries rfl stage running called
  | reconfigurePluto transmitEnabled =>
    refine sendRemembered_carries carries ?_ stage running called
    rfl
  | tick => exact tick_carries carries stage running called
  | write packet => exact write_carries carries stage running called

/-- A condition on the messages that is enough for what stands to stay makes
every call keep it. -/
theorem carries_of_follows (Own : ControlMessage → Prop) (follows : Follows script Start Replayed send)
    (replays : Replays Start Replayed send) (stands : Stands Start Replayed Stage)
    (believed : ∀ process : MediaProcess, Stage process → Stage { process with mode := process.believedMode })
    (own : ∀ process message, Stage process → OwnMessage process message call → Own message)
    (through : ∀ ready message essential, Stage ready → Own message →
      GetsThrough script ready message essential → Stage (ready.delivered message)) :
    Carries script send call Stage := by
  refine ⟨stands.blind, believed, ?_, ?_⟩
  · intro process message essential result stage running sends sent
    obtain ⟨up, ends⟩ := follows Stage stands process message essential result stage running sent
    refine ⟨up, ?_⟩
    cases ends with
    | through ready stage' passed =>
      exact through ready message essential stage' (own process message stage sends) passed
    | lost ready stage _ => exact stands.looked stage
    | restarted after replayed => exact stands.replayed _ replayed
  · intro process after stage started
    obtain ⟨up, replayed⟩ := replays _ after (stands.stopped process stage) started
    exact ⟨up, stands.replayed after replayed⟩

/-! ## Invariants -/

/-- What holds whatever becomes of the messages, as long as all of them are
sendable. -/
structure Invariant (script : ChildScript) (Sendable : ControlMessage → Prop) (Kept : MediaProcess → Prop) :
    Prop where
  blind : ∀ process other : MediaProcess, other.standing = process.standing → Kept process → Kept other
  believed : ∀ process : MediaProcess, Kept process → Kept { process with mode := process.believedMode }
  forked : ∀ process, Kept process → Kept process.forked
  replayed : ∀ process message, Kept process → message ∈ process.replayMessages → Sendable message
  delivered : ∀ process message essential, Kept process → Sendable message →
    GetsThrough script process message essential → Kept (process.delivered message)

variable {Sendable : ControlMessage → Prop} {Kept : MediaProcess → Prop}

theorem Invariant.stands (invariant : Invariant script Sendable Kept) : Stands Kept Kept Kept :=
  ⟨invariant.blind, fun process kept => invariant.blind process _ rfl kept, fun _ kept => kept⟩

theorem Invariant.replays (invariant : Invariant script Sendable Kept) (follows : Follows script Kept Kept send) :
    Replays Kept Kept send := by
  intro process after kept started
  rw [startChild_eq] at started
  refine messages_keep follows invariant.stands ?_ (invariant.forked process kept) rfl started
  intro message among ready stage passed
  exact invariant.delivered ready message true stage (invariant.replayed process message kept among) passed

theorem Invariant.follows (invariant : Invariant script Sendable Kept) (fuel : Nat) :
    Follows script Kept Kept (sendMessage script fuel) :=
  sendMessage_follows (fun _ follows => invariant.replays follows) fuel

theorem call_invariant (invariant : Invariant script Sendable Kept)
    (own : ∀ process message, Kept process → OwnMessage process message call → Sendable message)
    (kept : Kept (assigned process call)) (running : process.childRunning = true)
    (called : process.call script fuel call = some after) : after.childRunning = true ∧ Kept after :=
  call_carries (carries_of_follows Sendable (invariant.follows fuel) (invariant.replays (invariant.follows fuel))
    invariant.stands invariant.believed own invariant.delivered) kept running called

theorem construct_replays (replays : Replays Start Replayed (sendMessage script fuel)) {config : RepeaterConfig}
    (start : Start { config }) (constructed : construct script fuel config = some after) :
    after.childRunning = true ∧ Replayed after := by
  have started : startChild (sendMessage script fuel) { config } = some after := by
    simpa [construct, ensureRunning, reapChild] using constructed
  exact replays _ after start started

end MediaSends
end WhRepeater
