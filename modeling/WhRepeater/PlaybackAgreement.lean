import WhRepeater.MediaLink
import WhRepeater.PlaybackCommand

/-! The parent's idea of a fallback video against its child's. The parent goes
by its own playback path, which only its own calls change; the child also leaves
the video when it ends and when live input arrives, and nothing tells the
parent. They agree as long as the child's leaving is overtaken by a play or a
stop on its way. -/
namespace WhRepeater

namespace PlaybackAgreement
open Runs MediaProcess MediaSends

/-- Whether a video is on after one more message. An empty path is not played. -/
def shows (on : Bool) (message : ControlMessage) : Bool :=
  match message.type with
  | .playFallbackVideo => on || (readStringPayload message.payload).any (fun path => decide (path ≠ []))
  | .stopFallbackVideo => false
  | _ => on

def shown (messages : List ControlMessage) : Bool := messages.foldl shows false

/-- A message after which it no longer matters what was on. -/
def Decisive (message : ControlMessage) : Prop := ∀ one other, shows one message = shows other message

@[simp] theorem shown_append (messages : List ControlMessage) (message : ControlMessage) :
    shown (messages ++ [message]) = shows (shown messages) message := by
  simp [shown]

variable {script : ChildScript} {process other after : MediaProcess} {message : ControlMessage}
variable {send : Send} {path : Option Bytes} {video : Bytes} {fuel : Nat} {call : ProcessCall}

theorem shows_other (neither : message.type ≠ .playFallbackVideo ∧ message.type ≠ .stopFallbackVideo) (on : Bool) :
    shows on message = on := by
  unfold shows
  split
  · exact absurd (by assumption) neither.1
  · exact absurd (by assumption) neither.2
  · rfl

/-! ## The parent -/

/-- The playback path, and the mode it goes with. -/
def Directed (path : Option Bytes) (process : MediaProcess) : Prop :=
  process.fallbackVideoPath = path ∧ (process.mode = .fallbackVideo ↔ path.isSome = true)

/-- The messages taken for the child show what the path says. -/
def Shown (path : Option Bytes) (process : MediaProcess) : Prop :=
  Directed path process ∧ shown process.accepted = path.isSome

/-- A video of the path can be played by a message, and every attempt to send it
is taken. -/
def Playable (script : ChildScript) (path : Option Bytes) : Prop :=
  ∀ video, path = some video →
    video ≠ [] ∧ (⟨.playFallbackVideo, stringPayload video⟩ : ControlMessage).Fits ∧
      ∀ look, (script.attempt look .playFallbackVideo).taken true = true

theorem directed_blind (same : other.standing = process.standing) (directed : Directed path process) :
    Directed path other := by
  simp only [standing, Prod.mk.injEq] at same
  obtain ⟨-, -, -, -, -, video, -, mode, -⟩ := same
  rw [Directed, video, mode]
  exact directed

theorem shown_blind (same : other.standing = process.standing) (shown : Shown path process) : Shown path other := by
  refine ⟨directed_blind same shown.1, ?_⟩
  simp only [standing, Prod.mk.injEq] at same
  rw [same.2.2.2.2.2.2.2.2.2.2.2.2.2.2]
  exact shown.2

theorem directed_stopChild (directed : Directed path process) : Directed path process.stopChild := directed

theorem directed_stands : Stands (Directed path) (Shown path) (Directed path) :=
  ⟨fun _ _ same directed => directed_blind same directed, fun _ directed => directed_stopChild directed,
    fun _ shown => shown.1⟩

theorem shown_stands : Stands (Directed path) (Shown path) (Shown path) :=
  ⟨fun _ _ same shown => shown_blind same shown, fun _ shown => directed_stopChild shown.1, fun _ shown => shown⟩

theorem directed_delivered (directed : Directed path process) : Directed path (process.delivered message) := by
  have video : (process.delivered message).fallbackVideoPath = process.fallbackVideoPath := by
    have same := delivered_wishes process message
    simp only [wishes, Prod.mk.injEq] at same
    exact same.2.2.2.2.2.2.1
  have mode : (process.delivered message).mode = process.mode := by
    unfold delivered remember
    split <;> rfl
  rw [Directed, video, mode]
  exact directed

theorem shown_delivered (neither : message.type ≠ .playFallbackVideo ∧ message.type ≠ .stopFallbackVideo)
    (shown : Shown path process) : Shown path (process.delivered message) := by
  refine ⟨directed_delivered shown.1, ?_⟩
  rw [delivered_accepted, shown_append, shows_other neither]
  exact shown.2

/-- A playable path is shown when its message gets through. -/
theorem play_delivered (named : video ≠ []) (fits : (⟨.playFallbackVideo, stringPayload video⟩ : ControlMessage).Fits)
    (directed : Directed (some video) process) :
    Shown (some video) (process.delivered ⟨.playFallbackVideo, stringPayload video⟩) := by
  refine ⟨directed_delivered directed, ?_⟩
  have short : video.length < 2 ^ 32 := by
    simp only [ControlMessage.Fits, stringPayload, appendString, List.length_append] at fits
    omega
  rw [delivered_accepted, shown_append]
  simp [shows, readStringPayload_stringPayload video short, named]

theorem send_play (playable : Playable script (some video))
    (follows : Follows script (Directed (some video)) (Shown (some video)) send)
    (directed : Directed (some video) process) (running : process.childRunning = true)
    (sent : sendRemembered send process ⟨.playFallbackVideo, stringPayload video⟩ = some after) :
    after.childRunning = true ∧ Shown (some video) after := by
  obtain ⟨named, fits, taken⟩ := playable video rfl
  exact sendRemembered_reaches follows directed_stands (fun _ shown => shown)
    (fun ready directed _ => play_delivered named fits directed)
    (fun ready _ missed => absurd ⟨fits, taken ready.clock⟩ missed) directed running sent

/-- The five messages at the head of a replay are about something else. -/
theorem replayed_neither
    (among : message ∈ [process.selectMessage, process.beaconMessage, process.noticeMessage, process.toneMessage,
      process.previewMessage]) : message.type ≠ .playFallbackVideo ∧ message.type ≠ .stopFallbackVideo := by
  simp only [List.mem_cons, List.not_mem_nil, or_false] at among
  obtain rfl | rfl | rfl | rfl | rfl := among <;>
    simp [selectMessage, beaconMessage, noticeMessage, toneMessage, previewMessage]

theorem replays_of_follows (playable : Playable script path)
    (follows : Follows script (Directed path) (Shown path) send) : Replays (Directed path) (Shown path) send := by
  intro process after directed started
  have forked : Directed path process.forked := directed
  rw [startChild_eq, replayMessages, List.foldlM_append] at started
  obtain ⟨middle, first, last⟩ := Option.bind_eq_some_iff.mp started
  cases path with
  | none =>
    have none : Shown none process.forked := ⟨forked, rfl⟩
    obtain ⟨running, shown⟩ := messages_keep follows shown_stands
      (fun message among ready shown _ => shown_delivered (replayed_neither among) shown) none rfl first
    rw [videoMessages, directed.1] at last
    cases last
    exact ⟨running, shown⟩
  | some video =>
    obtain ⟨running, directed'⟩ := messages_keep follows directed_stands
      (fun message among ready directed _ => directed_delivered directed) forked rfl first
    rw [videoMessages, directed.1] at last
    obtain ⟨playing, second, last⟩ := Option.bind_eq_some_iff.mp last
    obtain ⟨running, shown⟩ := send_play playable follows directed' running second
    refine messages_keep follows shown_stands (fun message among ready shown _ => shown_delivered ?_ shown) shown
      running last
    simp only [Option.mem_toList, Option.map_eq_some_iff] at among
    obtain ⟨position, -, rfl⟩ := among
    simp

theorem agreement_follows (playable : Playable script path) (fuel : Nat) :
    Follows script (Directed path) (Shown path) (sendMessage script fuel) :=
  sendMessage_follows (fun _ follows => replays_of_follows playable follows) fuel

theorem agreement_replays (playable : Playable script path) (fuel : Nat) :
    Replays (Directed path) (Shown path) (sendMessage script fuel) :=
  replays_of_follows playable (agreement_follows playable fuel)

/-- The parent believes in the mode its path says. -/
theorem directed_believed (directed : Directed path process) :
    Directed path { process with mode := process.believedMode } := by
  obtain ⟨rfl, -⟩ := directed
  refine ⟨rfl, ?_⟩
  simp only [believedMode]
  split
  · simp [*]
  · rename_i none
    refine iff_of_false ?_ none
    split
    · decide
    · split <;> decide

/-- A stop that matters gets through. -/
def StopTaken (script : ChildScript) (process : MediaProcess) : ProcessCall → Prop
  | .stopFallbackVideo =>
    process.fallbackVideoPath.isSome = true →
      ∀ look, (script.attempt look .stopFallbackVideo).taken true = true
  | _ => True

theorem stop_delivered (directed : Directed none process) :
    Shown none (process.delivered ⟨.stopFallbackVideo, []⟩) := by
  refine ⟨directed_delivered directed, ?_⟩
  rw [delivered_accepted, shown_append]
  rfl

theorem stop_shown (playable : Playable script none) (stop : StopTaken script process .stopFallbackVideo)
    (shown : Shown process.fallbackVideoPath process) (running : process.childRunning = true)
    (called : process.call script fuel .stopFallbackVideo = some after) :
    after.childRunning = true ∧ Shown none after := by
  have directed : Directed none (assigned process .stopFallbackVideo) := ⟨rfl, by simp [assigned]⟩
  by_cases on : process.fallbackVideoPath.isSome = true
  · have taken := stop on
    exact sendRemembered_reaches (agreement_follows playable fuel) directed_stands (fun _ shown => shown)
      (fun ready directed _ => stop_delivered directed)
      (fun ready _ missed => absurd ⟨by decide, taken ready.clock⟩ missed) directed running called
  · have off : Shown none (assigned process .stopFallbackVideo) := by
      refine ⟨directed, shown.2.trans ?_⟩
      simpa using on
    exact sendRemembered_reaches (agreement_follows playable fuel) shown_stands (fun _ shown => shown)
      (fun ready shown _ => stop_delivered shown.1) (fun ready shown _ => shown_stands.looked shown) off running
      called

/-- A call other than play and stop sends neither on its own account. -/
theorem other_shown (playable : Playable script process.fallbackVideoPath)
    (play : ∀ video, call ≠ .playFallbackVideo video) (stop : call ≠ .stopFallbackVideo)
    (shown : Shown process.fallbackVideoPath process) (running : process.childRunning = true)
    (called : process.call script fuel call = some after) :
    after.childRunning = true ∧ Shown process.fallbackVideoPath after := by
  have same : Shown process.fallbackVideoPath (assigned process call) := by
    cases call with
    | playFallbackVideo video => exact absurd rfl (play video)
    | stopFallbackVideo => exact absurd rfl stop
    | _ => exact shown
  refine call_carries (carries_of_follows
    (fun message => message.type ≠ .playFallbackVideo ∧ message.type ≠ .stopFallbackVideo)
    (agreement_follows playable fuel) (agreement_replays playable fuel) shown_stands
    (fun _ shown => ⟨directed_believed shown.1, shown.2⟩) ?_
    fun _ _ _ shown own _ => shown_delivered own shown) same running called
  intro process message _ own
  cases call with
  | playFallbackVideo video => exact absurd rfl (play video)
  | stopFallbackVideo => exact absurd rfl stop
  | setAccessNotice notice endTone => obtain rfl | rfl := own <;> simp [noticeMessage, toneMessage]
  | tick => obtain type | type := own <;> simp [type]
  | seekFallbackVideo position => simp [show message.type = _ from own]
  | reconfigurePluto transmitEnabled => simp [show message.type = _ from own]
  | write packet => simp [show message.type = _ from own]
  | _ =>
    cases own
    simp [selectMessage, beaconMessage, previewMessage]

/-- A call whose play and stop messages get through leaves the messages showing
what the path says. -/
theorem call_shown (playable : Playable script (assigned process call).fallbackVideoPath)
    (stop : StopTaken script process call) (shown : Shown process.fallbackVideoPath process)
    (running : process.childRunning = true) (called : process.call script fuel call = some after) :
    Shown after.fallbackVideoPath after := by
  have kept : ∃ path, Shown path after := by
    by_cases play : ∃ video, call = .playFallbackVideo video
    · obtain ⟨video, rfl⟩ := play
      have directed : Directed (some video) (assigned process (.playFallbackVideo video)) := ⟨rfl, by simp [assigned]⟩
      exact ⟨_, (send_play playable (agreement_follows playable fuel) directed running called).2⟩
    · by_cases halt : call = .stopFallbackVideo
      · subst halt
        exact ⟨_, (stop_shown playable stop shown running called).2⟩
      · have same : (assigned process call).fallbackVideoPath = process.fallbackVideoPath := by
          cases call with
          | playFallbackVideo video => exact absurd ⟨video, rfl⟩ play
          | stopFallbackVideo => exact absurd rfl halt
          | _ => rfl
        rw [same] at playable
        exact ⟨_, (other_shown playable (fun video is => play ⟨video, is⟩) halt shown running called).2⟩
  obtain ⟨path, ⟨same, mode⟩, messages⟩ := kept
  rw [same]
  exact ⟨⟨same, mode⟩, messages⟩

/-! ## The child -/

variable {child next : MediaSystem UInt8} {event : MediaEvent UInt8} {now stampedAt : Time}

def inVideo (system : MediaSystem UInt8) : Bool := decide (system.pipeline.mode = .fallbackVideo)

theorem inVideo_of_mode (same : next.pipeline.mode = child.pipeline.mode) : inVideo next = inVideo child := by
  rw [inVideo, same, inVideo]

theorem inVideo_false (one : child.pipeline.mode ≠ .fallbackVideo) : inVideo child = false := decide_eq_false one

/-- A pass leaves the video only on the end of a live session or of a video. -/
theorem pass_inVideo (seen : Observation)
    (stays : inVideo child = true →
      ¬ (seen.mode = .retransmit ∧ child.worker.finishedLive = true ∨
        seen.mode = .fallbackVideo ∧ child.worker.finishedVideo = true)) :
    inVideo (child.pass seen now) = inVideo child := by
  unfold MediaSystem.pass
  split
  · rename_i video
    unfold MediaSystem.videoPass
    split
    · rename_i finished
      dsimp only
      split
      · rename_i mode
        exact absurd (.inr ⟨video, finished⟩) (stays (decide_eq_true mode))
      · rfl
    · rfl
  · unfold MediaSystem.analoguePass
    split
    · dsimp only
      split
      · rename_i mode
        have before : inVideo child = false := inVideo_false (by simp [mode])
        rw [before]
        exact inVideo_false (by simp [MediaPipeline.setTransmit])
      · rfl
    · rfl
  · rename_i live
    unfold MediaSystem.livePass
    split
    · rename_i finished
      cases video : inVideo child with
      | true => exact absurd (.inl ⟨live, finished⟩) (stays video)
      | false => exact inVideo_false (by simp [MediaPipeline.setTransmit])
    · rfl
  · rfl
  · rfl

/-- A child's own steps leave the video only so. -/
theorem ownStep_inVideo (own : OwnStep event = true) (stepped : child.step event = some next)
    (stays : inVideo child = true → ¬ PlaybackCommand.Overwrites child event) : inVideo next = inVideo child := by
  cases event with
  | call call =>
    obtain ⟨-, rfl⟩ := MediaSystem.step_call.mp stepped
    cases call with
    | takeStreamInfoUpdate => rfl
    | takeFallbackVideoStatusUpdate => rfl
    | _ => cases own
  | write packet checkedAt stampedAt => cases own
  | queueInput =>
    obtain ⟨packet, -, rfl⟩ := MediaSystem.step_queueInput.mp stepped
    rfl
  | observe =>
    obtain ⟨-, rfl⟩ := MediaSystem.step_observe.mp stepped
    rfl
  | pass now =>
    obtain ⟨seen, observed, rfl⟩ := MediaSystem.step_pass.mp stepped
    exact pass_inVideo seen fun video ends => stays video ⟨seen, observed, ends⟩
  | fail =>
    cases stepped
    rfl
  | muxData data =>
    obtain ⟨-, rfl⟩ := MediaSystem.step_muxData.mp stepped
    rfl
  | videoStatus statusJson =>
    obtain ⟨video, -, rfl⟩ := Option.map_eq_some_iff.mp stepped
    unfold MediaPipeline.setFallbackVideoStatus
    dsimp only
    split <;> rfl
  | streamInfo text =>
    obtain ⟨live, -, rfl⟩ := Option.map_eq_some_iff.mp stepped
    unfold MediaPipeline.setSessionStreamInfo
    split <;> rfl
  | liveFinished =>
    obtain ⟨live, -, rfl⟩ := Option.map_eq_some_iff.mp stepped
    rfl
  | videoFinished =>
    obtain ⟨video, -, rfl⟩ := Option.map_eq_some_iff.mp stepped
    rfl
  | analogueFinished =>
    obtain ⟨analogue, -, rfl⟩ := Option.map_eq_some_iff.mp stepped
    rfl

/-- Live input takes the child out of a video: at a tick, and with a packet that
is not too early. -/
def PreEmpts (child : MediaSystem UInt8) (message : ControlMessage) (now : Time) : Prop :=
  inVideo child = true ∧ child.pipeline.active ≠ none ∧
    (message.type = .tick ∨
      message.type = .transportStream ∧ message.payload ≠ [] ∧ ¬ now < child.pipeline.liveRetryAfter)

theorem tickActive_mode (pipeline : MediaPipeline UInt8) (input : ActiveInput) :
    (pipeline.tickActive input now).mode ≠ .fallbackVideo := by
  unfold MediaPipeline.tickActive
  split <;> split <;> simp

theorem tick_inVideo (stays : inVideo child = true → child.pipeline.active = none) :
    inVideo { child with pipeline := child.pipeline.tick now } = inVideo child := by
  unfold MediaPipeline.tick
  split
  · rename_i input active
    split
    · rename_i mode
      have none := stays (decide_eq_true mode)
      rw [active] at none
      cases none
    · rename_i mode
      rw [inVideo_false mode]
      exact inVideo_false (tickActive_mode _ input)
  · split
    · rfl
    · rename_i mode
      rw [inVideo_false mode]
      split
      · exact inVideo_false (by simp)
      · exact inVideo_false (by simp)

/-- A message that does not pre-empt a video shows what it says. -/
theorem handle_inVideo (handled : child.handle message now stampedAt = some next)
    (stays : ¬ PreEmpts child message now) : inVideo next = shows (inVideo child) message := by
  obtain ⟨type, payload⟩ := message
  cases type with
  | playFallbackVideo =>
    obtain ⟨call, read, rfl⟩ := MediaSystem.handle_call handled (by simp)
    obtain ⟨path, said, rfl⟩ := Option.map_eq_some_iff.mp read
    simp only [inVideo, MediaPipeline.call, MediaPipeline.playFallbackVideo, MediaPipeline.enterFallbackVideo, shows,
      said, Option.any_some]
    by_cases empty : path = []
    · simp [empty]
    · simp [empty, MediaPipeline.setTransmit]
  | stopFallbackVideo =>
    obtain ⟨call, read, rfl⟩ := MediaSystem.handle_call handled (by simp)
    cases read
    simp only [inVideo, MediaPipeline.call, MediaPipeline.stopFallbackVideo, shows]
    split
    · rename_i mode
      exact decide_eq_false mode
    · simp
  | tick =>
    obtain ⟨call, read, rfl⟩ := MediaSystem.handle_call handled (by simp)
    cases read
    refine tick_inVideo fun video => ?_
    by_contra active
    exact stays ⟨video, active, .inl rfl⟩
  | transportStream =>
    obtain ⟨-, rfl⟩ := MediaSystem.step_write.mp handled
    obtain ⟨-, -, admitted, mode⟩ := MediaPipeline.admitPacket_spec child.pipeline payload now stampedAt
    cases passed : (child.pipeline.admitPacket payload now stampedAt).2 with
    | false =>
      rw [passed] at mode
      exact inVideo_of_mode mode
    | true =>
      obtain ⟨written, active, late⟩ := admitted.mp passed
      have off : inVideo child = false := by
        cases video : inVideo child with
        | false => rfl
        | true => exact absurd ⟨video, active, .inr ⟨rfl, written, late⟩⟩ stays
      rw [passed] at mode
      rw [off]
      exact inVideo_false (by simp [mode])
  | select =>
    obtain ⟨call, read, rfl⟩ := MediaSystem.handle_call handled (by simp)
    obtain ⟨input, said, rfl⟩ := Option.map_eq_some_iff.mp read
    cases input <;> rfl
  | streamInfo =>
    cases handled
    rfl
  | fallbackVideoStatus =>
    cases handled
    rfl
  | notice =>
    obtain ⟨call, read, rfl⟩ := MediaSystem.handle_call handled (by simp)
    simp only [ControlMessage.mediaCall] at read
    split at read
    · cases read
      rfl
    · obtain ⟨notice, -, rfl⟩ := Option.map_eq_some_iff.mp read
      rfl
  | shutdown =>
    obtain ⟨call, read, rfl⟩ := MediaSystem.handle_call handled (by simp)
    cases read
  | _ =>
    obtain ⟨call, read, rfl⟩ := MediaSystem.handle_call handled (by simp)
    obtain ⟨value, -, rfl⟩ := Option.map_eq_some_iff.mp read
    rfl

/-! ## The two together -/

variable {link before afterwards : MediaLink} {happened : LinkEvent}

def inFlight (link : MediaLink) : List ControlMessage := link.parent.accepted.drop link.handled

/-- A play or a stop is on its way. -/
def Overtaken (link : MediaLink) : Prop := ∃ message ∈ inFlight link, Decisive message

/-- The child leaves a video by itself: on the end of a live session or of a
video, or for live input. -/
def Leaves (link : MediaLink) : LinkEvent → Prop
  | .child event => inVideo link.child = true ∧ PlaybackCommand.Overwrites link.child event
  | .handle now _ => ∃ message, (inFlight link).head? = some message ∧ PreEmpts link.child message now
  | _ => False

/-- The messages of a call that start and stop a video get through. -/
def Delivers (link : MediaLink) : LinkEvent → Prop
  | .call call script _ _ =>
    Playable script (assigned link.parent call).fallbackVideoPath ∧ StopTaken script link.parent call
  | _ => True

def VideoSafe (link : MediaLink) (event : LinkEvent) : Prop :=
  Delivers link event ∧ (Leaves link event → Overtaken link)

/-- Parent and child have the same idea of playing a video. -/
def Agreement (link : MediaLink) : Prop :=
  (link.parent.mode = .fallbackVideo ↔ link.child.pipeline.mode = .fallbackVideo) ∧
    (link.parent.fallbackVideoPath.isSome = true → link.child.pipeline.mode = .fallbackVideo)

/-- What is asked of each step: once the parent has ticked and no message is in
flight, they agree. -/
def Holds (_ : MediaLink) (_ : LinkEvent) (after : MediaLink) : Prop :=
  after.Quiescent → after.ticked = true → Agreement after

/-- The messages show what the parent's path says, and the child what it has
handled, unless that is overtaken. -/
structure Agreed (link : MediaLink) : Prop where
  attached : link.Attached
  parent : Shown link.parent.fallbackVideoPath link.parent
  child : link.alive = true →
    inVideo link.child = shown (link.parent.accepted.take link.handled) ∨ Overtaken link

/-- A tick or transport packet decides nothing. -/
theorem not_decisive_of_preEmpts (stays : PreEmpts child message now) : ¬ Decisive message := by
  obtain ⟨-, -, type⟩ := stays
  intro decisive
  have same := decisive true false
  have neither : message.type ≠ .playFallbackVideo ∧ message.type ≠ .stopFallbackVideo := by
    obtain type | ⟨type, -⟩ := type <;> simp [type]
  rw [shows_other neither, shows_other neither] at same
  cases same

theorem called_agreed {parent : MediaProcess} {startedAt : Time} (agreed : Agreed before)
    (extended : MediaLink.Extends before.parent parent) (alive : (before.called call parent startedAt).alive = true) :
    inVideo (before.called call parent startedAt).child =
        shown ((before.called call parent startedAt).parent.accepted.take
          (before.called call parent startedAt).handled) ∨
      Overtaken (before.called call parent startedAt) := by
  unfold MediaLink.called at alive ⊢
  split
  · rename_i same
    rw [if_pos same] at alive
    obtain ⟨more, grown⟩ := extended.2 same
    obtain ⟨message, among, decisive⟩ | shows := (agreed.child alive).symm
    · refine .inr ⟨message, ?_, decisive⟩
      rw [inFlight, ← grown, List.drop_append_of_le_length agreed.attached.2]
      exact List.mem_append_left _ among
    · refine .inl ?_
      rw [← grown, List.take_append_of_le_length agreed.attached.2]
      exact shows
  · exact .inl rfl

/-- Handling a message leaves the child showing what it has handled, or what
overtakes it in flight. -/
theorem received_agreed {now stampedAt : Time} (agreed : Agreed before)
    (alive : before.alive = true) (next : before.parent.accepted[before.handled]? = some message)
    (safe : PreEmpts before.child message now → Overtaken before)
    (handled : before.child.handle message now stampedAt = some child) :
    inVideo child = shown (before.parent.accepted.take (before.handled + 1)) ∨
      ∃ message ∈ before.parent.accepted.drop (before.handled + 1), Decisive message := by
  have split : inFlight before = message :: before.parent.accepted.drop (before.handled + 1) := by
    obtain ⟨there, rfl⟩ := List.getElem?_eq_some_iff.mp next
    exact List.drop_eq_getElem_cons there
  rw [List.take_add_one, next, Option.toList_some, shown_append]
  by_cases preEmpts : PreEmpts before.child message now
  · obtain ⟨overtaking, among, decisive⟩ := safe preEmpts
    rw [split, List.mem_cons] at among
    obtain rfl | later := among
    · exact absurd decisive (not_decisive_of_preEmpts preEmpts)
    · exact .inr ⟨overtaking, later, decisive⟩
  · rw [handle_inVideo handled preEmpts]
    obtain same | ⟨overtaking, among, decisive⟩ := agreed.child alive
    · exact .inl (congrArg (shows · message) same)
    · rw [split, List.mem_cons] at among
      obtain rfl | later := among
      · exact .inl (decisive _ _)
      · exact .inr ⟨overtaking, later, decisive⟩

theorem step_agreed (agreed : Agreed before) (safe : VideoSafe before happened)
    (stepped : before.step happened = some afterwards) : Agreed afterwards := by
  have attached := MediaLink.step_attached agreed.attached stepped
  obtain ⟨delivers, leaves⟩ := safe
  cases happened with
  | call call script fuel startedAt =>
    obtain ⟨parent, returned, rfl⟩ := MediaLink.step_call.mp stepped
    have kept := call_shown delivers.1 delivers.2 agreed.parent agreed.attached.1 returned
    have extended := (MediaLink.call_extends agreed.attached.1 returned).2
    refine ⟨attached, ?_, called_agreed agreed extended⟩
    unfold MediaLink.called
    split <;> exact kept
  | handle now stampedAt =>
    obtain ⟨⟨alive, -⟩, message, next, rfl⟩ := MediaLink.step_handle.mp stepped
    have head : (inFlight before).head? = some message := by rw [inFlight, List.head?_drop, next]
    refine ⟨attached, ?_, ?_⟩
    · unfold MediaLink.received
      split <;> exact agreed.parent
    · unfold MediaLink.received
      split
      · rename_i child handled
        exact fun _ => received_agreed agreed alive next (fun preEmpts => leaves ⟨message, head, preEmpts⟩) handled
      · exact fun dead => absurd dead (by simp)
  | child event =>
    obtain ⟨⟨alive, own⟩, child, moved, rfl⟩ := MediaLink.step_child.mp stepped
    refine ⟨attached, agreed.parent, fun _ => ?_⟩
    by_cases left : Leaves before (.child event)
    · exact .inr (leaves left)
    · have same := ownStep_inVideo own moved fun video overwrites => left ⟨video, overwrites⟩
      exact (agreed.child alive).imp_left fun shows => same.trans shows
  | exit =>
    cases stepped
    exact ⟨attached, agreed.parent, fun dead => absurd dead (by simp)⟩

theorem agreement_of_agreed (agreed : Agreed link) (quiescent : link.Quiescent) : Agreement link := by
  obtain ⟨alive, all, -⟩ := quiescent
  obtain ⟨⟨-, mode⟩, messages⟩ := agreed.parent
  have same : inVideo link.child = link.parent.fallbackVideoPath.isSome := by
    obtain shows | ⟨message, among, -⟩ := agreed.child alive
    · rw [shows, all, List.take_length, messages]
    · rw [inFlight, all, List.drop_length] at among
      cases among
  have video : link.child.pipeline.mode = .fallbackVideo ↔ link.parent.fallbackVideoPath.isSome = true := by
    rw [← same, inVideo, decide_eq_true_eq]
  exact ⟨mode.trans video.symm, video.mpr⟩

theorem start_agreed {config : RepeaterConfig} {startedAt : Time}
    (started : MediaLink.start config script fuel startedAt = some link) : Agreed link := by
  have attached := MediaLink.start_attached started
  obtain ⟨parent, constructed, rfl⟩ := Option.map_eq_some_iff.mp started
  have playable : Playable script none := fun video none => by cases none
  have directed : Directed none ({ config } : MediaProcess) := ⟨rfl, by simp⟩
  obtain ⟨-, kept⟩ := construct_replays (agreement_replays playable fuel) directed constructed
  refine ⟨attached, ?_, fun _ => .inl rfl⟩
  obtain ⟨⟨same, mode⟩, messages⟩ := kept
  rw [same]
  exact ⟨⟨same, mode⟩, messages⟩

/-- From the constructor on, in every run in which plays and stops get through
and the child leaves a video only when a play or a stop is on its way, parent
and child agree whenever the parent has ticked and no message is in flight. -/
theorem playback_agrees_while_safe (config : RepeaterConfig) (script : ChildScript) (fuel : Nat) (startedAt : Time)
    (link : MediaLink) (started : MediaLink.start config script fuel startedAt = some link)
    (events : List LinkEvent) (safe : Guarded MediaLink.step VideoSafe link events) :
    Throughout MediaLink.step Holds link events := by
  refine throughout_of_guarded Agreed ?_ (start_agreed started) safe
  intro before event after agreed safe stepped
  have kept := step_agreed agreed safe stepped
  exact ⟨kept, fun quiescent _ => agreement_of_agreed kept quiescent⟩

/-- A video is asked for, its message is handled, and the child exits. -/
theorem played_video_agrees :
    ∃ link, MediaLink.start {} .steady 2 0 = some link ∧
      Throughout MediaLink.step Holds link
        [.call (.playFallbackVideo (bytes "/v.mp4")) .steady 1 0, .handle 0 0, .exit] := by
  have ran : ((MediaLink.start {} .steady 2 0).bind fun link =>
      link.step (.call (.playFallbackVideo (bytes "/v.mp4")) .steady 1 0)).any
        (fun next => decide (inVideo next.child = false)) = true := by
    decide +kernel
  obtain ⟨played, ran, off⟩ := (Option.any_eq_true _ _).mp ran
  obtain ⟨link, started, called⟩ := Option.bind_eq_some_iff.mp ran
  have playable : Playable .steady (some (bytes "/v.mp4")) := by
    rintro video ⟨⟩
    exact ⟨by decide, by decide, fun _ => rfl⟩
  refine ⟨link, started, playback_agrees_while_safe {} .steady 2 0 link started _ fun next stepped => ?_⟩
  obtain rfl := Option.some.inj (called.symm.trans stepped)
  refine ⟨⟨⟨playable, trivial⟩, False.elim⟩, fun _ _ => ⟨⟨trivial, ?_⟩, fun _ _ => ⟨⟨trivial, False.elim⟩, trivial⟩⟩⟩
  rintro ⟨message, -, on, -⟩
  exact absurd (on.symm.trans (of_decide_eq_true off)) (by decide)

/-- What the child reports while it has no status of a video. -/
def reporting : ChildScript := { ChildScript.steady with reports := fun _ => [.fallbackVideoStatus (bytes "null")] }

/-- A video is asked for, plays and ends, and the parent ticks with what the
child reports. The first five messages are the constructor's replay. -/
def finishedVideo : List LinkEvent :=
  List.replicate 5 (.handle 0 0) ++
    [.call (.playFallbackVideo (bytes "/v.mp4")) .steady 1 0, .handle 0 0,
      .child (.call .takeFallbackVideoStatusUpdate), .child .observe, .child .videoFinished, .child (.pass 1),
      .call .tick reporting 1 0, .handle 2 2]

/-- The child has left the video, and the parent stays in it with a path to
replay. -/
theorem finished_video_parts_them :
    ∃ link last, MediaLink.start {} .steady 2 0 = some link ∧
      run MediaLink.step link finishedVideo = some last ∧
      last.Quiescent ∧ last.ticked = true ∧ ¬ Agreement last := by
  have ran : ((MediaLink.start {} .steady 2 0).bind fun link => run MediaLink.step link finishedVideo).any
      (fun last => decide (last.Quiescent ∧ last.ticked = true ∧ last.parent.mode = .fallbackVideo ∧
        last.child.pipeline.mode = .fallback)) = true := by
    decide +kernel
  obtain ⟨last, ran, done⟩ := (Option.any_eq_true _ _).mp ran
  obtain ⟨link, started, ran⟩ := Option.bind_eq_some_iff.mp ran
  obtain ⟨quiescent, ticked, parent, child⟩ := of_decide_eq_true done
  refine ⟨link, last, started, ran, quiescent, ticked, fun agreement => ?_⟩
  have mode := agreement.1.mp parent
  rw [child] at mode
  cases mode

end PlaybackAgreement
end WhRepeater
