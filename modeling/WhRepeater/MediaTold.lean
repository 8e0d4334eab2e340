import WhRepeater.MediaLink
import Mathlib.Data.List.Induction

/-! What the media child has been told: the state of it that only the messages
of the parent set, and how the messages it has handled give that state. -/
namespace WhRepeater

open PayloadReader

variable {β : Type}

/-- The payload of a notice, as the child reads it. -/
def readNotice (payload : Bytes) : Option (Option Bytes) :=
  if payload = [] then some none else (readStringPayload payload).map some

/-- A notice is read as it was written, and no notice as none. -/
theorem readNotice_payload (notice : Option Bytes) (short : (notice.elim [] stringPayload).length < 2 ^ 32) :
    readNotice (notice.elim [] stringPayload) = some notice := by
  cases notice with
  | none => rfl
  | some text =>
    simp only [Option.elim_some, stringPayload, appendString, List.length_append] at short
    have written : stringPayload text ≠ [] := by
      intro empty
      simpa [stringPayload, appendString] using congrArg List.length empty
    simp [readNotice, written, readStringPayload_stringPayload text (by omega)]

/-- The payload of a message of the type encodes what the child has there. -/
def Encodes (pipeline : MediaPipeline β) : MediaMessage → Bytes → Prop
  | .select, payload => ∃ readAt, readActive readAt payload = some pipeline.active
  | .beacon, payload => readBoolPayload payload = some pipeline.beaconAllowed
  | .notice, payload => readNotice payload = some pipeline.accessNotice
  | .noticeEndTone, payload => readBoolPayload payload = some pipeline.accessNoticeEndTone
  | .preview, payload => readBoolPayload payload = some pipeline.output.previewEnabled
  | _, _ => True

/-- The last payload among the messages of the type. -/
def lastOf (type : MediaMessage) (messages : List ControlMessage) : Option Bytes :=
  messages.foldl (fun last message => if message.type = type then some message.payload else last) none

/-- The notice and its end tone after one more message: a notice comes without
an end tone, and there is no end tone without a notice. -/
def hear (heard : Option Bytes × Bool) (message : ControlMessage) : Option Bytes × Bool :=
  match message.type with
  | .notice => ((readNotice message.payload).join, false)
  | .noticeEndTone => (heard.1, heard.1.isSome && readBoolPayload message.payload == some true)
  | _ => heard

def heard (messages : List ControlMessage) : Option Bytes × Bool := messages.foldl hear (none, false)

@[simp] theorem lastOf_append (type : MediaMessage) (messages : List ControlMessage) (message : ControlMessage) :
    lastOf type (messages ++ [message]) =
      if message.type = type then some message.payload else lastOf type messages := by
  simp [lastOf]

theorem lastOf_mem {type : MediaMessage} {messages : List ControlMessage} {payload : Bytes}
    (last : lastOf type messages = some payload) : ∃ message ∈ messages, message.payload = payload := by
  induction messages using List.reverseRecOn with
  | nil => cases last
  | append_singleton messages message ih =>
    rw [lastOf_append] at last
    split at last
    · cases last
      exact ⟨message, by simp, rfl⟩
    · obtain ⟨earlier, among, same⟩ := ih last
      exact ⟨earlier, List.mem_append_left _ among, same⟩

@[simp] theorem heard_append (messages : List ControlMessage) (message : ControlMessage) :
    heard (messages ++ [message]) = hear (heard messages) message := by
  simp [heard]

namespace MediaPipeline

/-- What the messages set. -/
def told (pipeline : MediaPipeline β) : Option ActiveInput × Bool × Option Bytes × Bool × Bool :=
  (pipeline.active, pipeline.beaconAllowed, pipeline.accessNotice, pipeline.accessNoticeEndTone,
    pipeline.output.previewEnabled)

variable {pipeline : MediaPipeline β} {now : Time}

@[simp] theorem setTransmit_told (enabled : Bool) : (pipeline.setTransmit enabled).told = pipeline.told := by
  simp [told, setTransmit]

@[simp] theorem enterRetransmit_told : (pipeline.enterRetransmit now).told = pipeline.told := by
  unfold enterRetransmit
  split
  · rfl
  · rw [setTransmit_told]
    rfl

@[simp] theorem enterAnalogue_told : (pipeline.enterAnalogue now).told = pipeline.told := by
  unfold enterAnalogue
  split
  · rfl
  · rw [setTransmit_told]
    rfl

@[simp] theorem enterFallbackVideo_told (path : Bytes) : (pipeline.enterFallbackVideo path).told = pipeline.told := by
  unfold enterFallbackVideo
  split
  · rfl
  · rw [setTransmit_told]
    rfl

@[simp] theorem enterFallback_told (enabled : Bool) : (pipeline.enterFallback enabled).told = pipeline.told := by
  unfold enterFallback
  split
  · rfl
  · rw [setTransmit_told]
    rfl

@[simp] theorem enterIdle_told : pipeline.enterIdle.told = pipeline.told := by
  unfold enterIdle
  split
  · rfl
  · rw [setTransmit_told]
    rfl

@[simp] theorem dropFallbackVideo_told : pipeline.dropFallbackVideo.told = pipeline.told := rfl

@[simp] theorem stopFallbackVideo_told : pipeline.stopFallbackVideo.told = pipeline.told := by
  unfold stopFallbackVideo
  split
  · rfl
  · rw [enterFallback_told, dropFallbackVideo_told]

theorem tickActive_told (input : ActiveInput) : (pipeline.tickActive input now).told = pipeline.told := by
  unfold tickActive
  split <;> split <;> simp

@[simp] theorem tick_told : (pipeline.tick now).told = pipeline.told := by
  unfold tick
  split <;> split
  · exact (tickActive_told _).trans dropFallbackVideo_told
  · exact tickActive_told _
  · rfl
  · split <;> simp

theorem admitLive_told (checkedAt stampedAt : Time) :
    (pipeline.admitLive checkedAt stampedAt).1.told = pipeline.told := by
  unfold admitLive
  split
  · rfl
  · rw [enterRetransmit_told]
    rfl

theorem admitPacket_told (packet : List β) (checkedAt stampedAt : Time) :
    (pipeline.admitPacket packet checkedAt stampedAt).1.told = pipeline.told := by
  unfold admitPacket
  split
  · rfl
  · split
    · exact (admitLive_told checkedAt stampedAt).trans dropFallbackVideo_told
    · exact admitLive_told checkedAt stampedAt

end MediaPipeline

namespace MediaSystem

theorem pass_told (system : MediaSystem β) (seen : Observation) (now : Time) :
    (system.pass seen now).pipeline.told = system.pipeline.told := by
  unfold pass
  split
  · unfold videoPass
    split
    · dsimp only
      split
      · exact MediaPipeline.setTransmit_told _
      · rfl
    · rfl
  · unfold analoguePass
    split
    · dsimp only
      split
      · exact MediaPipeline.setTransmit_told _
      · rfl
    · rfl
  · unfold livePass
    split
    · exact MediaPipeline.setTransmit_told _
    · rfl
  · rfl
  · rfl

/-- The child's own steps do not change what it was told. -/
theorem ownStep_told {before after : MediaSystem UInt8} {event : MediaEvent UInt8} (own : OwnStep event = true)
    (stepped : before.step event = some after) : after.pipeline.told = before.pipeline.told := by
  cases event with
  | call call =>
    obtain ⟨-, rfl⟩ := step_call.mp stepped
    cases call with
    | takeStreamInfoUpdate => rfl
    | takeFallbackVideoStatusUpdate => rfl
    | _ => cases own
  | write packet checkedAt stampedAt => cases own
  | queueInput =>
    obtain ⟨packet, -, rfl⟩ := step_queueInput.mp stepped
    rfl
  | observe =>
    obtain ⟨-, rfl⟩ := step_observe.mp stepped
    rfl
  | pass now =>
    obtain ⟨seen, -, rfl⟩ := step_pass.mp stepped
    exact pass_told before seen now
  | fail =>
    cases stepped
    rfl
  | muxData data =>
    obtain ⟨-, rfl⟩ := step_muxData.mp stepped
    simp [MediaPipeline.told]
  | videoStatus statusJson =>
    obtain ⟨video, -, rfl⟩ := Option.map_eq_some_iff.mp stepped
    unfold MediaPipeline.setFallbackVideoStatus
    dsimp only
    split <;> rfl
  | streamInfo text =>
    obtain ⟨live, -, rfl⟩ := Option.map_eq_some_iff.mp stepped
    unfold MediaPipeline.setSessionStreamInfo
    dsimp only
    split <;> rfl
  | liveFinished =>
    obtain ⟨live, -, rfl⟩ := Option.map_eq_some_iff.mp stepped
    rfl
  | videoFinished =>
    obtain ⟨video, -, rfl⟩ := Option.map_eq_some_iff.mp stepped
    rfl
  | analogueFinished =>
    obtain ⟨analogue, -, rfl⟩ := Option.map_eq_some_iff.mp stepped
    rfl

end MediaSystem

/-! ## The messages give the state -/

/-- The child has what it was last told, and its notice and end tone are those
it has heard. -/
structure Reflects (messages : List ControlMessage) (child : MediaSystem UInt8) : Prop where
  last : ∀ type payload, type ≠ .noticeEndTone → lastOf type messages = some payload →
    Encodes child.pipeline type payload
  notice : (child.pipeline.accessNotice, child.pipeline.accessNoticeEndTone) = heard messages

variable {messages : List ControlMessage} {child next : MediaSystem UInt8} {pipeline other : MediaPipeline β}

theorem encodes_of_told (same : other.told = pipeline.told) (type : MediaMessage) (payload : Bytes) :
    Encodes other type payload ↔ Encodes pipeline type payload := by
  simp only [MediaPipeline.told, Prod.mk.injEq] at same
  obtain ⟨active, beacon, notice, tone, preview⟩ := same
  unfold Encodes
  rw [active, beacon, notice, tone, preview]

theorem reflects_of_told (same : next.pipeline.told = child.pipeline.told) (reflects : Reflects messages child) :
    Reflects messages next := by
  refine ⟨fun type payload other told => ?_, ?_⟩
  · exact (encodes_of_told same type payload).mpr (reflects.last type payload other told)
  · simp only [MediaPipeline.told, Prod.mk.injEq] at same
    rw [same.2.2.1, same.2.2.2.1, reflects.notice]

variable {message : ControlMessage} {now stampedAt : Time}

/-- A message sets what it is about and leaves the rest, the notice and its end
tone apart. -/
theorem reflects_append (reflects : Reflects messages child)
    (set : message.type ≠ .noticeEndTone → Encodes next.pipeline message.type message.payload)
    (left : ∀ type payload, type ≠ message.type → type ≠ .noticeEndTone →
      Encodes child.pipeline type payload → Encodes next.pipeline type payload)
    (notice : (next.pipeline.accessNotice, next.pipeline.accessNoticeEndTone) =
      hear (child.pipeline.accessNotice, child.pipeline.accessNoticeEndTone) message) :
    Reflects (messages ++ [message]) next := by
  refine ⟨fun type payload other told => ?_, ?_⟩
  · rw [lastOf_append] at told
    split at told
    · rename_i same
      cases told
      exact same ▸ set (same ▸ other)
    · rename_i apart
      exact left type payload (Ne.symm apart) other (reflects.last type payload other told)
  · rw [heard_append, notice, reflects.notice]

/-- A message about none of it leaves all of it. -/
theorem reflects_append_of_told (reflects : Reflects messages child)
    (same : next.pipeline.told = child.pipeline.told)
    (silent : ∀ pipeline : MediaPipeline UInt8, Encodes pipeline message.type message.payload)
    (unheard : ∀ heard, hear heard message = heard) : Reflects (messages ++ [message]) next := by
  refine reflects_append reflects (fun _ => silent _) (fun type payload _ _ held => ?_) ?_
  · exact (encodes_of_told same type payload).mpr held
  · simp only [MediaPipeline.told, Prod.mk.injEq] at same
    rw [unheard, same.2.2.1, same.2.2.2.1]

/-- A handled message tells the child what it says. -/
theorem handle_reflects (handled : child.handle message now stampedAt = some next)
    (reflects : Reflects messages child) : Reflects (messages ++ [message]) next := by
  obtain ⟨type, payload⟩ := message
  cases type with
  | select =>
    obtain ⟨call, read, rfl⟩ := MediaSystem.handle_call handled (by simp)
    obtain ⟨input, said, rfl⟩ := Option.map_eq_some_iff.mp read
    refine reflects_append reflects (fun _ => ⟨now, ?_⟩) (fun type payload apart _ held => ?_) ?_
    · rw [said]
      cases input <;> rfl
    · cases type with
      | select => exact absurd rfl apart
      | _ => cases input <;> exact held
    · cases input <;> rfl
  | beacon =>
    obtain ⟨call, read, rfl⟩ := MediaSystem.handle_call handled (by simp)
    obtain ⟨allowed, said, rfl⟩ := Option.map_eq_some_iff.mp read
    refine reflects_append reflects (fun _ => said) (fun type payload apart _ held => ?_) rfl
    cases type with
    | beacon => exact absurd rfl apart
    | _ => exact held
  | preview =>
    obtain ⟨call, read, rfl⟩ := MediaSystem.handle_call handled (by simp)
    obtain ⟨enabled, said, rfl⟩ := Option.map_eq_some_iff.mp read
    refine reflects_append reflects (fun _ => ?_) (fun type payload apart _ held => ?_) rfl
    · simp [Encodes, MediaPipeline.call, MediaPipeline.setPreviewEnabled, said]
    · cases type with
      | preview => exact absurd rfl apart
      | _ => exact held
  | notice =>
    obtain ⟨call, read, rfl⟩ := MediaSystem.handle_call handled (by simp)
    have told : ∃ notice, readNotice payload = some notice ∧ call = .setAccessNotice notice false := by
      simp only [ControlMessage.mediaCall, readNotice] at read ⊢
      split at read
      · rename_i empty
        cases read
        exact ⟨none, if_pos empty, rfl⟩
      · rename_i written
        obtain ⟨text, said, rfl⟩ := Option.map_eq_some_iff.mp read
        exact ⟨some text, by simp [written, said], rfl⟩
    obtain ⟨notice, said, rfl⟩ := told
    refine reflects_append reflects (fun _ => said) (fun type payload apart _ held => ?_) ?_
    · cases type with
      | notice => exact absurd rfl apart
      | noticeEndTone => contradiction
      | _ => exact held
    · simp [hear, said, MediaPipeline.call, MediaPipeline.setAccessNotice]
  | noticeEndTone =>
    obtain ⟨call, read, rfl⟩ := MediaSystem.handle_call handled (by simp)
    obtain ⟨endTone, said, rfl⟩ := Option.map_eq_some_iff.mp read
    refine reflects_append reflects (fun tone => absurd rfl tone) (fun type payload _ other held => ?_) ?_
    · cases type with
      | noticeEndTone => exact absurd rfl other
      | _ => exact held
    · cases endTone <;> simp [hear, said, MediaPipeline.call, MediaPipeline.setAccessNoticeEndTone]
  | shutdown =>
    obtain ⟨call, read, rfl⟩ := MediaSystem.handle_call handled (by simp)
    cases read
  | playFallbackVideo =>
    obtain ⟨call, read, rfl⟩ := MediaSystem.handle_call handled (by simp)
    obtain ⟨path, said, rfl⟩ := Option.map_eq_some_iff.mp read
    exact reflects_append_of_told reflects (MediaPipeline.enterFallbackVideo_told path) (fun _ => trivial) fun _ => rfl
  | stopFallbackVideo =>
    obtain ⟨call, read, rfl⟩ := MediaSystem.handle_call handled (by simp)
    cases read
    exact reflects_append_of_told reflects MediaPipeline.stopFallbackVideo_told (fun _ => trivial) fun _ => rfl
  | seekFallbackVideo =>
    obtain ⟨call, read, rfl⟩ := MediaSystem.handle_call handled (by simp)
    obtain ⟨position, said, rfl⟩ := Option.map_eq_some_iff.mp read
    exact reflects_append_of_told reflects rfl (fun _ => trivial) fun _ => rfl
  | tick =>
    obtain ⟨call, read, rfl⟩ := MediaSystem.handle_call handled (by simp)
    cases read
    exact reflects_append_of_told reflects MediaPipeline.tick_told (fun _ => trivial) fun _ => rfl
  | reconfigurePluto =>
    obtain ⟨call, read, rfl⟩ := MediaSystem.handle_call handled (by simp)
    obtain ⟨enabled, said, rfl⟩ := Option.map_eq_some_iff.mp read
    refine reflects_append_of_told reflects ?_ (fun _ => trivial) fun _ => rfl
    simp [MediaPipeline.told, MediaPipeline.call, MediaPipeline.reconfigurePluto]
  | transportStream =>
    obtain ⟨-, rfl⟩ := MediaSystem.step_write.mp handled
    exact reflects_append_of_told reflects (MediaPipeline.admitPacket_told _ _ _) (fun _ => trivial) fun _ => rfl
  | streamInfo =>
    cases handled
    exact reflects_append_of_told reflects rfl (fun _ => trivial) fun _ => rfl
  | fallbackVideoStatus =>
    cases handled
    exact reflects_append_of_told reflects rfl (fun _ => trivial) fun _ => rfl

/-- The child mirrors its messages. -/
theorem mirrors_reflects : MediaLink.Mirrors Reflects where
  fresh config startedAt := ⟨fun _ _ _ told => (by cases told), rfl⟩
  own _ _ _ _ own stepped reflects := reflects_of_told (MediaSystem.ownStep_told own stepped) reflects
  handled _ _ _ _ _ _ handled reflects := handle_reflects handled reflects

end WhRepeater
