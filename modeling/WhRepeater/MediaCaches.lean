import WhRepeater.MediaTold

/-! The caches with which the media parent suppresses messages. Four of them
are always the last message the running child was sent. The end tone's is not
reset with the child and not touched by a notice, which silences the tone: it
stays true of the child only when the tone's own messages get through. -/
namespace WhRepeater

namespace MediaCaches
open MediaProcess MediaSends

/-- The caches a new child resets. -/
def resetCaches : List MediaMessage := [.select, .beacon, .notice, .preview]

/-- What holds of the caches whatever becomes of the messages. -/
structure Faithful (process : MediaProcess) : Prop where
  last : ∀ type ∈ resetCaches, process.cached type = lastOf type process.accepted
  audible : (heard process.accepted).2 = true → process.lastNoticeEndTonePayload = some (boolPayload true)
  tone : ∀ payload, process.lastNoticeEndTonePayload = some payload → ∃ value, payload = boolPayload value
  wish : process.accessNoticeEndTone = true → process.accessNotice.isSome = true
  fits : ∀ message ∈ process.accepted, message.Fits

/-- A tone message carries a flag. -/
def FlagTone (message : ControlMessage) : Prop :=
  message.type = .noticeEndTone → ∃ value, message.payload = boolPayload value

variable {script : ChildScript} {process other after : MediaProcess} {message : ControlMessage} {essential : Bool}
variable {fuel : Nat} {call : ProcessCall} {send : Send}

theorem boolPayload_inj {one other : Bool} : boolPayload one = boolPayload other ↔ one = other := by
  cases one <;> cases other <;> decide

/-- A fresh child has no end tone, and one that sounds has a notice. -/
theorem heard_notice_of_tone (messages : List ControlMessage) (sounds : (heard messages).2 = true) :
    (heard messages).1.isSome = true := by
  induction messages using List.reverseRecOn with
  | nil => cases sounds
  | append_singleton messages message ih =>
    simp only [heard_append, hear] at sounds ⊢
    split at sounds
    · cases sounds
    · simp only [Bool.and_eq_true] at sounds
      exact sounds.1
    · rename_i other _
      exact ih sounds

/-- The notice heard is the last one sent. -/
theorem heard_notice (messages : List ControlMessage) {payload : Bytes}
    (last : lastOf .notice messages = some payload) : (heard messages).1 = (readNotice payload).join := by
  induction messages using List.reverseRecOn with
  | nil => cases last
  | append_singleton messages message ih =>
    rw [lastOf_append] at last
    rw [heard_append]
    unfold hear
    split at last
    · rename_i notice
      cases last
      simp [notice]
    · rename_i other
      split
      · contradiction
      · exact ih last
      · exact ih last

theorem cached_remember {type : MediaMessage} (reset : type ∈ resetCaches) :
    (process.remember message).cached type =
      if message.type = type then some message.payload else process.cached type := by
  obtain ⟨kind, payload⟩ := message
  simp only [resetCaches, List.mem_cons, List.not_mem_nil, or_false] at reset
  obtain rfl | rfl | rfl | rfl := reset <;> cases kind <;> rfl

theorem tone_remember : (process.remember message).lastNoticeEndTonePayload =
    if message.type = .noticeEndTone then some message.payload else process.lastNoticeEndTonePayload := by
  obtain ⟨kind, payload⟩ := message
  cases kind <;> rfl

theorem cached_looked (type : MediaMessage) (accepted : List ControlMessage) :
    ({ process.looked with accepted := accepted } : MediaProcess).cached type = process.cached type := by
  cases type <;> rfl

@[simp] theorem delivered_tone : (process.delivered message).lastNoticeEndTonePayload =
    if message.type = .noticeEndTone then some message.payload else process.lastNoticeEndTonePayload :=
  tone_remember

theorem delivered_notice : (process.delivered message).accessNotice = process.accessNotice ∧
    (process.delivered message).accessNoticeEndTone = process.accessNoticeEndTone := by
  have same := delivered_wishes process message
  simp only [wishes, Prod.mk.injEq] at same
  exact ⟨same.2.2.2.2.1, same.2.2.2.2.2.1⟩

theorem faithful_delivered (faithful : Faithful process) (flag : FlagTone message) (fits : message.Fits) :
    Faithful (process.delivered message) := by
  refine ⟨?_, ?_, ?_, ?_, ?_⟩
  · intro type reset
    rw [delivered, cached_remember reset, cached_looked, faithful.last type reset, ← delivered,
      delivered_accepted, lastOf_append]
  · intro sounds
    rw [delivered_accepted, heard_append] at sounds
    rw [delivered_tone]
    unfold hear at sounds
    split at sounds
    · cases sounds
    · rename_i tone
      obtain ⟨value, payload⟩ := flag tone
      simp only [payload, readBoolPayload_boolPayload, Bool.and_eq_true, beq_iff_eq, Option.some.injEq] at sounds
      rw [if_pos tone, payload, sounds.2]
    · rename_i other
      rw [if_neg other]
      exact faithful.audible sounds
  · intro payload cached
    rw [delivered_tone] at cached
    split at cached
    · rename_i tone
      cases cached
      exact flag tone
    · exact faithful.tone payload cached
  · rw [delivered_notice.1, delivered_notice.2]
    exact faithful.wish
  · intro other among
    rw [delivered_accepted, List.mem_append, List.mem_singleton] at among
    obtain earlier | rfl := among
    · exact faithful.fits other earlier
    · exact fits

theorem faithful_blind (same : other.standing = process.standing) (faithful : Faithful process) :
    Faithful other := by
  simp only [standing, Prod.mk.injEq] at same
  obtain ⟨-, -, -, notice, endTone, -, -, -, select, beacon, lastNotice, tone, preview, -, accepted⟩ := same
  refine ⟨?_, ?_, ?_, ?_, ?_⟩
  · intro type reset
    have caches : other.cached type = process.cached type := by
      unfold cached
      rw [select, beacon, lastNotice, tone, preview]
    rw [caches, accepted]
    exact faithful.last type reset
  · rw [accepted, tone]
    exact faithful.audible
  · rw [tone]
    exact faithful.tone
  · rw [notice, endTone]
    exact faithful.wish
  · rw [accepted]
    exact faithful.fits

theorem faithful_believed (faithful : Faithful process) :
    Faithful { process with mode := process.believedMode } :=
  ⟨faithful.last, faithful.audible, faithful.tone, faithful.wish, faithful.fits⟩

theorem faithful_forked (faithful : Faithful process) : Faithful process.forked := by
  refine ⟨fun type reset => ?_, fun sounds => ?_, faithful.tone, faithful.wish, fun message among => ?_⟩
  · simp only [resetCaches, List.mem_cons, List.not_mem_nil, or_false] at reset
    obtain rfl | rfl | rfl | rfl := reset <;> rfl
  · cases sounds
  · cases among

/-- The assignments of a call leave the caches, and no notice leaves no end tone. -/
theorem faithful_assigned (faithful : Faithful process) (call : ProcessCall) : Faithful (assigned process call) := by
  cases call with
  | setAccessNotice notice endTone =>
    refine ⟨faithful.last, faithful.audible, faithful.tone, ?_, faithful.fits⟩
    intro wished
    simp only [assigned, noticed, Bool.and_eq_true] at wished
    exact wished.1
  | _ => exact ⟨faithful.last, faithful.audible, faithful.tone, faithful.wish, faithful.fits⟩

theorem faithful_start (config : RepeaterConfig) : Faithful { config } := by
  refine ⟨fun type reset => ?_, fun sounds => ?_, ?_, ?_, fun message among => ?_⟩
  · simp only [resetCaches, List.mem_cons, List.not_mem_nil, or_false] at reset
    obtain rfl | rfl | rfl | rfl := reset <;> rfl
  · cases sounds
  · rintro payload ⟨⟩
  · rintro ⟨⟩
  · cases among

/-! ## While no end tone gets through -/

/-- Every attempt to send an end tone is taken. -/
def ToneTaken (script : ChildScript) : Prop := ∀ look, (script.attempt look .noticeEndTone).taken true = true

def ToneLost (script : ChildScript) : Prop := ∀ look, (script.attempt look .noticeEndTone).taken true = false

/-- The notice fits, and every attempt to send it is taken. -/
def NoticeTaken (script : ChildScript) (notice : Option Bytes) : Prop :=
  (⟨.notice, notice.elim [] stringPayload⟩ : ControlMessage).Fits ∧
    ∀ look, (script.attempt look .notice).taken true = true

/-- The end tone is not cached as on, and none that is on will be. -/
def Quiet (script : ChildScript) (process : MediaProcess) : Prop :=
  process.lastNoticeEndTonePayload ≠ some (boolPayload true) ∧
    (process.accessNoticeEndTone = false ∨ ToneLost script)

/-- A cached end tone sounds. -/
def Audible (process : MediaProcess) : Prop :=
  process.lastNoticeEndTonePayload = some (boolPayload true) → (heard process.accepted).2 = true

/-- Nothing but the wish is sent as the end tone. -/
def WishedTone (endTone : Bool) (message : ControlMessage) : Prop :=
  message.type = .noticeEndTone → message.payload = boolPayload endTone

def Silent (script : ChildScript) (endTone : Bool) (process : MediaProcess) : Prop :=
  Faithful process ∧ Quiet script process ∧ process.accessNoticeEndTone = endTone

theorem wishedTone_replayed (among : message ∈ process.replayMessages) :
    WishedTone process.accessNoticeEndTone message := by
  intro tone
  simp only [replayMessages, List.cons_append, List.nil_append, List.mem_cons, mem_videoMessages] at among
  obtain rfl | rfl | rfl | rfl | rfl | ⟨path, -, rfl | ⟨position, -, rfl⟩⟩ := among
  · cases tone
  · cases tone
  · cases tone
  · rfl
  · cases tone
  · cases tone
  · cases tone

theorem wishedTone_own (own : OwnMessage process message call) :
    WishedTone process.accessNoticeEndTone message := by
  intro tone
  cases call with
  | setAccessNotice notice endTone =>
    obtain rfl | rfl := own
    · cases tone
    · rfl
  | tick => obtain other | other := own <;> rw [other] at tone <;> cases tone
  | seekFallbackVideo position => exact absurd (own.symm.trans tone) (by decide)
  | reconfigurePluto transmitEnabled => exact absurd (own.symm.trans tone) (by decide)
  | write packet => exact absurd (own.symm.trans tone) (by decide)
  | _ =>
    cases own
    cases tone

theorem silent_invariant (script : ChildScript) (endTone : Bool) :
    Invariant script (WishedTone endTone) (Silent script endTone) := by
  refine ⟨?_, ?_, ?_, ?_, ?_⟩
  · rintro process other same ⟨faithful, quiet, wish⟩
    refine ⟨faithful_blind same faithful, ?_⟩
    simp only [standing, Prod.mk.injEq] at same
    obtain ⟨-, -, -, -, endTone, -, -, -, -, -, -, tone, -⟩ := same
    rw [Quiet, tone, endTone]
    exact ⟨quiet, wish⟩
  · rintro process ⟨faithful, quiet⟩
    exact ⟨faithful_believed faithful, quiet⟩
  · rintro process ⟨faithful, quiet⟩
    exact ⟨faithful_forked faithful, quiet⟩
  · rintro process message ⟨-, -, rfl⟩ among
    exact wishedTone_replayed among
  · rintro process message essential ⟨faithful, ⟨off, lost⟩, rfl⟩ wished ⟨fits, taken⟩
    refine ⟨faithful_delivered faithful (fun tone => ⟨_, wished tone⟩) fits, ⟨?_, ?_⟩, delivered_notice.2⟩
    · rw [delivered_tone]
      split
      · rename_i tone
        rw [wished tone, ne_eq, Option.some.injEq, boolPayload_inj]
        have through := SendAttempt.taken_essential taken
        rw [tone] at through
        obtain off | lost := lost
        · simp [off]
        · exact absurd ((lost _).symm.trans through) (by decide)
      · exact off
    · rw [delivered_notice.2]
      exact lost

/-! ## While every end tone gets through -/

/-- What a call asks for while it lasts. -/
def Wishing (notice : Option Bytes) (endTone : Bool) (process : MediaProcess) : Prop :=
  Faithful process ∧ process.accessNotice = notice ∧ process.accessNoticeEndTone = endTone

/-- The child has a notice for the end tone that is to sound. -/
def Noticed (notice : Option Bytes) (endTone : Bool) (process : MediaProcess) : Prop :=
  Wishing notice endTone process ∧ (endTone = true → (heard process.accepted).1.isSome = true)

/-- The end tone is as it is to be. -/
def Tuned (notice : Option Bytes) (endTone : Bool) (process : MediaProcess) : Prop :=
  Wishing notice endTone process ∧ process.lastNoticeEndTonePayload = some (boolPayload endTone) ∧
    (endTone = true → (heard process.accepted).2 = true)

variable {notice : Option Bytes} {endTone : Bool}

theorem noticed_of_tuned (tuned : Tuned notice endTone process) : Noticed notice endTone process :=
  ⟨tuned.1, fun on => heard_notice_of_tone _ (tuned.2.2 on)⟩

theorem wishing_blind (same : other.standing = process.standing) (wishing : Wishing notice endTone process) :
    Wishing notice endTone other := by
  obtain ⟨faithful, wish⟩ := wishing
  refine ⟨faithful_blind same faithful, ?_⟩
  simp only [standing, Prod.mk.injEq] at same
  rw [same.2.2.2.1, same.2.2.2.2.1]
  exact wish

theorem wishing_stopChild (wishing : Wishing notice endTone process) :
    Wishing notice endTone process.stopChild := by
  have same : process.stopChild.standing = process.standing := rfl
  exact wishing_blind same wishing

theorem wishing_delivered (flag : FlagTone message) (fits : message.Fits)
    (wishing : Wishing notice endTone process) : Wishing notice endTone (process.delivered message) :=
  ⟨faithful_delivered wishing.1 flag fits, delivered_notice.1.trans wishing.2.1, delivered_notice.2.trans wishing.2.2⟩

theorem accepted_of_standing (same : other.standing = process.standing) :
    other.accepted = process.accepted ∧ other.lastNoticeEndTonePayload = process.lastNoticeEndTonePayload := by
  simp only [standing, Prod.mk.injEq] at same
  obtain ⟨-, -, -, -, -, -, -, -, -, -, -, tone, -, -, accepted⟩ := same
  exact ⟨accepted, tone⟩

theorem wishing_stands : Stands (Wishing notice endTone) (Tuned notice endTone) (Wishing notice endTone) :=
  ⟨fun _ _ same wishing => wishing_blind same wishing, fun _ wishing => wishing_stopChild wishing,
    fun _ tuned => tuned.1⟩

theorem noticed_stands : Stands (Wishing notice endTone) (Tuned notice endTone) (Noticed notice endTone) := by
  refine ⟨?_, fun _ noticed => wishing_stopChild noticed.1, fun _ tuned => noticed_of_tuned tuned⟩
  rintro process other same ⟨wishing, noticed⟩
  refine ⟨wishing_blind same wishing, ?_⟩
  rw [(accepted_of_standing same).1]
  exact noticed

theorem tuned_stands : Stands (Wishing notice endTone) (Tuned notice endTone) (Tuned notice endTone) := by
  refine ⟨?_, fun _ tuned => wishing_stopChild tuned.1, fun _ tuned => tuned⟩
  rintro process other same ⟨wishing, tuned⟩
  refine ⟨wishing_blind same wishing, ?_⟩
  rw [(accepted_of_standing same).1, (accepted_of_standing same).2]
  exact tuned

/-- A message about neither leaves the notice and the tone. -/
theorem tuned_delivered (other : message.type ≠ .notice ∧ message.type ≠ .noticeEndTone) (fits : message.Fits)
    (tuned : Tuned notice endTone process) : Tuned notice endTone (process.delivered message) := by
  obtain ⟨wishing, cached, sounds⟩ := tuned
  refine ⟨wishing_delivered (fun tone => absurd tone other.2) fits wishing, ?_, fun on => ?_⟩
  · rw [delivered_tone, if_neg other.2]
    exact cached
  · rw [delivered_accepted, heard_append]
    unfold hear
    split
    · exact absurd (by assumption) other.1
    · exact absurd (by assumption) other.2
    · exact sounds on

/-- The tone's own message tunes a child that has its notice. -/
theorem noticed_delivered_tone (noticed : Noticed notice endTone process) :
    Tuned notice endTone (process.delivered process.toneMessage) := by
  obtain ⟨wishing, noticed⟩ := noticed
  have payload : process.toneMessage.payload = boolPayload endTone := congrArg boolPayload wishing.2.2
  refine ⟨wishing_delivered (fun _ => ⟨_, rfl⟩) ?_ wishing, ?_, fun on => ?_⟩
  · unfold ControlMessage.Fits
    simp [toneMessage, boolPayload, appendBool]
  · have tone : process.toneMessage.type = .noticeEndTone := rfl
    rw [delivered_tone, if_pos tone, payload]
  · rw [delivered_accepted, heard_append]
    have known := noticed on
    simp [hear, toneMessage, wishing.2.2, on, known]

/-- A notice that fits is heard as it was asked for. -/
theorem wishing_delivered_notice (wishing : Wishing notice endTone process) (fits : process.noticeMessage.Fits) :
    Noticed notice endTone (process.delivered process.noticeMessage) := by
  obtain ⟨faithful, rfl, rfl⟩ := wishing
  refine ⟨wishing_delivered (fun tone => by cases tone) fits ⟨faithful, rfl, rfl⟩, fun on => ?_⟩
  have read := readNotice_payload process.accessNotice (Nat.lt_of_le_of_lt fits (by decide))
  rw [delivered_accepted, heard_append]
  simp only [hear, noticeMessage, read, Option.join_some]
  exact faithful.wish on

/-- Every end tone gets through, and to a child with a notice if it is to sound. -/
structure Loud (script : ChildScript) (notice : Option Bytes) (endTone : Bool) : Prop where
  tone : ToneTaken script
  notice : endTone = true → NoticeTaken script notice

theorem wishing_messages (one : Wishing notice endTone process) (two : Wishing notice endTone other) :
    process.noticeMessage = other.noticeMessage ∧ process.toneMessage = other.toneMessage := by
  simp only [noticeMessage, toneMessage, one.2.1, one.2.2, two.2.1, two.2.2, and_self]

theorem tone_through (loud : Loud script notice endTone) (process : MediaProcess) :
    GetsThrough script process process.toneMessage true := by
  refine ⟨?_, loud.tone process.clock⟩
  unfold ControlMessage.Fits
  simp [toneMessage, boolPayload, appendBool]

theorem notice_through (loud : Loud script notice endTone) (wishing : Wishing notice endTone process)
    (on : endTone = true) : GetsThrough script process process.noticeMessage true := by
  obtain ⟨fits, taken⟩ := loud.notice on
  refine ⟨?_, taken process.clock⟩
  rw [noticeMessage, wishing.2.1]
  exact fits

section Loud
variable (loud : Loud script notice endTone)
  (follows : Follows script (Wishing notice endTone) (Tuned notice endTone) send)
include loud follows

/-- The notice message of a replay leaves the child with its notice. -/
theorem send_notice (wishing : Wishing notice endTone process) (running : process.childRunning = true)
    (same : Wishing notice endTone other) (sent : sendRemembered send process other.noticeMessage = some after) :
    after.childRunning = true ∧ Noticed notice endTone after := by
  refine sendRemembered_reaches follows wishing_stands (fun _ tuned => noticed_of_tuned tuned) ?_ ?_ wishing
    running sent
  · intro ready stage passed
    have message := (wishing_messages same stage).1
    rw [message] at passed ⊢
    exact wishing_delivered_notice stage passed.1
  · intro ready stage missed
    refine ⟨wishing_stands.looked stage, fun on => absurd ?_ missed⟩
    rw [(wishing_messages same stage).1]
    exact notice_through loud stage on

/-- The tone message leaves a child that has its notice tuned. -/
theorem send_tone (noticed : Noticed notice endTone process) (running : process.childRunning = true)
    (same : Wishing notice endTone other) (sent : sendRemembered send process other.toneMessage = some after) :
    after.childRunning = true ∧ Tuned notice endTone after := by
  refine sendRemembered_reaches follows noticed_stands (fun _ tuned => tuned) ?_ ?_ noticed running sent
  · intro ready stage _
    rw [(wishing_messages same stage.1).2]
    exact noticed_delivered_tone stage
  · intro ready stage missed
    rw [(wishing_messages same stage.1).2] at missed
    exact absurd (tone_through loud ready) missed

theorem loud_replays_of_follows : Replays (Wishing notice endTone) (Tuned notice endTone) send := by
  intro process after wishing started
  have forked : Wishing notice endTone process.forked := ⟨faithful_forked wishing.1, wishing.2⟩
  rw [startChild_eq, show process.replayMessages = [process.selectMessage, process.beaconMessage] ++
    process.noticeMessage :: process.toneMessage :: process.previewMessage :: process.videoMessages from rfl,
    List.foldlM_append] at started
  obtain ⟨begun, first, started⟩ := Option.bind_eq_some_iff.mp started
  obtain ⟨noticed, second, started⟩ := Option.bind_eq_some_iff.mp started
  obtain ⟨tuned, third, last⟩ := Option.bind_eq_some_iff.mp started
  obtain ⟨running, stage⟩ := messages_keep follows wishing_stands (fun message among ready stage passed =>
    wishing_delivered (fun tone => absurd tone (by
      simp only [List.mem_cons, List.not_mem_nil, or_false] at among
      obtain rfl | rfl := among <;> simp [selectMessage, beaconMessage])) passed.1 stage) forked rfl first
  obtain ⟨running, stage⟩ := send_notice loud follows stage running wishing second
  obtain ⟨running, stage⟩ := send_tone loud follows stage running wishing third
  refine messages_keep follows tuned_stands (fun message among ready stage passed => ?_) stage running last
  refine tuned_delivered ?_ passed.1 stage
  simp only [List.mem_cons, mem_videoMessages] at among
  obtain rfl | ⟨path, -, rfl | ⟨position, -, rfl⟩⟩ := among <;> simp [previewMessage]

end Loud

theorem loud_follows (loud : Loud script notice endTone) (fuel : Nat) :
    Follows script (Wishing notice endTone) (Tuned notice endTone) (sendMessage script fuel) :=
  sendMessage_follows (fun _ follows => loud_replays_of_follows loud follows) fuel

theorem loud_replays (loud : Loud script notice endTone) (fuel : Nat) :
    Replays (Wishing notice endTone) (Tuned notice endTone) (sendMessage script fuel) :=
  loud_replays_of_follows loud (loud_follows loud fuel)

/-! ## Calls -/

/-- What the calls start from and lead to. -/
def Settled (notice : Option Bytes) (endTone : Bool) (process : MediaProcess) : Prop :=
  Wishing notice endTone process ∧ Audible process

theorem settled_of_tuned (tuned : Tuned notice endTone process) : Settled notice endTone process := by
  obtain ⟨wishing, cached, sounds⟩ := tuned
  refine ⟨wishing, fun on => sounds ?_⟩
  rw [cached, Option.some.injEq, boolPayload_inj] at on
  exact on

theorem settled_stands : Stands (Wishing notice endTone) (Tuned notice endTone) (Settled notice endTone) := by
  refine ⟨?_, fun _ settled => wishing_stopChild settled.1, fun _ tuned => settled_of_tuned tuned⟩
  rintro process other same ⟨wishing, audible⟩
  refine ⟨wishing_blind same wishing, ?_⟩
  rw [Audible, (accepted_of_standing same).1, (accepted_of_standing same).2]
  exact audible

theorem settled_delivered (other : message.type ≠ .notice ∧ message.type ≠ .noticeEndTone) (fits : message.Fits)
    (settled : Settled notice endTone process) : Settled notice endTone (process.delivered message) := by
  obtain ⟨wishing, audible⟩ := settled
  refine ⟨wishing_delivered (fun tone => absurd tone other.2) fits wishing, fun on => ?_⟩
  rw [delivered_tone, if_neg other.2] at on
  rw [delivered_accepted, heard_append]
  unfold hear
  split
  · exact absurd (by assumption) other.1
  · exact absurd (by assumption) other.2
  · exact audible on

/-- A call that is not about the notice leaves it as it is. -/
theorem loud_call (loud : Loud script notice endTone) (other : ∀ notice endTone, call ≠ .setAccessNotice notice endTone)
    (settled : Settled notice endTone (assigned process call)) (running : process.childRunning = true)
    (called : process.call script fuel call = some after) :
    after.childRunning = true ∧ Settled notice endTone after := by
  refine call_carries (carries_of_follows (fun message => message.type ≠ .notice ∧ message.type ≠ .noticeEndTone)
    (loud_follows loud fuel) (loud_replays loud fuel) settled_stands
    (fun process settled => ⟨⟨faithful_believed settled.1.1, settled.1.2⟩, settled.2⟩) ?_
    fun ready message essential settled own passed => settled_delivered own passed.1 settled) settled running called
  intro process message _ own
  cases call with
  | setAccessNotice notice endTone => exact absurd rfl (other notice endTone)
  | tick => obtain type | type := own <;> simp [type]
  | seekFallbackVideo position => simp [show message.type = _ from own]
  | reconfigurePluto transmitEnabled => simp [show message.type = _ from own]
  | write packet => simp [show message.type = _ from own]
  | _ =>
    cases own
    simp [selectMessage, beaconMessage, previewMessage]

/-- A new notice finds no end tone in the cache, or a child that exits before
it is sent. -/
def NoticeFirst (script : ChildScript) (process : MediaProcess) : Prop :=
  process.lastNoticePayload = some process.noticeMessage.payload ∨
    script.exited process.clock = false ∧
      (process.lastNoticeEndTonePayload ≠ some (boolPayload true) ∨ script.exited (process.clock + 1) = true)

/-- Between the two messages of `setAccessNotice` the child has the notice, and
an end tone that is not sent again sounds. -/
def Between (notice : Option Bytes) (endTone : Bool) (process : MediaProcess) : Prop :=
  Noticed notice endTone process ∧ (endTone = true → Audible process)

theorem between_of_tuned (tuned : Tuned notice endTone process) : Between notice endTone process :=
  ⟨noticed_of_tuned tuned, fun _ => (settled_of_tuned tuned).2⟩

/-- A notice that is suppressed is the child's already. -/
theorem between_of_suppressed (settled : Settled notice endTone process)
    (suppressed : process.cached .notice = some process.noticeMessage.payload) : Between notice endTone process := by
  obtain ⟨⟨faithful, rfl, rfl⟩, audible⟩ := settled
  refine ⟨⟨⟨faithful, rfl, rfl⟩, fun on => ?_⟩, fun _ => audible⟩
  have last := (faithful.last .notice (by simp [resetCaches])).symm.trans suppressed
  obtain ⟨message, among, same⟩ := lastOf_mem last
  have fits : process.noticeMessage.payload.length ≤ 2 * 1024 * 1024 := same ▸ faithful.fits message among
  have read := readNotice_payload process.accessNotice (Nat.lt_of_le_of_lt fits (by decide))
  rw [heard_notice _ last, noticeMessage, read]
  exact faithful.wish on

/-- An end tone that is to sound needs the new notice to come first. -/
theorem loud_notice (loud : Loud script notice endTone) (settled : Settled notice endTone process)
    (first : endTone = true → NoticeFirst script process) (running : process.childRunning = true)
    (sent : sendIfChanged (sendMessage script fuel) process process.noticeMessage = some after) :
    after.childRunning = true ∧ Between notice endTone after := by
  unfold sendIfChanged at sent
  split at sent
  · rename_i suppressed
    cases sent
    exact ⟨running, between_of_suppressed settled suppressed⟩
  · rename_i new
    cases endTone with
    | false =>
      obtain ⟨running, noticed⟩ := send_notice loud (loud_follows loud fuel) settled.1 running settled.1 sent
      exact ⟨running, noticed, fun on => by cases on⟩
    | true =>
      obtain ⟨present, free⟩ := (first rfl).resolve_left new
      obtain ⟨⟨taken, next⟩, sent, done⟩ := Option.bind_eq_some_iff.mp sent
      cases fuel with
      | zero => cases sent
      | succ fuel =>
        rw [sendMessage_present running present, sendNow, if_neg (by simp [looked, running])] at sent
        split at sent
        · obtain ⟨started, restarted, same⟩ := Option.map_eq_some_iff.mp sent
          cases same
          cases done
          have wishing := wishing_stopChild (wishing_stands.looked (wishing_stands.looked settled.1))
          obtain ⟨running, tuned⟩ := loud_replays loud fuel _ _ wishing restarted
          exact ⟨running, between_of_tuned tuned⟩
        · rename_i there
          split at sent
          · rename_i passed
            cases sent
            cases done
            have stage := wishing_stands.looked settled.1
            refine ⟨running, wishing_delivered_notice stage passed.1, fun _ on => ?_⟩
            have cached : process.lastNoticeEndTonePayload = some (boolPayload true) := on
            exact absurd cached (free.resolve_right there)
          · rename_i missed
            exact absurd (notice_through loud (wishing_stands.looked settled.1) rfl) missed

/-- Then the tone is sent, unless it sounds already. -/
theorem loud_tone (loud : Loud script notice endTone) (between : Between notice endTone process)
    (running : process.childRunning = true)
    (sent : sendIfChanged (sendMessage script fuel) process process.toneMessage = some after) :
    after.childRunning = true ∧ Tuned notice endTone after := by
  obtain ⟨⟨wishing, noticed⟩, audible⟩ := between
  unfold sendIfChanged at sent
  split at sent
  · rename_i suppressed
    cases sent
    have cached : process.lastNoticeEndTonePayload = some (boolPayload endTone) :=
      wishing.2.2 ▸ (suppressed : process.lastNoticeEndTonePayload = some (boolPayload process.accessNoticeEndTone))
    refine ⟨running, wishing, cached, fun on => audible on ?_⟩
    rw [cached, on]
  · exact send_tone loud (loud_follows loud fuel) ⟨wishing, noticed⟩ running wishing sent

theorem loud_setAccessNotice {asked : Option Bytes} {tone : Bool} (loud : Loud script notice endTone)
    (settled : Settled notice endTone (process.noticed asked tone))
    (first : endTone = true → NoticeFirst script (process.noticed asked tone)) (running : process.childRunning = true)
    (called : setAccessNotice (sendMessage script fuel) process asked tone = some after) :
    after.childRunning = true ∧ Settled notice endTone after := by
  obtain ⟨middle, sent, called⟩ := Option.bind_eq_some_iff.mp called
  obtain ⟨running, between⟩ := loud_notice loud settled first running sent
  obtain ⟨running, tuned⟩ := loud_tone loud between running called
  exact ⟨running, settled_of_tuned tuned⟩

end MediaCaches
end WhRepeater
