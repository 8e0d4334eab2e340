import WhRepeater.MediaSends
import WhRepeater.MediaWorker

/-! The media parent and the child behind its socket (`runMediaChild`). The
messages the kernel took are handled in order, while the parent makes its calls,
the child's own threads run, and the child may exit at any point. Between two
calls the parent does nothing; what happens to children in the middle of a call
is in the call's script. -/
namespace WhRepeater

/-- What the handler of a message calls, at the time it reads; `none` when the
payload is too short. -/
def ControlMessage.mediaCall (message : ControlMessage) (now : Time) : Option MediaCall :=
  match message.type with
  | .select => (readActive now message.payload).map .select
  | .beacon => (readBoolPayload message.payload).map .setBeaconAllowed
  | .notice =>
    if message.payload = [] then some (.setAccessNotice none false)
    else (readStringPayload message.payload).map fun notice => .setAccessNotice (some notice) false
  | .noticeEndTone => (readBoolPayload message.payload).map .setAccessNoticeEndTone
  | .playFallbackVideo => (readStringPayload message.payload).map .playFallbackVideo
  | .stopFallbackVideo => some .stopFallbackVideo
  | .seekFallbackVideo => (readInt64Payload message.payload).map .seekFallbackVideo
  | .tick => some (.tick now)
  | .preview => (readBoolPayload message.payload).map .setPreviewEnabled
  | .reconfigurePluto => (readBoolPayload message.payload).map .reconfigurePluto
  | .shutdown | .transportStream | .streamInfo | .fallbackVideoStatus => none

/-- The child handles a message, up to its first region; `none` when it leaves
its loop or throws. -/
def MediaSystem.handle (system : MediaSystem UInt8) (message : ControlMessage) (now stampedAt : Time) :
    Option (MediaSystem UInt8) :=
  match message.type with
  | .transportStream => system.step (.write message.payload now stampedAt)
  | .streamInfo | .fallbackVideoStatus => some system
  | _ => (message.mediaCall now).bind fun call => system.step (.call call)

/-- The handler of a message that is one call of the pipeline. -/
theorem MediaSystem.handle_call {child next : MediaSystem UInt8} {message : ControlMessage} {now stampedAt : Time}
    (handled : child.handle message now stampedAt = some next)
    (one : message.type ≠ .transportStream ∧ message.type ≠ .streamInfo ∧ message.type ≠ .fallbackVideoStatus) :
    ∃ call, message.mediaCall now = some call ∧ { child with pipeline := child.pipeline.call call } = next := by
  obtain ⟨transport, info, status⟩ := one
  unfold MediaSystem.handle at handled
  split at handled
  · contradiction
  · contradiction
  · contradiction
  · obtain ⟨call, read, stepped⟩ := Option.bind_eq_some_iff.mp handled
    exact ⟨call, read, (MediaSystem.step_call.mp stepped).2⟩

/-- The parent, the child it started last, and how many of the messages taken
for this child it has handled. `ticked` is the parent's last call being `tick`. -/
structure MediaLink where
  parent : MediaProcess
  child : MediaSystem UInt8
  alive : Bool := true
  handled : Nat := 0
  ticked : Bool := false
  deriving Repr, DecidableEq

/-- A child that stays, and takes every message. -/
def ChildScript.steady : ChildScript := { exited := fun _ => false }

inductive LinkEvent where
  | call (call : ProcessCall) (script : ChildScript) (fuel : Nat) (startedAt : Time)
  | handle (now stampedAt : Time)
  | child (event : MediaEvent UInt8)
  | exit

/-- The steps a child takes between two messages: its other threads, the second
region of a `write`, and taking what it reports. -/
def OwnStep : MediaEvent UInt8 → Bool
  | .call .takeStreamInfoUpdate | .call .takeFallbackVideoStatusUpdate => true
  | .call _ | .write _ _ _ => false
  | _ => true

namespace MediaLink

/-- The constructor's child is there. -/
def start (config : RepeaterConfig) (script : ChildScript) (fuel : Nat) (startedAt : Time) : Option MediaLink :=
  (MediaProcess.construct script fuel config).map fun parent => { parent, child := .start config startedAt }

/-- After a call the child is the one that was there, or a new one. -/
def called (link : MediaLink) (call : ProcessCall) (parent : MediaProcess) (startedAt : Time) : MediaLink :=
  if parent.starts = link.parent.starts then { link with parent, ticked := call = .tick }
  else { parent, child := .start parent.config startedAt, ticked := call = .tick }

/-- The child handles the next message; when it cannot, it exits. -/
def received (link : MediaLink) (message : ControlMessage) (now stampedAt : Time) : MediaLink :=
  match link.child.handle message now stampedAt with
  | some child => { link with child, handled := link.handled + 1 }
  | none => { link with alive := false }

def step (link : MediaLink) : LinkEvent → Option MediaLink
  | .call call script fuel startedAt =>
    (link.parent.call script fuel call).map fun parent => link.called call parent startedAt
  | .handle now stampedAt =>
    if link.alive = true ∧ link.child.writing = none then
      link.parent.accepted[link.handled]?.map fun message => link.received message now stampedAt
    else none
  | .child event =>
    if link.alive = true ∧ OwnStep event = true then
      (link.child.step event).map fun child => { link with child }
    else none
  | .exit => some { link with alive := false }

/-- A child is running and no message is in flight. -/
def Quiescent (link : MediaLink) : Prop :=
  link.alive = true ∧ link.handled = link.parent.accepted.length ∧ link.child.writing = none

instance (link : MediaLink) : Decidable link.Quiescent :=
  inferInstanceAs (Decidable (_ ∧ _))

/-! ## What each step needs and does -/

variable {before after : MediaLink}

theorem step_call {call : ProcessCall} {script : ChildScript} {fuel : Nat} {startedAt : Time} :
    before.step (.call call script fuel startedAt) = some after ↔
      ∃ parent, before.parent.call script fuel call = some parent ∧
        before.called call parent startedAt = after :=
  Option.map_eq_some_iff

theorem step_handle {now stampedAt : Time} : before.step (.handle now stampedAt) = some after ↔
    (before.alive = true ∧ before.child.writing = none) ∧
      ∃ message, before.parent.accepted[before.handled]? = some message ∧
        before.received message now stampedAt = after := by
  simp only [step, Option.ite_none_right_eq_some, Option.map_eq_some_iff]

theorem step_child {event : MediaEvent UInt8} : before.step (.child event) = some after ↔
    (before.alive = true ∧ OwnStep event = true) ∧
      ∃ child, before.child.step event = some child ∧ { before with child } = after := by
  simp only [step, Option.ite_none_right_eq_some, Option.map_eq_some_iff]

/-! ## The messages taken for a child -/

open MediaProcess MediaSends

/-- What one call adds: it starts another child, or more messages for this one. -/
def Extends (before after : MediaProcess) : Prop :=
  before.starts ≤ after.starts ∧ (after.starts = before.starts → before.accepted <+: after.accepted)

theorem extends_invariant (script : ChildScript) (process : MediaProcess) :
    Invariant script (fun _ => True) (Extends process) := by
  refine ⟨?_, fun _ kept => kept, ?_, fun _ _ _ _ => trivial, ?_⟩
  · intro one other same kept
    simp only [standing, Prod.mk.injEq] at same
    simpa only [Extends, same] using kept
  · rintro other ⟨more, -⟩
    exact ⟨Nat.le_succ_of_le more, fun same => absurd same (Nat.ne_of_gt (Nat.lt_succ_of_le more))⟩
  · rintro other message essential ⟨more, extended⟩ _ _
    refine ⟨by simpa using more, fun same => ?_⟩
    have earlier := extended (by simpa using same)
    exact earlier.trans (by simp)

theorem call_extends {process called : MediaProcess} {script : ChildScript} {fuel : Nat} {call : ProcessCall}
    (running : process.childRunning = true) (returned : process.call script fuel call = some called) :
    called.childRunning = true ∧ Extends process called := by
  have same : Extends process (assigned process call) := by
    cases call <;> exact ⟨Nat.le_refl _, fun _ => List.prefix_rfl⟩
  exact call_invariant (extends_invariant script process) (fun _ _ _ _ => trivial) same running returned

/-- The parent has a child, and the child has handled only what was taken for it. -/
def Attached (link : MediaLink) : Prop :=
  link.parent.childRunning = true ∧ link.handled ≤ link.parent.accepted.length

theorem start_attached {config : RepeaterConfig} {script : ChildScript} {fuel : Nat} {startedAt : Time}
    (started : start config script fuel startedAt = some after) : after.Attached := by
  obtain ⟨parent, constructed, rfl⟩ := Option.map_eq_some_iff.mp started
  have invariant := extends_invariant script { config }
  obtain ⟨running, -⟩ := construct_replays (invariant.replays (invariant.follows fuel))
    ⟨Nat.le_refl _, fun _ => List.prefix_rfl⟩ constructed
  exact ⟨running, Nat.zero_le _⟩

theorem step_attached {event : LinkEvent} (attached : before.Attached) (stepped : before.step event = some after) :
    after.Attached := by
  obtain ⟨running, few⟩ := attached
  cases event with
  | call call script fuel startedAt =>
    obtain ⟨parent, returned, rfl⟩ := step_call.mp stepped
    obtain ⟨running, -, extended⟩ := call_extends running returned
    unfold called
    split
    · rename_i same
      exact ⟨running, few.trans (extended same).length_le⟩
    · exact ⟨running, Nat.zero_le _⟩
  | handle now stampedAt =>
    obtain ⟨-, message, next, rfl⟩ := step_handle.mp stepped
    have there := (List.getElem?_eq_some_iff.mp next).choose
    unfold received
    split
    · exact ⟨running, there⟩
    · exact ⟨running, few⟩
  | child event =>
    obtain ⟨-, child, -, rfl⟩ := step_child.mp stepped
    exact ⟨running, few⟩
  | exit =>
    cases stepped
    exact ⟨running, few⟩

/-- What a child does with its messages: it starts out so, its own steps keep
it, and a message it handles adds to it. -/
structure Mirrors (Reflects : List ControlMessage → MediaSystem UInt8 → Prop) : Prop where
  fresh : ∀ config startedAt, Reflects [] (.start config startedAt)
  own : ∀ messages child event next, OwnStep event = true → child.step event = some next →
    Reflects messages child → Reflects messages next
  handled : ∀ messages child message now stampedAt next, child.handle message now stampedAt = some next →
    Reflects messages child → Reflects (messages ++ [message]) next

/-- A child that is there reflects the messages it has handled. -/
def Mirrored (Reflects : List ControlMessage → MediaSystem UInt8 → Prop) (link : MediaLink) : Prop :=
  link.alive = true → Reflects (link.parent.accepted.take link.handled) link.child

variable {Reflects : List ControlMessage → MediaSystem UInt8 → Prop}

theorem step_mirrored (mirrors : Mirrors Reflects) {event : LinkEvent} (attached : before.Attached)
    (mirrored : before.Mirrored Reflects) (stepped : before.step event = some after) :
    after.Mirrored Reflects := by
  obtain ⟨running, few⟩ := attached
  cases event with
  | call call script fuel startedAt =>
    obtain ⟨parent, returned, rfl⟩ := step_call.mp stepped
    obtain ⟨-, -, extended⟩ := call_extends running returned
    unfold called
    split
    · rename_i same
      intro alive
      have earlier : parent.accepted.take before.handled = before.parent.accepted.take before.handled := by
        obtain ⟨more, grown⟩ := extended same
        rw [← grown, List.take_append_of_le_length few]
      exact earlier ▸ mirrored alive
    · exact fun _ => mirrors.fresh parent.config startedAt
  | handle now stampedAt =>
    obtain ⟨⟨alive, -⟩, message, next, rfl⟩ := step_handle.mp stepped
    unfold received
    split
    · rename_i child handled
      intro _
      have taken := mirrors.handled _ _ message now stampedAt child handled (mirrored alive)
      rwa [← Option.toList_some (a := message), ← next, ← List.take_add_one] at taken
    · exact fun dead => absurd dead (by simp)
  | child event =>
    obtain ⟨⟨alive, own⟩, child, moved, rfl⟩ := step_child.mp stepped
    exact fun _ => mirrors.own _ _ event child own moved (mirrored alive)
  | exit =>
    cases stepped
    exact fun dead => absurd dead (by simp)

theorem Quiescent.reflects (mirrored : before.Mirrored Reflects) (quiescent : before.Quiescent) :
    Reflects before.parent.accepted before.child := by
  obtain ⟨alive, all, -⟩ := quiescent
  have reflected := mirrored alive
  rwa [all, List.take_length] at reflected

end MediaLink
end WhRepeater
