import WhRepeater.ActiveInputCodec
import WhRepeater.MediaCaches
import WhRepeater.Runs

/-! The media parent's caches against the state of its child. A payload that is
cached is meant to be what the child has, so that a setter can leave out a
message. It is, the end tone apart: a new notice silences the tone behind the
parent's back, and a new child starts without one that the cache still holds. -/
namespace WhRepeater

namespace MediaCoherence
open Runs MediaProcess MediaSends MediaCaches

/-- Every payload the parent has cached encodes what its child has. -/
def Coherent (link : MediaLink) : Prop :=
  ∀ type payload, link.parent.cached type = some payload → Encodes link.child.pipeline type payload

/-- The call sends nothing, since all it would send is cached. -/
def Suppressed (process : MediaProcess) : ProcessCall → Prop
  | .select input => process.lastSelectPayload = some (activePayload input)
  | .setBeaconAllowed allowed => process.lastBeaconPayload = some (boolPayload allowed)
  | .setAccessNotice notice endTone =>
    process.lastNoticePayload = some (notice.elim [] stringPayload) ∧
      process.lastNoticeEndTonePayload = some (boolPayload (notice.isSome && endTone))
  | .setPreviewEnabled enabled => process.lastPreviewPayload = some (boolPayload enabled)
  | _ => False

/-- The child has what the call asks for, a selection without its measurements. -/
def Has (pipeline : MediaPipeline β) : ProcessCall → Prop
  | .select input => ∃ readAt, pipeline.active = input.map (ActiveInput.told readAt)
  | .setBeaconAllowed allowed => pipeline.beaconAllowed = allowed
  | .setAccessNotice notice endTone =>
    pipeline.accessNotice = notice ∧ pipeline.accessNoticeEndTone = (notice.isSome && endTone)
  | .setPreviewEnabled enabled => pipeline.output.previewEnabled = enabled
  | _ => True

/-- What is asked of each step: with no message in flight the caches are true
of the child, and a call that was suppressed has what it asked for. -/
def Holds (before : MediaLink) (event : LinkEvent) (after : MediaLink) : Prop :=
  after.Quiescent → Coherent after ∧
    ∀ call script fuel startedAt, event = .call call script fuel startedAt →
      Suppressed before.parent call → Has after.child.pipeline call

/-- A call that makes the end tone sound with a new notice sends the notice
first. -/
def InOrder (script : ChildScript) (asked : MediaProcess) : ProcessCall → Prop
  | .setAccessNotice _ _ => asked.accessNoticeEndTone = true → NoticeFirst script asked
  | _ => True

/-- No end tone is or will be cached as on; or every end tone of the call gets
through, and to a child that keeps its notice. -/
def ToneSafe (link : MediaLink) : LinkEvent → Prop
  | .call call script _ _ =>
    Quiet script (assigned link.parent call) ∨
      Loud script (assigned link.parent call).accessNotice (assigned link.parent call).accessNoticeEndTone ∧
        InOrder script (assigned link.parent call) call
  | _ => True

/-- The caches of the parent are what it sent, the end tone's sounds, and the
child has what it was sent. -/
structure Sound (link : MediaLink) : Prop where
  attached : link.Attached
  faithful : Faithful link.parent
  audible : Audible link.parent
  mirrored : link.Mirrored Reflects

variable {script : ChildScript} {process called : MediaProcess} {call : ProcessCall} {fuel : Nat}
variable {before after link : MediaLink} {event : LinkEvent}

/-- A guarded call keeps the caches. -/
theorem call_keeps (running : process.childRunning = true) (faithful : Faithful process) (audible : Audible process)
    (safe : Quiet script (assigned process call) ∨
      Loud script (assigned process call).accessNotice (assigned process call).accessNoticeEndTone ∧
        InOrder script (assigned process call) call)
    (returned : process.call script fuel call = some called) : Faithful called ∧ Audible called := by
  have asked := faithful_assigned faithful call
  have same : Audible (assigned process call) := by cases call <;> exact audible
  obtain quiet | ⟨loud, inOrder⟩ := safe
  · obtain ⟨-, kept, ⟨off, -⟩, -⟩ := call_invariant (silent_invariant script _)
      (fun process message silent own => silent.2.2 ▸ wishedTone_own own) ⟨asked, quiet, rfl⟩ running returned
    exact ⟨kept, fun on => absurd on off⟩
  · have settled : Settled _ _ (assigned process call) := ⟨⟨asked, rfl, rfl⟩, same⟩
    by_cases notice : ∃ notice endTone, call = .setAccessNotice notice endTone
    · obtain ⟨notice, endTone, rfl⟩ := notice
      obtain ⟨-, ⟨kept, -⟩, audible⟩ := loud_setAccessNotice loud settled inOrder running returned
      exact ⟨kept, audible⟩
    · have other : ∀ notice endTone, call ≠ .setAccessNotice notice endTone :=
        fun one two same => notice ⟨one, two, same⟩
      obtain ⟨-, ⟨kept, -⟩, audible⟩ := loud_call loud other settled running returned
      exact ⟨kept, audible⟩

theorem step_sound (sound : Sound before) (safe : ToneSafe before event) (stepped : before.step event = some after) :
    Sound after := by
  have attached := MediaLink.step_attached sound.attached stepped
  have mirrored := MediaLink.step_mirrored mirrors_reflects sound.attached sound.mirrored stepped
  have kept : Faithful after.parent ∧ Audible after.parent := by
    cases event with
    | call call script fuel startedAt =>
      obtain ⟨parent, returned, rfl⟩ := MediaLink.step_call.mp stepped
      have kept := call_keeps sound.attached.1 sound.faithful sound.audible safe returned
      unfold MediaLink.called
      split <;> exact kept
    | handle now stampedAt =>
      obtain ⟨-, message, -, rfl⟩ := MediaLink.step_handle.mp stepped
      unfold MediaLink.received
      split <;> exact ⟨sound.faithful, sound.audible⟩
    | child event =>
      obtain ⟨-, child, -, rfl⟩ := MediaLink.step_child.mp stepped
      exact ⟨sound.faithful, sound.audible⟩
    | exit =>
      cases stepped
      exact ⟨sound.faithful, sound.audible⟩
  exact ⟨attached, kept.1, kept.2, mirrored⟩

/-- With nothing in flight, sound caches are true of the child. -/
theorem coherent_of_sound (sound : Sound link) (quiescent : link.Quiescent) : Coherent link := by
  obtain ⟨-, faithful, audible, mirrored⟩ := sound
  obtain ⟨last, notice⟩ := quiescent.reflects mirrored
  intro type payload cached
  by_cases reset : type ∈ resetCaches
  · have tone : type ≠ .noticeEndTone := by
      rintro rfl
      exact absurd reset (by decide)
    exact last type payload tone ((faithful.last type reset).symm.trans cached)
  · cases type with
    | noticeEndTone =>
      obtain ⟨value, rfl⟩ := faithful.tone payload cached
      have sounds : link.child.pipeline.accessNoticeEndTone = (heard link.parent.accepted).2 :=
        congrArg Prod.snd notice
      refine (readBoolPayload_boolPayload value).trans ?_
      rw [sounds]
      cases value with
      | true => rw [audible cached]
      | false =>
        cases on : (heard link.parent.accepted).2 with
        | false => rfl
        | true =>
          have other := cached.symm.trans (faithful.audible on)
          rw [Option.some.injEq, boolPayload_inj] at other
          cases other
    | select => exact absurd (by decide) reset
    | beacon => exact absurd (by decide) reset
    | notice => exact absurd (by decide) reset
    | preview => exact absurd (by decide) reset
    | _ => trivial

/-- A suppressed call makes its assignments and no more. -/
theorem suppressed_call (suppressed : Suppressed process call)
    (returned : process.call script fuel call = some called) : assigned process call = called := by
  cases call with
  | setAccessNotice notice endTone =>
    obtain ⟨told, sounds⟩ := suppressed
    have first : sendIfChanged (sendMessage script fuel) (process.noticed notice endTone)
        (process.noticed notice endTone).noticeMessage = some (process.noticed notice endTone) := if_pos told
    have second : sendIfChanged (sendMessage script fuel) (process.noticed notice endTone)
        (process.noticed notice endTone).toneMessage = some (process.noticed notice endTone) := if_pos sounds
    have kept : setAccessNotice (sendMessage script fuel) process notice endTone =
        some (process.noticed notice endTone) := by
      simp only [setAccessNotice, first, second, Option.bind_eq_bind, Option.bind_some]
    exact Option.some.inj (kept.symm.trans returned)
  | select input => exact Option.some.inj ((if_pos suppressed).symm.trans returned)
  | setBeaconAllowed allowed => exact Option.some.inj ((if_pos suppressed).symm.trans returned)
  | setPreviewEnabled enabled => exact Option.some.inj ((if_pos suppressed).symm.trans returned)
  | _ => exact suppressed.elim

/-- What is cached as the last message of a type has fitted a message. -/
theorem cached_short (faithful : Faithful process) {type : MediaMessage} (reset : type ∈ resetCaches)
    {payload : Bytes} (cached : process.cached type = some payload) : payload.length < 2 ^ 32 := by
  obtain ⟨message, among, rfl⟩ := lastOf_mem ((faithful.last type reset).symm.trans cached)
  have fits : message.payload.length ≤ 2 * 1024 * 1024 := faithful.fits message among
  omega

/-- A child whose parent's caches are true of it has what a suppressed call
asks for. -/
theorem has_of_suppressed (coherent : Coherent link) (faithful : Faithful link.parent)
    (suppressed : Suppressed link.parent call) : Has link.child.pipeline call := by
  cases call with
  | select input =>
    obtain ⟨readAt, read⟩ := coherent .select _ suppressed
    have short := cached_short faithful (by decide) (show link.parent.cached .select = _ from suppressed)
    rw [readActive_activePayload readAt input short, Option.some.injEq] at read
    exact ⟨readAt, read.symm⟩
  | setBeaconAllowed allowed =>
    have read := coherent .beacon _ suppressed
    rw [Encodes, readBoolPayload_boolPayload, Option.some.injEq] at read
    exact read.symm
  | setAccessNotice notice endTone =>
    obtain ⟨told, sounds⟩ := suppressed
    have read := coherent .notice _ told
    have tone := coherent .noticeEndTone _ sounds
    have short := cached_short faithful (by decide) (show link.parent.cached .notice = _ from told)
    rw [Encodes, readNotice_payload notice short, Option.some.injEq] at read
    rw [Encodes, readBoolPayload_boolPayload, Option.some.injEq] at tone
    exact ⟨read.symm, tone.symm⟩
  | setPreviewEnabled enabled =>
    have read := coherent .preview _ suppressed
    rw [Encodes, readBoolPayload_boolPayload, Option.some.injEq] at read
    exact read.symm
  | _ => trivial

/-- The caches are not what a call assigns. -/
theorem suppressed_assigned (suppressed : Suppressed process call) : Suppressed (assigned process call) call := by
  cases call <;> exact suppressed

theorem holds_of_sound (sound : Sound after) (stepped : before.step event = some after) :
    Holds before event after := by
  intro quiescent
  have coherent := coherent_of_sound sound quiescent
  refine ⟨coherent, ?_⟩
  rintro call script fuel startedAt rfl suppressed
  obtain ⟨parent, returned, rfl⟩ := MediaLink.step_call.mp stepped
  obtain rfl := suppressed_call suppressed returned
  have parent : (before.called call (assigned before.parent call) startedAt).parent = assigned before.parent call := by
    unfold MediaLink.called
    split <;> rfl
  refine has_of_suppressed coherent sound.faithful ?_
  rw [parent]
  exact suppressed_assigned suppressed

theorem start_sound {config : RepeaterConfig} {startedAt : Time}
    (started : MediaLink.start config script fuel startedAt = some link) : Sound link := by
  have attached := MediaLink.start_attached started
  obtain ⟨parent, constructed, rfl⟩ := Option.map_eq_some_iff.mp started
  have invariant := silent_invariant script false
  obtain ⟨-, kept, ⟨off, -⟩, -⟩ := construct_replays (invariant.replays (invariant.follows fuel))
    ⟨faithful_start config, ⟨by simp, .inl rfl⟩, rfl⟩ constructed
  exact ⟨attached, kept, fun on => absurd on off, fun _ => mirrors_reflects.fresh config startedAt⟩

/-- From the constructor on, in every run whose calls are safe for the end
tone, the parent's caches are true of its child whenever no message is in
flight, and what a call leaves out the child has. -/
theorem caches_coherent_while_tone_safe (config : RepeaterConfig) (script : ChildScript) (fuel : Nat)
    (startedAt : Time) (link : MediaLink) (started : MediaLink.start config script fuel startedAt = some link)
    (events : List LinkEvent) (safe : Guarded MediaLink.step ToneSafe link events) :
    (link.Quiescent → Coherent link) ∧ Throughout MediaLink.step Holds link events := by
  have sound := start_sound started
  refine ⟨coherent_of_sound sound, ?_⟩
  refine throughout_of_guarded Sound ?_ sound safe
  intro before event after sound safe stepped
  have kept := step_sound sound safe stepped
  exact ⟨kept, holds_of_sound kept stepped⟩

/-- The first notice with an end tone is safe, with messages that are taken. -/
theorem first_notice_coherent :
    ∃ link, MediaLink.start {} .steady 2 0 = some link ∧ (link.Quiescent → Coherent link) ∧
      Throughout MediaLink.step Holds link
        [.call (.setAccessNotice (some (bytes "A")) true) .steady 1 0, .handle 0 0, .exit] := by
  have began : (MediaLink.start {} .steady 2 0).any
      (fun link => decide (link.parent.lastNoticeEndTonePayload ≠ some (boolPayload true))) = true := by
    decide +kernel
  obtain ⟨link, started, off⟩ := (Option.any_eq_true _ _).mp began
  have loud : Loud .steady (some (bytes "A")) true := ⟨fun _ => rfl, fun _ => ⟨by decide, fun _ => rfl⟩⟩
  have first : ToneSafe link (.call (.setAccessNotice (some (bytes "A")) true) .steady 1 0) :=
    .inr ⟨loud, fun _ => .inr ⟨rfl, .inl (of_decide_eq_true off)⟩⟩
  exact ⟨link, started, caches_coherent_while_tone_safe {} .steady 2 0 link started _
    fun _ _ => ⟨first, fun _ _ => ⟨trivial, fun _ _ => ⟨trivial, trivial⟩⟩⟩⟩

/-- A notice with an end tone, and another one after it, both taken and
handled. The first five messages are the constructor's replay. -/
def twoNotices : List LinkEvent :=
  List.replicate 5 (.handle 0 0) ++
    [.call (.setAccessNotice (some (bytes "A")) true) .steady 1 0, .handle 0 0, .handle 0 0,
      .call (.setAccessNotice (some (bytes "B")) true) .steady 1 0, .handle 0 0]

/-- The second notice silences the tone, and the parent does not ask for it
again: nothing is in flight, and the cache has a tone the child has not. -/
theorem second_notice_silences_end_tone :
    ∃ link last, MediaLink.start {} .steady 2 0 = some link ∧
      run MediaLink.step link twoNotices = some last ∧ last.Quiescent ∧ ¬ Coherent last := by
  have ran : ((MediaLink.start {} .steady 2 0).bind fun link => run MediaLink.step link twoNotices).any
      (fun last => decide (last.Quiescent ∧
        last.parent.lastNoticeEndTonePayload = some (boolPayload true) ∧
        last.child.pipeline.accessNoticeEndTone = false)) = true := by
    decide +kernel
  obtain ⟨last, ran, done⟩ := (Option.any_eq_true _ _).mp ran
  obtain ⟨link, started, ran⟩ := Option.bind_eq_some_iff.mp ran
  obtain ⟨quiescent, cached, silent⟩ := of_decide_eq_true done
  refine ⟨link, last, started, ran, quiescent, fun coherent => ?_⟩
  have tone := coherent .noticeEndTone _ cached
  rw [Encodes, readBoolPayload_boolPayload, silent] at tone
  cases tone

end MediaCoherence
end WhRepeater
