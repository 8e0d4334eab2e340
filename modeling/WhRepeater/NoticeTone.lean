import WhRepeater.OutputContinuity

/-! The tone that ends an over. A notice is on display from the call that shows its
text to the next call with another; a request in a display is answered by a tone at
the first audio frame after it, once. The muxer keeps its `noticeMorseActive` past
the end of the tone and past a change of text, and a display that opens without a
request is not answered then. -/
namespace WhRepeater

open Runs

inductive NoticeEvent where
  | setNotice (notice : Option Bytes) (endTone : Bool)
  | videoFrame (frameIndex : Int64)
  | audioFrame (samples : Int32)
  deriving Repr, DecidableEq

/-- A display as its calls and frames make it: whether its first call requested the
tone, whether any did, and whether an audio frame has come since. `sounded` when a
request has been answered since the notice was last absent, in this display or one
before it. -/
structure NoticeDisplay where
  text : Option Bytes := none
  opening : Bool := false
  requested : Bool := false
  answered : Bool := false
  sounded : Bool := false
  deriving Repr, DecidableEq

namespace NoticeDisplay

/-- The next audio frame is the first after a request. -/
def due (display : NoticeDisplay) : Bool := display.requested && !display.answered

def follow (display : NoticeDisplay) : NoticeEvent → NoticeDisplay
  | .setNotice notice endTone =>
    if notice = display.text then { display with requested := display.requested || (notice.isSome && endTone) }
    else if notice.isNone then {}
    else { text := notice, opening := endTone, requested := endTone, sounded := display.sounded }
  | .videoFrame _ => display
  | .audioFrame _ =>
    { display with answered := display.answered || display.requested, sounded := display.sounded || display.due }

end NoticeDisplay

structure NoticeRun where
  muxer : FallbackMuxer
  display : NoticeDisplay := {}

namespace NoticeRun

def apply (muxer : FallbackMuxer) : NoticeEvent → FallbackMuxer
  | .setNotice notice endTone => muxer.setNotice notice endTone
  | .videoFrame frameIndex => muxer.encode frameIndex
  | .audioFrame samples => muxer.writeAudioFrame samples

def step (run : NoticeRun) (event : NoticeEvent) : Option NoticeRun :=
  some ⟨apply run.muxer event, run.display.follow event⟩

/-- What the event should arm. -/
def expected (run : NoticeRun) : NoticeEvent → List Int64
  | .audioFrame _ => if run.display.due then [run.muxer.audioSampleIndex] else []
  | .setNotice .. | .videoFrame _ => []

/-- The tone is armed at an audio frame that is due, and nowhere else. -/
def AsRequested (before : NoticeRun) (event : NoticeEvent) (after : NoticeRun) : Prop :=
  after.muxer.tones = before.muxer.tones ++ before.expected event

instance (before : NoticeRun) (event : NoticeEvent) (after : NoticeRun) : Decidable (AsRequested before event after) :=
  inferInstanceAs (Decidable (_ = _))

/-- An audio frame that is due comes in a display that opened with a request, or no
tone has sounded since the notice was last absent. -/
def Unhindered (run : NoticeRun) : NoticeEvent → Prop
  | .audioFrame _ => run.display.due = true → run.display.opening = true ∨ run.display.sounded = false
  | .setNotice .. | .videoFrame _ => True

/-- What the muxer's flags say of the display. -/
structure Agrees (run : NoticeRun) : Prop where
  pattern : run.muxer.noticeMorseUnits.isEmpty = false
  notice : run.muxer.notice = run.display.text
  pending : run.muxer.noticeMorsePending = (run.display.due && (run.display.opening || !run.display.sounded))
  active : run.muxer.noticeMorseActive = run.display.sounded
  played : run.muxer.noticeMorsePlayedForNotice = run.display.answered
  opened : run.display.opening = true → run.display.requested = true
  asked : run.display.answered = true → run.display.requested = true
  absent : run.display.text = none → run.display = {}

variable {before after : NoticeRun}

/-- A call with the text on display: a request is taken up where none is pending or
answered and no tone counts as sounding. -/
theorem repeat_agrees (agrees : Agrees before) (endTone : Bool) :
    Agrees ⟨before.muxer.setNotice before.display.text endTone, before.display.follow (.setNotice before.display.text endTone)⟩ ∧
      (before.muxer.setNotice before.display.text endTone).tones = before.muxer.tones := by
  obtain ⟨muxer, text, opening, requested, answered, sounded⟩ := before
  obtain ⟨pattern, notice, pending, active, played, opened, asked, absent⟩ := agrees
  dsimp only at pattern notice pending active played opened asked absent ⊢
  have condition : (muxer.notice.isSome && endTone && !muxer.noticeMorsePlayedForNotice && !muxer.noticeMorsePending &&
      !muxer.noticeMorseActive && !muxer.noticeMorseUnits.isEmpty) =
        (text.isSome && endTone && !answered && !(requested && !answered && (opening || !sounded)) && !sounded) := by
    rw [notice, played, pending, active, pattern, Bool.not_false, Bool.and_true]
    rfl
  rw [FallbackMuxer.setNotice, if_pos notice, condition]
  cases text with
  | none =>
    cases absent rfl
    exact ⟨⟨pattern, notice, pending, active, played, opened, asked, absent⟩, rfl⟩
  | some text =>
    have same : (NoticeDisplay.mk (some text) opening requested answered sounded).follow (.setNotice (some text) endTone) =
        { text := some text, opening, requested := requested || endTone, answered, sounded } := by
      simp [NoticeDisplay.follow]
    rw [same]
    split
    · rename_i taken
      simp only [Bool.and_eq_true, Bool.not_eq_true'] at taken
      obtain ⟨⟨⟨⟨-, rfl⟩, rfl⟩, -⟩, rfl⟩ := taken
      refine ⟨⟨pattern, notice, ?_, active, played, ?_, ?_, ?_⟩, rfl⟩
      · simp [NoticeDisplay.due]
      · simp
      · simp
      · simp
    · rename_i untaken
      refine ⟨⟨pattern, notice, ?_, active, played, ?_, ?_, ?_⟩, rfl⟩
      · cases endTone <;> cases requested <;> cases answered <;> cases sounded <;> simp_all [NoticeDisplay.due]
      · simp_all
      · simp_all
      · simp

theorem change_agrees (agrees : Agrees before) {notice : Option Bytes} (changed : notice ≠ before.display.text) (endTone : Bool) :
    Agrees ⟨before.muxer.setNotice notice endTone, before.display.follow (.setNotice notice endTone)⟩ ∧
      (before.muxer.setNotice notice endTone).tones = before.muxer.tones := by
  rw [FallbackMuxer.setNotice, if_neg (agrees.notice ▸ changed.symm), NoticeDisplay.follow, if_neg changed, agrees.pattern]
  cases notice with
  | none => exact ⟨⟨agrees.pattern, rfl, rfl, rfl, rfl, id, id, fun _ => rfl⟩, rfl⟩
  | some text =>
    refine ⟨⟨agrees.pattern, rfl, ?_, agrees.active, rfl, id, fun never => absurd never Bool.false_ne_true, ?_⟩, rfl⟩
    · cases endTone <;> rfl
    · intro absent
      cases absent

theorem audioFrame_tones (agrees : Agrees before) (samples : Int32) :
    (before.muxer.writeAudioFrame samples).tones =
      before.muxer.tones ++ if before.muxer.noticeMorsePending then [before.muxer.audioSampleIndex] else [] := by
  change before.muxer.armNoticeMorseIfPending.tones = _
  rw [FallbackMuxer.armNoticeMorseIfPending, agrees.pattern]
  cases before.muxer.noticeMorsePending
  · exact (List.append_nil _).symm
  · rfl

theorem audioFrame_agrees (agrees : Agrees before) (samples : Int32) (free : before.Unhindered (.audioFrame samples)) :
    Agrees ⟨before.muxer.writeAudioFrame samples, before.display.follow (.audioFrame samples)⟩ := by
  obtain ⟨muxer, text, opening, requested, answered, sounded⟩ := before
  obtain ⟨pattern, notice, pending, active, played, opened, asked, absent⟩ := agrees
  dsimp only at pattern notice pending active played opened asked absent ⊢
  have armed : muxer.noticeMorsePending = (requested && !answered) := by
    rw [pending]
    cases due : (requested && !answered) with
    | false => simp [NoticeDisplay.due, due]
    | true =>
      rcases free due with opening | sounded
      · simp_all [NoticeDisplay.due]
      · simp_all [NoticeDisplay.due]
  change Agrees ⟨{ muxer.armNoticeMorseIfPending with audioSampleIndex := _, encoded := _ }, _⟩
  rw [FallbackMuxer.armNoticeMorseIfPending, pattern, armed]
  cases due : (requested && !answered) with
  | false =>
    have kept : NoticeDisplay.follow ⟨text, opening, requested, answered, sounded⟩ (.audioFrame samples) =
        ⟨text, opening, requested, answered, sounded⟩ := by
      simp only [NoticeDisplay.follow, NoticeDisplay.due, due, Bool.or_false]
      cases requested <;> cases answered <;> simp_all
    rw [kept]
    exact ⟨pattern, notice, pending, active, played, opened, asked, absent⟩
  | true =>
    obtain ⟨rfl, unanswered⟩ := Bool.and_eq_true_iff.mp due
    refine ⟨pattern, notice, ?_, ?_, ?_, ?_, ?_, ?_⟩
    · simp [NoticeDisplay.follow, NoticeDisplay.due]
    · simp_all [NoticeDisplay.follow, NoticeDisplay.due]
    · simp [NoticeDisplay.follow]
    · simp [NoticeDisplay.follow]
    · simp [NoticeDisplay.follow]
    · intro none
      cases (absent none)

theorem step_agrees (agrees : Agrees before) {event : NoticeEvent} (free : before.Unhindered event)
    (stepped : before.step event = some after) : Agrees after := by
  obtain rfl := Option.some.inj stepped
  cases event with
  | setNotice notice endTone =>
    by_cases same : notice = before.display.text
    · exact same ▸ (repeat_agrees agrees endTone).1
    · exact (change_agrees agrees same endTone).1
  | videoFrame frameIndex => exact ⟨agrees.1, agrees.2, agrees.3, agrees.4, agrees.5, agrees.6, agrees.7, agrees.8⟩
  | audioFrame samples => exact audioFrame_agrees agrees samples free

theorem step_asRequested_iff (agrees : Agrees before) {event : NoticeEvent} (stepped : before.step event = some after) :
    AsRequested before event after ↔ before.Unhindered event := by
  obtain rfl := Option.some.inj stepped
  cases event with
  | setNotice notice endTone =>
    refine iff_of_true ?_ trivial
    rw [AsRequested, expected, List.append_nil]
    by_cases same : notice = before.display.text
    · exact same ▸ (repeat_agrees agrees endTone).2
    · exact (change_agrees agrees same endTone).2
  | videoFrame frameIndex => exact iff_of_true (List.append_nil _).symm trivial
  | audioFrame samples =>
    change (before.muxer.writeAudioFrame samples).tones = _ ↔ _
    rw [audioFrame_tones agrees, List.append_cancel_left_eq, agrees.pending, expected, Unhindered]
    cases before.display.due <;> cases before.display.opening <;> cases before.display.sounded <;> simp

/-! ## The worker's frames -/

/-- The loop over the due audio is a run of audio frames. -/
theorem writeDueAudio_run {next : Int64} {turns : Nat} {muxer written : FallbackMuxer}
    (wrote : FallbackMuxer.writeDueAudio next turns muxer = some written) (display : NoticeDisplay) :
    ∃ count shown, Runs.run step ⟨muxer, display⟩ (List.replicate count (.audioFrame muxer.audioFrameSamples)) =
      some ⟨written, shown⟩ := by
  induction turns generalizing muxer display with
  | zero => cases wrote
  | succ turns ih =>
    rw [FallbackMuxer.writeDueAudio] at wrote
    split at wrote
    · obtain ⟨count, shown, ran⟩ := ih wrote (display.follow (.audioFrame muxer.audioFrameSamples))
      rw [(FallbackMuxer.writeAudioFrame_sameVideo muxer muxer.audioFrameSamples).audioFrameSamples] at ran
      exact ⟨count + 1, shown, ran⟩
    · obtain rfl := Option.some.inj wrote
      exact ⟨0, display, rfl⟩

theorem writeFrame_run {frameIndex : Int64} {muxer written : FallbackMuxer} (wrote : muxer.writeFrame frameIndex = some written)
    (display : NoticeDisplay) :
    ∃ count shown, Runs.run step ⟨muxer, display⟩
      (.videoFrame frameIndex :: List.replicate count (.audioFrame muxer.audioFrameSamples)) = some ⟨written, shown⟩ := by
  rw [FallbackMuxer.writeFrame, FallbackMuxer.writeAudioUntil] at wrote
  split at wrote
  · exact writeDueAudio_run wrote display
  · obtain rfl := Option.some.inj wrote
    exact ⟨0, display, rfl⟩

/-- What a pass of the worker does to its muxer is a run of these events. -/
theorem write_run (clock : OutputClock) (pass : WorkerPass) (muxer : FallbackMuxer)
    (returns : (clock.write pass muxer).stuck = false) (display : NoticeDisplay) :
    ∃ written events shown, (clock.write pass muxer).fallbackMuxer = some written ∧
      Runs.run step ⟨muxer, display⟩
        (.setNotice (pass.shownNotice clock.config).1 (pass.shownNotice clock.config).2 :: events) = some ⟨written, shown⟩ := by
  unfold OutputClock.write at returns ⊢
  dsimp only at returns ⊢
  split at returns
  · cases returns
  · rename_i written wrote
    obtain ⟨count, shown, ran⟩ := writeFrame_run wrote
      (display.follow (.setNotice (pass.shownNotice clock.config).1 (pass.shownNotice clock.config).2))
    exact ⟨written, .videoFrame _ :: List.replicate count (.audioFrame _), shown, rfl, ran⟩

end NoticeRun

open NoticeRun

/-- With any tone pattern: every request is answered at the first audio frame after
it, once a display, and nothing else arms the tone, exactly as long as no display
that opened without a request has one due while a tone has sounded since the notice
was last absent. -/
theorem tone_as_requested_iff (config : RepeaterConfig) (encoder : AudioEncoder) (pattern : List Bool)
    (nonempty : pattern ≠ []) (events : List NoticeEvent) :
    Throughout step AsRequested ⟨{ FallbackMuxer.construct config encoder with noticeMorseUnits := pattern }, {}⟩ events ↔
      Guarded step Unhindered ⟨{ FallbackMuxer.construct config encoder with noticeMorseUnits := pattern }, {}⟩ events := by
  refine throughout_iff_guarded Agrees (fun _ _ _ agrees free stepped => step_agrees agrees free stepped)
    (fun _ _ _ agrees stepped => step_asRequested_iff agrees stepped) ⟨?_, rfl, rfl, rfl, rfl, id, id, fun _ => rfl⟩
  simpa using nonempty

/-- The pattern of the source. -/
theorem end_tone_as_requested_iff :
    Throughout step AsRequested
        ⟨{ FallbackMuxer.construct {} .gstreamer with noticeMorseUnits := morseToneUnits (bytes "K") }, {}⟩
        [.setNotice (some (bytes "over")) true, .audioFrame 1024] ↔
      Guarded step Unhindered
        ⟨{ FallbackMuxer.construct {} .gstreamer with noticeMorseUnits := morseToneUnits (bytes "K") }, {}⟩
        [.setNotice (some (bytes "over")) true, .audioFrame 1024] :=
  tone_as_requested_iff {} .gstreamer _ (morseToneUnits_ne_nil _) _

/-- A tone sounds for one notice; the next one is shown without a request, which
comes with a later call for it, and the audio frame after that arms nothing. -/
theorem later_request_is_lost :
    ¬ ∀ events, Throughout step AsRequested ⟨FallbackMuxer.construct {} .gstreamer, {}⟩ events := by
  intro always
  have along := always [.setNotice (some (bytes "A")) true, .audioFrame 1024, .setNotice (some (bytes "B")) false,
    .setNotice (some (bytes "B")) true, .audioFrame 1024]
  have last := ((((along _ rfl).2 _ rfl).2 _ rfl).2 _ rfl).2 _ rfl
  exact absurd last.1 (by decide)

end WhRepeater
