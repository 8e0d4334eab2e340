import Mathlib.Data.List.Infix
import WhRepeater.Config
import WhRepeater.Runs

/-! The buffer of submitted audio in the output muxer. A submission that finds no
room lets go of the lock while it waits, so that its frame may be appended under
another source than it was submitted for. -/
namespace WhRepeater

/-- A sample is known by its source and by its place among all that were submitted. -/
structure SubmittedSample where
  source : Bytes
  number : Nat
  deriving Repr, DecidableEq

/-! ## Consecutive samples -/

def samplesFrom (source : Bytes) (first count : Nat) : List SubmittedSample :=
  (List.range' first count).map (SubmittedSample.mk source)

section Consecutive

variable {source : Bytes} {first count extra : Nat} {front back samples : List SubmittedSample}

@[simp] theorem length_samplesFrom : (samplesFrom source first count).length = count := by
  simp [samplesFrom]

theorem samplesFrom_append (first : Nat) :
    samplesFrom source first count ++ samplesFrom source (first + count) extra = samplesFrom source first (count + extra) := by
  unfold samplesFrom
  rw [← List.map_append, List.range'_append_1]

theorem samplesFrom_split (split : samplesFrom source first count = front ++ back) :
    front = samplesFrom source first front.length ∧ back = samplesFrom source (first + front.length) back.length := by
  obtain ⟨before, after, numbers, rfl, rfl⟩ := List.map_eq_append_iff.mp split
  obtain ⟨size, _, rfl, rfl⟩ := List.range'_eq_append_iff.mp numbers
  simp [samplesFrom]

/-- A stretch of consecutive samples is itself of consecutive samples. -/
theorem samplesFrom_of_infix (within : samples <:+: samplesFrom source first count) :
    ∃ start, samples = samplesFrom source start samples.length := by
  obtain ⟨before, after, split⟩ := within
  have ⟨shape, _⟩ := samplesFrom_split split.symm
  exact ⟨_, (samplesFrom_split shape.symm).2⟩

theorem suffix_submitted (recent : samples <:+ samplesFrom source 0 count) :
    samples ++ samplesFrom source count extra <:+ samplesFrom source 0 (count + extra) := by
  have whole : _ = samplesFrom source 0 (count + extra) := samplesFrom_append 0
  rw [Nat.zero_add] at whole
  rw [← whole]
  exact List.suffix_append_self_iff.mpr recent

end Consecutive

/-! ## The buffer -/

/-- What the encoder of the output asks for. -/
structure AudioFormat where
  sampleRate : Nat := 48000
  frameSize : Nat := 1024
  deriving Repr, DecidableEq

namespace AudioFormat

def audioFrameSamples (format : AudioFormat) : Nat := if 0 < format.frameSize then format.frameSize else 1024

def maxSubmittedAudioSamples (format : AudioFormat) (source : Bytes) : Nat :=
  if source = bytes "fallback-video" then max (format.frameSize * 6) format.sampleRate else format.sampleRate * 2

end AudioFormat

/-- A submission that waits for room. -/
structure WaitingAudio where
  source : Bytes
  samples : List SubmittedSample
  deriving Repr, DecidableEq

/-- `submitted` counts the samples of all submissions, and `encoded` has what the
encoder was given: a frame from the buffer, or none when silence or a tone was
generated in its place. -/
structure SubmittedAudio where
  submittedVideoSource : Bytes := bytes "submitted"
  submittedAudioSource : Bytes := bytes "submitted"
  submittedAudioFifo : List SubmittedSample := []
  waiting : Option WaitingAudio := none
  submitted : Nat := 0
  encoded : List (Option (List SubmittedSample)) := []
  deriving Repr, DecidableEq

namespace SubmittedAudio

def clearSubmittedAudio (audio : SubmittedAudio) : SubmittedAudio := { audio with submittedAudioFifo := [] }

def drain (audio : SubmittedAudio) (count : Nat) : SubmittedAudio :=
  { audio with submittedAudioFifo := audio.submittedAudioFifo.drop count }

/-- The end of `submitAudioFrame`: the frame enters the buffer. -/
def append (audio : SubmittedAudio) (samples : List SubmittedSample) : SubmittedAudio :=
  { audio with submittedAudioFifo := audio.submittedAudioFifo ++ samples, waiting := none }

def beginSubmittedSource (audio : SubmittedAudio) (source : Bytes) : SubmittedAudio :=
  { audio.clearSubmittedAudio with submittedVideoSource := source, submittedAudioSource := source }

def endSubmittedSource (audio : SubmittedAudio) (source : Bytes) : SubmittedAudio :=
  let audio :=
    if audio.submittedVideoSource = source then { audio with submittedVideoSource := bytes "submitted" } else audio
  if audio.submittedAudioSource = source then
    { audio.clearSubmittedAudio with submittedAudioSource := bytes "submitted" }
  else audio

def submitVideoFrame (audio : SubmittedAudio) (source : Bytes) : SubmittedAudio :=
  if audio.submittedVideoSource = source then audio
  else { audio.clearSubmittedAudio with submittedVideoSource := source }

/-- The call up to its wait, or to its end when it does not wait. A frame that is
rejected before it reaches the buffer is as one without samples. -/
def submitAudioFrame (format : AudioFormat) (audio : SubmittedAudio) (source : Bytes) (writeSamples : Nat) : SubmittedAudio :=
  if writeSamples = 0 then audio
  else
    let frame := samplesFrom source audio.submitted writeSamples
    let audio :=
      if audio.submittedAudioSource = source then audio
      else { audio.clearSubmittedAudio with submittedAudioSource := source }
    let audio := { audio with submitted := audio.submitted + writeSamples }
    let maxSubmittedAudioSamples := format.maxSubmittedAudioSamples source
    if source = bytes "fallback-video" then
      (audio.drain (audio.submittedAudioFifo.length + writeSamples - maxSubmittedAudioSamples)).append frame
    else if audio.submittedAudioFifo.length + writeSamples ≤ maxSubmittedAudioSamples then audio.append frame
    else { audio with waiting := some ⟨source, frame⟩ }

/-- A turn of the waiting loop; `late` when its deadline has passed. The source is
not looked at again. -/
def wake (format : AudioFormat) (audio : SubmittedAudio) (frame : WaitingAudio) (late : Bool) : SubmittedAudio :=
  if audio.submittedAudioFifo.length + frame.samples.length ≤ format.maxSubmittedAudioSamples frame.source then
    audio.append frame.samples
  else if late then
    (audio.drain (min frame.samples.length audio.submittedAudioFifo.length)).append frame.samples
  else audio

def writeAudioFrame (format : AudioFormat) (audio : SubmittedAudio) (preferSubmittedAudio : Bool) : SubmittedAudio :=
  if preferSubmittedAudio && format.audioFrameSamples ≤ audio.submittedAudioFifo.length then
    { audio.drain format.audioFrameSamples with
      encoded := audio.encoded ++ [some (audio.submittedAudioFifo.take format.audioFrameSamples)] }
  else { audio with encoded := audio.encoded ++ [none] }

inductive Event where
  | submitAudio (source : Bytes) (writeSamples : Nat)
  | wake (late : Bool)
  | submitVideo (source : Bytes)
  | beginSource (source : Bytes)
  | endSource (source : Bytes)
  | writeAudio (preferSubmittedAudio : Bool)
  deriving Repr, DecidableEq

/-- One submitting thread at a time: no audio is submitted while a submission
waits. No frame is longer than the bound of its source. -/
def step (format : AudioFormat) (audio : SubmittedAudio) : Event → Option SubmittedAudio
  | .submitAudio source writeSamples =>
    if audio.waiting.isNone ∧ writeSamples ≤ format.maxSubmittedAudioSamples source then
      some (audio.submitAudioFrame format source writeSamples)
    else none
  | .wake late => audio.waiting.map fun frame => audio.wake format frame late
  | .submitVideo source => some (audio.submitVideoFrame source)
  | .beginSource source => some (audio.beginSubmittedSource source)
  | .endSource source => some (audio.endSubmittedSource source)
  | .writeAudio preferSubmittedAudio => some (audio.writeAudioFrame format preferSubmittedAudio)

/-! ## What a step does -/

/-- The samples submitted and not yet gone, oldest first. -/
def line (audio : SubmittedAudio) : List SubmittedSample :=
  audio.submittedAudioFifo ++ (audio.waiting.map WaitingAudio.samples).getD []

/-- The samples an event brings. -/
def arriving (audio : SubmittedAudio) : Event → List SubmittedSample
  | .submitAudio source writeSamples => samplesFrom source audio.submitted writeSamples
  | _ => []

/-- What was asked of a step: the buffer keeps to the bound of the current source,
samples go from the oldest end alone, a frame taken is of consecutive samples of
one source, and one that is short takes nothing. -/
structure Orderly (format : AudioFormat) (before : SubmittedAudio) (event : Event) (after : SubmittedAudio) : Prop where
  bounded : after.submittedAudioFifo.length ≤ format.maxSubmittedAudioSamples after.submittedAudioSource
  oldest : after.line <:+ before.line ++ before.arriving event
  taken : ∀ frame, after.encoded = before.encoded ++ [some frame] →
    before.submittedAudioFifo = frame ++ after.submittedAudioFifo ∧
      ∃ source first, frame = samplesFrom source first format.audioFrameSamples
  short : ∀ preferSubmittedAudio, event = .writeAudio preferSubmittedAudio →
    before.submittedAudioFifo.length < format.audioFrameSamples →
      after = { before with encoded := before.encoded ++ [none] }

/-- A submission that goes on after a wait finds the source it was made for. -/
def SourceKept (audio : SubmittedAudio) (event : Event) : Prop :=
  ∀ late frame, event = .wake late → audio.waiting = some frame → frame.source = audio.submittedAudioSource

/-! ## The invariant -/

/-- What a waiting submission found is still there, or a source change has cleared
the buffer meanwhile. -/
structure Sound (format : AudioFormat) (audio : SubmittedAudio) : Prop where
  bounded : audio.submittedAudioFifo.length ≤ format.maxSubmittedAudioSamples audio.submittedAudioSource
  settled : audio.waiting = none → audio.submittedAudioFifo <:+ samplesFrom audio.submittedAudioSource 0 audio.submitted
  held : ∀ frame, audio.waiting = some frame →
    frame.samples.length ≤ format.maxSubmittedAudioSamples frame.source ∧
      audio.submittedAudioFifo ++ frame.samples <:+ samplesFrom frame.source 0 audio.submitted

variable {format : AudioFormat} {audio before after : SubmittedAudio} {source : Bytes}

theorem sound_initial : Sound format {} := ⟨Nat.zero_le _, fun _ => List.nil_suffix, by simp⟩

theorem Sound.consecutive (sound : Sound format audio) :
    ∃ source, audio.submittedAudioFifo <:+: samplesFrom source 0 audio.submitted := by
  cases held : audio.waiting with
  | none => exact ⟨_, (sound.settled held).isInfix⟩
  | some frame =>
    exact ⟨frame.source, (List.prefix_append _ frame.samples).isInfix.trans (sound.held frame held).2.isInfix⟩

theorem Sound.clear (sound : Sound format audio) (video source : Bytes) :
    Sound format { audio.clearSubmittedAudio with submittedVideoSource := video, submittedAudioSource := source } := by
  refine ⟨Nat.zero_le _, fun _ => List.nil_suffix, fun frame waits => ?_⟩
  obtain ⟨fits, line⟩ := sound.held frame waits
  exact ⟨fits, (List.suffix_append _ _).trans line⟩

/-- Taking from the oldest end keeps the buffer sound. -/
theorem Sound.drain (sound : Sound format audio) (count : Nat) : Sound format (audio.drain count) := by
  refine ⟨?_, fun idle => ?_, fun frame waits => ?_⟩
  · have bounded := sound.bounded
    simp only [SubmittedAudio.drain, List.length_drop]
    omega
  · exact (List.drop_suffix count _).trans (sound.settled idle)
  · obtain ⟨fits, line⟩ := sound.held frame waits
    exact ⟨fits, (List.suffix_append_self_iff.mpr (List.drop_suffix count _)).trans line⟩

/-- A frame that fits enters a buffer of its own source. -/
theorem Sound.append {frame : WaitingAudio} (sound : Sound format audio) (waits : audio.waiting = some frame)
    (same : frame.source = audio.submittedAudioSource)
    (room : audio.submittedAudioFifo.length + frame.samples.length ≤ format.maxSubmittedAudioSamples frame.source) :
    Sound format (audio.append frame.samples) := by
  obtain ⟨_, line⟩ := sound.held frame waits
  rw [same] at line room
  refine ⟨?_, fun _ => line, by simp [SubmittedAudio.append]⟩
  simpa [SubmittedAudio.append] using room

/-- Dropping as much as the frame needs, the oldest first, makes it fit. -/
theorem Sound.append_late {frame : WaitingAudio} (sound : Sound format audio) (waits : audio.waiting = some frame)
    (same : frame.source = audio.submittedAudioSource) :
    Sound format ((audio.drain (min frame.samples.length audio.submittedAudioFifo.length)).append frame.samples) := by
  refine (sound.drain _).append waits same ?_
  have bounded := sound.bounded
  have fits := (sound.held frame waits).1
  rw [← same] at bounded
  simp only [SubmittedAudio.drain, List.length_drop]
  omega

theorem Sound.wake {frame : WaitingAudio} (sound : Sound format audio) (waits : audio.waiting = some frame)
    (same : frame.source = audio.submittedAudioSource) (late : Bool) : Sound format (audio.wake format frame late) := by
  unfold SubmittedAudio.wake
  split
  · exact sound.append waits same ‹_›
  split
  · exact sound.append_late waits same
  · exact sound

/-- The source of a submission with its frame offered to the buffer. -/
def offered (audio : SubmittedAudio) (source : Bytes) (writeSamples : Nat) : SubmittedAudio :=
  { if audio.submittedAudioSource = source then audio
      else { audio.clearSubmittedAudio with submittedAudioSource := source } with
    submitted := audio.submitted + writeSamples
    waiting := some ⟨source, samplesFrom source audio.submitted writeSamples⟩ }

theorem offered_source (audio : SubmittedAudio) (source : Bytes) (writeSamples : Nat) :
    (audio.offered source writeSamples).submittedAudioSource = source := by
  unfold offered
  split
  · assumption
  · rfl

theorem Sound.offered (sound : Sound format audio) (idle : audio.waiting = none) (writeSamples : Nat)
    (fits : writeSamples ≤ format.maxSubmittedAudioSamples source) : Sound format (audio.offered source writeSamples) := by
  unfold SubmittedAudio.offered
  split
  case isTrue same =>
    have settled := sound.settled idle
    rw [same] at settled
    refine ⟨sound.bounded, by simp, ?_⟩
    rintro frame ⟨⟩
    exact ⟨by simpa using fits, suffix_submitted settled⟩
  case isFalse =>
    refine ⟨Nat.zero_le _, by simp, ?_⟩
    rintro frame ⟨⟩
    exact ⟨by simpa using fits, suffix_submitted List.nil_suffix⟩

/-! ## What goes, goes from the oldest end -/

theorem line_clear (video source : Bytes) :
    line { audio.clearSubmittedAudio with submittedVideoSource := video, submittedAudioSource := source } <:+ audio.line :=
  List.suffix_append _ _

theorem line_drain (count : Nat) : (audio.drain count).line <:+ audio.line :=
  List.suffix_append_self_iff.mpr (List.drop_suffix count _)

theorem line_append (audio : SubmittedAudio) {frame : WaitingAudio} (waits : audio.waiting = some frame) :
    (audio.append frame.samples).line = audio.line := by
  simp [line, append, waits]

theorem line_wake {frame : WaitingAudio} (waits : audio.waiting = some frame) (late : Bool) :
    (audio.wake format frame late).line <:+ audio.line := by
  unfold wake
  split
  · rw [audio.line_append waits]
  split
  · rw [(audio.drain _).line_append waits]
    exact line_drain _
  · exact List.suffix_rfl

theorem line_offered (source : Bytes) (idle : audio.waiting = none) (writeSamples : Nat) :
    (audio.offered source writeSamples).line <:+ audio.line ++ samplesFrom source audio.submitted writeSamples := by
  unfold offered
  split
  · simp [line, idle]
  · exact List.suffix_append _ _

/-! ## Submitting -/

/-- A submission offers its frame, and either waits with it or makes room and lets
it in. -/
theorem submitAudioFrame_offers (audio : SubmittedAudio) {writeSamples : Nat} (some : writeSamples ≠ 0)
    (fits : writeSamples ≤ format.maxSubmittedAudioSamples source) :
    audio.submitAudioFrame format source writeSamples = audio.offered source writeSamples ∨
      ∃ count,
        audio.submitAudioFrame format source writeSamples =
            ((audio.offered source writeSamples).drain count).append (samplesFrom source audio.submitted writeSamples) ∧
          ((audio.offered source writeSamples).drain count).submittedAudioFifo.length + writeSamples ≤
            format.maxSubmittedAudioSamples source := by
  by_cases same : audio.submittedAudioSource = source <;>
    simp only [submitAudioFrame, if_neg some, same, if_true, if_false, offered]
  all_goals split
  · refine Or.inr ⟨_, rfl, ?_⟩
    simp only [drain, List.length_drop]
    omega
  · split
    · exact Or.inr ⟨0, rfl, ‹_›⟩
    · exact Or.inl rfl
  · refine Or.inr ⟨_, rfl, ?_⟩
    simp only [drain, List.length_drop]
    omega
  · split
    · exact Or.inr ⟨0, rfl, ‹_›⟩
    · exact Or.inl rfl

theorem Sound.submitAudioFrame (sound : Sound format audio) (idle : audio.waiting = none) (writeSamples : Nat)
    (fits : writeSamples ≤ format.maxSubmittedAudioSamples source) :
    Sound format (audio.submitAudioFrame format source writeSamples) := by
  by_cases none : writeSamples = 0
  · simpa [SubmittedAudio.submitAudioFrame, none] using sound
  have offered := sound.offered idle writeSamples fits
  obtain waits | ⟨count, enters, room⟩ := audio.submitAudioFrame_offers none fits
  · rw [waits]
    exact offered
  · rw [enters]
    exact (offered.drain count).append rfl (audio.offered_source source writeSamples).symm (by simpa using room)

theorem line_submitAudioFrame (idle : audio.waiting = none) (writeSamples : Nat)
    (fits : writeSamples ≤ format.maxSubmittedAudioSamples source) :
    (audio.submitAudioFrame format source writeSamples).line <:+
      audio.line ++ samplesFrom source audio.submitted writeSamples := by
  by_cases none : writeSamples = 0
  · simp [submitAudioFrame, none, samplesFrom]
  have offered := line_offered source idle writeSamples
  obtain waits | ⟨count, enters, _⟩ := audio.submitAudioFrame_offers none fits
  · rwa [waits]
  · rw [enters]
    have line : (((audio.offered source writeSamples).drain count).append _).line = _ := line_append _ rfl
    rw [line]
    exact (line_drain count).trans offered

/-! ## Source changes -/

/-- A change of source clears the buffer, or concerns video alone. -/
def Changed (before after : SubmittedAudio) : Prop :=
  ∃ video source,
    after = { before.clearSubmittedAudio with submittedVideoSource := video, submittedAudioSource := source } ∨
      after = { before with submittedVideoSource := video }

theorem changed_begin : Changed audio (audio.beginSubmittedSource source) := ⟨source, source, .inl rfl⟩

theorem changed_end : Changed audio (audio.endSubmittedSource source) := by
  unfold endSubmittedSource
  by_cases video : audio.submittedVideoSource = source <;> by_cases same : audio.submittedAudioSource = source <;>
    simp only [video, same, if_true, if_false]
  · exact ⟨_, _, .inl rfl⟩
  · exact ⟨_, audio.submittedAudioSource, .inr rfl⟩
  · exact ⟨audio.submittedVideoSource, _, .inl rfl⟩
  · exact ⟨audio.submittedVideoSource, audio.submittedAudioSource, .inr rfl⟩

theorem changed_submitVideo : Changed audio (audio.submitVideoFrame source) := by
  unfold submitVideoFrame
  split
  · exact ⟨audio.submittedVideoSource, audio.submittedAudioSource, .inr rfl⟩
  · exact ⟨source, audio.submittedAudioSource, .inl rfl⟩

theorem Sound.changed (sound : Sound format before) (changed : Changed before after) : Sound format after := by
  obtain ⟨video, source, rfl | rfl⟩ := changed
  · exact sound.clear video source
  · exact ⟨sound.bounded, sound.settled, sound.held⟩

theorem line_changed (changed : Changed before after) : after.line <:+ before.line := by
  obtain ⟨video, source, rfl | rfl⟩ := changed
  · exact line_clear video source
  · exact List.suffix_rfl

/-! ## Steps and runs -/

theorem Sound.writeAudioFrame (sound : Sound format audio) (preferSubmittedAudio : Bool) :
    Sound format (audio.writeAudioFrame format preferSubmittedAudio) := by
  unfold SubmittedAudio.writeAudioFrame
  split
  · have drained := sound.drain format.audioFrameSamples
    exact ⟨drained.bounded, drained.settled, drained.held⟩
  · exact ⟨sound.bounded, sound.settled, sound.held⟩

/-- The frame that a write takes is of consecutive samples of one source. -/
theorem Sound.take (sound : Sound format audio) {count : Nat} (enough : count ≤ audio.submittedAudioFifo.length) :
    ∃ source first, audio.submittedAudioFifo.take count = samplesFrom source first count := by
  obtain ⟨source, within⟩ := sound.consecutive
  obtain ⟨first, shape⟩ := samplesFrom_of_infix ((List.take_prefix count _).isInfix.trans within)
  rw [List.length_take_of_le enough] at shape
  exact ⟨source, first, shape⟩

theorem orderly_writeAudioFrame (sound : Sound format audio) (preferSubmittedAudio : Bool) :
    Orderly format audio (.writeAudio preferSubmittedAudio) (audio.writeAudioFrame format preferSubmittedAudio) := by
  refine ⟨(sound.writeAudioFrame preferSubmittedAudio).bounded, ?_, ?_, ?_⟩
  · rw [show audio.arriving (.writeAudio preferSubmittedAudio) = [] from rfl, List.append_nil]
    unfold writeAudioFrame
    split
    · exact line_drain format.audioFrameSamples
    · exact List.suffix_rfl
  · intro frame wrote
    unfold writeAudioFrame at wrote ⊢
    split at wrote
    case isTrue enough =>
      simp only [Bool.and_eq_true, decide_eq_true_eq] at enough
      simp only [List.append_cancel_left_eq, List.cons.injEq, Option.some.injEq, and_true] at wrote
      subst wrote
      simp only [enough, decide_true, Bool.and_self, if_true]
      exact ⟨(List.take_append_drop _ _).symm, sound.take enough.2⟩
    case isFalse => simp at wrote
  · rintro _ ⟨⟩ few
    simp [writeAudioFrame, Nat.not_le.mpr few]

/-- A step that gives the encoder nothing is orderly when its buffer is sound and it
keeps the order. -/
theorem orderly_of_silent {event : Event} (sound : Sound format after)
    (oldest : after.line <:+ before.line ++ before.arriving event) (silent : after.encoded = before.encoded)
    (other : ∀ preferSubmittedAudio, event ≠ .writeAudio preferSubmittedAudio) :
    Orderly format before event after where
  bounded := sound.bounded
  oldest := oldest
  taken frame wrote := by simp [silent] at wrote
  short preferSubmittedAudio written := absurd written (other preferSubmittedAudio)

theorem orderly_of_changed {event : Event} (sound : Sound format before) (changed : Changed before after)
    (other : ∀ preferSubmittedAudio, event ≠ .writeAudio preferSubmittedAudio) (none : before.arriving event = []) :
    Sound format after ∧ Orderly format before event after := by
  refine ⟨sound.changed changed, orderly_of_silent (sound.changed changed) ?_ ?_ other⟩
  · rw [none, List.append_nil]
    exact line_changed changed
  · obtain ⟨video, source, rfl | rfl⟩ := changed <;> rfl

theorem submitAudioFrame_encoded (writeSamples : Nat) :
    (audio.submitAudioFrame format source writeSamples).encoded = audio.encoded := by
  unfold submitAudioFrame
  grind [append, drain, clearSubmittedAudio]

theorem wake_encoded {frame : WaitingAudio} (late : Bool) : (audio.wake format frame late).encoded = audio.encoded := by
  unfold wake
  grind [append, drain]

theorem sound_step {event : Event} (sound : Sound format before) (kept : SourceKept before event)
    (stepped : step format before event = some after) : Sound format after ∧ Orderly format before event after := by
  cases event with
  | submitAudio source writeSamples =>
    simp only [step, Option.isNone_iff_eq_none] at stepped
    split at stepped
    case isTrue free =>
      obtain ⟨idle, fits⟩ := free
      obtain rfl := Option.some.inj stepped
      have submitted := sound.submitAudioFrame idle writeSamples fits
      exact ⟨submitted, orderly_of_silent submitted (line_submitAudioFrame idle writeSamples fits)
        (submitAudioFrame_encoded writeSamples) (by simp)⟩
    case isFalse => cases stepped
  | wake late =>
    obtain ⟨frame, waits, rfl⟩ := Option.map_eq_some_iff.mp stepped
    have woken := sound.wake waits (kept late frame rfl waits) late
    refine ⟨woken, orderly_of_silent woken ?_ (wake_encoded late) (by simp)⟩
    rw [show before.arriving (.wake late) = [] from rfl, List.append_nil]
    exact line_wake waits late
  | submitVideo source =>
    obtain rfl := Option.some.inj stepped
    exact orderly_of_changed sound changed_submitVideo (by simp) rfl
  | beginSource source =>
    obtain rfl := Option.some.inj stepped
    exact orderly_of_changed sound changed_begin (by simp) rfl
  | endSource source =>
    obtain rfl := Option.some.inj stepped
    exact orderly_of_changed sound changed_end (by simp) rfl
  | writeAudio preferSubmittedAudio =>
    obtain rfl := Option.some.inj stepped
    exact ⟨sound.writeAudioFrame preferSubmittedAudio, orderly_writeAudioFrame sound preferSubmittedAudio⟩

/-- Submitted audio stays bounded and in order as long as every submission that
waited finds its own source when it goes on. -/
theorem submitted_audio_orderly (format : AudioFormat) (events : List Event)
    (kept : Runs.Guarded (step format) SourceKept {} events) :
    Runs.Throughout (step format) (Orderly format) {} events :=
  Runs.throughout_of_guarded (Sound format) (fun _ _ _ => sound_step) sound_initial kept

/-- Two seconds of live audio, as much as the buffer takes. -/
def fullOfLive : SubmittedAudio where
  submittedAudioSource := bytes "live"
  submittedAudioFifo := samplesFrom (bytes "live") 0 96000
  submitted := 96000

/-- The last, short frame of the live source waits for room. -/
def liveWaits : SubmittedAudio :=
  { fullOfLive with waiting := some ⟨bytes "live", samplesFrom (bytes "live") 96000 100⟩, submitted := 96100 }

/-- The short frame of the live source in the buffer of the analogue one. -/
def liveInAnalogue : SubmittedAudio where
  submittedVideoSource := bytes "analogue"
  submittedAudioSource := bytes "analogue"
  submittedAudioFifo := samplesFrom (bytes "live") 96000 100
  submitted := 96100

theorem live_max : ({} : AudioFormat).maxSubmittedAudioSamples (bytes "live") = 96000 := by decide

theorem step_fullOfLive : step {} {} (.submitAudio (bytes "live") 96000) = some fullOfLive := by
  have other : bytes "submitted" ≠ bytes "live" := by decide
  have live : bytes "live" ≠ bytes "fallback-video" := by decide
  simp [step, submitAudioFrame, live_max, other, live, clearSubmittedAudio, append, fullOfLive]

theorem step_liveWaits : step {} fullOfLive (.submitAudio (bytes "live") 100) = some liveWaits := by
  have live : bytes "live" ≠ bytes "fallback-video" := by decide
  simp [step, submitAudioFrame, live_max, live, liveWaits, fullOfLive]

theorem slow_live_orderly :
    Runs.Throughout (step {}) (Orderly {}) {}
      [.submitAudio (bytes "live") 96000, .submitAudio (bytes "live") 100, .wake true] := by
  apply submitted_audio_orderly
  rintro _ stepped
  obtain rfl := Option.some.inj (step_fullOfLive.symm.trans stepped)
  refine ⟨by simp [SourceKept], fun _ stepped => ?_⟩
  obtain rfl := Option.some.inj (step_liveWaits.symm.trans stepped)
  refine ⟨by simp [SourceKept], fun _ _ => ⟨?_, trivial⟩⟩
  simp [SourceKept, liveWaits, fullOfLive]

theorem step_liveInAnalogue :
    step {} (liveWaits.beginSubmittedSource (bytes "analogue")) (.wake false) = some liveInAnalogue := by
  simp [step, beginSubmittedSource, clearSubmittedAudio, wake, append, liveWaits, fullOfLive, liveInAnalogue, live_max]

/-- An analogue frame after the live samples. -/
def mixed : SubmittedAudio :=
  { liveInAnalogue with
    submittedAudioFifo := samplesFrom (bytes "live") 96000 100 ++ samplesFrom (bytes "analogue") 96100 1024
    submitted := 97124 }

theorem step_mixed : step {} liveInAnalogue (.submitAudio (bytes "analogue") 1024) = some mixed := by
  have analogue : bytes "analogue" ≠ bytes "fallback-video" := by decide
  have bound : ({} : AudioFormat).maxSubmittedAudioSamples (bytes "analogue") = 96000 := by decide
  simp [step, submitAudioFrame, bound, analogue, append, liveInAnalogue, mixed]

/-- The analogue source begins while the live one waits, and a frame of both is sent. -/
theorem live_in_analogue_frame :
    ¬ Runs.Throughout (step {}) (Orderly {}) {}
      [.submitAudio (bytes "live") 96000, .submitAudio (bytes "live") 100, .beginSource (bytes "analogue"), .wake false,
        .submitAudio (bytes "analogue") 1024, .writeAudio true] := by
  intro orderly
  have waiting := ((orderly _ step_fullOfLive).2 _ step_liveWaits).2 _ rfl
  have written := (((waiting.2 _ step_liveInAnalogue).2 _ step_mixed).2 _ rfl).1
  have frameSamples : ({} : AudioFormat).audioFrameSamples = 1024 := rfl
  have enough : 1024 ≤ mixed.submittedAudioFifo.length := by simp [mixed]
  have wrote : (mixed.writeAudioFrame {} true).encoded = mixed.encoded ++ [some (mixed.submittedAudioFifo.take 1024)] := by
    simp [writeAudioFrame, frameSamples, enough]
  obtain ⟨_, source, first, frame⟩ := written.taken _ wrote
  have alike (index : Nat) (inside : index < 1024) :
      (mixed.submittedAudioFifo.take 1024)[index]?.map SubmittedSample.source = some source := by
    simp [frame, samplesFrom, frameSamples, inside]
  have live := alike 0 (by decide)
  have analogue := alike 100 (by decide)
  exact absurd (live.trans analogue.symm) (by simp [mixed, samplesFrom])

end SubmittedAudio
end WhRepeater
