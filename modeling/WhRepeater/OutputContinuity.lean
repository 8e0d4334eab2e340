import WhRepeater.OutputClock
import WhRepeater.Runs

/-! The output clock never skips: on every muxer the video timestamps count its
frames, the audio timestamps its samples, and the audio stays within one audio
frame of the video, however long the run. -/
namespace WhRepeater

open Runs

namespace Encoded

def isVideo : Encoded → Bool
  | .video .. => true
  | .audio .. => false

def samples : Encoded → Int
  | .video .. => 0
  | .audio _ samples => samples.toInt

end Encoded

def videosIn (encoded : List Encoded) : Nat := encoded.countP Encoded.isVideo

def samplesIn (encoded : List Encoded) : Int := (encoded.map Encoded.samples).sum

@[simp] theorem videosIn_append_video (encoded : List Encoded) (pts frameIndex : Int64) :
    videosIn (encoded ++ [.video pts frameIndex]) = videosIn encoded + 1 := by
  simp [videosIn, Encoded.isVideo]

@[simp] theorem videosIn_append_audio (encoded : List Encoded) (pts : Int64) (samples : Int32) :
    videosIn (encoded ++ [.audio pts samples]) = videosIn encoded := by
  simp [videosIn, Encoded.isVideo]

@[simp] theorem samplesIn_append (encoded : List Encoded) (entry : Encoded) :
    samplesIn (encoded ++ [entry]) = samplesIn encoded + entry.samples := by
  simp [samplesIn]

/-- A video timestamp is the frame's index and the number of frames before it; an
audio timestamp is the number of samples before it. -/
def Encoded.Follows (earlier : List Encoded) : Encoded → Prop
  | .video pts frameIndex => frameIndex = pts ∧ pts.toInt = videosIn earlier
  | .audio pts _ => pts.toInt = samplesIn earlier

def InOrder (encoded : List Encoded) : Prop :=
  ∀ earlier entry later, encoded = earlier ++ entry :: later → entry.Follows earlier

theorem inOrder_nil : InOrder [] := by
  intro earlier entry later split
  simp at split

theorem InOrder.append {encoded : List Encoded} {entry : Encoded} (order : InOrder encoded) (follows : entry.Follows encoded) :
    InOrder (encoded ++ [entry]) := by
  intro earlier found later split
  rcases List.eq_nil_or_concat later with rfl | ⟨init, last, rfl⟩
  · obtain ⟨rfl, same⟩ := List.append_inj' split rfl
    obtain rfl := (List.cons.inj same).1
    exact follows
  · have halves : encoded ++ [entry] = (earlier ++ found :: init) ++ [last] := by simpa using split
    exact order earlier found init (List.append_inj' halves rfl).1

namespace FallbackMuxer

/-- How far the audio is behind the video. -/
def lag (muxer : FallbackMuxer) : Int :=
  targetSample (videosIn muxer.encoded) defaultOutputAudioSampleRate.toInt muxer.frameRate.toInt - muxer.audioSampleIndex.toInt

structure Continuous (muxer : FallbackMuxer) : Prop where
  inOrder : InOrder muxer.encoded
  notAhead : 0 ≤ muxer.lag
  notBehind : muxer.lag < muxer.audioFrameSamples.toInt

/-- The next frame, and the audio up to it, are within the counters' 64 bits. -/
def InRange (muxer : FallbackMuxer) : Prop :=
  (videosIn muxer.encoded + 1) * defaultOutputAudioSampleRate.toInt + muxer.audioFrameSamples.toInt < 2 ^ 63

instance (muxer : FallbackMuxer) : Decidable muxer.InRange := inferInstanceAs (Decidable (_ < _))

/-- The counters say what the encoders were given. -/
structure Counted (muxer : FallbackMuxer) : Prop where
  frameRate_pos : 0 < muxer.frameRate.toInt
  samples_pos : 0 < muxer.audioFrameSamples.toInt
  opened : muxer.audioOpened = true
  video : muxer.nextVideoPts.toInt = videosIn muxer.encoded
  audio : muxer.audioSampleIndex.toInt = samplesIn muxer.encoded
  audio_nonneg : 0 ≤ muxer.audioSampleIndex.toInt
  inOrder : InOrder muxer.encoded

/-- What the tone that follows a notice leaves alone. -/
structure SameClock (before after : FallbackMuxer) : Prop where
  frameRate : after.frameRate = before.frameRate
  audioFrameSamples : after.audioFrameSamples = before.audioFrameSamples
  audioOpened : after.audioOpened = before.audioOpened
  lastVideoPts : after.lastVideoPts = before.lastVideoPts
  audioSampleIndex : after.audioSampleIndex = before.audioSampleIndex
  encoded : after.encoded = before.encoded

variable {muxer : FallbackMuxer}

theorem setNotice_sameClock (muxer : FallbackMuxer) (notice : Option Bytes) (endTone : Bool) :
    SameClock muxer (muxer.setNotice notice endTone) := by
  unfold setNotice
  split
  · split <;> exact ⟨rfl, rfl, rfl, rfl, rfl, rfl⟩
  · dsimp only
    split <;> exact ⟨rfl, rfl, rfl, rfl, rfl, rfl⟩

theorem arm_sameClock (muxer : FallbackMuxer) : SameClock muxer muxer.armNoticeMorseIfPending := by
  unfold armNoticeMorseIfPending
  split <;> exact ⟨rfl, rfl, rfl, rfl, rfl, rfl⟩

theorem Counted.of_sameClock {before after : FallbackMuxer} (counted : Counted before) (same : SameClock before after) :
    Counted after := by
  obtain ⟨frameRate, samples, opened, last, index, encoded⟩ := same
  refine ⟨frameRate ▸ counted.frameRate_pos, samples ▸ counted.samples_pos, opened ▸ counted.opened, ?_, ?_,
    index ▸ counted.audio_nonneg, encoded ▸ counted.inOrder⟩
  · rw [nextVideoPts, last, encoded]
    exact counted.video
  · rw [index, encoded]
    exact counted.audio

theorem SameClock.lag_eq {before after : FallbackMuxer} (same : SameClock before after) : after.lag = before.lag := by
  rw [lag, lag, same.encoded, same.frameRate, same.audioSampleIndex]

theorem Continuous.of_sameClock {before after : FallbackMuxer} (continuous : Continuous before) (same : SameClock before after) :
    Continuous after := by
  refine ⟨same.encoded ▸ continuous.inOrder, ?_, ?_⟩
  · rw [same.lag_eq]
    exact continuous.notAhead
  · rw [same.lag_eq, same.audioFrameSamples]
    exact continuous.notBehind

theorem InRange.of_sameClock {before after : FallbackMuxer} (room : InRange before) (same : SameClock before after) :
    InRange after := by
  rw [InRange, same.encoded, same.audioFrameSamples]
  exact room

theorem construct_counted (config : RepeaterConfig) {encoder : AudioEncoder} (available : encoder ≠ .unavailable) :
    Counted (construct config encoder) where
  frameRate_pos := by
    have := (clampedOutputFrameRate_range config.pluto.outputFrameRate).1
    exact Int.add_one_le_iff.mp this
  samples_pos := by
    have default : 0 < (1024 : Int32).toInt := by decide
    unfold construct
    cases encoder with
    | gstreamer => exact default
    | unavailable => contradiction
    | aac frameSize =>
      dsimp only
      split
      · rename_i some
        exact Int32.lt_iff_toInt_lt.mp some
      · exact default
  opened := by simpa [construct] using available
  video := rfl
  audio := rfl
  audio_nonneg := Int.le_refl 0
  inOrder := inOrder_nil

/-! ## A frame -/

theorem writeAudioFrame_counted (counted : Counted muxer)
    (fits : muxer.audioSampleIndex.toInt + muxer.audioFrameSamples.toInt < 2 ^ 63) :
    Counted (muxer.writeAudioFrame muxer.audioFrameSamples) ∧
      (muxer.writeAudioFrame muxer.audioFrameSamples).audioSampleIndex.toInt =
        muxer.audioSampleIndex.toInt + muxer.audioFrameSamples.toInt := by
  have same := arm_sameClock muxer
  have armed := counted.of_sameClock same
  have moved : (muxer.writeAudioFrame muxer.audioFrameSamples).audioSampleIndex.toInt =
      muxer.audioSampleIndex.toInt + muxer.audioFrameSamples.toInt := by
    change (_ + muxer.audioFrameSamples.toInt64).toInt = _
    have positive := counted.samples_pos
    have started := counted.audio_nonneg
    rw [same.audioSampleIndex, toInt_add_of_range] <;> rw [Int32.toInt_toInt64]
    · omega
    · exact fits
  refine ⟨⟨armed.frameRate_pos, armed.samples_pos, armed.opened, ?_, ?_, ?_, ?_⟩, moved⟩
  · change _ = (videosIn (_ ++ [_]) : Int)
    rw [videosIn_append_audio]
    exact armed.video
  · change _ = samplesIn (_ ++ [_])
    rw [moved, samplesIn_append, counted.audio, same.encoded]
    rfl
  · rw [moved]
    exact Int.add_nonneg counted.audio_nonneg (Int.le_of_lt counted.samples_pos)
  · exact armed.inOrder.append armed.audio

/-- What the loop over the due audio leaves alone. -/
structure SameVideo (before after : FallbackMuxer) : Prop where
  frameRate : after.frameRate = before.frameRate
  audioFrameSamples : after.audioFrameSamples = before.audioFrameSamples
  lastVideoPts : after.lastVideoPts = before.lastVideoPts
  videosIn : videosIn after.encoded = videosIn before.encoded

theorem writeAudioFrame_sameVideo (muxer : FallbackMuxer) (samples : Int32) : SameVideo muxer (muxer.writeAudioFrame samples) := by
  have same := arm_sameClock muxer
  refine ⟨same.frameRate, same.audioFrameSamples, same.lastVideoPts, ?_⟩
  change videosIn (_ ++ [_]) = _
  rw [videosIn_append_audio, same.encoded]

theorem SameVideo.trans {first second third : FallbackMuxer} (front : SameVideo first second) (back : SameVideo second third) :
    SameVideo first third :=
  ⟨back.frameRate.trans front.frameRate, back.audioFrameSamples.trans front.audioFrameSamples,
    back.lastVideoPts.trans front.lastVideoPts, back.videosIn.trans front.videosIn⟩

theorem SameVideo.refl (muxer : FallbackMuxer) : SameVideo muxer muxer := ⟨rfl, rfl, rfl, rfl⟩

/-- The sample the audio may run to before a video frame. -/
def target (muxer : FallbackMuxer) (next : Int64) : Int :=
  targetSample next.toInt defaultOutputAudioSampleRate.toInt muxer.frameRate.toInt

/-- With as many turns as there are samples to write the loop ends, and it ends
less than one audio frame before the target. -/
theorem writeDueAudio_ends (muxer : FallbackMuxer) (next : Int64) (turns : Nat) (started : 0 ≤ next.toInt)
    (room : next.toInt * defaultOutputAudioSampleRate.toInt + muxer.audioFrameSamples.toInt < 2 ^ 63) (counted : Counted muxer)
    (notAhead : muxer.audioSampleIndex.toInt ≤ muxer.target next)
    (enough : muxer.target next < muxer.audioSampleIndex.toInt + turns) :
    ∃ after, writeDueAudio next turns muxer = some after ∧ Counted after ∧ SameVideo muxer after ∧
      after.audioSampleIndex.toInt ≤ muxer.target next ∧
      muxer.target next < after.audioSampleIndex.toInt + muxer.audioFrameSamples.toInt := by
  induction turns generalizing muxer with
  | zero =>
    exfalso
    omega
  | succ turns ih =>
    have product : 0 ≤ next.toInt * defaultOutputAudioSampleRate.toInt :=
      Int.mul_nonneg started (Int.le_of_lt defaultOutputAudioSampleRate_pos)
    have below : muxer.target next ≤ next.toInt * defaultOutputAudioSampleRate.toInt := Int.ediv_le_self _ product
    have positive := counted.samples_pos
    have indexed := counted.audio_nonneg
    have due : audioFrameDue muxer.audioSampleIndex muxer.audioFrameSamples next defaultOutputAudioSampleRate muxer.frameRate = true ↔
        muxer.audioSampleIndex.toInt + muxer.audioFrameSamples.toInt ≤ muxer.target next :=
      audioFrameDue_iff started defaultOutputAudioSampleRate_pos counted.frameRate_pos (by omega) positive indexed (by omega)
    rw [writeDueAudio]
    split
    · rename_i isDue
      have fits := due.mp isDue
      obtain ⟨written, moved⟩ := writeAudioFrame_counted counted (by omega)
      have same := writeAudioFrame_sameVideo muxer muxer.audioFrameSamples
      have aim : (muxer.writeAudioFrame muxer.audioFrameSamples).target next = muxer.target next := by
        rw [target, same.frameRate, target]
      have ended := ih (muxer.writeAudioFrame muxer.audioFrameSamples) (by rw [same.audioFrameSamples]; exact room)
        written (by omega) (by omega)
      obtain ⟨after, found, afterCounted, sameVideo, notAhead, notBehind⟩ := ended
      rw [aim] at notAhead notBehind
      rw [same.audioFrameSamples] at notBehind
      exact ⟨after, found, afterCounted, same.trans sameVideo, notAhead, notBehind⟩
    · rename_i notDue
      have short := mt due.mpr notDue
      exact ⟨muxer, rfl, counted, .refl muxer, notAhead, by omega⟩

theorem encode_counted (counted : Counted muxer) (room : (videosIn muxer.encoded : Int) + 1 < 2 ^ 63) :
    Counted (muxer.encode muxer.nextVideoPts) := by
  have video := counted.video
  refine ⟨counted.frameRate_pos, counted.samples_pos, counted.opened, ?_, ?_, counted.audio_nonneg,
    counted.inOrder.append ⟨rfl, video⟩⟩
  · change (nextOutputVideoPts muxer.nextVideoPts).toInt = (videosIn (_ ++ [_]) : Int)
    rw [videosIn_append_video, toInt_nextOutputVideoPts (by omega) (by omega), video]
    rfl
  · change _ = samplesIn (_ ++ [_])
    rw [samplesIn_append, Encoded.samples, Int.add_zero]
    exact counted.audio

/-- A frame at the next index is written, and its audio ends. -/
theorem writeFrame_continuous (counted : Counted muxer) (continuous : Continuous muxer) (room : InRange muxer) :
    ∃ after, muxer.writeFrame muxer.nextVideoPts = some after ∧ Counted after ∧ Continuous after ∧
      after.lastVideoPts = muxer.nextVideoPts := by
  have video := counted.video
  have positive := counted.samples_pos
  rw [InRange, toInt_defaultOutputAudioSampleRate] at room
  have encoded := encode_counted counted (by omega)
  have next : (muxer.nextVideoPts + 1).toInt = videosIn muxer.encoded + 1 := by
    rw [← video]
    exact toInt_add_of_range (by simp; omega) (by simp; omega)
  have aim : (muxer.encode muxer.nextVideoPts).target (muxer.nextVideoPts + 1) =
      targetSample (videosIn muxer.encoded + 1) defaultOutputAudioSampleRate.toInt muxer.frameRate.toInt := by
    rw [target, next]
    rfl
  have later : targetSample (videosIn muxer.encoded) defaultOutputAudioSampleRate.toInt muxer.frameRate.toInt ≤
      (muxer.encode muxer.nextVideoPts).target (muxer.nextVideoPts + 1) := by
    rw [aim]
    exact targetSample_mono (Int.le_of_lt defaultOutputAudioSampleRate_pos) counted.frameRate_pos (by omega)
  have below : (muxer.encode muxer.nextVideoPts).target (muxer.nextVideoPts + 1) ≤ (videosIn muxer.encoded + 1) * 48000 := by
    rw [aim, toInt_defaultOutputAudioSampleRate]
    exact Int.ediv_le_self _ (by omega)
  have notAhead := continuous.notAhead
  rw [lag] at notAhead
  have started := counted.audio_nonneg
  obtain ⟨after, written, afterCounted, same, notAhead, notBehind⟩ := writeDueAudio_ends
    (muxer.encode muxer.nextVideoPts) (muxer.nextVideoPts + 1) (2 ^ 64) (by omega) (by rw [next, toInt_defaultOutputAudioSampleRate]; exact room) encoded
    (show muxer.audioSampleIndex.toInt ≤ _ by omega) (show _ < muxer.audioSampleIndex.toInt + _ by omega)
  have lagged : after.lag = (muxer.encode muxer.nextVideoPts).target (muxer.nextVideoPts + 1) - after.audioSampleIndex.toInt := by
    rw [lag, same.frameRate, same.videosIn, aim, encode, videosIn_append_video]
    rfl
  refine ⟨after, ?_, afterCounted, ⟨afterCounted.inOrder, by omega, ?_⟩, same.lastVideoPts⟩
  · rw [writeFrame, writeAudioUntil, if_pos encoded.opened]
    exact written
  · rw [lagged, same.audioFrameSamples]
    exact Int.sub_left_lt_of_lt_add notBehind

end FallbackMuxer

namespace OutputClock

open FallbackMuxer

/-- The muxers of a run: those destroyed, and the one held. -/
def muxers (clock : OutputClock) : List FallbackMuxer := clock.retired ++ clock.fallbackMuxer.toList

/-- The audio encoder opens, and the frame of the pass is within the counters'
64 bits. -/
def InRange (clock : OutputClock) (pass : WorkerPass) : Prop :=
  pass.encoder ≠ .unavailable ∧ ∀ muxer ∈ clock.fallbackMuxer, muxer.InRange

instance (clock : OutputClock) (pass : WorkerPass) : Decidable (clock.InRange pass) := inferInstanceAs (Decidable (_ ∧ _))

structure Ticking (clock : OutputClock) : Prop where
  unstuck : clock.stuck = false
  retired : ∀ muxer ∈ clock.retired, Continuous muxer
  held : ∀ muxer, clock.fallbackMuxer = some muxer →
    Counted muxer ∧ Continuous muxer ∧ clock.fallbackFrameIndex = muxer.nextVideoPts

variable {clock : OutputClock} {pass : WorkerPass}

theorem Ticking.continuous (ticking : Ticking clock) : ∀ muxer ∈ clock.muxers, Continuous muxer := by
  intro muxer found
  rcases List.mem_append.mp found with old | current
  · exact ticking.retired muxer old
  · exact (ticking.held muxer (Option.mem_toList.mp current)).2.1

theorem Ticking.retire (ticking : Ticking clock) : Ticking clock.retire where
  unstuck := ticking.unstuck
  retired := ticking.continuous
  held := by
    intro muxer held
    cases held

theorem construct_continuous (config : RepeaterConfig) {encoder : AudioEncoder} (available : encoder ≠ .unavailable) :
    Continuous (construct config encoder) := by
  have counted := construct_counted config available
  have still : (construct config encoder).lag = 0 := by
    change 0 * _ / _ - 0 = (0 : Int)
    rw [Int.zero_mul, Int.zero_ediv, Int.sub_zero]
  exact ⟨counted.inOrder, still.ge, still ▸ counted.samples_pos⟩

theorem construct_inRange (config : RepeaterConfig) (encoder : AudioEncoder) : (construct config encoder).InRange := by
  have most := (construct config encoder).audioFrameSamples.toInt_lt
  have empty : videosIn (construct config encoder).encoded = 0 := rfl
  rw [FallbackMuxer.InRange, toInt_defaultOutputAudioSampleRate, empty]
  omega

/-- A muxer that is opened starts at the index of its first frame, whichever of
the two ways the mode takes. -/
theorem openMuxer_ticking (ticking : Ticking clock) (room : clock.InRange pass) :
    Ticking (clock.openMuxer pass) ∧ (clock.openMuxer pass).InRange pass := by
  unfold openMuxer
  split
  · exact ⟨ticking, room⟩
  · refine ⟨⟨ticking.unstuck, ticking.retired, ?_⟩, room.1, ?_⟩
    · intro muxer opened
      obtain rfl := Option.some.inj opened
      refine ⟨construct_counted clock.config room.1, construct_continuous clock.config room.1, ?_⟩
      exact ite_eq_right_iff.mpr fun _ => rfl
    · intro muxer opened
      obtain rfl := Option.some.inj opened
      exact construct_inRange clock.config pass.encoder

theorem write_ticking {muxer : FallbackMuxer} (ticking : Ticking clock) (held : clock.fallbackMuxer = some muxer)
    (room : muxer.InRange) : Ticking (clock.write pass muxer) := by
  obtain ⟨counted, continuous, index⟩ := ticking.held muxer held
  have same := setNotice_sameClock muxer (pass.shownNotice clock.config).1 (pass.shownNotice clock.config).2
  unfold write
  dsimp only
  generalize muxer.setNotice (pass.shownNotice clock.config).1 (pass.shownNotice clock.config).2 = noticed at same ⊢
  have next : noticed.nextVideoPts = muxer.nextVideoPts := by rw [nextVideoPts, nextVideoPts, same.lastVideoPts]
  have chosen : max clock.fallbackFrameIndex noticed.nextVideoPts = noticed.nextVideoPts := by
    rw [index, next]
    exact if_pos (Int64.le_refl _)
  have noticedCounted := counted.of_sameClock same
  obtain ⟨after, written, afterCounted, afterContinuous, last⟩ :=
    writeFrame_continuous noticedCounted (continuous.of_sameClock same) (room.of_sameClock same)
  rw [chosen, written]
  refine ⟨ticking.unstuck, ticking.retired, ?_⟩
  intro current same
  obtain rfl := Option.some.inj same
  refine ⟨afterCounted, afterContinuous, ?_⟩
  have started : 0 ≤ noticed.nextVideoPts.toInt := noticedCounted.video ▸ Int.natCast_nonneg _
  change noticed.nextVideoPts + 1 = nextOutputVideoPts after.lastVideoPts
  rw [last, nextOutputVideoPts_next started]

theorem resync_ticking (ticking : Ticking clock) : Ticking (clock.resync pass) := by
  unfold resync
  split
  · rename_i muxer held
    split
    · refine ⟨ticking.unstuck, ticking.retired, ?_⟩
      intro current same
      obtain rfl := Option.some.inj (held.symm.trans same)
      obtain ⟨counted, continuous, -⟩ := ticking.held muxer held
      exact ⟨counted, continuous, rfl⟩
    · exact ticking
  · exact ticking

theorem writePass_ticking (ticking : Ticking clock) (room : clock.InRange pass) : Ticking (clock.writePass pass) := by
  unfold writePass
  split
  · rename_i muxer held
    split
    · exact resync_ticking (write_ticking ticking held (room.2 muxer held))
    · exact ticking
  · exact ticking

theorem pass_ticking (ticking : Ticking clock) (room : clock.InRange pass) : Ticking (clock.pass pass) := by
  obtain ⟨opened, room⟩ := openMuxer_ticking ticking room
  have written := writePass_ticking opened room
  unfold OutputClock.pass
  split
  · exact ticking.retire
  · split
    · exact ticking.retire
    · exact opened.retire
    · dsimp only
      rw [if_neg (by simp [written.unstuck])]
      exact written.retire
    · exact written

end OutputClock

end WhRepeater
