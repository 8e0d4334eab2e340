import WhRepeater.Types

/-! The output clock (`media_timing.cpp`): the next video timestamp, and how far
the audio may run for a video frame. The arithmetic is that of `std::int64_t`, and
what it comes to is stated in the integers. -/
namespace WhRepeater

def clampedOutputFrameRate (configuredFrameRate : UInt32) : Int32 := max 1 (min configuredFrameRate.toInt32 50)

def nextOutputVideoPts (lastVideoPts : Int64) : Int64 :=
  if lastVideoPts = Int64.minValue then 0
  else if lastVideoPts < 0 then 0
  else lastVideoPts + 1

def audioTargetSampleForVideoFrame (nextVideoFrame : Int64) (audioSampleRate frameRate : Int32) : Int64 :=
  nextVideoFrame * (max 1 audioSampleRate).toInt64 / (max 1 frameRate).toInt64

def audioFrameDue (audioSampleIndex : Int64) (audioFrameSamples : Int32) (nextVideoFrame : Int64)
    (audioSampleRate frameRate : Int32) : Bool :=
  audioSampleIndex + (max 1 audioFrameSamples).toInt64 ≤ audioTargetSampleForVideoFrame nextVideoFrame audioSampleRate frameRate

/-! ## In the integers -/

theorem toInt_add_of_range {first second : Int64} (low : -2 ^ 63 ≤ first.toInt + second.toInt)
    (high : first.toInt + second.toInt < 2 ^ 63) : (first + second).toInt = first.toInt + second.toInt := by
  rw [Int64.toInt_add]
  exact Int.bmod_eq_of_le (by omega) (by omega)

theorem toInt_mul_of_range {first second : Int64} (low : -2 ^ 63 ≤ first.toInt * second.toInt)
    (high : first.toInt * second.toInt < 2 ^ 63) : (first * second).toInt = first.toInt * second.toInt := by
  rw [Int64.toInt_mul]
  exact Int.bmod_eq_of_le (by omega) (by omega)

theorem max_one_of_pos {value : Int32} (pos : 0 < value.toInt) : max 1 value = value := by
  have one : (1 : Int32) ≤ value := Int32.le_iff_toInt_le.mpr (Int.add_one_le_iff.mpr pos)
  exact if_pos one

theorem clampedOutputFrameRate_range (configured : UInt32) :
    1 ≤ (clampedOutputFrameRate configured).toInt ∧ (clampedOutputFrameRate configured).toInt ≤ 50 := by
  have low : (1 : Int32) ≤ clampedOutputFrameRate configured := by
    change (1 : Int32) ≤ if (1 : Int32) ≤ _ then _ else 1
    split
    · assumption
    · exact Int32.le_refl 1
  have least : min configured.toInt32 50 ≤ (50 : Int32) := by
    change (if _ ≤ (50 : Int32) then _ else 50) ≤ (50 : Int32)
    split
    · assumption
    · exact Int32.le_refl 50
  have high : clampedOutputFrameRate configured ≤ 50 := by
    change (if (1 : Int32) ≤ _ then _ else 1) ≤ (50 : Int32)
    split
    · exact least
    · decide
  exact ⟨Int32.le_iff_toInt_le.mp low, Int32.le_iff_toInt_le.mp high⟩

/-- The sample at which a video frame starts. -/
def targetSample (frame audioSampleRate frameRate : Int) : Int := frame * audioSampleRate / frameRate

theorem targetSample_mono {frame later audioSampleRate frameRate : Int} (rate : 0 ≤ audioSampleRate) (frames : 0 < frameRate)
    (order : frame ≤ later) : targetSample frame audioSampleRate frameRate ≤ targetSample later audioSampleRate frameRate :=
  Int.ediv_le_ediv frames (Int.mul_le_mul_of_nonneg_right order rate)

theorem nextOutputVideoPts_next {last : Int64} (started : 0 ≤ last.toInt) : nextOutputVideoPts last = last + 1 := by
  have kept : ¬last < 0 := by
    rw [Int64.lt_iff_toInt_lt]
    exact Int.not_lt.mpr started
  have unset : last ≠ Int64.minValue := by
    rintro rfl
    exact absurd started (by decide)
  rw [nextOutputVideoPts, if_neg unset, if_neg kept]

theorem toInt_nextOutputVideoPts {last : Int64} (started : 0 ≤ last.toInt) (room : last.toInt + 1 < 2 ^ 63) :
    (nextOutputVideoPts last).toInt = last.toInt + 1 := by
  rw [nextOutputVideoPts_next started]
  exact toInt_add_of_range (by simp; omega) (by simpa using room)

theorem audioTarget_toInt {next : Int64} {audioSampleRate frameRate : Int32} (started : 0 ≤ next.toInt)
    (rate : 0 < audioSampleRate.toInt) (frames : 0 < frameRate.toInt) (room : next.toInt * audioSampleRate.toInt < 2 ^ 63) :
    (audioTargetSampleForVideoFrame next audioSampleRate frameRate).toInt =
      targetSample next.toInt audioSampleRate.toInt frameRate.toInt := by
  have product : 0 ≤ next.toInt * audioSampleRate.toInt := Int.mul_nonneg started (Int.le_of_lt rate)
  have samples : (next * audioSampleRate.toInt64).toInt = next.toInt * audioSampleRate.toInt := by
    rw [toInt_mul_of_range] <;> rw [Int32.toInt_toInt64]
    · omega
    · exact room
  have divisor : frameRate.toInt64 ≠ -1 := by
    intro minus
    have := congrArg Int64.toInt minus
    rw [Int32.toInt_toInt64] at this
    exact absurd frames (by rw [this]; decide)
  rw [audioTargetSampleForVideoFrame, max_one_of_pos rate, max_one_of_pos frames, Int64.toInt_div_of_ne_right _ _ divisor, samples,
    Int32.toInt_toInt64, Int.tdiv_eq_ediv_of_nonneg product, targetSample]

theorem audioFrameDue_iff {index next : Int64} {samples audioSampleRate frameRate : Int32} (started : 0 ≤ next.toInt)
    (rate : 0 < audioSampleRate.toInt) (frames : 0 < frameRate.toInt) (room : next.toInt * audioSampleRate.toInt < 2 ^ 63)
    (some : 0 < samples.toInt) (indexed : 0 ≤ index.toInt) (fits : index.toInt + samples.toInt < 2 ^ 63) :
    audioFrameDue index samples next audioSampleRate frameRate = true ↔
      index.toInt + samples.toInt ≤ targetSample next.toInt audioSampleRate.toInt frameRate.toInt := by
  have sum : (index + samples.toInt64).toInt = index.toInt + samples.toInt := by
    rw [toInt_add_of_range] <;> rw [Int32.toInt_toInt64]
    · omega
    · exact fits
  rw [audioFrameDue, decide_eq_true_iff, max_one_of_pos some, Int64.le_iff_toInt_le, sum, audioTarget_toInt started rate frames room]

end WhRepeater
