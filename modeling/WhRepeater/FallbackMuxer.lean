import WhRepeater.Config
import WhRepeater.JsonParser
import WhRepeater.MediaTiming

/-! The muxer of the output stream (`FallbackMuxer`): its two timestamp counters,
and the tone that follows a notice. What a frame shows does not reach them: every
branch of `writeFrameLocked` ends in one `encode` and one `writeAudioUntil`, and
every one of `writeAudioFrame` moves the counter by the samples it was asked for. -/
namespace WhRepeater

def defaultOutputAudioSampleRate : Int32 := 48000

@[simp] theorem toInt_defaultOutputAudioSampleRate : defaultOutputAudioSampleRate.toInt = 48000 := rfl

theorem defaultOutputAudioSampleRate_pos : 0 < defaultOutputAudioSampleRate.toInt := by simp

/-- What an encoder was given, and the frame index or the number of samples that
came with it. -/
inductive Encoded where
  | video (pts frameIndex : Int64)
  | audio (pts : Int64) (samples : Int32)
  deriving Repr, DecidableEq

/-- What `initialise` found to encode audio with: the GStreamer muxer, or FFmpeg's
AAC encoder with the frame size it asks for. -/
inductive AudioEncoder where
  | gstreamer
  | aac (frameSize : Int32)
  | unavailable
  deriving Repr, DecidableEq

/-! ## Morse -/

def upper (byte : UInt8) : UInt8 := if code 'a' ≤ byte && byte ≤ code 'z' then byte - 32 else byte

def morseTable : List (Char × String) :=
  [('A', ".-"), ('B', "-..."), ('C', "-.-."), ('D', "-.."), ('E', "."), ('F', "..-."), ('G', "--."), ('H', "...."), ('I', ".."),
    ('J', ".---"), ('K', "-.-"), ('L', ".-.."), ('M', "--"), ('N', "-."), ('O', "---"), ('P', ".--."), ('Q', "--.-"),
    ('R', ".-."), ('S', "..."), ('T', "-"), ('U', "..-"), ('V', "...-"), ('W', ".--"), ('X', "-..-"), ('Y', "-.--"),
    ('Z', "--.."), ('0', "-----"), ('1', ".----"), ('2', "..---"), ('3', "...--"), ('4', "....-"), ('5', "....."),
    ('6', "-...."), ('7', "--..."), ('8', "---.."), ('9', "----."), ('/', "-..-.")]

def morseFor (ch : UInt8) : Bytes :=
  ((morseTable.find? fun entry => code entry.1 = upper ch).map fun entry => bytes entry.2).getD []

/-- The units of one character: a space of one unit between its symbols. -/
def morseSymbols : Bytes → List Bool
  | [] => []
  | [last] => List.replicate (if last = code '-' then 3 else 1) true
  | symbol :: rest => List.replicate (if symbol = code '-' then 3 else 1) true ++ false :: morseSymbols rest

/-- The loop of `morseToneUnits`, with `units` and `hadSymbol`. -/
def morseTextUnits : Bytes → List Bool → Bool → List Bool
  | [], units, _ => units
  | ch :: rest, units, hadSymbol =>
    if isSpace ch then
      morseTextUnits rest (if units.isEmpty then units else units ++ List.replicate 4 false) hadSymbol
    else
      let symbols := morseFor ch
      if symbols.isEmpty then morseTextUnits rest units hadSymbol
      else morseTextUnits rest (units ++ (if hadSymbol then List.replicate 3 false else []) ++ morseSymbols symbols) true

def morseToneUnits (text : Bytes) : List Bool := morseTextUnits text [] false ++ List.replicate 7 false

/-- A tone pattern is never empty. -/
theorem morseToneUnits_ne_nil (text : Bytes) : morseToneUnits text ≠ [] := by
  simp [morseToneUnits]

/-- The quotient of the source is one of `double`s, and truncated: of two integers
this small that is the integer quotient. -/
def morseUnitSamples (config : RepeaterConfig) : Int64 :=
  max 1 (Int64.ofNat (57600 / max 1 config.ident.morseWpm.toNat))

/-! ## The muxer -/

/-- `encoded` is what its encoders were given, in order, and `tones` are the samples
at which the tones it armed start. -/
structure FallbackMuxer where
  frameRate : Int32
  noticeMorseUnits : List Bool
  morseUnitSamples : Int64
  audioOpened : Bool := true
  audioFrameSamples : Int32 := 1024
  notice : Option Bytes := none
  noticeMorsePending : Bool := false
  noticeMorseActive : Bool := false
  noticeMorsePlayedForNotice : Bool := false
  noticeMorseStartSample : Int64 := Int64.maxValue
  noticeMorseEndSample : Int64 := 0
  audioSampleIndex : Int64 := 0
  lastVideoPts : Int64 := Int64.minValue
  encoded : List Encoded := []
  tones : List Int64 := []
  deriving Repr, DecidableEq

namespace FallbackMuxer

def construct (config : RepeaterConfig) (encoder : AudioEncoder) : FallbackMuxer :=
  { frameRate := clampedOutputFrameRate config.pluto.outputFrameRate
    noticeMorseUnits := morseToneUnits (bytes "K")
    morseUnitSamples := WhRepeater.morseUnitSamples config
    audioOpened := encoder != .unavailable
    audioFrameSamples := match encoder with
      | .gstreamer | .unavailable => 1024
      | .aac frameSize => if frameSize > 0 then frameSize else 1024 }

def nextVideoPts (muxer : FallbackMuxer) : Int64 := nextOutputVideoPts muxer.lastVideoPts

def setNotice (muxer : FallbackMuxer) (notice : Option Bytes) (endTone : Bool) : FallbackMuxer :=
  if muxer.notice = notice then
    if muxer.notice.isSome && endTone && !muxer.noticeMorsePlayedForNotice && !muxer.noticeMorsePending &&
        !muxer.noticeMorseActive && !muxer.noticeMorseUnits.isEmpty then
      { muxer with noticeMorsePending := true }
    else muxer
  else
    let changed := { muxer with
      notice
      noticeMorsePlayedForNotice := false
      noticeMorsePending := notice.isSome && endTone && !muxer.noticeMorseUnits.isEmpty }
    if notice.isSome then changed
    else { changed with
      noticeMorseActive := false
      noticeMorseStartSample := Int64.maxValue
      noticeMorseEndSample := 0 }

def armNoticeMorseIfPending (muxer : FallbackMuxer) : FallbackMuxer :=
  if !muxer.noticeMorsePending || muxer.noticeMorseUnits.isEmpty then muxer
  else
    { muxer with
      noticeMorsePending := false
      noticeMorseActive := true
      noticeMorsePlayedForNotice := true
      noticeMorseStartSample := muxer.audioSampleIndex
      noticeMorseEndSample := muxer.audioSampleIndex + Int64.ofNat muxer.noticeMorseUnits.length * muxer.morseUnitSamples
      tones := muxer.tones ++ [muxer.audioSampleIndex] }

def writeAudioFrame (muxer : FallbackMuxer) (samples : Int32) : FallbackMuxer :=
  let armed := muxer.armNoticeMorseIfPending
  { armed with
    audioSampleIndex := armed.audioSampleIndex + samples.toInt64
    encoded := armed.encoded ++ [.audio armed.audioSampleIndex samples] }

/-- The loop of `writeAudioUntil`. -/
def writeDueAudio (nextVideoFrame : Int64) : Nat → FallbackMuxer → Option FallbackMuxer
  | 0, _ => none
  | turns + 1, muxer =>
    if audioFrameDue muxer.audioSampleIndex muxer.audioFrameSamples nextVideoFrame defaultOutputAudioSampleRate muxer.frameRate then
      writeDueAudio nextVideoFrame turns (muxer.writeAudioFrame muxer.audioFrameSamples)
    else some muxer

/-- `none` when the loop does not end. What a turn does to the loop's condition
depends on the sample index alone, so that a loop still running after as many
turns as there are indices runs for ever. -/
def writeAudioUntil (muxer : FallbackMuxer) (nextVideoFrame : Int64) : Option FallbackMuxer :=
  if muxer.audioOpened then writeDueAudio nextVideoFrame (2 ^ 64) muxer else some muxer

/-- `fixedVideoFrame` gives the frame its timestamp, whether or not it takes the
frame itself. -/
def encode (muxer : FallbackMuxer) (frameIndex : Int64) : FallbackMuxer :=
  { muxer with
    lastVideoPts := muxer.nextVideoPts
    encoded := muxer.encoded ++ [.video muxer.nextVideoPts frameIndex] }

def writeFrame (muxer : FallbackMuxer) (frameIndex : Int64) : Option FallbackMuxer :=
  (muxer.encode frameIndex).writeAudioUntil (frameIndex + 1)

end FallbackMuxer
end WhRepeater
