import WhRepeater.ConfigFields

/-! The sections of the configuration, each read, written and read again. What
stands for an absent section is what is read from an empty one. -/
namespace WhRepeater

open JsonParser (Legible)
open Document

variable {printDouble : Rat → Bytes} {arithmetic : Arithmetic} {json : Json} {lasting : Prop}

/-- What is kept under a condition that holds. -/
theorem Kept.always {read : Json → Except String α} {write : α → Document} {value : α} {legible : Prop}
    (kept : Kept printDouble read write value legible lasting) (holds : legible) :
    Kept printDouble read write value True lasting := kept.congr (iff_true_intro holds)

theorem kept_selection {selection : Rat × Rat} (read : readSelection json = .ok selection)
    (exact : ∀ threshold ∈ [selection.1, selection.2],
      JsonParser.Yields JsonParser.parseNumber (printDouble threshold) (.number threshold) []) :
    Kept printDouble readSelection selectionJson selection True lasting := by
  simp only [readSelection, bind_eq_ok, pure_eq_ok] at read
  obtain ⟨mer, mer_read, dNumber, dNumber_read, rfl⟩ := read
  apply kept_object
  · rfl
  · unfold readSelection
    apply Keeps.field (kept_double mer_read (exact mer (by simp)))
    apply Keeps.field (kept_double dNumber_read (exact dNumber (by simp)))
    exact Keeps.done rfl
  · rfl
  · simp

/-! ## Streams and gateways -/

def StreamingLegible (streaming : Json) : Prop := Within streaming "rtmp" fun rtmp => Within rtmp "url" LegibleText

theorem kept_rtmp {rtmp : RtmpStreamingConfig} (read : readRtmp json = .ok rtmp) :
    Kept printDouble readRtmp rtmpJson rtmp (Within json "url" LegibleText) lasting := by
  simp only [readRtmp, bind_eq_ok, pure_eq_ok] at read
  obtain ⟨enabled, enabled_read, url, url_read, rfl⟩ := read
  apply kept_object
  · rfl
  · unfold readRtmp
    apply Keeps.field (kept_flag enabled_read)
    apply Keeps.field (kept_text url_read rfl)
    exact Keeps.done rfl
  · rfl
  · simp

theorem kept_streaming {streaming : StreamingConfig} (read : readStreaming json = .ok streaming) :
    Kept printDouble readStreaming streamingJson streaming (StreamingLegible json) lasting := by
  simp only [readStreaming, bind_eq_ok, pure_eq_ok] at read
  obtain ⟨rtmp, rtmp_read, rfl⟩ := read
  have empty : readRtmp (.object []) = .ok {} := rfl
  have rtmp_kept : Kept printDouble readRtmp rtmpJson rtmp
      (Within json "rtmp" fun rtmp => Within rtmp "url" LegibleText) lasting :=
    kept_optional rtmp_read (fun _ _ => kept_rtmp) fun _ => (kept_rtmp empty).always nofun
  apply kept_object
  · rfl
  · unfold readStreaming
    apply Keeps.field rtmp_kept
    exact Keeps.done rfl
  · rfl
  · simp [StreamingLegible]

theorem kept_media {media : MediaConfig} (read : readMedia json = .ok media) :
    Kept printDouble readMedia mediaJson media True lasting := by
  simp only [readMedia, bind_eq_ok, pure_eq_ok] at read
  obtain ⟨backend, backend_read, rfl⟩ := read
  apply kept_object
  · rfl
  · unfold readMedia
    apply Keeps.field (kept_checked backend_read (strict_oneOf (by decide)) rfl)
    exact Keeps.done rfl
  · rfl
  · simp

theorem kept_tsGateway {tsGateway : TsGatewayConfig} (read : readTsGateway arithmetic json = .ok tsGateway) :
    Kept printDouble (readTsGateway arithmetic) tsGatewayJson tsGateway (Within json "address" LegibleText) lasting := by
  simp only [readTsGateway, bind_eq_ok, pure_eq_ok] at read
  obtain ⟨address, address_read, port, port_read, rfl⟩ := read
  apply kept_object
  · rfl
  · unfold readTsGateway
    apply Keeps.field (kept_text address_read rfl)
    apply Keeps.field (kept_port port_read (by decide))
    exact Keeps.done rfl
  · rfl
  · simp

/-- The size of a datagram, in full transport packets. -/
theorem kept_packetSize {packetSize : UInt64}
    (found : optional json "packetSize" 1316 (fun value => do
      let value ← jsonUint32 arithmetic value "gatewayInput.packetSize"
      if value = 0 ∨ value % 188 ≠ 0 then throw "gatewayInput.packetSize must be a positive multiple of 188"
      else return value.toUInt64) = .ok packetSize) :
    Kept printDouble (fun value => do
      let value ← jsonUint32 arithmetic value "gatewayInput.packetSize"
      if value = 0 ∨ value % 188 ≠ 0 then throw "gatewayInput.packetSize must be a positive multiple of 188"
      else return value.toUInt64) (fun packetSize => decimal packetSize.toNat) packetSize True lasting := by
  refine kept_unsigned found (fun number finished => ?_) ⟨1316, rfl, rfl⟩
  refine ⟨number, ?_, finished⟩
  split at finished
  · cases finished
  · rw [pure_eq_ok] at finished
    subst finished
    simp

theorem kept_gatewayInput {gatewayInput : GatewayInputConfig}
    (read : readGatewayInput arithmetic json = .ok gatewayInput) :
    Kept printDouble (readGatewayInput arithmetic) gatewayInputJson gatewayInput
      (Within json "listenAddress" LegibleText) lasting := by
  simp only [readGatewayInput, bind_eq_ok, pure_eq_ok] at read
  obtain ⟨listenAddress, listenAddress_read, listenPort, listenPort_read, packetSize, packetSize_read, rfl⟩ := read
  apply kept_object
  · rfl
  · unfold readGatewayInput
    apply Keeps.field (kept_text listenAddress_read rfl)
    apply Keeps.field (kept_port listenPort_read (by decide))
    apply Keeps.field (kept_packetSize packetSize_read)
    exact Keeps.done rfl
  · rfl
  · simp

theorem kept_piStatus {piStatus : PiStatusConfig} (read : readPiStatus arithmetic json = .ok piStatus) :
    Kept printDouble (readPiStatus arithmetic) piStatusJson piStatus (Within json "address" LegibleText) lasting := by
  simp only [readPiStatus, bind_eq_ok, pure_eq_ok] at read
  obtain ⟨enabled, enabled_read, address, address_read, port, port_read, pollInterval, pollInterval_read, rfl⟩ := read
  apply kept_object
  · rfl
  · unfold readPiStatus
    apply Keeps.field (kept_flag enabled_read)
    apply Keeps.field (kept_text address_read rfl)
    apply Keeps.field (kept_port port_read (by decide))
    apply Keeps.field (kept_bounded_duration pollInterval_read rfl)
    exact Keeps.done rfl
  · rfl
  · simp

theorem kept_hardwarePtt {hardwarePtt : HardwarePttConfig} (read : readHardwarePtt arithmetic json = .ok hardwarePtt) :
    Kept printDouble (readHardwarePtt arithmetic) hardwarePttJson hardwarePtt (Within json "chip" LegibleText) lasting := by
  simp only [readHardwarePtt, bind_eq_ok, pure_eq_ok] at read
  obtain ⟨enabled, enabled_read, mode, mode_read, chip, chip_read, line, -, activeHigh, activeHigh_read, rfl⟩ := read
  apply kept_object
  · rfl
  · unfold readHardwarePtt
    apply Keeps.field (kept_flag enabled_read)
    apply Keeps.field (kept_checked mode_read (strict_oneOf (by decide)) rfl)
    apply Keeps.field (kept_text chip_read rfl)
    apply Keeps.field (kept_uint32 line)
    apply Keeps.field (kept_flag activeHigh_read)
    exact Keeps.done rfl
  · rfl
  · simp

/-! ## Beacon and identification -/

theorem legible_of_digits {value : Bytes} (each : ∀ ch ∈ value, isDigit ch = true ∨ ch = code ':') : Legible value := by
  refine List.all_eq_true.mpr fun ch among => ?_
  rcases each ch among with digit | rfl
  · simp only [isDigit, Bool.and_eq_true, decide_eq_true_eq, UInt8.le_iff_toNat_le, UInt8.reduceToNat] at digit
    simp only [JsonParser.legible, Bool.or_eq_true, decide_eq_true_eq, UInt8.le_iff_toNat_le, UInt8.reduceToNat]
    omega
  · rfl

theorem strict_parseClockTime (name : String) : Strict (parseClockTime · name) := by
  intro text value checked
  simp only [parseClockTime] at checked
  split at checked
  · rename_i hour10 hour1 colon minute10 minute1
    split at checked
    · rename_i shaped
      obtain ⟨rfl, hour10_digit, hour1_digit, minute10_digit, minute1_digit⟩ := shaped
      split at checked
      · cases checked
      · cases checked
        refine ⟨rfl, legible_of_digits ?_⟩
        simp [hour10_digit, hour1_digit, minute10_digit, minute1_digit]
    · cases checked
  · cases checked

theorem kept_beaconSchedule {schedule : BeaconScheduleConfig} (read : readBeaconSchedule json = .ok schedule) :
    Kept printDouble readBeaconSchedule beaconScheduleJson schedule True lasting := by
  simp only [readBeaconSchedule, bind_eq_ok, pure_eq_ok] at read
  obtain ⟨enabled, enabled_read, startTime, startTime_read, endTime, endTime_read, rfl⟩ := read
  apply kept_object
  · rfl
  · unfold readBeaconSchedule
    apply Keeps.field (kept_flag enabled_read)
    apply Keeps.field (kept_checked startTime_read (strict_parseClockTime _) rfl)
    apply Keeps.field (kept_checked endTime_read (strict_parseClockTime _) rfl)
    exact Keeps.done rfl
  · rfl
  · simp

theorem kept_ident {ident : IdentConfig} (read : readIdent arithmetic json = .ok ident) :
    Kept printDouble (readIdent arithmetic) identJson ident (Within json "serviceName" LegibleText) lasting := by
  simp only [readIdent, bind_eq_ok, pure_eq_ok] at read
  obtain ⟨enabled, enabled_read, serviceName, serviceName_read, interval, interval_read, morseToneHz, morseToneHz_read,
    morseWpm, morseWpm_read, rfl⟩ := read
  apply kept_object
  · rfl
  · unfold readIdent
    apply Keeps.field (kept_flag enabled_read)
    apply Keeps.field (kept_text serviceName_read rfl)
    apply Keeps.field (kept_duration interval_read rfl)
    apply Keeps.field (kept_clamped morseToneHz_read (by decide) rfl)
    apply Keeps.field (kept_clamped morseWpm_read (by decide) rfl)
    exact Keeps.done rfl
  · rfl
  · simp

/-! ## Analogue capture -/

/-- The texts of a capture that nothing checks. -/
def captureTexts : List String := ["deviceId", "label", "captureDevice", "audioDevice", "gpioChip"]

def AnalogueLegible (analogue : Json) : Prop :=
  Within analogue "capture" fun capture => ∀ name ∈ captureTexts, Within capture name LegibleText

theorem kept_receiverId {receiver : ReceiverId}
    (found : optional json "receiverId" ⟨5⟩ (fun value => do
      let receiver ← jsonInt arithmetic value "analogue.capture.receiverId"
      if receiver < 1 then throw "analogue.capture.receiverId must be positive" else return ⟨receiver⟩) = .ok receiver) :
    Kept printDouble (fun value => do
      let receiver ← jsonInt arithmetic value "analogue.capture.receiverId"
      if receiver < 1 then throw "analogue.capture.receiverId must be positive" else return ⟨receiver⟩)
      (fun receiver : ReceiverId => decimal receiver.value.toInt) receiver True lasting := by
  refine kept_signed found (fun number finished => ?_) ⟨5, rfl, rfl⟩
  refine ⟨number, ?_, finished⟩
  split at finished
  · cases finished
  · rw [pure_eq_ok] at finished
    subst finished
    rfl

/-- A frame rate is a numerator as well. -/
theorem numerator_of_frameRate {captureFrameRate : UInt32}
    (found : optional json "captureFrameRate" 25 (fun value => do
      return clamp (← jsonUint32 arithmetic value "analogue.capture.captureFrameRate") 1 50) = .ok captureFrameRate) :
    clamp captureFrameRate 1 60000 = captureFrameRate := by
  obtain ⟨-, rfl⟩ | ⟨value, -, found⟩ := optional_cases found
  · rfl
  · simp only [bind_eq_ok, pure_eq_ok] at found
    obtain ⟨number, -, rfl⟩ := found
    by_cases below : number < 1
    · simp only [clamp, below, if_true]
      rfl
    · by_cases above : 50 < number
      · simp only [clamp, below, above, if_true, if_false]
        rfl
      · have within : ¬ 60000 < number := by
          simp only [UInt32.lt_iff_toNat_lt, UInt32.reduceToNat] at above ⊢
          omega
        simp only [clamp, below, above, within, if_false]

theorem kept_capture {capture : AnalogueCaptureConfig} (read : readCapture arithmetic json = .ok capture) :
    Kept printDouble (readCapture arithmetic) captureJson capture (∀ name ∈ captureTexts, Within json name LegibleText)
      lasting := by
  simp only [readCapture, bind_eq_ok, pure_eq_ok] at read
  obtain ⟨enabled, enabled_read, receiver, receiver_read, deviceId, deviceId_read, label, label_read, captureDevice,
    captureDevice_read, captureStandard, captureStandard_read, captureInputFormat, captureInputFormat_read, captureWidth,
    captureWidth_read, captureHeight, captureHeight_read, captureFrameRate, captureFrameRate_read, numerator,
    numerator_read, denominator, denominator_read, audioEnabled, audioEnabled_read, audioDevice, audioDevice_read,
    audioSampleRate, audioSampleRate_read, audioChannels, audioChannels_read, audioDelayMs, audioDelayMs_read, lockMode,
    lockMode_read, gpioChip, gpioChip_read, gpioLine, -, gpioActiveHigh, gpioActiveHigh_read, rfl⟩ := read
  have numerator_stands : ∀ rated : Bool,
      clamp (if rated then captureFrameRate else 25) 1 60000 = if rated then captureFrameRate else 25 := by
    rintro (_ | _)
    · rfl
    · exact numerator_of_frameRate captureFrameRate_read
  have denominator_stands : ∀ rated : Bool, clamp (if rated then 1 else 1) 1 1001 = if rated then (1 : UInt32) else 1 := by
    decide
  apply kept_object
  · rfl
  · unfold readCapture
    apply Keeps.field (kept_flag enabled_read)
    apply Keeps.field (kept_receiverId receiver_read)
    apply Keeps.field (kept_text deviceId_read rfl)
    apply Keeps.field (kept_text label_read rfl)
    apply Keeps.field (kept_text captureDevice_read rfl)
    apply Keeps.field (kept_checked captureStandard_read (strict_oneOf (by decide)) rfl)
    apply Keeps.field (kept_checked captureInputFormat_read (strict_oneOf (by decide)) rfl)
    apply Keeps.field (kept_clamped captureWidth_read (by decide) rfl)
    apply Keeps.field (kept_clamped captureHeight_read (by decide) rfl)
    apply Keeps.field (kept_clamped captureFrameRate_read (by decide) rfl)
    apply Keeps.field (kept_clamped numerator_read (by decide) (numerator_stands _))
    apply Keeps.field (kept_clamped denominator_read (by decide) (denominator_stands _))
    apply Keeps.field (kept_flag audioEnabled_read)
    apply Keeps.field (kept_text audioDevice_read rfl)
    apply Keeps.field (kept_clamped audioSampleRate_read (by decide) rfl)
    apply Keeps.field (kept_clamped audioChannels_read (by decide) rfl)
    apply Keeps.field (kept_clamped audioDelayMs_read (by decide) rfl)
    apply Keeps.field (kept_checked lockMode_read (strict_oneOf (by decide)) rfl)
    apply Keeps.field (kept_text gpioChip_read rfl)
    apply Keeps.field (kept_uint32 gpioLine)
    apply Keeps.field (kept_flag gpioActiveHigh_read)
    exact Keeps.done rfl
  · rfl
  · simp [captureTexts]

theorem kept_analogue {analogue : AnalogueConfig} (read : readAnalogue arithmetic json = .ok analogue) :
    Kept printDouble (readAnalogue arithmetic) analogueJson analogue (AnalogueLegible json) lasting := by
  simp only [readAnalogue, bind_eq_ok, pure_eq_ok] at read
  obtain ⟨capture, capture_read, rfl⟩ := read
  have empty : readCapture arithmetic (.object []) = .ok {} := rfl
  have capture_kept : Kept printDouble (readCapture arithmetic) captureJson capture
      (Within json "capture" fun capture => ∀ name ∈ captureTexts, Within capture name LegibleText) lasting :=
    kept_optional capture_read (fun _ _ => kept_capture) fun _ => (kept_capture empty).always nofun
  apply kept_object
  · rfl
  · unfold readAnalogue
    apply Keeps.field capture_kept
    exact Keeps.done rfl
  · rfl
  · simp [AnalogueLegible]

/-! ## Fallback -/

/-- The texts of a fallback that nothing checks. -/
def fallbackTexts : List String := ["videoDirectory", "slideDirectory", "christmasSlideDirectory"]

def FallbackLegible (fallback : Json) : Prop :=
  (∀ name ∈ fallbackTexts, Within fallback name LegibleText) ∧ Within fallback "videoPaths" (EachItem LegibleText)

/-- A duration that is written in full. -/
def WholeSeconds (milliseconds : Int) : Prop := 0 < milliseconds ∧ 1000 ∣ milliseconds

theorem slideMilliseconds_max (seconds : Int32) (fits : seconds.toInt * 1000 < 2 ^ 31) :
    slideMilliseconds arithmetic seconds = max 1 seconds.toInt * 1000 := by
  obtain ⟨longer, longer_eq, longer_toInt⟩ : ∃ longer, max 1 seconds = longer ∧ longer.toInt = max 1 seconds.toInt := by
    refine ⟨_, rfl, ?_⟩
    have one : (1 : Int32).toInt = 1 := rfl
    rw [max_int32]
    by_cases above : 1 ≤ seconds
    · rw [if_pos above]
      rw [Int32.le_iff_toInt_le, one] at above
      omega
    · rw [if_neg above, one]
      rw [Int32.le_iff_toInt_le, one] at above
      omega
  have product : (Int32.ofInt (longer.toInt * 1000)).toInt = longer.toInt * 1000 :=
    Int32.toInt_ofInt_of_le (by omega) (by omega)
  have thousand : (1000 : Int32).toInt = 1000 := rfl
  rw [slideMilliseconds, longer_eq, arithmetic.multiply_fits longer 1000 _ (by rw [product, thousand]), product,
    longer_toInt]

/-- The seconds of a number of milliseconds, and the milliseconds that are left. -/
theorem thousand_split (value : Int) : 1000 * value.tdiv 1000 + value.tmod 1000 = value ∧ -1000 < value.tmod 1000 ∧
    value.tmod 1000 < 1000 ∧ (0 ≤ value → 0 ≤ value.tmod 1000) :=
  ⟨Int.mul_tdiv_add_tmod value 1000, Int.lt_tmod_of_pos value (by decide), Int.tmod_lt_of_pos value (by decide),
    Int.tmod_nonneg 1000⟩

/-- The seconds that are written stand for the duration again when they are
whole, and for no duration otherwise. -/
theorem slideMilliseconds_written (duration : Int32) :
    ∃ seconds : Int32, seconds.toInt = duration.toInt.tdiv 1000 ∧
      (slideMilliseconds arithmetic seconds = duration.toInt ↔ WholeSeconds duration.toInt) := by
  have low := duration.le_toInt
  have high := duration.toInt_lt
  obtain ⟨cut, rest_low, rest, sign⟩ := thousand_split duration.toInt
  have seconds : (Int32.ofInt (duration.toInt.tdiv 1000)).toInt = duration.toInt.tdiv 1000 :=
    Int32.toInt_ofInt_of_le (by omega) (by omega)
  refine ⟨_, seconds, ?_⟩
  rw [slideMilliseconds_max _ (by omega), seconds, WholeSeconds]
  omega

/-- The slide duration that is read from a number of seconds is a whole number
of them, as it is when the product does not overflow. -/
def WholeSlide (arithmetic : Arithmetic) (json : Json) : Prop :=
  ∀ number, json = .number number → WholeSeconds (slideMilliseconds arithmetic (arithmetic.toInt number))

abbrev readSlideDuration (arithmetic : Arithmetic) (value : Json) : Except String Int := do
  return slideMilliseconds arithmetic (← jsonInt arithmetic value "fallback.slideDurationSeconds")

theorem slideDuration_cases {value : Json} {duration : Int} (read : readSlideDuration arithmetic value = .ok duration) :
    ∃ number, value = .number number ∧ duration = slideMilliseconds arithmetic (arithmetic.toInt number) := by
  cases value with
  | number number =>
    simp only [readSlideDuration, jsonInt, bind_eq_ok, pure_eq_ok] at read
    obtain ⟨_, rfl, rfl⟩ := read
    exact ⟨number, rfl, rfl⟩
  | _ => cases read

/-- A slide duration is read again exactly if it is whole. -/
theorem slideDuration_again (duration : Int32) :
    readSlideDuration arithmetic (decimal (duration.toInt.tdiv 1000)).json = .ok duration.toInt ↔
      WholeSeconds duration.toInt := by
  obtain ⟨seconds, written, whole⟩ := @slideMilliseconds_written arithmetic duration
  rw [← written, readSlideDuration, jsonInt_decimal, ok_bind, pure_eq_ok]
  exact whole

theorem kept_whole (duration : Int32) (whole : lasting → WholeSeconds duration.toInt) :
    Kept printDouble (readSlideDuration arithmetic) (fun duration => decimal (duration.tdiv 1000)) duration.toInt True
      lasting := by
  refine ⟨?_, by simp [texts], fun lasts => (slideDuration_again duration).mpr (whole lasts)⟩
  have low := duration.le_toInt
  have high := duration.toInt_lt
  have cut := Int.mul_tdiv_add_tmod duration.toInt 1000
  have rest := Int.tmod_lt_of_pos duration.toInt (by decide : (0 : Int) < 1000)
  have rest_low := Int.lt_tmod_of_pos duration.toInt (by decide : (0 : Int) < 1000)
  simp only [Proper, abs_lt]
  omega

theorem kept_slideDuration {duration : Int}
    (found : optional json "slideDurationSeconds" 10000 (readSlideDuration arithmetic) = .ok duration) :
    Kept printDouble (readSlideDuration arithmetic) (fun duration => decimal (duration.tdiv 1000)) duration True
      (Within json "slideDurationSeconds" (WholeSlide arithmetic)) := by
  obtain ⟨-, rfl⟩ | ⟨value, member, found⟩ := optional_cases found
  · exact kept_whole 10000 fun _ => ⟨by decide, by decide⟩
  · obtain ⟨number, rfl, rfl⟩ := slideDuration_cases found
    exact kept_whole _ fun whole => whole _ member number rfl

theorem kept_fallback {fallback : FallbackConfig} (read : readFallback arithmetic json = .ok fallback) :
    Kept printDouble (readFallback arithmetic) fallbackJson fallback (FallbackLegible json)
      (Within json "slideDurationSeconds" (WholeSlide arithmetic)) := by
  simp only [readFallback, bind_eq_ok, pure_eq_ok] at read
  obtain ⟨enabled, enabled_read, videoDirectory, videoDirectory_read, slideDirectory, slideDirectory_read,
    christmasSlideDirectory, christmasSlideDirectory_read, slideDuration, slideDuration_read, inputTimeout,
    inputTimeout_read, staticFrameRate, staticFrameRate_read, hardwareDecode, hardwareDecode_read, videoPaths,
    videoPaths_read, rfl⟩ := read
  have videoPaths_kept : Kept printDouble
      (jsonArray "fallback videoPaths must be an array" (jsonText · "fallback.videoPaths"))
      (fun paths => array .inline (paths.map Document.text)) videoPaths (Within json "videoPaths" (EachItem LegibleText))
      (Within json "slideDurationSeconds" (WholeSlide arithmetic)) :=
    kept_optional videoPaths_read (fun _ _ read => kept_array read fun _ _ => kept_item_text)
      fun _ => ⟨trivial, by simp [texts, textsOfItems], fun _ => rfl⟩
  apply kept_object
  · rfl
  · unfold readFallback
    apply Keeps.field (kept_flag enabled_read)
    apply Keeps.field (kept_text videoDirectory_read rfl)
    apply Keeps.field (kept_text slideDirectory_read rfl)
    apply Keeps.field (kept_text christmasSlideDirectory_read rfl)
    apply Keeps.field (kept_slideDuration slideDuration_read)
    apply Keeps.field (kept_duration inputTimeout_read rfl)
    apply Keeps.field (kept_clamped staticFrameRate_read (by decide) rfl)
    apply Keeps.field (kept_flag hardwareDecode_read)
    apply Keeps.field videoPaths_kept
    exact Keeps.done rfl
  · rfl
  · simp [FallbackLegible, fallbackTexts, and_assoc]

theorem slideDuration_of_fallback {fallback : FallbackConfig} (read : readFallback arithmetic json = .ok fallback) :
    optional json "slideDurationSeconds" 10000 (readSlideDuration arithmetic) = .ok fallback.slideDuration := by
  simp only [readFallback, bind_eq_ok, pure_eq_ok] at read
  obtain ⟨_, _, _, _, _, _, _, _, slideDuration, slideDuration_read, _, _, _, _, _, _, _, _, rfl⟩ := read
  exact slideDuration_read

/-- A fallback that is read again had a whole slide duration. -/
theorem wholeSlide_of_again {fallback : FallbackConfig} (read : readFallback arithmetic json = .ok fallback)
    (again : readFallback arithmetic (fallbackJson fallback).json = .ok fallback) :
    Within json "slideDurationSeconds" (WholeSlide arithmetic) := by
  rintro value member number rfl
  have first := slideDuration_of_fallback read
  simp only [optional, member] at first
  obtain ⟨_, ⟨⟩, duration⟩ := slideDuration_cases first
  have written : optionalMember (fallbackJson fallback).json "slideDurationSeconds" =
      some (decimal (fallback.slideDuration.tdiv 1000)).json := rfl
  have second := slideDuration_of_fallback again
  simp only [optional, written, duration] at second
  exact (slideDuration_again _).mp second

/-! ## Transmitter -/

/-- The texts of a transmitter that nothing checks, a constellation being checked
for one of the two systems only. -/
def plutoTexts : List String :=
  ["address", "mqttHost", "mqttDeviceId", "callsign", "frame", "fecMode", "constellation", "watermarkText"]

def PlutoLegible (pluto : Json) : Prop := ∀ name ∈ plutoTexts, Within pluto name LegibleText

theorem strict_plutoFec : Strict fun text => do
    let parsedFec ← parseFec text
    if parsedFec = bytes "auto" then throw "pluto.fec must be an explicit FEC" else return parsedFec := by
  intro text value checked
  simp only [bind_eq_ok] at checked
  obtain ⟨parsedFec, parsed, checked⟩ := checked
  split at checked
  · cases checked
  · cases checked
    exact (strict_oneOf (by decide)) text _ parsed

/-- The section has the rates that were calculated. -/
theorem rates_of_pluto {pluto : PlutoConfig} (read : readPluto arithmetic json = .ok pluto) :
    calculatePlutoMuxRateKbps pluto = .ok pluto.muxRateKbps ∧
      calculatePlutoVideoBitrateKbps pluto = .ok pluto.videoBitrateKbps := by
  unfold readPluto at read
  iterate 30 obtain ⟨_, -, read⟩ := bind_eq_ok.mp read
  obtain ⟨mux, mux_calculated, read⟩ := bind_eq_ok.mp read
  obtain ⟨video, video_calculated, read⟩ := bind_eq_ok.mp read
  cases read
  exact ⟨mux_calculated, video_calculated⟩

theorem kept_pluto {pluto : PlutoConfig} (read : readPluto arithmetic json = .ok pluto) :
    Kept printDouble (readPluto arithmetic) (plutoJson pluto.muxRateKbps pluto.videoBitrateKbps) pluto
      (PlutoLegible json) lasting := by
  unfold readPluto at read
  obtain ⟨address, address_read, read⟩ := bind_eq_ok.mp read
  obtain ⟨port, -, read⟩ := bind_eq_ok.mp read
  obtain ⟨mqttEnabled, mqttEnabled_read, read⟩ := bind_eq_ok.mp read
  obtain ⟨mqttHost, mqttHost_read, read⟩ := bind_eq_ok.mp read
  obtain ⟨mqttPort, -, read⟩ := bind_eq_ok.mp read
  obtain ⟨mqttProtocol, mqttProtocol_read, read⟩ := bind_eq_ok.mp read
  obtain ⟨mqttDeviceId, mqttDeviceId_read, read⟩ := bind_eq_ok.mp read
  obtain ⟨callsign, callsign_read, read⟩ := bind_eq_ok.mp read
  obtain ⟨system, system_read, read⟩ := bind_eq_ok.mp read
  obtain ⟨txFrequencyHz, txFrequencyHz_read, read⟩ := bind_eq_ok.mp read
  obtain ⟨symbolRateS, -, read⟩ := bind_eq_ok.mp read
  obtain ⟨txGainDb, -, read⟩ := bind_eq_ok.mp read
  obtain ⟨ncoHz, -, read⟩ := bind_eq_ok.mp read
  obtain ⟨digitalGainDb, digitalGainDb_read, read⟩ := bind_eq_ok.mp read
  obtain ⟨firFilter, firFilter_read, read⟩ := bind_eq_ok.mp read
  obtain ⟨pilots, pilots_read, read⟩ := bind_eq_ok.mp read
  obtain ⟨frame, frame_read, read⟩ := bind_eq_ok.mp read
  obtain ⟨fecMode, fecMode_read, read⟩ := bind_eq_ok.mp read
  obtain ⟨constellation, constellation_read, read⟩ := bind_eq_ok.mp read
  obtain ⟨_, -, read⟩ := bind_eq_ok.mp read
  obtain ⟨_, -, read⟩ := bind_eq_ok.mp read
  obtain ⟨audioBitrateKbps, -, read⟩ := bind_eq_ok.mp read
  obtain ⟨outputAudioChannels, outputAudioChannels_read, read⟩ := bind_eq_ok.mp read
  obtain ⟨outputWidth, outputWidth_read, read⟩ := bind_eq_ok.mp read
  obtain ⟨outputHeight, outputHeight_read, read⟩ := bind_eq_ok.mp read
  obtain ⟨outputFrameRate, outputFrameRate_read, read⟩ := bind_eq_ok.mp read
  obtain ⟨h264Profile, h264Profile_read, read⟩ := bind_eq_ok.mp read
  obtain ⟨h264Level, h264Level_read, read⟩ := bind_eq_ok.mp read
  obtain ⟨fec, fec_read, read⟩ := bind_eq_ok.mp read
  obtain ⟨watermarkText, watermarkText_read, read⟩ := bind_eq_ok.mp read
  obtain ⟨muxRateKbps, mux_calculated, read⟩ := bind_eq_ok.mp read
  obtain ⟨videoBitrateKbps, video_calculated, read⟩ := bind_eq_ok.mp read
  cases read
  apply kept_object
  · rfl
  · unfold readPluto
    apply Keeps.field (kept_text address_read rfl)
    apply Keeps.field (kept_uint16 port)
    apply Keeps.field (kept_flag mqttEnabled_read)
    apply Keeps.field (kept_text mqttHost_read rfl)
    apply Keeps.field (kept_uint16 mqttPort)
    apply Keeps.field (kept_checked mqttProtocol_read (strict_oneOf (by decide)) rfl)
    apply Keeps.field (kept_text mqttDeviceId_read rfl)
    apply Keeps.field (kept_text callsign_read rfl)
    apply Keeps.field (kept_checked system_read (strict_oneOf (by decide)) rfl)
    apply Keeps.field (kept_uint64 txFrequencyHz_read rfl)
    apply Keeps.field (kept_uint32 symbolRateS)
    apply Keeps.field (kept_int txGainDb)
    apply Keeps.field (kept_int ncoHz)
    apply Keeps.field (kept_adjusted_int digitalGainDb_read (clamp_clamp (fun _ => Int32.lt_irrefl) (by decide)) rfl)
    apply Keeps.field (kept_flag firFilter_read)
    apply Keeps.field (kept_flag pilots_read)
    apply Keeps.field (kept_text frame_read rfl)
    apply Keeps.field (kept_text fecMode_read rfl)
    apply Keeps.field (kept_text constellation_read rfl)
    apply Keeps.field (kept_uint32 muxRateKbps)
    apply Keeps.field (kept_uint32 videoBitrateKbps)
    apply Keeps.field (kept_uint32 audioBitrateKbps)
    apply Keeps.field (kept_clamped outputAudioChannels_read (by decide) rfl)
    apply Keeps.field (kept_adjusted outputWidth_read (clamp_even (by decide) rfl rfl) rfl)
    apply Keeps.field (kept_adjusted outputHeight_read (clamp_even (by decide) rfl rfl) rfl)
    apply Keeps.field (kept_clamped outputFrameRate_read (by decide) rfl)
    apply Keeps.field (kept_checked h264Profile_read (strict_oneOf (by decide)) rfl)
    apply Keeps.field (kept_checked h264Level_read (strict_oneOf (by decide)) rfl)
    apply Keeps.field (kept_checked fec_read strict_plutoFec rfl)
    apply Keeps.field (kept_text watermarkText_read rfl)
    -- The rates are calculated from other fields than the rates that were read.
    apply Keeps.done
    symm
    refine bind_eq_ok.mpr ⟨muxRateKbps, mux_calculated, ?_⟩
    refine bind_eq_ok.mpr ⟨videoBitrateKbps, video_calculated, ?_⟩
    rfl
  · rfl
  · simp [PlutoLegible, plutoTexts]

/-! ## Receivers -/

def TargetLegible (target : Json) : Prop := Within target "label" LegibleText

def ReceiverLegible (receiver : Json) : Prop := Within receiver "targets" (EachItem TargetLegible)

theorem kept_antenna (antenna : Antenna) :
    Kept printDouble (fun value => do parseAntenna (← jsonText value "antenna"))
      (fun antenna => Document.text (antennaName antenna)) antenna True lasting := by
  cases antenna with
  | top => exact ⟨trivial, iff_of_true (by decide) trivial, fun _ => rfl⟩
  | bottom => exact ⟨trivial, iff_of_true (by decide) trivial, fun _ => rfl⟩

theorem kept_system (system : DvbSystem) :
    Kept printDouble (fun value => do parseSystem (← jsonText value "system"))
      (fun system => Document.text (systemName system)) system True lasting := by
  cases system with
  | dvbs => exact ⟨trivial, iff_of_true (by decide) trivial, fun _ => rfl⟩
  | dvbs2 => exact ⟨trivial, iff_of_true (by decide) trivial, fun _ => rfl⟩
  | unknown => exact ⟨trivial, iff_of_true (by decide) trivial, fun _ => rfl⟩

theorem kept_target {receiver : ReceiverId} {target : ScanTarget} (read : readTarget arithmetic receiver json = .ok target) :
    Kept printDouble (readTarget arithmetic receiver) targetJson target (TargetLegible json) lasting := by
  simp only [readTarget, parseTarget, bind_assoc, pure_bind, bind_eq_ok, pure_eq_ok] at read
  obtain ⟨frequencyKhz, -, symbolRateKs, -, localOscillatorKhz, -, _, -, system, -, fec, fec_read, label, label_read,
    rfl⟩ := read
  apply kept_object
  · rfl
  · unfold readTarget parseTarget
    simp only [bind_assoc, pure_bind]
    apply Keeps.requiredField (kept_uint32 frequencyKhz)
    apply Keeps.requiredField (kept_uint32 symbolRateKs)
    apply Keeps.requiredField (kept_uint32 localOscillatorKhz)
    apply Keeps.field (kept_antenna (fixedAntennaForReceiver receiver))
    apply Keeps.field (kept_system system)
    apply Keeps.field (kept_checked fec_read (strict_oneOf (by decide)) rfl)
    apply Keeps.field (kept_text label_read rfl)
    exact Keeps.done rfl
  · rfl
  · simp [TargetLegible]

theorem kept_receiver {receiver : ReceiverConfig} (read : readReceiver arithmetic json = .ok receiver) :
    Kept printDouble (readReceiver arithmetic) receiverJson receiver (ReceiverLegible json) lasting := by
  simp only [readReceiver, bind_eq_ok] at read
  obtain ⟨id, -, read⟩ := read
  by_cases wrong : id < 1 ∨ 4 < id
  · rw [if_pos wrong] at read
    cases read
  rw [if_neg wrong] at read
  simp only [bind_eq_ok, pure_eq_ok] at read
  obtain ⟨enabled, enabled_read, dwellTime, dwellTime_read, hangTime, hangTime_read, targets, targets_read, rfl⟩ := read
  have targets_kept : Kept printDouble (jsonArray "receiver targets must be an array" (readTarget arithmetic ⟨id⟩))
      (fun targets => array (targetsLayout targets) (targets.map targetJson)) targets
      (Within json "targets" (EachItem TargetLegible)) lasting :=
    kept_required targets_read fun _ read => kept_array read fun _ _ => kept_target
  apply kept_object
  · rfl
  · unfold readReceiver
    apply Keeps.requiredField (kept_int id)
    simp only [if_neg wrong]
    apply Keeps.field (kept_flag enabled_read)
    apply Keeps.field (kept_duration dwellTime_read rfl)
    apply Keeps.field (kept_duration hangTime_read rfl)
    apply Keeps.requiredField targets_kept
    exact Keeps.done rfl
  · rfl
  · simp [ReceiverLegible]

end WhRepeater
