import WhRepeater.Config
import WhRepeater.JsonParser

/-! `configFromJson` (`config.cpp`): the checks, defaults, bounds and derived
rates of every section, with the error texts of the source. A reader is given the
value of a member and the path that its errors name. -/
namespace WhRepeater

/-- What the language leaves open: a `double` cast to an integer type whose range
it is out of, and an `int` product that overflows. -/
structure Arithmetic where
  toUint32 : Rat → UInt32
  toInt : Rat → Int32
  multiply : Int32 → Int32 → Int32
  toUint32_truncates (value : UInt32) (number : Rat) :
    Binary64.truncate number = value.toNat → toUint32 number = value
  toInt_truncates (value : Int32) (number : Rat) : Binary64.truncate number = value.toInt → toInt number = value
  multiply_fits (left right product : Int32) : left.toInt * right.toInt = product.toInt → multiply left right = product

/-! ## Members and values -/

/-- `nullptr` is `none`; what is no object has no members. -/
def optionalMember (json : Json) (name : String) : Option Json :=
  match json with
  | .object members => members.lookup (bytes name)
  | _ => none

def requiredMember (json : Json) (name : String) : Except String Json :=
  match json with
  | .object members =>
    match members.lookup (bytes name) with
    | some value => return value
    | none => throw ("missing required field: " ++ name)
  | _ => throw "expected JSON object"

def jsonUint32 (arithmetic : Arithmetic) (value : Json) (name : String) : Except String UInt32 :=
  match value with
  | .number number =>
    if number < 0 then throw ("expected unsigned number for " ++ name) else return arithmetic.toUint32 number
  | _ => throw ("expected unsigned number for " ++ name)

def jsonInt (arithmetic : Arithmetic) (value : Json) (name : String) : Except String Int32 :=
  match value with
  | .number number => return arithmetic.toInt number
  | _ => throw ("expected number for " ++ name)

def jsonDouble (value : Json) (name : String) : Except String Rat :=
  match value with
  | .number number => return number
  | _ => throw ("expected number for " ++ name)

def jsonBool (value : Json) (name : String) : Except String Bool :=
  match value with
  | .boolean flag => return flag
  | _ => throw ("expected boolean for " ++ name)

def jsonText (value : Json) (name : String) : Except String Bytes :=
  match value with
  | .string text => return text
  | _ => throw ("expected string for " ++ name)

/-- What is read from the member, or the value that stands where it is absent. -/
def optional (object : Json) (name : String) (standing : α) (read : Json → Except String α) : Except String α :=
  match optionalMember object name with
  | none => return standing
  | some value => read value

def required (object : Json) (name : String) (read : Json → Except String α) : Except String α := do
  read (← requiredMember object name)

/-- Every item of an array, in order. -/
def jsonArray (message : String) (read : Json → Except String α) (value : Json) : Except String (List α) :=
  match value with
  | .array items => items.mapM read
  | _ => throw message

/-- `std::clamp`. -/
def clamp [LT α] [DecidableLT α] (value low high : α) : α :=
  if value < low then low else if high < value then high else value

/-! ## Checked texts -/

/-- One of the texts the source compares with. -/
def oneOf (allowed : List String) (message : String) (value : Bytes) : Except String Bytes :=
  if value ∈ allowed.map bytes then return value else throw message

def parseAntenna (value : Bytes) : Except String Antenna :=
  if value = bytes "top" then return .top
  else if value = bytes "bottom" then return .bottom
  else throw "antenna must be top or bottom"

def parseSystem (value : Bytes) : Except String DvbSystem :=
  if value = bytes "auto" then return .unknown
  else if value = bytes "dvbs" then return .dvbs
  else if value = bytes "dvbs2" then return .dvbs2
  else throw "system must be auto, dvbs, or dvbs2"

def parseFec : Bytes → Except String Bytes :=
  oneOf ["auto", "1/4", "1/3", "2/5", "1/2", "3/5", "2/3", "3/4", "4/5", "5/6", "7/8", "8/9", "9/10"]
    "FEC must be auto, 1/4, 1/3, 2/5, 1/2, 3/5, 2/3, 3/4, 4/5, 5/6, 7/8, 8/9, or 9/10"

def parsePlutoSystem : Bytes → Except String Bytes :=
  oneOf ["dvbs", "dvbs2"] "pluto.system must be dvbs or dvbs2"

def parseH264Profile : Bytes → Except String Bytes :=
  oneOf ["baseline", "main", "high"] "pluto.h264Profile must be baseline, main, or high"

def parseH264Level : Bytes → Except String Bytes :=
  oneOf ["auto", "3", "3.1", "4"] "pluto.h264Level must be auto, 3, 3.1, or 4"

def parseClockTime (value : Bytes) (name : String) : Except String Bytes :=
  match value with
  | [hour10, hour1, colon, minute10, minute1] =>
    if colon = code ':' ∧ isDigit hour10 ∧ isDigit hour1 ∧ isDigit minute10 ∧ isDigit minute1 then
      if 23 < digitsValue [hour10, hour1] ∨ 59 < digitsValue [minute10, minute1] then
        throw (name ++ " must be a valid 24-hour time")
      else return value
    else throw (name ++ " must be HH:MM")
  | _ => throw (name ++ " must be HH:MM")

/-! ## The rates of the transmitter -/

/-- `std::stoul`, which throws with its own name. -/
def stoul (text : Bytes) : Except String UInt64 :=
  let text := text.dropWhile isSpace
  let signed := if text.head? = some (code '-') ∨ text.head? = some (code '+') then text.tail else text
  let digits := signed.takeWhile isDigit
  if digits = [] then throw "stoul"
  else if 2 ^ 64 ≤ digitsValue digits then throw "stoul"
  else if text.head? = some (code '-') then return 0 - UInt64.ofNat (digitsValue digits)
  else return UInt64.ofNat (digitsValue digits)

def fecFraction (fec : Bytes) : Except String (UInt32 × UInt32) :=
  if code '/' ∉ fec then throw "FEC must be a fraction"
  else do
    let numerator ← stoul (fec.takeWhile (· ≠ code '/'))
    let denominator ← stoul (fec.dropWhile (· ≠ code '/')).tail
    if numerator.toUInt32 = 0 ∨ denominator.toUInt32 = 0 ∨ denominator.toUInt32 < numerator.toUInt32 then
      throw "FEC must be a valid fraction"
    else return (numerator.toUInt32, denominator.toUInt32)

def constellationBits (system constellation : Bytes) : Except String UInt32 :=
  if system = bytes "dvbs" then return 2
  else if constellation = bytes "qpsk" then return 2
  else if constellation = bytes "8psk" then return 3
  else if constellation = bytes "16apsk" then return 4
  else if constellation = bytes "32apsk" then return 5
  else throw "unsupported Pluto constellation"

def floorDivide (numerator denominator : UInt64) : Except String UInt64 :=
  if denominator = 0 then throw "cannot divide by zero" else return numerator / denominator

def calculatePlutoMuxRateKbps (config : PlutoConfig) : Except String UInt32 := do
  let fraction ← fecFraction config.fec
  let bitsPerSymbol ← constellationBits config.system config.constellation
  let numerator := config.symbolRateS.toUInt64 * bitsPerSymbol.toUInt64 * fraction.1.toUInt64
  let denominator := fraction.2.toUInt64
  let muxBps ← if config.system = bytes "dvbs" then floorDivide (numerator * 188) (denominator * 204)
    else floorDivide numerator denominator
  return (muxBps / 1000).toUInt32

def calculatePlutoVideoBitrateKbps (config : PlutoConfig) : Except String UInt32 := do
  let muxRate ← calculatePlutoMuxRateKbps config
  return if muxRate ≤ config.audioBitrateKbps then 1 else muxRate - config.audioBitrateKbps

/-! ## Sections -/

variable (arithmetic : Arithmetic)

/-- The two thresholds. -/
def readSelection (selection : Json) : Except String (Rat × Rat) := do
  let standing : RepeaterConfig := {}
  let minimumMerDb ← optional selection "minimumMerDb" standing.minimumMerDb (jsonDouble · "minimumMerDb")
  let minimumDNumberDb ← optional selection "minimumDNumberDb" standing.minimumDNumberDb
    (jsonDouble · "minimumDNumberDb")
  return (minimumMerDb, minimumDNumberDb)

def readPluto (pluto : Json) : Except String PlutoConfig := do
  let standing : PlutoConfig := {}
  let address ← optional pluto "address" standing.address (jsonText · "pluto.address")
  let port ← optional pluto "port" standing.port fun value => do
    return (← jsonUint32 arithmetic value "pluto.port").toUInt16
  let mqttEnabled ← optional pluto "mqttEnabled" standing.mqttEnabled (jsonBool · "pluto.mqttEnabled")
  let mqttHost ← optional pluto "mqttHost" standing.mqttHost (jsonText · "pluto.mqttHost")
  let mqttPort ← optional pluto "mqttPort" standing.mqttPort fun value => do
    return (← jsonUint32 arithmetic value "pluto.mqttPort").toUInt16
  let mqttProtocol ← optional pluto "mqttProtocol" standing.mqttProtocol fun value => do
    oneOf ["pluto-ori", "tezuka"] "pluto.mqttProtocol must be pluto-ori or tezuka"
      (← jsonText value "pluto.mqttProtocol")
  let mqttDeviceId ← optional pluto "mqttDeviceId" standing.mqttDeviceId (jsonText · "pluto.mqttDeviceId")
  let callsign ← optional pluto "callsign" standing.callsign (jsonText · "pluto.callsign")
  let system ← optional pluto "system" standing.system fun value => do
    parsePlutoSystem (← jsonText value "pluto.system")
  let txFrequencyHz ← optional pluto "txFrequencyHz" standing.txFrequencyHz fun value => do
    return (← jsonUint32 arithmetic value "pluto.txFrequencyHz").toUInt64
  let symbolRateS ← optional pluto "symbolRateS" standing.symbolRateS (jsonUint32 arithmetic · "pluto.symbolRateS")
  let txGainDb ← optional pluto "txGainDb" standing.txGainDb (jsonInt arithmetic · "pluto.txGainDb")
  let ncoHz ← optional pluto "ncoHz" standing.ncoHz (jsonInt arithmetic · "pluto.ncoHz")
  let digitalGainDb ← optional pluto "digitalGainDb" standing.digitalGainDb fun value => do
    return clamp (← jsonInt arithmetic value "pluto.digitalGainDb") (-100) 100
  let firFilter ← optional pluto "firFilter" standing.firFilter (jsonBool · "pluto.firFilter")
  let pilots ← optional pluto "pilots" standing.pilots (jsonBool · "pluto.pilots")
  let frame ← optional pluto "frame" standing.frame (jsonText · "pluto.frame")
  let fecMode ← optional pluto "fecMode" standing.fecMode (jsonText · "pluto.fecMode")
  let constellation ← optional pluto "constellation" standing.constellation (jsonText · "pluto.constellation")
  let muxRateKbps ← optional pluto "muxRateKbps" standing.muxRateKbps (jsonUint32 arithmetic · "pluto.muxRateKbps")
  let videoBitrateKbps ← optional pluto "videoBitrateKbps" standing.videoBitrateKbps
    (jsonUint32 arithmetic · "pluto.videoBitrateKbps")
  let audioBitrateKbps ← optional pluto "audioBitrateKbps" standing.audioBitrateKbps
    (jsonUint32 arithmetic · "pluto.audioBitrateKbps")
  let outputAudioChannels ← optional pluto "outputAudioChannels" standing.outputAudioChannels fun value => do
    return clamp (← jsonUint32 arithmetic value "pluto.outputAudioChannels") 1 2
  let outputWidth ← optional pluto "outputWidth" standing.outputWidth fun value => do
    return clamp (← jsonUint32 arithmetic value "pluto.outputWidth") 320 1920 &&& ~~~1
  let outputHeight ← optional pluto "outputHeight" standing.outputHeight fun value => do
    return clamp (← jsonUint32 arithmetic value "pluto.outputHeight") 240 1080 &&& ~~~1
  let outputFrameRate ← optional pluto "outputFrameRate" standing.outputFrameRate fun value => do
    return clamp (← jsonUint32 arithmetic value "pluto.outputFrameRate") 1 50
  let h264Profile ← optional pluto "h264Profile" standing.h264Profile fun value => do
    parseH264Profile (← jsonText value "pluto.h264Profile")
  let h264Level ← optional pluto "h264Level" standing.h264Level fun value => do
    parseH264Level (← jsonText value "pluto.h264Level")
  let fec ← optional pluto "fec" standing.fec fun value => do
    let parsedFec ← parseFec (← jsonText value "pluto.fec")
    if parsedFec = bytes "auto" then throw "pluto.fec must be an explicit FEC" else return parsedFec
  let watermarkText ← optional pluto "watermarkText" standing.watermarkText (jsonText · "pluto.watermarkText")
  let config : PlutoConfig := {
    address, port, mqttEnabled, mqttHost, mqttPort, mqttProtocol, mqttDeviceId, callsign, system, txFrequencyHz
    symbolRateS, txGainDb, ncoHz, digitalGainDb, firFilter, pilots, frame, fecMode, constellation, muxRateKbps
    videoBitrateKbps, audioBitrateKbps, outputAudioChannels, outputWidth, outputHeight, outputFrameRate, h264Profile
    h264Level, fec, watermarkText }
  let muxRateKbps ← calculatePlutoMuxRateKbps config
  let config := { config with muxRateKbps }
  let videoBitrateKbps ← calculatePlutoVideoBitrateKbps config
  return { config with videoBitrateKbps }

/-- `std::max(1, seconds) * 1000`. -/
def slideMilliseconds (seconds : Int32) : Int := (arithmetic.multiply (max 1 seconds) 1000).toInt

def readFallback (fallback : Json) : Except String FallbackConfig := do
  let standing : FallbackConfig := {}
  let enabled ← optional fallback "enabled" standing.enabled (jsonBool · "fallback.enabled")
  let videoDirectory ← optional fallback "videoDirectory" standing.videoDirectory (jsonText · "fallback.videoDirectory")
  let slideDirectory ← optional fallback "slideDirectory" standing.slideDirectory (jsonText · "fallback.slideDirectory")
  let christmasSlideDirectory ← optional fallback "christmasSlideDirectory" standing.christmasSlideDirectory
    (jsonText · "fallback.christmasSlideDirectory")
  let slideDuration ← optional fallback "slideDurationSeconds" standing.slideDuration fun value => do
    return slideMilliseconds arithmetic (← jsonInt arithmetic value "fallback.slideDurationSeconds")
  let inputTimeout ← optional fallback "inputTimeoutMs" standing.inputTimeout fun value => do
    return (← jsonInt arithmetic value "fallback.inputTimeoutMs").toInt
  let staticFrameRate ← optional fallback "staticFrameRate" standing.staticFrameRate fun value => do
    return clamp (← jsonUint32 arithmetic value "fallback.staticFrameRate") 1 25
  let hardwareDecode ← optional fallback "hardwareDecode" standing.hardwareDecode (jsonBool · "fallback.hardwareDecode")
  let videoPaths ← optional fallback "videoPaths" standing.videoPaths
    (jsonArray "fallback videoPaths must be an array" (jsonText · "fallback.videoPaths"))
  return { enabled, videoPaths, videoDirectory, slideDirectory, christmasSlideDirectory, slideDuration, inputTimeout
           staticFrameRate, hardwareDecode }

def readRtmp (rtmp : Json) : Except String RtmpStreamingConfig := do
  let standing : RtmpStreamingConfig := {}
  let enabled ← optional rtmp "enabled" standing.enabled (jsonBool · "streaming.rtmp.enabled")
  let url ← optional rtmp "url" standing.url (jsonText · "streaming.rtmp.url")
  return { enabled, url }

def readStreaming (streaming : Json) : Except String StreamingConfig := do
  let rtmp ← optional streaming "rtmp" {} readRtmp
  return { rtmp }

def readMedia (media : Json) : Except String MediaConfig := do
  let standing : MediaConfig := {}
  let backend ← optional media "backend" standing.backend fun value => do
    oneOf ["ffmpeg", "gstreamer"] "media.backend must be ffmpeg or gstreamer" (← jsonText value "media.backend")
  return { backend }

/-- A port that a socket can be bound to or sent to. -/
def jsonPort (value : Json) (name : String) : Except String UInt16 := do
  let value ← jsonUint32 arithmetic value name
  if value = 0 ∨ 65535 < value then throw (name ++ " must be between 1 and 65535") else return value.toUInt16

def readTsGateway (tsGateway : Json) : Except String TsGatewayConfig := do
  let standing : TsGatewayConfig := {}
  let address ← optional tsGateway "address" standing.address (jsonText · "tsGateway.address")
  let port ← optional tsGateway "port" standing.port (jsonPort arithmetic · "tsGateway.port")
  return { address, port }

def readGatewayInput (gatewayInput : Json) : Except String GatewayInputConfig := do
  let standing : GatewayInputConfig := {}
  let listenAddress ← optional gatewayInput "listenAddress" standing.listenAddress
    (jsonText · "gatewayInput.listenAddress")
  let listenPort ← optional gatewayInput "listenPort" standing.listenPort
    (jsonPort arithmetic · "gatewayInput.listenPort")
  let packetSize ← optional gatewayInput "packetSize" standing.packetSize fun value => do
    let value ← jsonUint32 arithmetic value "gatewayInput.packetSize"
    if value = 0 ∨ value % 188 ≠ 0 then throw "gatewayInput.packetSize must be a positive multiple of 188"
    else return value.toUInt64
  return { listenAddress, listenPort, packetSize }

def readPiStatus (piStatus : Json) : Except String PiStatusConfig := do
  let standing : PiStatusConfig := {}
  let enabled ← optional piStatus "enabled" standing.enabled (jsonBool · "piStatus.enabled")
  let address ← optional piStatus "address" standing.address (jsonText · "piStatus.address")
  let port ← optional piStatus "port" standing.port (jsonPort arithmetic · "piStatus.port")
  let pollInterval ← optional piStatus "pollIntervalMs" standing.pollInterval fun value => do
    return (max 100 (← jsonInt arithmetic value "piStatus.pollIntervalMs")).toInt
  return { enabled, address, port, pollInterval }

def readHardwarePtt (hardwarePtt : Json) : Except String HardwarePttConfig := do
  let standing : HardwarePttConfig := {}
  let enabled ← optional hardwarePtt "enabled" standing.enabled (jsonBool · "hardwarePtt.enabled")
  let mode ← optional hardwarePtt "mode" standing.mode fun value => do
    oneOf ["local", "pi-gpio"] "hardwarePtt.mode must be local or pi-gpio" (← jsonText value "hardwarePtt.mode")
  let chip ← optional hardwarePtt "chip" standing.chip (jsonText · "hardwarePtt.chip")
  let line ← optional hardwarePtt "line" standing.line (jsonUint32 arithmetic · "hardwarePtt.line")
  let activeHigh ← optional hardwarePtt "activeHigh" standing.activeHigh (jsonBool · "hardwarePtt.activeHigh")
  return { enabled, mode, chip, line, activeHigh }

def readBeaconSchedule (schedule : Json) : Except String BeaconScheduleConfig := do
  let standing : BeaconScheduleConfig := {}
  let enabled ← optional schedule "enabled" standing.enabled (jsonBool · "beaconSchedule.enabled")
  let startTime ← optional schedule "startTime" standing.startTime fun value => do
    parseClockTime (← jsonText value "beaconSchedule.startTime") "beaconSchedule.startTime"
  let endTime ← optional schedule "endTime" standing.endTime fun value => do
    parseClockTime (← jsonText value "beaconSchedule.endTime") "beaconSchedule.endTime"
  return { enabled, startTime, endTime }

def readIdent (ident : Json) : Except String IdentConfig := do
  let standing : IdentConfig := {}
  let enabled ← optional ident "enabled" standing.enabled (jsonBool · "ident.enabled")
  let serviceName ← optional ident "serviceName" standing.serviceName (jsonText · "ident.serviceName")
  let interval ← optional ident "intervalSeconds" standing.interval fun value => do
    return (← jsonInt arithmetic value "ident.intervalSeconds").toInt
  let morseToneHz ← optional ident "morseToneHz" standing.morseToneHz fun value => do
    return clamp (← jsonUint32 arithmetic value "ident.morseToneHz") 100 3000
  let morseWpm ← optional ident "morseWpm" standing.morseWpm fun value => do
    return clamp (← jsonUint32 arithmetic value "ident.morseWpm") 5 40
  return { enabled, serviceName, interval, morseToneHz, morseWpm }

def readCapture (capture : Json) : Except String AnalogueCaptureConfig := do
  let standing : AnalogueCaptureConfig := {}
  let enabled ← optional capture "enabled" standing.enabled (jsonBool · "analogue.capture.enabled")
  let receiver ← optional capture "receiverId" standing.receiver fun value => do
    let receiver ← jsonInt arithmetic value "analogue.capture.receiverId"
    if receiver < 1 then throw "analogue.capture.receiverId must be positive" else return ⟨receiver⟩
  let deviceId ← optional capture "deviceId" standing.deviceId (jsonText · "analogue.capture.deviceId")
  let label ← optional capture "label" standing.label (jsonText · "analogue.capture.label")
  let captureDevice ← optional capture "captureDevice" standing.captureDevice
    (jsonText · "analogue.capture.captureDevice")
  let captureStandard ← optional capture "captureStandard" standing.captureStandard fun value => do
    oneOf ["pal", "ntsc", "secam"] "analogue.capture.captureStandard must be pal, ntsc, or secam"
      (← jsonText value "analogue.capture.captureStandard")
  let captureInputFormat ← optional capture "captureInputFormat" standing.captureInputFormat fun value => do
    oneOf ["yuyv422", "mjpeg"] "analogue.capture.captureInputFormat must be yuyv422 or mjpeg"
      (← jsonText value "analogue.capture.captureInputFormat")
  let captureWidth ← optional capture "captureWidth" standing.captureWidth fun value => do
    return clamp (← jsonUint32 arithmetic value "analogue.capture.captureWidth") 160 1920
  let captureHeight ← optional capture "captureHeight" standing.captureHeight fun value => do
    return clamp (← jsonUint32 arithmetic value "analogue.capture.captureHeight") 120 1080
  let captureFrameRate ← optional capture "captureFrameRate" standing.captureFrameRate fun value => do
    return clamp (← jsonUint32 arithmetic value "analogue.capture.captureFrameRate") 1 50
  -- A frame rate sets the fraction too, which has members of its own.
  let rated := (optionalMember capture "captureFrameRate").isSome
  let captureFrameRateNumerator ← optional capture "captureFrameRateNumerator"
    (if rated then captureFrameRate else standing.captureFrameRateNumerator) fun value => do
      return clamp (← jsonUint32 arithmetic value "analogue.capture.captureFrameRateNumerator") 1 60000
  let captureFrameRateDenominator ← optional capture "captureFrameRateDenominator"
    (if rated then 1 else standing.captureFrameRateDenominator) fun value => do
      return clamp (← jsonUint32 arithmetic value "analogue.capture.captureFrameRateDenominator") 1 1001
  let audioEnabled ← optional capture "audioEnabled" standing.audioEnabled (jsonBool · "analogue.capture.audioEnabled")
  let audioDevice ← optional capture "audioDevice" standing.audioDevice (jsonText · "analogue.capture.audioDevice")
  let audioSampleRate ← optional capture "audioSampleRate" standing.audioSampleRate fun value => do
    return clamp (← jsonUint32 arithmetic value "analogue.capture.audioSampleRate") 8000 192000
  let audioChannels ← optional capture "audioChannels" standing.audioChannels fun value => do
    return clamp (← jsonUint32 arithmetic value "analogue.capture.audioChannels") 1 8
  let audioDelayMs ← optional capture "audioDelayMs" standing.audioDelayMs fun value => do
    return clamp (← jsonUint32 arithmetic value "analogue.capture.audioDelayMs") 0 2000
  let lockMode ← optional capture "lockMode" standing.lockMode fun value => do
    oneOf ["manual", "device-present", "v4l2-sync", "gpio", "pi-gpio"]
      "analogue.capture.lockMode must be manual, device-present, v4l2-sync, gpio, or pi-gpio"
      (← jsonText value "analogue.capture.lockMode")
  let gpioChip ← optional capture "gpioChip" standing.gpioChip (jsonText · "analogue.capture.gpioChip")
  let gpioLine ← optional capture "gpioLine" standing.gpioLine (jsonUint32 arithmetic · "analogue.capture.gpioLine")
  let gpioActiveHigh ← optional capture "gpioActiveHigh" standing.gpioActiveHigh
    (jsonBool · "analogue.capture.gpioActiveHigh")
  return { enabled, receiver, deviceId, label, captureDevice, captureStandard, captureInputFormat, captureWidth
           captureHeight, captureFrameRate, captureFrameRateNumerator, captureFrameRateDenominator, audioEnabled
           audioDevice, audioSampleRate, audioChannels, audioDelayMs, lockMode, gpioChip, gpioLine, gpioActiveHigh }

def readAnalogue (analogue : Json) : Except String AnalogueConfig := do
  let capture ← optional analogue "capture" {} (readCapture arithmetic)
  return { capture }

/-! ## Receivers -/

def fixedAntennaForReceiver (receiver : ReceiverId) : Antenna :=
  if receiver.value = 1 ∨ receiver.value = 3 then .top else .bottom

def parseTarget (target : Json) : Except String ScanTarget := do
  let standing : ScanTarget := {}
  let frequencyKhz ← required target "frequencyKhz" (jsonUint32 arithmetic · "frequencyKhz")
  let symbolRateKs ← required target "symbolRateKs" (jsonUint32 arithmetic · "symbolRateKs")
  let localOscillatorKhz ← required target "localOscillatorKhz" (jsonUint32 arithmetic · "localOscillatorKhz")
  let antenna ← optional target "antenna" standing.antenna fun value => do parseAntenna (← jsonText value "antenna")
  let system ← optional target "system" standing.system fun value => do parseSystem (← jsonText value "system")
  let fec ← optional target "fec" standing.fec fun value => do parseFec (← jsonText value "fec")
  let label ← optional target "label" standing.label (jsonText · "label")
  return { frequencyKhz, symbolRateKs, localOscillatorKhz, antenna, system, fec, label }

/-- A target of the receiver, whose antenna is wired. -/
def readTarget (receiver : ReceiverId) (target : Json) : Except String ScanTarget := do
  return { ← parseTarget arithmetic target with antenna := fixedAntennaForReceiver receiver }

def readReceiver (receiverValue : Json) : Except String ReceiverConfig := do
  let standing : ReceiverConfig := {}
  let id ← required receiverValue "id" (jsonInt arithmetic · "receiver.id")
  if id < 1 ∨ 4 < id then throw "receiver id must be 1..4"
  else do
    let receiver : ReceiverId := ⟨id⟩
    let enabled ← optional receiverValue "enabled" standing.enabled (jsonBool · "receiver.enabled")
    let dwellTime ← optional receiverValue "dwellMs" standing.dwellTime fun value => do
      return (← jsonInt arithmetic value "receiver.dwellMs").toInt
    let hangTime ← optional receiverValue "hangMs" standing.hangTime fun value => do
      return (← jsonInt arithmetic value "receiver.hangMs").toInt
    let targets ← required receiverValue "targets"
      (jsonArray "receiver targets must be an array" (readTarget arithmetic receiver))
    return { receiver, enabled, targets, dwellTime, hangTime }

/-! ## The configuration -/

def readConfig (root : Json) : Except String RepeaterConfig := do
  let standing : RepeaterConfig := {}
  let statusInterval ← optional root "statusIntervalMs" standing.statusInterval fun value => do
    return (← jsonInt arithmetic value "statusIntervalMs").toInt
  let mode ← optional root "mode" standing.mode fun value => do
    oneOf ["local-transcode", "ts-gateway", "pc-gateway"] "mode must be local-transcode, ts-gateway, or pc-gateway"
      (← jsonText value "mode")
  let selection ← optional root "selection" (standing.minimumMerDb, standing.minimumDNumberDb) readSelection
  let pluto ← optional root "pluto" standing.pluto (readPluto arithmetic)
  let fallback ← optional root "fallback" standing.fallback (readFallback arithmetic)
  let streaming ← optional root "streaming" standing.streaming readStreaming
  let media ← optional root "media" standing.media readMedia
  let tsGateway ← optional root "tsGateway" standing.tsGateway (readTsGateway arithmetic)
  let gatewayInput ← optional root "gatewayInput" standing.gatewayInput (readGatewayInput arithmetic)
  let piStatus ← optional root "piStatus" standing.piStatus (readPiStatus arithmetic)
  let hardwarePtt ← optional root "hardwarePtt" standing.hardwarePtt (readHardwarePtt arithmetic)
  let beaconSchedule ← optional root "beaconSchedule" standing.beaconSchedule readBeaconSchedule
  let ident ← optional root "ident" standing.ident (readIdent arithmetic)
  let analogue ← optional root "analogue" standing.analogue (readAnalogue arithmetic)
  let receivers ← required root "receivers" (jsonArray "receivers must be an array" (readReceiver arithmetic))
  return { mode, receivers, pluto, fallback, streaming, beaconSchedule, ident, hardwarePtt, analogue, media, tsGateway
           gatewayInput, piStatus, statusInterval, minimumMerDb := selection.1, minimumDNumberDb := selection.2 }

/-- Every text is read in the end, see `parse_finishes`. -/
def configFromJson (text : Bytes) : ExceptT String Option RepeaterConfig := do
  let root ← JsonParser.parse text
  readConfig arithmetic root

end WhRepeater
