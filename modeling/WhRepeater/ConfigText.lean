import WhRepeater.ConfigRead
import WhRepeater.JsonDocuments

/-! `configToJson` (`config.cpp`). The rates of the transmitter are calculated
again, whatever the record has. -/
namespace WhRepeater

open Document

def antennaName (antenna : Antenna) : Bytes := if antenna = .top then bytes "top" else bytes "bottom"

def systemName : DvbSystem → Bytes
  | .dvbs => bytes "dvbs"
  | .dvbs2 => bytes "dvbs2"
  | .unknown => bytes "auto"

def targetJson (target : ScanTarget) : Document := object .compact [
  ("frequencyKhz", decimal target.frequencyKhz.toNat),
  ("symbolRateKs", decimal target.symbolRateKs.toNat),
  ("localOscillatorKhz", decimal target.localOscillatorKhz.toNat),
  ("antenna", text (antennaName target.antenna)),
  ("system", text (systemName target.system)),
  ("fec", text target.fec),
  ("label", text target.label)]

def selectionJson (selection : Rat × Rat) : Document := object (.lines 4) [
  ("minimumMerDb", double selection.1),
  ("minimumDNumberDb", double selection.2)]

/-- With the rates that were calculated. -/
def plutoJson (muxRateKbps videoBitrateKbps : UInt32) (pluto : PlutoConfig) : Document := object (.lines 4) [
  ("address", text pluto.address),
  ("port", decimal pluto.port.toNat),
  ("mqttEnabled", flag pluto.mqttEnabled),
  ("mqttHost", text pluto.mqttHost),
  ("mqttPort", decimal pluto.mqttPort.toNat),
  ("mqttProtocol", text pluto.mqttProtocol),
  ("mqttDeviceId", text pluto.mqttDeviceId),
  ("callsign", text pluto.callsign),
  ("system", text pluto.system),
  ("txFrequencyHz", decimal pluto.txFrequencyHz.toNat),
  ("symbolRateS", decimal pluto.symbolRateS.toNat),
  ("txGainDb", decimal pluto.txGainDb.toInt),
  ("ncoHz", decimal pluto.ncoHz.toInt),
  ("digitalGainDb", decimal pluto.digitalGainDb.toInt),
  ("firFilter", flag pluto.firFilter),
  ("pilots", flag pluto.pilots),
  ("frame", text pluto.frame),
  ("fecMode", text pluto.fecMode),
  ("constellation", text pluto.constellation),
  ("muxRateKbps", decimal muxRateKbps.toNat),
  ("videoBitrateKbps", decimal videoBitrateKbps.toNat),
  ("audioBitrateKbps", decimal pluto.audioBitrateKbps.toNat),
  ("outputAudioChannels", decimal pluto.outputAudioChannels.toNat),
  ("outputWidth", decimal pluto.outputWidth.toNat),
  ("outputHeight", decimal pluto.outputHeight.toNat),
  ("outputFrameRate", decimal pluto.outputFrameRate.toNat),
  ("h264Profile", text pluto.h264Profile),
  ("h264Level", text pluto.h264Level),
  ("fec", text pluto.fec),
  ("watermarkText", text pluto.watermarkText)]

def fallbackJson (fallback : FallbackConfig) : Document := object (.lines 4) [
  ("enabled", flag fallback.enabled),
  ("videoDirectory", text fallback.videoDirectory),
  ("slideDirectory", text fallback.slideDirectory),
  ("christmasSlideDirectory", text fallback.christmasSlideDirectory),
  ("slideDurationSeconds", decimal (fallback.slideDuration.tdiv 1000)),
  ("inputTimeoutMs", decimal fallback.inputTimeout),
  ("staticFrameRate", decimal fallback.staticFrameRate.toNat),
  ("hardwareDecode", flag fallback.hardwareDecode),
  ("videoPaths", array .inline (fallback.videoPaths.map text))]

def rtmpJson (rtmp : RtmpStreamingConfig) : Document := object (.lines 6) [
  ("enabled", flag rtmp.enabled),
  ("url", text rtmp.url)]

def streamingJson (streaming : StreamingConfig) : Document := object (.lines 4) [
  ("rtmp", rtmpJson streaming.rtmp)]

def mediaJson (media : MediaConfig) : Document := object (.lines 4) [
  ("backend", text media.backend)]

def tsGatewayJson (tsGateway : TsGatewayConfig) : Document := object (.lines 4) [
  ("address", text tsGateway.address),
  ("port", decimal tsGateway.port.toNat)]

def gatewayInputJson (gatewayInput : GatewayInputConfig) : Document := object (.lines 4) [
  ("listenAddress", text gatewayInput.listenAddress),
  ("listenPort", decimal gatewayInput.listenPort.toNat),
  ("packetSize", decimal gatewayInput.packetSize.toNat)]

def piStatusJson (piStatus : PiStatusConfig) : Document := object (.lines 4) [
  ("enabled", flag piStatus.enabled),
  ("address", text piStatus.address),
  ("port", decimal piStatus.port.toNat),
  ("pollIntervalMs", decimal piStatus.pollInterval)]

def hardwarePttJson (hardwarePtt : HardwarePttConfig) : Document := object (.lines 4) [
  ("enabled", flag hardwarePtt.enabled),
  ("mode", text hardwarePtt.mode),
  ("chip", text hardwarePtt.chip),
  ("line", decimal hardwarePtt.line.toNat),
  ("activeHigh", flag hardwarePtt.activeHigh)]

def beaconScheduleJson (schedule : BeaconScheduleConfig) : Document := object (.lines 4) [
  ("enabled", flag schedule.enabled),
  ("startTime", text schedule.startTime),
  ("endTime", text schedule.endTime)]

def identJson (ident : IdentConfig) : Document := object (.lines 4) [
  ("enabled", flag ident.enabled),
  ("serviceName", text ident.serviceName),
  ("intervalSeconds", decimal ident.interval),
  ("morseToneHz", decimal ident.morseToneHz.toNat),
  ("morseWpm", decimal ident.morseWpm.toNat)]

def captureJson (capture : AnalogueCaptureConfig) : Document := object (.lines 6) [
  ("enabled", flag capture.enabled),
  ("receiverId", decimal capture.receiver.value.toInt),
  ("deviceId", text capture.deviceId),
  ("label", text capture.label),
  ("captureDevice", text capture.captureDevice),
  ("captureStandard", text capture.captureStandard),
  ("captureInputFormat", text capture.captureInputFormat),
  ("captureWidth", decimal capture.captureWidth.toNat),
  ("captureHeight", decimal capture.captureHeight.toNat),
  ("captureFrameRate", decimal capture.captureFrameRate.toNat),
  ("captureFrameRateNumerator", decimal capture.captureFrameRateNumerator.toNat),
  ("captureFrameRateDenominator", decimal capture.captureFrameRateDenominator.toNat),
  ("audioEnabled", flag capture.audioEnabled),
  ("audioDevice", text capture.audioDevice),
  ("audioSampleRate", decimal capture.audioSampleRate.toNat),
  ("audioChannels", decimal capture.audioChannels.toNat),
  ("audioDelayMs", decimal capture.audioDelayMs.toNat),
  ("lockMode", text capture.lockMode),
  ("gpioChip", text capture.gpioChip),
  ("gpioLine", decimal capture.gpioLine.toNat),
  ("gpioActiveHigh", flag capture.gpioActiveHigh)]

def analogueJson (analogue : AnalogueConfig) : Document := object (.lines 4) [
  ("capture", captureJson analogue.capture)]

/-- One target a line, or nothing between the brackets. -/
def targetsLayout (targets : List ScanTarget) : Layout := if targets.isEmpty then .compact else .lines 8

def receiverJson (receiver : ReceiverConfig) : Document := object (.lines 6) [
  ("id", decimal receiver.receiver.value.toInt),
  ("enabled", flag receiver.enabled),
  ("dwellMs", decimal receiver.dwellTime),
  ("hangMs", decimal receiver.hangTime),
  ("targets", array (targetsLayout receiver.targets) (receiver.targets.map targetJson))]

/-- One receiver after the other, with a line break when there is none. -/
def receiversLayout (receivers : List ReceiverConfig) : Layout :=
  if receivers.isEmpty then { Layout.compact with closing := newline 2, blank := rfl } else .lines 4

def configJson (muxRateKbps videoBitrateKbps : UInt32) (config : RepeaterConfig) : Document := object (.lines 2) [
  ("mode", text config.mode),
  ("statusIntervalMs", decimal config.statusInterval),
  ("selection", selectionJson (config.minimumMerDb, config.minimumDNumberDb)),
  ("pluto", plutoJson muxRateKbps videoBitrateKbps config.pluto),
  ("fallback", fallbackJson config.fallback),
  ("streaming", streamingJson config.streaming),
  ("media", mediaJson config.media),
  ("tsGateway", tsGatewayJson config.tsGateway),
  ("gatewayInput", gatewayInputJson config.gatewayInput),
  ("piStatus", piStatusJson config.piStatus),
  ("hardwarePtt", hardwarePttJson config.hardwarePtt),
  ("beaconSchedule", beaconScheduleJson config.beaconSchedule),
  ("ident", identJson config.ident),
  ("analogue", analogueJson config.analogue),
  ("receivers", array (receiversLayout config.receivers) (config.receivers.map receiverJson))]

/-- Throws where a rate cannot be calculated. -/
def configToJson (printDouble : Rat → Bytes) (config : RepeaterConfig) : Except String Bytes := do
  let muxRateKbps ← calculatePlutoMuxRateKbps config.pluto
  let videoBitrateKbps ← calculatePlutoVideoBitrateKbps config.pluto
  return (configJson muxRateKbps videoBitrateKbps config).print printDouble ++ bytes "\n"

end WhRepeater
