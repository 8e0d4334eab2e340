import WhRepeater.Types

/-! The configuration record (`config.hpp`) with the defaults of the source.
Durations keep the unit of their `std::chrono` type, named in the field's
comment; the two selection thresholds are finite `double`s, kept as rationals. -/
namespace WhRepeater

structure PlutoConfig where
  address : Bytes := bytes "230.10.0.1"
  port : UInt16 := 1234
  mqttEnabled : Bool := true
  mqttHost : Bytes := bytes "192.168.99.118"
  mqttPort : UInt16 := 1883
  mqttProtocol : Bytes := bytes "tezuka"
  mqttDeviceId : Bytes := bytes "nocall"
  callsign : Bytes := bytes "GB3GV"
  system : Bytes := bytes "dvbs2"
  txFrequencyHz : UInt64 := 2400000000
  symbolRateS : UInt32 := 333000
  txGainDb : Int32 := -40
  ncoHz : Int32 := 0
  digitalGainDb : Int32 := 0
  firFilter : Bool := false
  pilots : Bool := false
  frame : Bytes := bytes "long"
  fecMode : Bytes := bytes "fixed"
  constellation : Bytes := bytes "qpsk"
  muxRateKbps : UInt32 := 1200
  videoBitrateKbps : UInt32 := 900
  audioBitrateKbps : UInt32 := 96
  outputAudioChannels : UInt32 := 2
  outputWidth : UInt32 := 1280
  outputHeight : UInt32 := 720
  outputFrameRate : UInt32 := 25
  h264Profile : Bytes := bytes "main"
  h264Level : Bytes := bytes "auto"
  fec : Bytes := bytes "1/2"
  watermarkText : Bytes := bytes "WH Repeater"
  deriving Repr, DecidableEq

structure FallbackConfig where
  enabled : Bool := true
  videoPaths : List Bytes := []
  videoDirectory : Bytes := bytes "/home/pi/Videos"
  slideDirectory : Bytes := bytes "/var/lib/wh-repeater/slides"
  christmasSlideDirectory : Bytes := bytes "/var/lib/wh-repeater/slides/christmas"
  /-- Milliseconds. -/
  slideDuration : Int := 10000
  /-- Milliseconds. -/
  inputTimeout : Int := 1500
  staticFrameRate : UInt32 := 2
  hardwareDecode : Bool := false
  deriving Repr, DecidableEq

structure RtmpStreamingConfig where
  enabled : Bool := false
  url : Bytes := []
  deriving Repr, DecidableEq

structure StreamingConfig where
  rtmp : RtmpStreamingConfig := {}
  deriving Repr, DecidableEq

structure BeaconScheduleConfig where
  enabled : Bool := false
  startTime : Bytes := bytes "09:00"
  endTime : Bytes := bytes "23:00"
  deriving Repr, DecidableEq

structure IdentConfig where
  enabled : Bool := true
  serviceName : Bytes := bytes "WH Repeater"
  /-- Seconds. -/
  interval : Int := 600
  morseToneHz : UInt32 := 650
  morseWpm : UInt32 := 10
  deriving Repr, DecidableEq

structure HardwarePttConfig where
  enabled : Bool := false
  mode : Bytes := bytes "local"
  chip : Bytes := bytes "/dev/gpiochip0"
  line : UInt32 := 0
  activeHigh : Bool := true
  deriving Repr, DecidableEq

structure AnalogueCaptureConfig where
  enabled : Bool := false
  receiver : ReceiverId := ⟨5⟩
  deviceId : Bytes := bytes "usb-capture"
  label : Bytes := bytes "USB analogue"
  captureDevice : Bytes := bytes "/dev/video0"
  captureStandard : Bytes := bytes "pal"
  captureInputFormat : Bytes := bytes "yuyv422"
  captureWidth : UInt32 := 720
  captureHeight : UInt32 := 576
  captureFrameRate : UInt32 := 25
  captureFrameRateNumerator : UInt32 := 25
  captureFrameRateDenominator : UInt32 := 1
  audioEnabled : Bool := false
  audioDevice : Bytes := bytes "hw:1,0"
  audioSampleRate : UInt32 := 48000
  audioChannels : UInt32 := 2
  audioDelayMs : UInt32 := 0
  lockMode : Bytes := bytes "v4l2-sync"
  gpioChip : Bytes := bytes "/dev/gpiochip0"
  gpioLine : UInt32 := 26
  gpioActiveHigh : Bool := true
  deriving Repr, DecidableEq

structure AnalogueConfig where
  capture : AnalogueCaptureConfig := {}
  deriving Repr, DecidableEq

structure MediaConfig where
  backend : Bytes := bytes "ffmpeg"
  deriving Repr, DecidableEq

structure TsGatewayConfig where
  address : Bytes := bytes "127.0.0.1"
  port : UInt16 := 5000
  deriving Repr, DecidableEq

structure GatewayInputConfig where
  listenAddress : Bytes := bytes "0.0.0.0"
  listenPort : UInt16 := 5000
  packetSize : UInt64 := 1316
  deriving Repr, DecidableEq

structure PiStatusConfig where
  enabled : Bool := true
  address : Bytes := bytes "127.0.0.1"
  port : UInt16 := 8080
  /-- Milliseconds. -/
  pollInterval : Int := 500
  deriving Repr, DecidableEq

structure ReceiverConfig where
  receiver : ReceiverId := {}
  enabled : Bool := true
  targets : List ScanTarget := []
  /-- Milliseconds. -/
  dwellTime : Int := 1500
  /-- Milliseconds. -/
  hangTime : Int := 5000
  deriving Repr, DecidableEq

structure RepeaterConfig where
  mode : Bytes := bytes "local-transcode"
  receivers : List ReceiverConfig := []
  pluto : PlutoConfig := {}
  fallback : FallbackConfig := {}
  streaming : StreamingConfig := {}
  beaconSchedule : BeaconScheduleConfig := {}
  ident : IdentConfig := {}
  hardwarePtt : HardwarePttConfig := {}
  analogue : AnalogueConfig := {}
  media : MediaConfig := {}
  tsGateway : TsGatewayConfig := {}
  gatewayInput : GatewayInputConfig := {}
  piStatus : PiStatusConfig := {}
  /-- Milliseconds. -/
  statusInterval : Int := 500
  minimumMerDb : Rat := 2
  minimumDNumberDb : Rat := 0
  deriving Repr, DecidableEq

end WhRepeater
