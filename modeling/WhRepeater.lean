import WhRepeater.HardwarePttReloads
import WhRepeater.PiPttReloads
import WhRepeater.TransmitPolicy
import WhRepeater.RetransmitSelection
import WhRepeater.PlaybackCommand
import WhRepeater.DecoderSession
import WhRepeater.ChildRestarts
import WhRepeater.MediaCoherence
import WhRepeater.PlaybackAgreement
import WhRepeater.ConfigRoundTrip
import WhRepeater.MediaTransport
import WhRepeater.PlutoAlignment
import WhRepeater.GatewayLiveness
import WhRepeater.GatewayTransport
import WhRepeater.ReceiversOnAir
import WhRepeater.PiConvergence
import WhRepeater.ApiSurvival
import WhRepeater.ReceiverRecovery
import WhRepeater.GatewayFailures
import WhRepeater.AccessSessions
import WhRepeater.PacketConservation
import WhRepeater.TransportFreshness
import WhRepeater.RepeaterExclusivity
import WhRepeater.OutputContinuity
import WhRepeater.RtmpOffsets
import WhRepeater.NoticeTone
import WhRepeater.ConfigHandoff
import WhRepeater.ScanHolds
import WhRepeater.GpioWriteBody
import WhRepeater.GpioReadPath
import WhRepeater.NumbersKept
import WhRepeater.RequestReassembly
import WhRepeater.RemoteControl
import WhRepeater.ApiResponses
import WhRepeater.PartialReplies
import WhRepeater.ArbitrationOrder
import WhRepeater.GatewayRouting
import WhRepeater.ScanRotation
import WhRepeater.PlutoRates
import WhRepeater.RtmpTimestamps
import WhRepeater.MorseDecoding
import WhRepeater.ParameterSets
import WhRepeater.TuneWrites
import WhRepeater.SubmittedAudio
import WhRepeater.SubmittedVideo
import WhRepeater.CachedCompositing
import WhRepeater.MqttFraming
import WhRepeater.DigitLoops
import WhRepeater.Timecodes
import WhRepeater.ReceiverFiltering
import WhRepeater.StreamInfoText
import WhRepeater.ChangeDetection
import WhRepeater.SectionReassembly
import WhRepeater.ServiceReports
import WhRepeater.LiveInput
import WhRepeater.RtmpSessions
import WhRepeater.PlutoPublishes
import WhRepeater.TransportChain
