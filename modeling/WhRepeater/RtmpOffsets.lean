import WhRepeater.Config
import WhRepeater.Rebasing
import WhRepeater.Runs
import WhRepeater.Types
import Mathlib.Data.Rat.Floor
import Mathlib.Algebra.Order.Ring.Rat
import Mathlib.Algebra.Order.Group.Abs

/-! The RTMP mirror of the output stream (`PersistentRtmpMuxer`). It outlives the
muxers that feed it, and moves the audio and the video on separately when their
timestamps start again: nothing holds the two offsets together. -/
namespace WhRepeater

open Rebasing Runs

/-- An `AVPacket`: `none` is `AV_NOPTS_VALUE`. `parameterSets` on a keyframe that
carries them. Timestamps are integers, far from the ends of their 64 bits. -/
structure RtmpPacket where
  pts : Option Int
  dts : Option Int
  duration : Int
  parameterSets : Bool := false
  deriving Repr, DecidableEq

/-- What happens outside during a call: the clock before and after the output, the
connection that is tried (with an audio stream or without), and whether the write
succeeds. -/
structure RtmpOutside where
  now : Time := 0
  failedAt : Time := 0
  connects : Option Bool := some true
  writes : Bool := true
  deriving Repr, DecidableEq

/-- What the muxer keeps for each of its streams. `taken` are the timestamps it was
given while connected, in the stream's time base and newest first. -/
structure RtmpTrack where
  configured : Bool := false
  timeBase : Rat := 0
  timestampOffset : Int := 0
  lastDts : Option Int := none
  taken : List Stamp := []
  deriving DecidableEq

structure PersistentRtmpMuxer where
  config : RtmpStreamingConfig
  video : RtmpTrack := {}
  audio : RtmpTrack := {}
  extradata : Bool := false
  headerWritten : Bool := false
  audioStream : Bool := false
  nextConnectAttempt : Time := 0
  deriving DecidableEq

/-- The time base an FLV header gives every stream. -/
def flvTimeBase : Rat := 1 / 1000

namespace RtmpPacket

/-- `av_packet_rescale_ts`. -/
def rescaled (rescale : Rat → Rat → Int → Int) (timeBase : Rat) (packet : RtmpPacket) : RtmpPacket :=
  { packet with
    pts := packet.pts.map (rescale timeBase flvTimeBase)
    dts := packet.dts.map (rescale timeBase flvTimeBase)
    duration := if packet.duration > 0 then rescale timeBase flvTimeBase packet.duration else packet.duration }

def timestamp (packet : RtmpPacket) : Option Int := packet.dts.or packet.pts

def move (packet : RtmpPacket) (offset : Int) : RtmpPacket :=
  { packet with pts := packet.pts.map (· + offset), dts := packet.dts.map (· + offset) }

end RtmpPacket

namespace RtmpTrack

/-- The offset for a packet, in the two cases the source looks for: a first
timestamp below zero, and one that does not advance. -/
def offsetFor (track : RtmpTrack) (copy : RtmpPacket) : Int :=
  match copy.timestamp with
  | none => track.timestampOffset
  | some timestamp =>
    match track.lastDts with
    | none => if timestamp + track.timestampOffset < 0 then -timestamp else track.timestampOffset
    | some lastDts =>
      if timestamp + track.timestampOffset ≤ lastDts then
        lastDts + (if copy.duration > 0 then copy.duration else 1) - timestamp
      else track.timestampOffset

def place (track : RtmpTrack) (copy : RtmpPacket) : RtmpTrack :=
  let offset := track.offsetFor copy
  let moved := copy.move offset
  { track with
    timestampOffset := offset
    lastDts := moved.timestamp.or track.lastDts
    taken := (copy.timestamp.map fun timestamp =>
      { timestamp, duration := if copy.duration > 0 then copy.duration else 1 }).toList ++ track.taken }

end RtmpTrack

namespace PersistentRtmpMuxer

def enabled (muxer : PersistentRtmpMuxer) : Bool := muxer.config.enabled && !muxer.config.url.isEmpty

/-- The output is H.264, whose parameter sets have to be there first. -/
def openLocked (muxer : PersistentRtmpMuxer) (outside : RtmpOutside) : PersistentRtmpMuxer :=
  if !muxer.enabled || !muxer.video.configured || muxer.headerWritten then muxer
  else if !muxer.extradata then muxer
  else if outside.now < muxer.nextConnectAttempt then muxer
  else
    match outside.connects with
    | none => { muxer with audioStream := false, nextConnectAttempt := outside.failedAt + seconds 5 }
    | some audio => { muxer with headerWritten := true, audioStream := muxer.audio.configured && audio }

def configureVideo (muxer : PersistentRtmpMuxer) (timeBase : Rat) (extradata : Bool) (outside : RtmpOutside) :
    PersistentRtmpMuxer :=
  if !muxer.enabled || muxer.video.configured then muxer
  else ({ muxer with video := { muxer.video with configured := true, timeBase }, extradata } :
    PersistentRtmpMuxer).openLocked outside

def configureAudio (muxer : PersistentRtmpMuxer) (timeBase : Rat) (outside : RtmpOutside) : PersistentRtmpMuxer :=
  if !muxer.enabled || muxer.audio.configured then muxer
  else ({ muxer with audio := { muxer.audio with configured := true, timeBase } } : PersistentRtmpMuxer).openLocked outside

def seedH264Extradata (muxer : PersistentRtmpMuxer) (packet : RtmpPacket) : PersistentRtmpMuxer :=
  { muxer with extradata := muxer.extradata || (muxer.video.configured && packet.parameterSets) }

/-- After a failed write. -/
def closeLocked (muxer : PersistentRtmpMuxer) (failedAt : Time) : PersistentRtmpMuxer :=
  { muxer with headerWritten := false, audioStream := false, nextConnectAttempt := failedAt + seconds 5 }

def track (muxer : PersistentRtmpMuxer) (video : Bool) : RtmpTrack := if video then muxer.video else muxer.audio

def setTrack (muxer : PersistentRtmpMuxer) (video : Bool) (track : RtmpTrack) : PersistentRtmpMuxer :=
  if video then { muxer with video := track } else { muxer with audio := track }

def writePacket (rescale : Rat → Rat → Int → Int) (muxer : PersistentRtmpMuxer) (video : Bool) (packet : RtmpPacket)
    (outside : RtmpOutside) : PersistentRtmpMuxer :=
  if !muxer.enabled then muxer
  else
    let seeded := if video then muxer.seedH264Extradata packet else muxer
    let opened := if seeded.headerWritten then seeded else seeded.openLocked outside
    if !opened.headerWritten || !(video || opened.audioStream) then opened
    else
      let track := opened.track video
      let placed := opened.setTrack video (track.place (packet.rescaled rescale track.timeBase))
      if outside.writes then placed else placed.closeLocked outside.failedAt

end PersistentRtmpMuxer

/-! ## How far a stream has been moved -/

theorem RtmpPacket.timestamp_move (packet : RtmpPacket) (offset : Int) :
    (packet.move offset).timestamp = packet.timestamp.map (· + offset) := by
  obtain ⟨pts, dts, duration, parameterSets⟩ := packet
  cases dts <;> rfl

namespace RtmpTrack

/-- The offset is what the timestamps taken so far make it, and the last timestamp
written is the last one taken, moved. -/
structure Followed (track : RtmpTrack) : Prop where
  offset : track.timestampOffset = displacement track.taken
  last : track.lastDts = track.taken.head?.map fun latest => latest.timestamp + displacement track.taken

variable {track : RtmpTrack}

theorem offsetFor_eq_displacement (followed : Followed track) (copy : RtmpPacket) :
    track.offsetFor copy = displacement (track.place copy).taken := by
  obtain ⟨configured, timeBase, timestampOffset, lastDts, taken⟩ := track
  obtain ⟨offset, last⟩ := followed
  dsimp only at offset last
  subst offset last
  cases stamped : copy.timestamp with
  | none => simp [offsetFor, place, stamped]
  | some timestamp =>
    cases taken with
    | nil =>
      simp only [offsetFor, place, stamped, displacement, List.head?_nil, Option.map_none, Option.map_some, Option.toList_some,
        List.append_nil, Int.add_zero]
      split <;> omega
    | cons previous earlier =>
      simp only [offsetFor, place, stamped, displacement, List.head?_cons, Option.map_some, Option.toList_some, List.singleton_append,
        stepBack]
      generalize displacement (previous :: earlier) = shift
      split <;> split <;> omega

theorem place_followed (followed : Followed track) (copy : RtmpPacket) : Followed (track.place copy) := by
  have offset := offsetFor_eq_displacement followed copy
  refine ⟨offset, ?_⟩
  rw [← offset]
  change (copy.move (track.offsetFor copy)).timestamp.or track.lastDts = _
  rw [RtmpPacket.timestamp_move]
  cases stamped : copy.timestamp with
  | none =>
    have still : track.offsetFor copy = displacement track.taken := by
      rw [offsetFor, stamped]
      exact followed.offset
    rw [still]
    simpa [place, stamped] using followed.last
  | some timestamp => simp [place, stamped]

/-- Fed by segments that begin at zero, a stream is moved by the segments it has
left. -/
theorem Followed.offset_of_segments (followed : Followed track) {segments : List Segment}
    (fed : track.taken = segments.flatMap Segment.stamps) : track.timestampOffset = lengthLeft segments := by
  rw [followed.offset, fed, displacement_segments]

end RtmpTrack

/-! ## A run of the mirror -/

inductive RtmpEvent where
  | configureVideo (timeBase : Rat) (extradata : Bool) (outside : RtmpOutside)
  | configureAudio (timeBase : Rat) (outside : RtmpOutside)
  | write (video : Bool) (packet : RtmpPacket) (outside : RtmpOutside)
  deriving DecidableEq

namespace PersistentRtmpMuxer

def step (rescale : Rat → Rat → Int → Int) (muxer : PersistentRtmpMuxer) : RtmpEvent → Option PersistentRtmpMuxer
  | .configureVideo timeBase extradata outside => some (muxer.configureVideo timeBase extradata outside)
  | .configureAudio timeBase outside => some (muxer.configureAudio timeBase outside)
  | .write video packet outside => some (muxer.writePacket rescale video packet outside)

/-- Two moves of the streams, in seconds, differ by no more than the bound. -/
def Within (bound : Rat) (video audio : Int) : Prop := |((video - audio : Int) : Rat)| * flvTimeBase ≤ bound

def InSync (bound : Rat) (muxer : PersistentRtmpMuxer) : Prop :=
  Within bound muxer.video.timestampOffset muxer.audio.timestampOffset

/-- What the video has left and what the audio has left differ by no more than the
bound. -/
def LeftInSync (bound : Rat) (muxer : PersistentRtmpMuxer) : Prop :=
  Within bound (displacement muxer.video.taken) (displacement muxer.audio.taken)

instance (bound : Rat) (muxer : PersistentRtmpMuxer) : Decidable (muxer.InSync bound) := inferInstanceAs (Decidable (_ ≤ _))

def Followed (muxer : PersistentRtmpMuxer) : Prop := muxer.video.Followed ∧ muxer.audio.Followed

variable {muxer : PersistentRtmpMuxer}

theorem openLocked_tracks (muxer : PersistentRtmpMuxer) (outside : RtmpOutside) :
    (muxer.openLocked outside).video = muxer.video ∧ (muxer.openLocked outside).audio = muxer.audio := by
  unfold openLocked
  split_ifs
  · exact ⟨rfl, rfl⟩
  · exact ⟨rfl, rfl⟩
  · exact ⟨rfl, rfl⟩
  · split <;> exact ⟨rfl, rfl⟩

theorem openLocked_followed (followed : Followed muxer) (outside : RtmpOutside) : Followed (muxer.openLocked outside) := by
  obtain ⟨video, audio⟩ := openLocked_tracks muxer outside
  rw [Followed, video, audio]
  exact followed

theorem configureVideo_followed (followed : Followed muxer) (timeBase : Rat) (extradata : Bool) (outside : RtmpOutside) :
    Followed (muxer.configureVideo timeBase extradata outside) := by
  unfold configureVideo
  split
  · exact followed
  · apply openLocked_followed
    exact ⟨⟨followed.1.offset, followed.1.last⟩, followed.2⟩

theorem configureAudio_followed (followed : Followed muxer) (timeBase : Rat) (outside : RtmpOutside) :
    Followed (muxer.configureAudio timeBase outside) := by
  unfold configureAudio
  split
  · exact followed
  · apply openLocked_followed
    exact ⟨followed.1, ⟨followed.2.offset, followed.2.last⟩⟩

theorem track_followed (followed : Followed muxer) (video : Bool) : (muxer.track video).Followed := by
  cases video
  · exact followed.2
  · exact followed.1

theorem setTrack_followed (followed : Followed muxer) (video : Bool) {track : RtmpTrack} (placed : track.Followed) :
    Followed (muxer.setTrack video track) := by
  cases video
  · exact ⟨followed.1, placed⟩
  · exact ⟨placed, followed.2⟩

theorem writePacket_followed (rescale : Rat → Rat → Int → Int) (followed : Followed muxer) (video : Bool) (packet : RtmpPacket)
    (outside : RtmpOutside) : Followed (muxer.writePacket rescale video packet outside) := by
  have seeded : Followed (if video then muxer.seedH264Extradata packet else muxer) := by
    split <;> exact followed
  unfold writePacket
  split
  · exact followed
  · dsimp only
    generalize (if video then muxer.seedH264Extradata packet else muxer) = ready at seeded ⊢
    have opened : Followed (if ready.headerWritten then ready else ready.openLocked outside) := by
      split
      · exact seeded
      · exact openLocked_followed seeded outside
    generalize (if ready.headerWritten then ready else ready.openLocked outside) = current at opened ⊢
    have placed := setTrack_followed opened video
      (RtmpTrack.place_followed (track_followed opened video) (packet.rescaled rescale (current.track video).timeBase))
    split
    · exact opened
    · split
      · exact placed
      · exact placed

theorem step_followed {rescale : Rat → Rat → Int → Int} {before after : PersistentRtmpMuxer} {event : RtmpEvent}
    (followed : Followed before) (stepped : before.step rescale event = some after) : Followed after := by
  cases event with
  | configureVideo timeBase extradata outside =>
    obtain rfl := Option.some.inj stepped
    exact configureVideo_followed followed timeBase extradata outside
  | configureAudio timeBase outside =>
    obtain rfl := Option.some.inj stepped
    exact configureAudio_followed followed timeBase outside
  | write video packet outside =>
    obtain rfl := Option.some.inj stepped
    exact writePacket_followed rescale followed video packet outside

theorem Followed.inSync_iff (followed : Followed muxer) (bound : Rat) : muxer.InSync bound ↔ muxer.LeftInSync bound := by
  rw [InSync, LeftInSync, followed.1.offset, followed.2.offset]

end PersistentRtmpMuxer

open PersistentRtmpMuxer

/-- Fed by segments that begin at zero, the offsets are as far apart as the lengths
of the segments the two streams have left. -/
theorem rtmp_offsets_of_segments (rescale : Rat → Rat → Int → Int) (config : RtmpStreamingConfig) (events : List RtmpEvent) :
    Throughout (step rescale)
      (fun _ _ after => ∀ video audio : List Segment, after.video.taken = video.flatMap Segment.stamps →
        after.audio.taken = audio.flatMap Segment.stamps →
          after.video.timestampOffset - after.audio.timestampOffset = lengthLeft video - lengthLeft audio)
      { config } events := by
  refine throughout_of_invariant Followed (fun before event after followed stepped => ?_) ⟨⟨rfl, rfl⟩, ⟨rfl, rfl⟩⟩
  have kept := step_followed followed stepped
  refine ⟨kept, fun video audio videoFed audioFed => ?_⟩
  rw [kept.1.offset_of_segments videoFed, kept.2.offset_of_segments audioFed]

/-! ## Restarts that pull the streams apart -/

/-- `av_rescale_q`: to the nearest, and from the middle away from zero. -/
def avRescaleQ (sourceBase targetBase : Rat) (value : Int) : Int :=
  let exactly := value * sourceBase / targetBase
  if 0 ≤ exactly then ⌊exactly + 1 / 2⌋ else ⌈exactly - 1 / 2⌉

/-- The packets one muxer of the output stream feeds the mirror in order, `true`
for video. -/
abbrev RtmpSegment := List (Bool × RtmpPacket)

namespace RtmpSegment

def packets (segment : RtmpSegment) (video : Bool) : List RtmpPacket :=
  (segment.filter fun packet => packet.1 = video).map Prod.snd

/-- The length of one stream of the segment, in seconds. -/
def length (segment : RtmpSegment) (video : Bool) (timeBase : Rat) : Rat :=
  ((segment.packets video).getLast?.map fun packet => ((packet.timestamp.getD 0 + packet.duration : Int) : Rat) * timeBase).getD 0

/-- Both streams begin at zero and advance, and their lengths differ by less than
the bound. -/
structure WellTimed (segment : RtmpSegment) (videoBase audioBase bound : Rat) : Prop where
  zero : ∀ video, ((segment.packets video).map RtmpPacket.timestamp).head? = some (some 0)
  advances : ∀ video, ((segment.packets video).filterMap RtmpPacket.timestamp).Pairwise (· < ·)
  lengths : |segment.length true videoBase - segment.length false audioBase| < bound

/-- A muxer configures the mirror when it is opened, and then feeds it. -/
def events (segment : RtmpSegment) (videoBase audioBase : Rat) : List RtmpEvent :=
  .configureAudio audioBase {} :: .configureVideo videoBase true {} ::
    segment.map fun packet => .write packet.1 packet.2 {}

end RtmpSegment

/-- One frame of each stream, at 25 frames and 48000 samples a second. -/
def shortSegment : RtmpSegment :=
  [(true, { pts := some 0, dts := some 0, duration := 1 }), (false, { pts := some 0, dts := some 0, duration := 1024 })]

end WhRepeater
