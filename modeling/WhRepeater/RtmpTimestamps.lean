import WhRepeater.RtmpOffsets

/-! The timestamps that the RTMP mirror gives its output. They are followed by what
`writePacket` hands to the output, in the order of the calls: the connection may be
lost and found in between. -/
namespace WhRepeater

namespace RtmpPacket

/-- How far a packet is shown after it is decoded. -/
def presentationDelay (packet : RtmpPacket) : Option Int :=
  packet.pts.bind fun pts => packet.dts.map fun dts => pts - dts

theorem presentationDelay_move (packet : RtmpPacket) (offset : Int) :
    (packet.move offset).presentationDelay = packet.presentationDelay := by
  obtain ⟨pts, dts, duration, parameterSets⟩ := packet
  cases pts with
  | none => rfl
  | some pts =>
    cases dts with
    | none => rfl
    | some dts =>
      simp only [move, presentationDelay, Option.map_some, Option.bind_some, Option.some.injEq]
      omega

end RtmpPacket

namespace RtmpTrack

variable {track : RtmpTrack}

/-- A packet that does not advance is moved behind the last one by a duration of at
least one. -/
theorem offsetFor_advances {copy : RtmpPacket} {last timestamp : Int} (written : track.lastDts = some last)
    (stamped : (copy.move (track.offsetFor copy)).timestamp = some timestamp) : last < timestamp := by
  rw [RtmpPacket.timestamp_move] at stamped
  cases before : copy.timestamp with
  | none => simp [before] at stamped
  | some unmoved =>
    rw [before, Option.map_some, Option.some.injEq, offsetFor, before, written] at stamped
    dsimp only at stamped
    split at stamped
    · split at stamped <;> omega
    · omega

end RtmpTrack

namespace PersistentRtmpMuxer

/-- The muxer as `writePacket` has it when it comes to the packet. -/
def opened (muxer : PersistentRtmpMuxer) (video : Bool) (packet : RtmpPacket) (outside : RtmpOutside) : PersistentRtmpMuxer :=
  let seeded := if video then muxer.seedH264Extradata packet else muxer
  if seeded.headerWritten then seeded else seeded.openLocked outside

/-- A packet of the output: as it was rescaled, and as it is handed on. -/
structure Handed where
  copy : RtmpPacket
  moved : RtmpPacket
  deriving DecidableEq

/-- What `writePacket` gives to `av_interleaved_write_frame`. -/
def handed (rescale : Rat → Rat → Int → Int) (muxer : PersistentRtmpMuxer) (video : Bool) (packet : RtmpPacket)
    (outside : RtmpOutside) : Option Handed :=
  let opened := muxer.opened video packet outside
  if !muxer.enabled || (!opened.headerWritten || !(video || opened.audioStream)) then none
  else
    let copy := packet.rescaled rescale (opened.track video).timeBase
    some { copy, moved := copy.move ((opened.track video).offsetFor copy) }

/-- What an event hands to one of the two streams. -/
def handedAt (rescale : Rat → Rat → Int → Int) (video : Bool) (muxer : PersistentRtmpMuxer) : RtmpEvent → Option Handed
  | .write ofVideo packet outside => if ofVideo = video then muxer.handed rescale ofVideo packet outside else none
  | _ => none

/-- All that a run hands to one of the two streams. -/
def handedOn (rescale : Rat → Rat → Int → Int) (video : Bool) : PersistentRtmpMuxer → List RtmpEvent → List Handed
  | _, [] => []
  | muxer, event :: rest =>
    (muxer.handedAt rescale video event).toList ++
      ((muxer.step rescale event).map fun next => handedOn rescale video next rest).getD []

variable {rescale : Rat → Rat → Int → Int} {muxer next : PersistentRtmpMuxer} {video : Bool} {packet : RtmpPacket}
  {outside : RtmpOutside} {event : RtmpEvent} {written : Handed}

theorem openLocked_track (muxer : PersistentRtmpMuxer) (outside : RtmpOutside) (video : Bool) :
    (muxer.openLocked outside).track video = muxer.track video := by
  obtain ⟨ofVideo, ofAudio⟩ := openLocked_tracks muxer outside
  rw [track, track, ofVideo, ofAudio]

theorem opened_track (muxer : PersistentRtmpMuxer) (ofVideo : Bool) (packet : RtmpPacket) (outside : RtmpOutside)
    (video : Bool) : (muxer.opened ofVideo packet outside).track video = muxer.track video := by
  have seeded : (if ofVideo then muxer.seedH264Extradata packet else muxer).track video = muxer.track video := by
    cases ofVideo <;> rfl
  unfold opened
  dsimp only
  generalize (if ofVideo then muxer.seedH264Extradata packet else muxer) = ready at seeded ⊢
  split
  · exact seeded
  · rw [openLocked_track, seeded]

theorem configureVideo_lastDts (muxer : PersistentRtmpMuxer) (timeBase : Rat) (extradata : Bool) (outside : RtmpOutside)
    (video : Bool) : ((muxer.configureVideo timeBase extradata outside).track video).lastDts = (muxer.track video).lastDts := by
  unfold configureVideo
  split
  · rfl
  · rw [openLocked_track]
    cases video <;> rfl

theorem configureAudio_lastDts (muxer : PersistentRtmpMuxer) (timeBase : Rat) (outside : RtmpOutside) (video : Bool) :
    ((muxer.configureAudio timeBase outside).track video).lastDts = (muxer.track video).lastDts := by
  unfold configureAudio
  split
  · rfl
  · rw [openLocked_track]
    cases video <;> rfl

theorem setTrack_track (muxer : PersistentRtmpMuxer) (ofVideo video : Bool) (placed : RtmpTrack) :
    (muxer.setTrack ofVideo placed).track video = if ofVideo = video then placed else muxer.track video := by
  cases ofVideo <;> cases video <;> rfl

theorem writePacket_eq (ofVideo : Bool) :
    muxer.writePacket rescale ofVideo packet outside =
      if !muxer.enabled then muxer
      else
        let opened := muxer.opened ofVideo packet outside
        if !opened.headerWritten || !(ofVideo || opened.audioStream) then opened
        else
          let track := opened.track ofVideo
          let placed := opened.setTrack ofVideo (track.place (packet.rescaled rescale track.timeBase))
          if outside.writes then placed else placed.closeLocked outside.failedAt := rfl

/-- The last timestamp of a stream is the one of the packet that was handed on. -/
theorem writePacket_lastDts (ofVideo : Bool) :
    ((muxer.writePacket rescale ofVideo packet outside).track video).lastDts =
      ((muxer.handedAt rescale video (.write ofVideo packet outside)).bind (·.moved.timestamp)).or
        (muxer.track video).lastDts := by
  have kept := opened_track muxer ofVideo packet outside
  rw [writePacket_eq, handedAt, handed]
  generalize muxer.opened ofVideo packet outside = opened at kept
  dsimp only
  cases muxer.enabled with
  | false => simp
  | true =>
    rw [← kept video]
    cases open_enough : !opened.headerWritten || !(ofVideo || opened.audioStream) with
    | true => simp
    | false =>
      have placed : ∀ after : PersistentRtmpMuxer, after = opened.setTrack ofVideo
          ((opened.track ofVideo).place (packet.rescaled rescale (opened.track ofVideo).timeBase)) →
          ((if outside.writes then after else after.closeLocked outside.failedAt).track video).lastDts =
            (if ofVideo = video then (opened.track ofVideo).place (packet.rescaled rescale (opened.track ofVideo).timeBase)
              else opened.track video).lastDts := by
        rintro _ rfl
        rw [← setTrack_track]
        split
        · rfl
        · cases video <;> rfl
      simp only [Bool.not_true, Bool.false_or, Bool.false_eq_true, if_false]
      rw [placed _ rfl]
      split
      · subst video
        rfl
      · rfl

theorem step_lastDts (stepped : muxer.step rescale event = some next) :
    (next.track video).lastDts =
      ((muxer.handedAt rescale video event).bind (·.moved.timestamp)).or (muxer.track video).lastDts := by
  cases event with
  | configureVideo timeBase extradata outside =>
    obtain rfl := Option.some.inj stepped
    exact configureVideo_lastDts muxer timeBase extradata outside video
  | configureAudio timeBase outside =>
    obtain rfl := Option.some.inj stepped
    exact configureAudio_lastDts muxer timeBase outside video
  | write ofVideo packet outside =>
    obtain rfl := Option.some.inj stepped
    exact writePacket_lastDts ofVideo

/-- What is handed on is the copy, moved as its stream is. -/
theorem moved_of_handedAt (given : muxer.handedAt rescale video event = some written) :
    written.moved = written.copy.move ((muxer.track video).offsetFor written.copy) := by
  cases event with
  | configureVideo => cases given
  | configureAudio => cases given
  | write ofVideo packet outside =>
    rw [← opened_track muxer ofVideo packet outside]
    rw [handedAt, handed] at given
    split at given
    · subst ofVideo
      dsimp only at given
      split at given
      · cases given
      · cases given
        rfl
    · cases given

theorem handedOn_cons (stepped : muxer.step rescale event = some next) (rest : List RtmpEvent) :
    handedOn rescale video muxer (event :: rest) =
      (muxer.handedAt rescale video event).toList ++ handedOn rescale video next rest := by
  rw [handedOn, stepped]
  rfl

/-- Along a run the timestamps of a stream increase, from the last one before it. -/
theorem handedOn_increases (muxer : PersistentRtmpMuxer) (events : List RtmpEvent) :
    (∀ last, (muxer.track video).lastDts = some last →
        ∀ timestamp ∈ (handedOn rescale video muxer events).filterMap (·.moved.timestamp), last < timestamp) ∧
      ((handedOn rescale video muxer events).filterMap (·.moved.timestamp)).Pairwise (· < ·) := by
  induction events generalizing muxer with
  | nil => simp [handedOn]
  | cons event rest ih =>
    obtain ⟨next, stepped⟩ : ∃ next, muxer.step rescale event = some next := by
      cases event <;> exact ⟨_, rfl⟩
    have latest := @step_lastDts rescale muxer next video event stepped
    obtain ⟨later, increasing⟩ := ih next
    rw [handedOn_cons stepped, List.filterMap_append]
    cases stamped : (muxer.handedAt rescale video event).bind (·.moved.timestamp) with
    | none =>
      have silent : (muxer.handedAt rescale video event).toList.filterMap (·.moved.timestamp) = [] := by
        cases given : muxer.handedAt rescale video event with
        | none => rfl
        | some written =>
          rw [given, Option.bind_some] at stamped
          simp [stamped]
      rw [stamped, Option.none_or] at latest
      rw [silent, List.nil_append, ← latest]
      exact ⟨later, increasing⟩
    | some timestamp =>
      obtain ⟨written, given, shown⟩ := Option.bind_eq_some_iff.mp stamped
      have heard : (muxer.handedAt rescale video event).toList.filterMap (·.moved.timestamp) = [timestamp] := by
        simp [given, shown]
      have beyond := later timestamp (latest.trans (by rw [stamped]; rfl))
      rw [heard, List.singleton_append]
      refine ⟨fun last before => List.forall_mem_cons.mpr ?_, List.pairwise_cons.mpr ⟨beyond, increasing⟩⟩
      have first : last < timestamp := by
        rw [moved_of_handedAt given] at shown
        exact RtmpTrack.offsetFor_advances before shown
      exact ⟨first, fun other found => Int.lt_trans first (beyond other found)⟩

theorem handedOn_moved {muxer : PersistentRtmpMuxer} {events : List RtmpEvent} {written : Handed}
    (given : written ∈ handedOn rescale video muxer events) : ∃ offset, written.moved = written.copy.move offset := by
  induction events generalizing muxer with
  | nil => cases given
  | cons event rest ih =>
    obtain ⟨next, stepped⟩ : ∃ next, muxer.step rescale event = some next := by
      cases event <;> exact ⟨_, rfl⟩
    rw [handedOn_cons stepped, List.mem_append] at given
    rcases given with here | after
    · exact ⟨_, moved_of_handedAt (Option.mem_toList.mp here)⟩
    · exact ih after

end PersistentRtmpMuxer

open PersistentRtmpMuxer

/-- Whatever timestamps the mirror is given and however often its connection is
lost, those of a stream increase, and no packet is shown earlier or later after its
decoding than it was to be. -/
theorem rtmp_timestamps_increase (rescale : Rat → Rat → Int → Int) (config : RtmpStreamingConfig) (events : List RtmpEvent)
    (video : Bool) :
    ((handedOn rescale video { config } events).filterMap (·.moved.timestamp)).Pairwise (· < ·) ∧
      ∀ written ∈ handedOn rescale video { config } events,
        written.moved.presentationDelay = written.copy.presentationDelay := by
  refine ⟨(handedOn_increases _ events).2, fun written given => ?_⟩
  obtain ⟨offset, moved⟩ := handedOn_moved given
  rw [moved, RtmpPacket.presentationDelay_move]

end WhRepeater
