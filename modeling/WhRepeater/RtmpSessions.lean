import WhRepeater.Reconnecting
import WhRepeater.RtmpTimestamps

/-! The connection of the RTMP mirror over a whole run: what it asks of its output
is a try of the connection or a packet, and both keep to the rules of a connection
that is tried again five seconds after it was lost. -/
namespace WhRepeater

open Reconnecting (Call Connection)

def RtmpEvent.outside : RtmpEvent → RtmpOutside
  | .configureVideo _ _ outside => outside
  | .configureAudio _ outside => outside
  | .write _ _ outside => outside

/-- The steady clock over a run: it is read before each output call and after it. -/
def Clocked : Time → Time → List RtmpEvent → Prop
  | start, finish, [] => start ≤ finish
  | start, finish, event :: rest =>
    start ≤ event.outside.now ∧ event.outside.now ≤ event.outside.failedAt ∧ Clocked event.outside.failedAt finish rest

namespace PersistentRtmpMuxer

/-- A call of the output: a packet goes out on the video stream or on the audio stream. -/
abbrev RtmpCall := Call Bool (Bool × RtmpPacket)

abbrev takeCall : Connection Bool → RtmpCall → Option (Connection Bool) :=
  Connection.take (seconds 5) fun audioStream item => item.1 || audioStream

/-- The muxer's connection, with whether it has an audio stream. -/
def connection (muxer : PersistentRtmpMuxer) : Connection Bool where
  offer := if muxer.headerWritten then some muxer.audioStream else none
  notBefore := muxer.nextConnectAttempt

/-- The try that `openLocked` makes, if it gets to it. -/
def openCalls (muxer : PersistentRtmpMuxer) (outside : RtmpOutside) : List RtmpCall :=
  if !muxer.enabled || !muxer.video.configured || muxer.headerWritten then []
  else if !muxer.extradata then []
  else if outside.now < muxer.nextConnectAttempt then []
  else [.connect outside.now outside.failedAt (outside.connects.map (muxer.audio.configured && ·))]

def callsAt (rescale : Rat → Rat → Int → Int) (muxer : PersistentRtmpMuxer) : RtmpEvent → List RtmpCall
  | .configureVideo timeBase extradata outside =>
    if !muxer.enabled || muxer.video.configured then []
    else
      ({ muxer with video := { muxer.video with configured := true, timeBase }, extradata } :
        PersistentRtmpMuxer).openCalls outside
  | .configureAudio timeBase outside =>
    if !muxer.enabled || muxer.audio.configured then []
    else ({ muxer with audio := { muxer.audio with configured := true, timeBase } } : PersistentRtmpMuxer).openCalls outside
  | .write video packet outside =>
    if !muxer.enabled then []
    else
      (if video then muxer.seedH264Extradata packet else muxer).openCalls outside ++
        ((muxer.handed rescale video packet outside).map fun written =>
          .send outside.failedAt (video, written.moved) outside.writes).toList

/-- All the calls of a run. -/
def callsOn (rescale : Rat → Rat → Int → Int) : PersistentRtmpMuxer → List RtmpEvent → List RtmpCall
  | _, [] => []
  | muxer, event :: rest =>
    muxer.callsAt rescale event ++ ((muxer.step rescale event).map fun next => callsOn rescale next rest).getD []

variable {rescale : Rat → Rat → Int → Int} {muxer next : PersistentRtmpMuxer} {packet : RtmpPacket} {outside : RtmpOutside}
  {event : RtmpEvent}

theorem openLocked_calls (muxer : PersistentRtmpMuxer) (outside : RtmpOutside) :
    Runs.run takeCall muxer.connection (muxer.openCalls outside) = some (muxer.openLocked outside).connection := by
  unfold openCalls openLocked
  split
  · rfl
  · rename_i blocked
    split
    · rfl
    · split
      · rfl
      · rename_i due
        have closed : muxer.headerWritten = false := by
          cases written : muxer.headerWritten with
          | false => rfl
          | true => exact absurd (by simp [written]) blocked
        have reached : muxer.nextConnectAttempt ≤ outside.now := Int.not_lt.mp due
        cases outside.connects <;>
          simp [Runs.run, takeCall, Connection.take, connection, Connection.lost, closed, reached]

/-- What is changed before the connection is tried leaves it as it is. -/
theorem ready_calls {ready : PersistentRtmpMuxer} (same : ready.connection = muxer.connection) (outside : RtmpOutside) :
    Runs.run takeCall muxer.connection (ready.openCalls outside) = some (ready.openLocked outside).connection := by
  rw [← same, openLocked_calls]

theorem seed_calls (muxer : PersistentRtmpMuxer) (video : Bool) (packet : RtmpPacket) (outside : RtmpOutside) :
    Runs.run takeCall muxer.connection ((if video then muxer.seedH264Extradata packet else muxer).openCalls outside) =
      some (muxer.opened video packet outside).connection := by
  have seeded : (if video then muxer.seedH264Extradata packet else muxer).connection = muxer.connection := by
    cases video <;> rfl
  unfold opened
  generalize (if video then muxer.seedH264Extradata packet else muxer) = ready at seeded ⊢
  rw [ready_calls seeded]
  cases written : ready.headerWritten with
  | true => simp [openLocked, written]
  | false => simp [written]

theorem writePacket_calls (muxer : PersistentRtmpMuxer) (video : Bool) (packet : RtmpPacket) (outside : RtmpOutside) :
    Runs.run takeCall muxer.connection (muxer.callsAt rescale (.write video packet outside)) =
      some (muxer.writePacket rescale video packet outside).connection := by
  rw [callsAt, writePacket_eq]
  cases on : muxer.enabled with
  | false => rfl
  | true =>
    simp only [Bool.not_true, Bool.false_eq_true, if_false]
    rw [Runs.run_append, seed_calls, Option.bind_some]
    simp only [handed, on, Bool.not_true, Bool.false_or]
    generalize muxer.opened video packet outside = opened
    cases written : opened.headerWritten with
    | false => simp [Runs.run]
    | true =>
      cases carried : video || opened.audioStream with
      | false => simp [Runs.run]
      | true =>
        have placed : ∀ track, (opened.setTrack video track).connection = opened.connection := by
          intro track
          cases video <;> rfl
        have offered : opened.connection.offer.any (fun audioStream => video || audioStream) = true := by
          simpa [connection, written] using carried
        simp only [Bool.not_true, Bool.false_eq_true, Bool.or_self, if_false, Option.map_some, Option.toList_some,
          Runs.run, takeCall, Connection.take, offered, if_true, Option.bind_some, Option.some.injEq]
        cases outside.writes with
        | true => exact (placed _).symm
        | false => rfl

theorem step_calls (stepped : muxer.step rescale event = some next) :
    Runs.run takeCall muxer.connection (muxer.callsAt rescale event) = some next.connection := by
  cases event with
  | configureVideo timeBase extradata outside =>
    obtain rfl := Option.some.inj stepped
    rw [callsAt, configureVideo]
    split
    · rfl
    · exact ready_calls (by rfl) outside
  | configureAudio timeBase outside =>
    obtain rfl := Option.some.inj stepped
    rw [callsAt, configureAudio]
    split
    · rfl
    · exact ready_calls (by rfl) outside
  | write video packet outside =>
    obtain rfl := Option.some.inj stepped
    exact writePacket_calls muxer video packet outside

theorem callsOn_cons (stepped : muxer.step rescale event = some next) (rest : List RtmpEvent) :
    callsOn rescale muxer (event :: rest) = muxer.callsAt rescale event ++ callsOn rescale next rest := by
  rw [callsOn, stepped]
  rfl

/-- The calls of a run are ones that its connection may be asked for. -/
theorem run_calls (muxer : PersistentRtmpMuxer) (events : List RtmpEvent) :
    ∃ final, Runs.run (step rescale) muxer events = some final ∧
      Runs.run takeCall muxer.connection (callsOn rescale muxer events) = some final.connection := by
  induction events generalizing muxer with
  | nil => exact ⟨muxer, rfl, rfl⟩
  | cons event rest ih =>
    obtain ⟨next, stepped⟩ : ∃ next, muxer.step rescale event = some next := by
      cases event <;> exact ⟨_, rfl⟩
    obtain ⟨final, ran, taken⟩ := ih next
    refine ⟨final, by rw [Runs.run_cons, stepped, Option.bind_some, ran], ?_⟩
    rw [callsOn_cons stepped, Runs.run_append, step_calls stepped, Option.bind_some, taken]

/-! ## How often the connection is tried -/

theorem openCalls_timed {start : Time} (reached : start ≤ outside.now) (lasts : outside.now ≤ outside.failedAt) :
    Call.Timed start outside.failedAt (muxer.openCalls outside) := by
  have none_made : Call.Timed start outside.failedAt ([] : List RtmpCall) := Int.le_trans reached lasts
  unfold openCalls
  split
  · exact none_made
  · split
    · exact none_made
    · split
      · exact none_made
      · exact ⟨reached, lasts, Int.le_refl _⟩

theorem callsAt_timed {start : Time} (reached : start ≤ event.outside.now)
    (lasts : event.outside.now ≤ event.outside.failedAt) :
    Call.Timed start event.outside.failedAt (muxer.callsAt rescale event) := by
  have none_made : Call.Timed start event.outside.failedAt ([] : List RtmpCall) := Int.le_trans reached lasts
  cases event with
  | configureVideo timeBase extradata outside =>
    rw [callsAt]
    split
    · exact none_made
    · exact openCalls_timed reached lasts
  | configureAudio timeBase outside =>
    rw [callsAt]
    split
    · exact none_made
    · exact openCalls_timed reached lasts
  | write video packet outside =>
    rw [callsAt]
    split
    · exact none_made
    · refine (openCalls_timed reached lasts).append ?_
      cases muxer.handed rescale video packet outside with
      | none => exact Int.le_refl _
      | some written => exact ⟨Int.le_refl _, Int.le_refl _, Int.le_refl _⟩

theorem callsOn_timed {start finish : Time} {events : List RtmpEvent} (muxer : PersistentRtmpMuxer)
    (clocked : Clocked start finish events) : Call.Timed start finish (callsOn rescale muxer events) := by
  induction events generalizing muxer start with
  | nil => exact clocked
  | cons event rest ih =>
    obtain ⟨reached, lasts, clocked⟩ := clocked
    obtain ⟨next, stepped⟩ : ∃ next, muxer.step rescale event = some next := by
      cases event <;> exact ⟨_, rfl⟩
    rw [callsOn_cons stepped]
    exact (callsAt_timed reached lasts).append (ih next clocked)

end PersistentRtmpMuxer

open PersistentRtmpMuxer

/-- Whatever is configured and written and whatever becomes of the connection, it is
tried only while there is none and not within five seconds of its loss, packets go
out only through it, and those of the audio only if it has an audio stream. -/
theorem rtmp_sessions (rescale : Rat → Rat → Int → Int) (config : RtmpStreamingConfig) (events : List RtmpEvent) :
    ∃ final, Runs.run (step rescale) { config } events = some final ∧
      Runs.run takeCall {} (callsOn rescale { config } events) = some final.connection :=
  run_calls { config } events

/-- Over a stretch of time the connection is tried at most once for every five
seconds of it, and once more. -/
theorem rtmp_tries_bounded (rescale : Rat → Rat → Int → Int) (config : RtmpStreamingConfig) {events : List RtmpEvent}
    {start finish : Int} (clocked : Clocked start finish events) :
    ((callsOn rescale { config } events).countP Call.isConnect : Int) * seconds 5 ≤ finish - start + seconds 5 := by
  have timed : Call.Timed start finish (callsOn rescale { config } events) := callsOn_timed _ clocked
  obtain ⟨final, -, taken⟩ := @run_calls rescale { config } events
  rcases Nat.eq_zero_or_pos ((callsOn rescale { config } events).countP Call.isConnect) with untried | tried
  · have elapsed : start ≤ finish := timed.le
    rw [untried, seconds]
    omega
  · have spaced := Reconnecting.tries_spaced (by decide) timed taken tried
    have first : start ≤ Connection.earliest (seconds 5) start ({ config } : PersistentRtmpMuxer).connection :=
      Connection.start_le_earliest (by decide)
    rw [Int.sub_mul, Int.one_mul] at spaced
    omega

/-- A keyframe whose connection fails, one too soon to try again, and one that opens. -/
def retried : List RtmpEvent :=
  [.configureVideo (1 / 25) false { now := seconds 1, failedAt := seconds 1 },
    .write true { pts := some 0, dts := some 0, duration := 1, parameterSets := true }
      { now := seconds 1, failedAt := seconds 2, connects := none },
    .write true { pts := some 1, dts := some 1, duration := 1 } { now := seconds 3, failedAt := seconds 3 },
    .write true { pts := some 2, dts := some 2, duration := 1 } { now := seconds 7, failedAt := seconds 8 }]

theorem rtmp_tries_bounded_retried :
    Clocked (seconds 1) (seconds 8) retried ∧
      ((callsOn (fun _ _ stamp => stamp) { config := { enabled := true, url := [0] } } retried).countP
        Call.isConnect : Int) * seconds 5 ≤ seconds 8 - seconds 1 + seconds 5 := by
  have clocked : Clocked (seconds 1) (seconds 8) retried := by
    simp [retried, Clocked, RtmpEvent.outside, seconds]
  exact ⟨clocked, rtmp_tries_bounded (fun _ _ stamp => stamp) { enabled := true, url := [0] } clocked⟩

end WhRepeater
