import WhRepeater.FallbackMuxer
import WhRepeater.MediaWorker

/-! The worker loop as its output clock sees it: the muxer it holds and its frame
index (`MediaPipeline::workerLoop`). -/
namespace WhRepeater

def sleepingMessage (config : RepeaterConfig) : Bytes :=
  bytes "Power Saving Mode\n" ++ bytes "sleeping between " ++ config.beaconSchedule.endTime ++ bytes " and " ++
    config.beaconSchedule.startTime ++ bytes "\n\n" ++ bytes "The repeater can be woken during this time\n" ++
    bytes "with a video signal on any input.\n" ++ bytes "Back to sleep after access."

/-- Where in a pass an exception is thrown: before the muxer is there, between that
and its frame, or after the frame. -/
inductive Throw where
  | unopened | unwritten | written
  deriving Repr, DecidableEq

/-- A pass of the loop: what it copied at its top, the encoder a muxer opened in it
gets, what the transcoder of its mode reports, and whether it throws. -/
structure WorkerPass where
  mode : MediaPipelineMode
  notice : Option Bytes := none
  noticeEndTone : Bool := false
  beaconAllowed : Bool := true
  encoder : AudioEncoder := .gstreamer
  finished : Bool := false
  liveReady : Bool := false
  liveVideoStale : Bool := false
  throws : Option Throw := none
  deriving Repr, DecidableEq

namespace WorkerPass

/-- The notice of the pass, the message of a sleeping beacon, or none. -/
def standingNotice (pass : WorkerPass) (config : RepeaterConfig) : Option Bytes × Bool :=
  if pass.notice.isSome then (pass.notice, pass.noticeEndTone)
  else if pass.beaconAllowed then (none, false)
  else (some (sleepingMessage config), false)

/-- The arguments of the pass's `setNotice`. -/
def shownNotice (pass : WorkerPass) (config : RepeaterConfig) : Option Bytes × Bool :=
  match pass.mode with
  | .idle | .fallbackVideo => (none, false)
  | .fallback | .analogue => pass.standingNotice config
  | .retransmit =>
    if pass.liveReady then
      if pass.liveVideoStale && pass.notice.isSome then (pass.notice, pass.noticeEndTone) else (none, false)
    else pass.standingNotice config

/-- A playback or a capture that has ended gets no frame any more; a live session
still gets one. -/
def writes (pass : WorkerPass) : Bool :=
  match pass.mode with
  | .idle => false
  | .fallback | .retransmit => true
  | .fallbackVideo | .analogue => !pass.finished

end WorkerPass

/-- The worker's muxer and frame index, and the muxers it has destroyed. `stuck`
when a call of the muxer does not return. -/
structure OutputClock where
  config : RepeaterConfig
  fallbackMuxer : Option FallbackMuxer := none
  fallbackFrameIndex : Int64 := 0
  retired : List FallbackMuxer := []
  stuck : Bool := false

namespace OutputClock

def retire (clock : OutputClock) : OutputClock :=
  { clock with fallbackMuxer := none, retired := clock.retired ++ clock.fallbackMuxer.toList }

def openMuxer (clock : OutputClock) (pass : WorkerPass) : OutputClock :=
  if clock.fallbackMuxer.isSome then clock
  else
    let opened := FallbackMuxer.construct clock.config pass.encoder
    { clock with
      fallbackMuxer := some opened
      fallbackFrameIndex := if pass.mode = .fallback then 0 else opened.nextVideoPts }

/-- `setNotice`, and a frame at the index. -/
def write (clock : OutputClock) (pass : WorkerPass) (muxer : FallbackMuxer) : OutputClock :=
  let shown := pass.shownNotice clock.config
  let noticed := muxer.setNotice shown.1 shown.2
  let index := max clock.fallbackFrameIndex noticed.nextVideoPts
  match noticed.writeFrame index with
  | none => { clock with stuck := true }
  | some written => { clock with fallbackMuxer := some written, fallbackFrameIndex := index + 1 }

/-- The end of a pass in which the live session ended takes the index from the
muxer again. -/
def resync (clock : OutputClock) (pass : WorkerPass) : OutputClock :=
  match clock.fallbackMuxer with
  | some muxer =>
    if pass.mode = .retransmit && pass.finished then { clock with fallbackFrameIndex := muxer.nextVideoPts } else clock
  | none => clock

def writePass (clock : OutputClock) (pass : WorkerPass) : OutputClock :=
  match clock.fallbackMuxer with
  | some muxer => if pass.writes then (clock.write pass muxer).resync pass else clock
  | none => clock

def pass (clock : OutputClock) (pass : WorkerPass) : OutputClock :=
  if pass.mode = .idle then clock.retire
  else
    match pass.throws with
    | some .unopened => clock.retire
    | some .unwritten => (clock.openMuxer pass).retire
    | some .written =>
      let written := (clock.openMuxer pass).writePass pass
      if written.stuck then written else written.retire
    | none => (clock.openMuxer pass).writePass pass

/-- A worker inside a call that does not return makes no further pass. -/
def step (clock : OutputClock) (pass : WorkerPass) : Option OutputClock :=
  if clock.stuck then none else some (clock.pass pass)

theorem openMuxer_isSome (clock : OutputClock) (pass : WorkerPass) : (clock.openMuxer pass).fallbackMuxer.isSome = true := by
  unfold openMuxer
  split
  · assumption
  · rfl

@[simp] theorem fallbackMuxer_resync (clock : OutputClock) (pass : WorkerPass) :
    (clock.resync pass).fallbackMuxer = clock.fallbackMuxer := by
  unfold resync
  split
  · split <;> rfl
  · rfl

theorem write_isSome (clock : OutputClock) (pass : WorkerPass) (muxer : FallbackMuxer)
    (held : clock.fallbackMuxer.isSome = true) : (clock.write pass muxer).fallbackMuxer.isSome = true := by
  unfold write
  dsimp only
  split
  · exact held
  · rfl

theorem writePass_isSome (clock : OutputClock) (pass : WorkerPass) (held : clock.fallbackMuxer.isSome = true) :
    (clock.writePass pass).fallbackMuxer.isSome = true := by
  unfold writePass
  split
  · split
    · rw [fallbackMuxer_resync]
      exact write_isSome clock pass _ held
    · exact held
  · exact held

/-- The loop holds a muxer after a pass that does not throw exactly if the worker
beside the control thread says so. -/
theorem fallbackMuxer_prepare {β : Type} (clock : OutputClock) (pass : WorkerPass) (worker : MediaWorker β) (seen : Observation)
    (copied : seen.mode = pass.mode) (nothrow : pass.throws = none) :
    (clock.pass pass).fallbackMuxer.isSome = (worker.prepare seen).fallbackMuxer := by
  have written := writePass_isSome _ pass (openMuxer_isSome clock pass)
  unfold OutputClock.pass MediaWorker.prepare
  rw [copied, nothrow]
  cases mode : pass.mode with
  | idle => simp [retire]
  | retransmit | analogue | fallbackVideo | fallback => simpa using written

end OutputClock
end WhRepeater
