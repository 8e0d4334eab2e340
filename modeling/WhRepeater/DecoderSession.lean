import WhRepeater.MediaWorker
import WhRepeater.Runs

/-! Which receiver the bytes of a decoder session come from. The queue and the
sessions are run on bytes that carry the receiver selected when they were
written, which changes nothing else; a session then stays with one receiver
while no packet is written beside bytes or a session of another. -/
namespace WhRepeater

/-! ## Renaming what the queue holds -/

variable {β γ : Type}

def MediaPipeline.map (f : β → γ) (pipeline : MediaPipeline β) : MediaPipeline γ :=
  { pipeline with inputQueue := pipeline.inputQueue.map f }

def LiveTranscoder.map (f : β → γ) (live : LiveTranscoder β) : LiveTranscoder γ :=
  { live with appended := live.appended.map f }

def MediaWorker.map (f : β → γ) (worker : MediaWorker β) : MediaWorker γ :=
  { worker with liveTranscoder := worker.liveTranscoder.map (LiveTranscoder.map f) }

def MediaSystem.map (f : β → γ) (system : MediaSystem β) : MediaSystem γ :=
  { pipeline := system.pipeline.map f
    worker := system.worker.map f
    writing := system.writing.map (List.map f) }

def MediaEvent.map (f : β → γ) : MediaEvent β → MediaEvent γ
  | .call made => .call made
  | .write packet checkedAt stampedAt => .write (packet.map f) checkedAt stampedAt
  | .queueInput => .queueInput
  | .observe => .observe
  | .pass now => .pass now
  | .fail => .fail
  | .muxData data => .muxData data
  | .liveFinished => .liveFinished
  | .videoFinished => .videoFinished
  | .analogueFinished => .analogueFinished
  | .videoStatus statusJson => .videoStatus statusJson
  | .streamInfo text => .streamInfo text

namespace MediaPipeline

variable {f : β → γ} {pipeline : MediaPipeline β}

@[simp] theorem map_active : (pipeline.map f).active = pipeline.active := rfl

theorem enterRetransmit_map (pipeline : MediaPipeline β) (now : Time) :
    (pipeline.map f).enterRetransmit now = (pipeline.enterRetransmit now).map f := by
  unfold enterRetransmit
  rw [apply_ite (map f)]
  rfl

theorem enterAnalogue_map (now : Time) :
    (pipeline.map f).enterAnalogue now = (pipeline.enterAnalogue now).map f := by
  unfold enterAnalogue
  rw [apply_ite (map f)]
  rfl

theorem enterFallback_map (enabled : Bool) :
    (pipeline.map f).enterFallback enabled = (pipeline.enterFallback enabled).map f := by
  unfold enterFallback
  rw [apply_ite (map f)]
  rfl

theorem enterFallbackVideo_map (path : Bytes) :
    (pipeline.map f).enterFallbackVideo path = (pipeline.enterFallbackVideo path).map f := by
  unfold enterFallbackVideo
  rw [apply_ite (map f)]
  rfl

theorem enterIdle_map : (pipeline.map f).enterIdle = pipeline.enterIdle.map f := by
  unfold enterIdle
  rw [apply_ite (map f)]
  rfl

theorem tickActive_map (input : ActiveInput) (now : Time) :
    (pipeline.map f).tickActive input now = (pipeline.tickActive input now).map f := by
  unfold tickActive
  simp only [apply_ite (map f), ← enterFallback_map, ← enterAnalogue_map, ← enterRetransmit_map]
  rfl

theorem tick_map (now : Time) : (pipeline.map f).tick now = (pipeline.tick now).map f := by
  cases active : pipeline.active with
  | some input =>
    have renamed : (pipeline.map f).active = some input := active
    simp only [tick, active, renamed, apply_ite (map f), ← tickActive_map]
    rfl
  | none =>
    have renamed : (pipeline.map f).active = none := active
    simp only [tick, active, renamed, apply_ite (map f), ← enterFallback_map, ← enterIdle_map]
    rfl

theorem call_map (made : MediaCall) : (pipeline.map f).call made = (pipeline.call made).map f := by
  cases made with
  | select input => cases input <;> rfl
  | playFallbackVideo path => exact enterFallbackVideo_map path
  | stopFallbackVideo =>
    simp only [call, stopFallbackVideo, apply_ite (map f), ← enterFallback_map]
    rfl
  | tick now => exact tick_map now
  | _ => rfl

theorem admitLive_map (pipeline : MediaPipeline β) (checkedAt stampedAt : Time) :
    (pipeline.map f).admitLive checkedAt stampedAt =
      ((pipeline.admitLive checkedAt stampedAt).1.map f, (pipeline.admitLive checkedAt stampedAt).2) := by
  unfold admitLive
  by_cases early : checkedAt < pipeline.liveRetryAfter
  · rw [if_pos early]
    exact if_pos early
  · rw [if_neg early]
    exact (if_neg early).trans (Prod.ext
      (enterRetransmit_map { pipeline with lastInput := stampedAt } stampedAt) rfl)

theorem admitPacket_map (packet : List β) (checkedAt stampedAt : Time) :
    (pipeline.map f).admitPacket (packet.map f) checkedAt stampedAt =
      ((pipeline.admitPacket packet checkedAt stampedAt).1.map f, (pipeline.admitPacket packet checkedAt stampedAt).2) := by
  unfold admitPacket
  by_cases nothing : packet = [] ∨ pipeline.active = none
  · rw [if_pos nothing]
    exact if_pos (by simpa using nothing)
  · rw [if_neg nothing]
    refine (if_neg (by simpa using nothing)).trans ?_
    by_cases video : pipeline.mode = .fallbackVideo
    · rw [if_pos video]
      exact (if_pos video).trans (admitLive_map pipeline.dropFallbackVideo checkedAt stampedAt)
    · rw [if_neg video]
      exact (if_neg video).trans (admitLive_map pipeline checkedAt stampedAt)

theorem queueInput_map (packet : List β) :
    (pipeline.map f).queueInput (packet.map f) = (pipeline.queueInput packet).map f := by
  simp only [queueInput, map, List.length_map, mk.injEq, true_and]
  split <;> simp

theorem setFallbackVideoStatus_map (statusJson : Option Bytes) :
    (pipeline.map f).setFallbackVideoStatus statusJson = (pipeline.setFallbackVideoStatus statusJson).map f := by
  unfold setFallbackVideoStatus
  rw [apply_ite (map f)]
  rfl

theorem setSessionStreamInfo_map (streamInfo : Option Bytes) :
    (pipeline.map f).setSessionStreamInfo streamInfo = (pipeline.setSessionStreamInfo streamInfo).map f := by
  unfold setSessionStreamInfo
  rw [apply_ite (map f)]
  rfl

end MediaPipeline

namespace MediaSystem

variable {f : β → γ}

theorem prepare_map (worker : MediaWorker β) (seen : Observation) :
    (worker.map f).prepare seen = (worker.prepare seen).map f := by
  unfold MediaWorker.prepare
  cases seen.mode with
  | retransmit => cases live : worker.liveTranscoder <;> simp [MediaWorker.map, LiveTranscoder.map, live]
  | _ => rfl

theorem finishedLive_map (worker : MediaWorker β) : (worker.map f).finishedLive = worker.finishedLive := by
  cases live : worker.liveTranscoder <;>
    simp [MediaWorker.finishedLive, MediaWorker.map, LiveTranscoder.map, live]

theorem videoPass_map (system : MediaSystem β) : (system.map f).videoPass = system.videoPass.map f := by
  unfold videoPass
  by_cases finished : system.worker.finishedVideo = true
  · rw [if_pos finished]
    refine (if_pos finished).trans ?_
    by_cases playing : system.pipeline.mode = .fallbackVideo
    · rw [if_pos playing]
      simp only [if_pos (show (system.map f).pipeline.mode = .fallbackVideo from playing)]
      rfl
    · rw [if_neg playing]
      simp only [if_neg (show ¬ (system.map f).pipeline.mode = .fallbackVideo from playing)]
      rfl
  · rw [if_neg finished]
    exact (if_neg finished).trans rfl

theorem analoguePass_map (system : MediaSystem β) (now : Time) :
    (system.map f).analoguePass now = (system.analoguePass now).map f := by
  unfold analoguePass
  by_cases finished : system.worker.finishedAnalogue = true
  · rw [if_pos finished]
    refine (if_pos finished).trans ?_
    by_cases capturing : system.pipeline.mode = .analogue
    · rw [if_pos capturing]
      simp only [if_pos (show (system.map f).pipeline.mode = .analogue from capturing)]
      rfl
    · rw [if_neg capturing]
      simp only [if_neg (show ¬ (system.map f).pipeline.mode = .analogue from capturing)]
      rfl
  · rw [if_neg finished]
    exact (if_neg finished).trans rfl

theorem livePass_map (system : MediaSystem β) (now : Time) :
    (system.map f).livePass now = (system.livePass now).map f := by
  have same : (system.map f).worker.finishedLive = system.worker.finishedLive :=
    finishedLive_map system.worker
  unfold livePass
  by_cases finished : system.worker.finishedLive = true
  · rw [if_pos finished, if_pos (same.trans finished)]
    rfl
  · rw [if_neg finished, if_neg (by rwa [same])]
    cases live : system.worker.liveTranscoder <;>
      simp [MediaSystem.map, MediaWorker.map, MediaPipeline.map, LiveTranscoder.map, live]

theorem pass_map (system : MediaSystem β) (seen : Observation) (now : Time) :
    (system.map f).pass seen now = (system.pass seen now).map f := by
  unfold pass
  cases seen.mode with
  | fallbackVideo => exact videoPass_map system
  | analogue => exact analoguePass_map system now
  | retransmit => exact livePass_map system now
  | idle => rfl
  | fallback => rfl

theorem observe_map (system : MediaSystem β) : (system.map f).observe = system.observe.map f := by
  unfold observe
  simp only [map, MediaSystem.mk.injEq, and_true]
  exact ⟨rfl, prepare_map system.worker _⟩

/-- Renaming what the queue holds commutes with every step. -/
theorem step_map (system : MediaSystem β) (event : MediaEvent β) :
    (system.map f).step (event.map f) = (system.step event).map (MediaSystem.map f) := by
  cases event with
  | call made =>
    simp only [MediaEvent.map, step, apply_ite (Option.map (MediaSystem.map f)), Option.map_none,
      Option.map_some, MediaSystem.map, MediaPipeline.call_map, Option.isSome_map]
  | write packet checkedAt stampedAt =>
    simp only [MediaEvent.map, step, apply_ite (Option.map (MediaSystem.map f)), Option.map_none,
      Option.map_some, MediaSystem.map, MediaPipeline.admitPacket_map, Option.isSome_map]
    split
    · rfl
    · split <;> rfl
  | queueInput =>
    cases writing : system.writing <;>
      simp [MediaEvent.map, step, MediaSystem.map, writing, MediaPipeline.queueInput_map]
  | observe =>
    simp only [MediaEvent.map, step, apply_ite (Option.map (MediaSystem.map f)), Option.map_none,
      Option.map_some, observe_map]
    rfl
  | pass now =>
    simp only [MediaEvent.map, step, Option.map_map, Function.comp_def, ← pass_map]
    rfl
  | fail => rfl
  | muxData data =>
    simp only [MediaEvent.map, step, apply_ite (Option.map (MediaSystem.map f)), Option.map_none,
      Option.map_some]
    rfl
  | videoStatus statusJson =>
    simp only [MediaEvent.map, step, Option.map_map, Function.comp_def, MediaSystem.map,
      ← MediaPipeline.setFallbackVideoStatus_map]
    rfl
  | streamInfo text =>
    cases live : system.worker.liveTranscoder <;>
      simp [MediaEvent.map, step, MediaSystem.map, MediaWorker.map, live,
        MediaPipeline.setSessionStreamInfo_map]
  | liveFinished =>
    cases live : system.worker.liveTranscoder <;>
      simp [MediaEvent.map, step, MediaSystem.map, MediaWorker.map, LiveTranscoder.map, live]
  | videoFinished =>
    cases video : system.worker.fallbackVideoTranscoder <;>
      simp [MediaEvent.map, step, MediaSystem.map, MediaWorker.map, video]
  | analogueFinished =>
    cases analogue : system.worker.analogueTranscoder <;>
      simp [MediaEvent.map, step, MediaSystem.map, MediaWorker.map, analogue]

end MediaSystem

namespace DecoderSession
open Runs MediaPipeline

/-- A byte with the receiver that was selected when it was written. -/
abbrev Tagged := UInt8 × Option ReceiverId

/-- The receiver of an input, when there is one. -/
def receiverOf (input : Option ActiveInput) : Option ReceiverId := input.map ActiveInput.receiver

/-- The event on bytes that carry the receiver selected now. -/
def tag (system : MediaSystem Tagged) (event : MediaEvent UInt8) : MediaEvent Tagged :=
  event.map fun byte => (byte, receiverOf system.pipeline.active)

def step (system : MediaSystem Tagged) (event : MediaEvent UInt8) : Option (MediaSystem Tagged) :=
  system.step (tag system event)

/-- Without the tags the run is the pipeline's own. -/
theorem run_untagged (system : MediaSystem Tagged) (events : List (MediaEvent UInt8)) :
    (run step system events).map (MediaSystem.map Prod.fst) =
      run MediaSystem.step (system.map Prod.fst) events := by
  induction events generalizing system with
  | nil => rfl
  | cons event rest ih =>
    have untag : (tag system event).map Prod.fst = event := by
      cases event <;> simp [tag, MediaEvent.map, Function.comp_def]
    have stepped := MediaSystem.step_map (f := Prod.fst) system (tag system event)
    rw [untag] at stepped
    rw [run_cons, run_cons, stepped, step]
    cases system.step (tag system event) with
    | none => rfl
    | some next => exact ih next

/-- The byte was written under the input the session was opened for. -/
def Owns (live : LiveTranscoder Tagged) (byte : Tagged) : Prop :=
  ∃ input, live.opened = some input ∧ byte.2 = some input.receiver

/-- What is asked of every state: a session holds bytes of its own receiver only. -/
def OneReceiver (_ : MediaSystem Tagged) (_ : MediaEvent UInt8) (after : MediaSystem Tagged) : Prop :=
  ∀ live, after.worker.liveTranscoder = some live → ∀ byte ∈ live.appended, Owns live byte

/-- Nothing in the queue, and no open session, belongs to another receiver
than the selected one. -/
def NothingOfAnother (system : MediaSystem Tagged) : Prop :=
  (∀ byte ∈ system.pipeline.inputQueue, byte.2 = receiverOf system.pipeline.active) ∧
    ∀ live, system.worker.liveTranscoder = some live →
      receiverOf live.opened = receiverOf system.pipeline.active

/-- A packet that is let through finds nothing of another receiver, and
neither does the worker when it opens a session. -/
def Unmixed (before : MediaSystem Tagged) : MediaEvent UInt8 → Prop
  | .write packet checkedAt _ =>
    packet ≠ [] → before.pipeline.active ≠ none → ¬ checkedAt < before.pipeline.liveRetryAfter →
      NothingOfAnother before
  | .observe =>
    before.pipeline.mode = .retransmit → before.worker.liveTranscoder = none → NothingOfAnother before
  | _ => True

/-- An open session owns its own bytes and the queued ones; queued bytes have
a receiver; a packet still to be queued has the selected one's, and so has the
session beside it. -/
structure Sorted (system : MediaSystem Tagged) : Prop where
  session : ∀ live, system.worker.liveTranscoder = some live →
    (∀ byte ∈ live.appended, Owns live byte) ∧ ∀ byte ∈ system.pipeline.inputQueue, Owns live byte
  queued : ∀ byte ∈ system.pipeline.inputQueue, byte.2 ≠ none
  writing : ∀ packet, system.writing = some packet → ∃ input, system.pipeline.active = some input ∧
    (∀ byte ∈ packet, byte.2 = some input.receiver) ∧
    ∀ live, system.worker.liveTranscoder = some live → receiverOf live.opened = some input.receiver

variable {before after : MediaSystem Tagged} {event : MediaEvent UInt8}

theorem owns_of_receiver {live : LiveTranscoder Tagged} {byte : Tagged} {receiver : ReceiverId}
    (opened : receiverOf live.opened = some receiver) (tagged : byte.2 = some receiver) : Owns live byte := by
  obtain ⟨input, held, rfl⟩ := Option.map_eq_some_iff.mp opened
  exact ⟨input, held, tagged⟩

/-- No call changes the queue but by emptying it. -/
theorem tickActive_inputQueue (pipeline : MediaPipeline β) (input : ActiveInput) (now : Time) :
    (pipeline.tickActive input now).inputQueue = pipeline.inputQueue ∨
      (pipeline.tickActive input now).inputQueue = [] := by
  unfold tickActive
  split <;> split
  · unfold enterFallback
    split <;> simp [setTransmit]
  · unfold enterAnalogue
    split <;> simp [setTransmit]
  · unfold enterFallback
    split <;> simp [setTransmit]
  · simp

theorem call_inputQueue (pipeline : MediaPipeline β) (made : MediaCall) :
    (pipeline.call made).inputQueue = pipeline.inputQueue ∨ (pipeline.call made).inputQueue = [] := by
  cases made with
  | select input => cases input <;> exact .inl rfl
  | playFallbackVideo path =>
    simp only [call, playFallbackVideo, enterFallbackVideo]
    split <;> simp [setTransmit]
  | stopFallbackVideo =>
    simp only [call, stopFallbackVideo, enterFallback]
    split
    · simp
    · split <;> simp [setTransmit, dropFallbackVideo]
  | tick now =>
    simp only [call, tick]
    split <;> split
    · exact tickActive_inputQueue pipeline.dropFallbackVideo _ now
    · exact tickActive_inputQueue pipeline _ now
    · exact .inl rfl
    · split
      · unfold enterFallback
        split <;> simp [setTransmit]
      · unfold enterIdle
        split <;> simp [setTransmit]
  | _ => exact .inl rfl

theorem sorted_call (held : Sorted before) (free : before.writing = none) (made : MediaCall) :
    Sorted { before with pipeline := before.pipeline.call made } := by
  refine ⟨fun live opened => ?_, ?_, fun packet writing => by simp [free] at writing⟩
  · obtain ⟨appended, queued⟩ := held.session live opened
    refine ⟨appended, ?_⟩
    obtain same | emptied := call_inputQueue before.pipeline made
    · simpa only [same] using queued
    · simp [emptied]
  · obtain same | emptied := call_inputQueue before.pipeline made
    · simpa only [same] using held.queued
    · simp [emptied]

theorem sorted_write (held : Sorted before) {packet : List UInt8} {checkedAt stampedAt : Time}
    (met : Unmixed before (.write packet checkedAt stampedAt))
    (stepped : step before (.write packet checkedAt stampedAt) = some after) : Sorted after := by
  obtain ⟨free, rfl⟩ := MediaSystem.step_write.mp stepped
  set tagged := packet.map fun byte => (byte, receiverOf before.pipeline.active) with named
  obtain ⟨standing, queue, admitted, -⟩ := admitPacket_spec before.pipeline tagged checkedAt stampedAt
  refine ⟨fun live opened => ?_, ?_, fun writing pending => ?_⟩
  · simp only [queue]
    exact held.session live opened
  · simpa only [queue] using held.queued
  · simp only [Option.ite_none_right_eq_some, Option.some.injEq] at pending
    obtain ⟨taken, rfl⟩ := pending
    obtain ⟨nonempty, selected, late⟩ := admitted.mp taken
    obtain ⟨-, sessions⟩ := met (by simpa [named] using nonempty) selected late
    obtain ⟨input, active⟩ := Option.ne_none_iff_exists'.mp selected
    refine ⟨input, (active_of_standing standing).trans active, ?_, fun live opened => ?_⟩
    · simp [named, active, receiverOf]
    · rw [sessions live opened, active]
      rfl

theorem sorted_queueInput (held : Sorted before) (packet : List Tagged) (writing : before.writing = some packet) :
    Sorted { before with pipeline := before.pipeline.queueInput packet, writing := none } := by
  obtain ⟨input, active, tags, sessions⟩ := held.writing packet writing
  have among : ∀ byte ∈ (before.pipeline.queueInput packet).inputQueue,
      byte ∈ before.pipeline.inputQueue ∨ byte ∈ packet := by
    intro byte member
    simp only [queueInput] at member
    split at member
    · exact .inr member
    · exact List.mem_append.mp member
  refine ⟨fun live opened => ?_, fun byte member => ?_, by simp⟩
  · obtain ⟨appended, queued⟩ := held.session live opened
    refine ⟨appended, fun byte member => ?_⟩
    obtain old | new := among byte member
    · exact queued byte old
    · exact owns_of_receiver (sessions live opened) (tags byte new)
  · obtain old | new := among byte member
    · exact held.queued byte old
    · simp [tags byte new]

/-- A session is opened for the selected input, beside bytes of that input. -/
theorem sorted_observe (held : Sorted before) (met : Unmixed before .observe) : Sorted before.observe := by
  refine ⟨fun live opened => ?_, held.queued, fun packet writing => ?_⟩
  · cases seen : before.pipeline.mode with
    | retransmit =>
      simp only [MediaSystem.observe, MediaWorker.prepare, seen, Option.or_eq_some_iff, Option.some.injEq] at opened
      obtain old | ⟨closed, rfl⟩ := opened
      · exact held.session live old
      · refine ⟨by simp, fun byte member => ?_⟩
        obtain ⟨receiver, tagged⟩ := Option.ne_none_iff_exists'.mp (held.queued byte member)
        exact owns_of_receiver (((met seen closed).1 byte member).symm.trans tagged) tagged
    | _ => simp [MediaSystem.observe, MediaWorker.prepare, seen] at opened
  · obtain ⟨input, active, tags, sessions⟩ := held.writing packet writing
    refine ⟨input, active, tags, fun live opened => ?_⟩
    cases seen : before.pipeline.mode with
    | retransmit =>
      simp only [MediaSystem.observe, MediaWorker.prepare, seen, Option.or_eq_some_iff, Option.some.injEq] at opened
      obtain old | ⟨-, rfl⟩ := opened
      · exact sessions live old
      · simp [receiverOf, active]
    | _ => simp [MediaSystem.observe, MediaWorker.prepare, seen] at opened

/-- What the steps outside the control thread leave behind: the same selection
and call, a queue no longer than before, and a session that is the old one with
bytes of the queue appended, or none. -/
theorem sorted_of_less (held : Sorted before)
    (same : after.pipeline.active = before.pipeline.active ∧ after.writing = before.writing)
    (queue : ∀ byte ∈ after.pipeline.inputQueue, byte ∈ before.pipeline.inputQueue)
    (session : ∀ live, after.worker.liveTranscoder = some live →
      ∃ old, before.worker.liveTranscoder = some old ∧ live.opened = old.opened ∧
        ∀ byte ∈ live.appended, byte ∈ old.appended ∨ byte ∈ before.pipeline.inputQueue) :
    Sorted after := by
  obtain ⟨active, writing⟩ := same
  refine ⟨fun live opened => ?_, fun byte member => held.queued byte (queue byte member), ?_⟩
  · obtain ⟨old, was, input, appended⟩ := session live opened
    obtain ⟨owned, queued⟩ := held.session old was
    have owns : ∀ byte, Owns old byte → Owns live byte := by
      rintro byte ⟨selected, opened, tagged⟩
      exact ⟨selected, input.trans opened, tagged⟩
    refine ⟨fun byte member => owns byte ?_, fun byte member => owns byte (queued byte (queue byte member))⟩
    obtain appended | taken := appended byte member
    · exact owned byte appended
    · exact queued byte taken
  · intro packet pending
    obtain ⟨selected, is, tags, sessions⟩ := held.writing packet (writing.symm.trans pending)
    refine ⟨selected, active.trans is, tags, fun live opened => ?_⟩
    obtain ⟨old, was, input, -⟩ := session live opened
    rw [input]
    exact sessions old was

/-- A pass appends the queue to the session, or ends the session. -/
theorem sorted_pass (held : Sorted before) (seen : Observation) (now : Time) :
    Sorted (before.pass seen now) := by
  obtain ⟨standing, writing⟩ := MediaSystem.pass_standing before seen now
  have same := And.intro (active_of_standing standing) writing
  have kept : ∀ live, before.worker.liveTranscoder = some live → ∃ old, before.worker.liveTranscoder = some old ∧
      live.opened = old.opened ∧ ∀ byte ∈ live.appended, byte ∈ old.appended ∨ byte ∈ before.pipeline.inputQueue :=
    fun live opened => ⟨live, opened, rfl, fun byte member => .inl member⟩
  revert same
  unfold MediaSystem.pass
  intro same
  split at same
  · refine sorted_of_less held same ?_ ?_ <;> unfold MediaSystem.videoPass
    · split
      · dsimp only
        split <;> exact fun byte member => member
      · exact fun byte member => member
    · split <;> exact kept
  · refine sorted_of_less held same ?_ ?_ <;> unfold MediaSystem.analoguePass
    · split
      · dsimp only
        split <;> exact fun byte member => member
      · exact fun byte member => member
    · split <;> exact kept
  · refine sorted_of_less held same ?_ ?_ <;> unfold MediaSystem.livePass
    · split <;> simp [setTransmit]
    · split
      · simp
      · intro live opened
        obtain ⟨old, was, rfl⟩ := Option.map_eq_some_iff.mp opened
        exact ⟨old, was, rfl, fun byte member => List.mem_append.mp member⟩
  · exact held
  · exact held

/-- An unmixed step keeps the bytes sorted. -/
theorem step_sorted (held : Sorted before) (met : Unmixed before event)
    (stepped : step before event = some after) : Sorted after := by
  have kept : ∀ live, before.worker.liveTranscoder = some live → ∃ old, before.worker.liveTranscoder = some old ∧
      live.opened = old.opened ∧ ∀ byte ∈ live.appended, byte ∈ old.appended ∨ byte ∈ before.pipeline.inputQueue :=
    fun live opened => ⟨live, opened, rfl, fun byte member => .inl member⟩
  cases event with
  | call made =>
    obtain ⟨free, rfl⟩ := MediaSystem.step_call.mp stepped
    exact sorted_call held free made
  | write packet checkedAt stampedAt => exact sorted_write held met stepped
  | queueInput =>
    obtain ⟨packet, writing, rfl⟩ := MediaSystem.step_queueInput.mp stepped
    exact sorted_queueInput held packet writing
  | observe =>
    obtain ⟨-, rfl⟩ := MediaSystem.step_observe.mp stepped
    exact sorted_observe held met
  | pass now =>
    obtain ⟨seen, -, rfl⟩ := MediaSystem.step_pass.mp stepped
    exact sorted_pass held seen now
  | fail =>
    cases stepped
    exact sorted_of_less held ⟨rfl, rfl⟩ (fun byte member => member) (by simp)
  | muxData data =>
    obtain ⟨-, rfl⟩ := MediaSystem.step_muxData.mp stepped
    exact sorted_of_less held ⟨rfl, rfl⟩ (fun byte member => member) kept
  | liveFinished =>
    obtain ⟨old, was, rfl⟩ := Option.map_eq_some_iff.mp stepped
    refine sorted_of_less held ⟨rfl, rfl⟩ (fun byte member => member) fun live opened => ?_
    cases opened
    exact ⟨old, was, rfl, fun byte member => .inl member⟩
  | videoFinished =>
    obtain ⟨video, -, rfl⟩ := Option.map_eq_some_iff.mp stepped
    exact sorted_of_less held ⟨rfl, rfl⟩ (fun byte member => member) kept
  | analogueFinished =>
    obtain ⟨analogue, -, rfl⟩ := Option.map_eq_some_iff.mp stepped
    exact sorted_of_less held ⟨rfl, rfl⟩ (fun byte member => member) kept
  | videoStatus statusJson =>
    obtain ⟨video, -, rfl⟩ := Option.map_eq_some_iff.mp stepped
    refine sorted_of_less held ?_ ?_ kept <;> unfold setFallbackVideoStatus <;> dsimp only <;> split
    · exact ⟨rfl, rfl⟩
    · exact ⟨rfl, rfl⟩
    · exact fun byte member => member
    · exact fun byte member => member
  | streamInfo text =>
    obtain ⟨live, -, rfl⟩ := Option.map_eq_some_iff.mp stepped
    refine sorted_of_less held ?_ ?_ kept <;> unfold setSessionStreamInfo <;> dsimp only <;> split
    · exact ⟨rfl, rfl⟩
    · exact ⟨rfl, rfl⟩
    · exact fun byte member => member
    · exact fun byte member => member

theorem start_sorted (config : RepeaterConfig) (startedAt : Time) : Sorted (.start config startedAt) :=
  ⟨by simp [MediaSystem.start], by simp [MediaSystem.start, construct], by simp [MediaSystem.start]⟩

/-- In a run whose packets, when they are let through, find nothing of another
receiver, and whose sessions are opened beside nothing of another receiver,
every session holds bytes of the receiver it was opened for only. -/
theorem one_receiver_of_unmixed (config : RepeaterConfig) (startedAt : Time)
    (events : List (MediaEvent UInt8)) (unmixed : Guarded step Unmixed (.start config startedAt) events) :
    Throughout step OneReceiver (.start config startedAt) events := by
  refine throughout_of_guarded Sorted ?_ (start_sorted config startedAt) unmixed
  intro before event after held met stepped
  have sorted := step_sorted held met stepped
  exact ⟨sorted, fun live opened => (sorted.session live opened).1⟩

/-- An input on the receiver. -/
def onReceiver (number : Int32) : ActiveInput := { receiver := ⟨number⟩, target := {}, status := {} }

/-- One receiver's packet on its way into a session. -/
theorem first_session_owns_packet :
    Throughout step OneReceiver (.start {} 0)
      [.call (.select (some (onReceiver 1))), .write [0x47] 1 1, .queueInput, .observe, .pass 2] := by
  refine one_receiver_of_unmixed {} 0 _ ?_
  intro _ selected
  obtain rfl := Option.some.inj selected
  refine ⟨trivial, fun _ written => ?_⟩
  obtain rfl := Option.some.inj written
  refine ⟨fun _ _ _ => ⟨fun _ member => (List.not_mem_nil member).elim, fun _ opened => by cases opened⟩, ?_⟩
  intro _ queued
  obtain rfl := Option.some.inj queued
  refine ⟨trivial, fun _ observed => ?_⟩
  obtain rfl := Option.some.inj observed
  refine ⟨fun _ _ => ⟨fun byte member => ?_, fun _ opened => by cases opened⟩, fun _ _ => ⟨trivial, trivial⟩⟩
  obtain rfl := List.mem_singleton.mp member
  rfl

/-- The selection goes straight from receiver 1 to receiver 2 while the
session of receiver 1 is open: the packet of receiver 2 ends up in it. -/
theorem direct_change_mixes_receivers :
    ¬ Throughout step OneReceiver (.start {} 0)
      [.call (.select (some (onReceiver 1))), .write [0x47] 1 1, .queueInput, .observe, .pass 2,
        .call (.select (some (onReceiver 2))), .write [0x47] 3 3, .queueInput, .observe, .pass 4] := by
  intro along
  have last := (along _ rfl).2 _ rfl |>.2 _ rfl |>.2 _ rfl |>.2 _ rfl |>.2 _ rfl |>.2 _ rfl |>.2 _ rfl
    |>.2 _ rfl |>.2 _ rfl |>.1
  obtain ⟨input, opened, tagged⟩ := last _ rfl (0x47, some ⟨2⟩) (by decide)
  rw [← Option.some.inj opened] at tagged
  exact absurd tagged (by decide)

end DecoderSession
end WhRepeater
