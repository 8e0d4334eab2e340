import WhRepeater.DecoderSession

/-! What the live sessions of the media child are given of what is written to it.
Packets enter the queue whole, and leave it all at once: to the open session, or to
nobody. -/
namespace WhRepeater

namespace SessionStream

open DecoderSession MediaPipeline

variable {β : Type} {before after : MediaSystem β} {event : MediaEvent β} {written : List (List β)} {given : List β}

/-- What a step appends to the open session. -/
def appendedBy (system : MediaSystem β) : MediaEvent β → List β
  | .pass _ =>
    if system.worker.observed.any (fun seen => decide (seen.mode = .retransmit)) && !system.worker.finishedLive &&
        system.worker.liveTranscoder.isSome then system.pipeline.inputQueue
    else []
  | _ => []

def writtenBy : MediaEvent β → List (List β)
  | .write packet _ _ => [packet]
  | _ => []

/-- The sessions were given written packets, whole, in order and none twice, the open
session the latest of them; other such packets after them are queued, and the last one
is still to be queued. -/
def Streamed (system : MediaSystem β) (written : List (List β)) (given : List β) : Prop :=
  ∃ front session back : List (List β), (front ++ session ++ back ++ system.writing.toList).Sublist written ∧
    given = front.flatten ++ session.flatten ∧ system.pipeline.inputQueue = back.flatten ∧
    ∀ live, system.worker.liveTranscoder = some live → live.appended = session.flatten

theorem start_streamed (config : RepeaterConfig) (startedAt : Time) :
    Streamed (MediaSystem.start config startedAt : MediaSystem β) [] [] := by
  refine ⟨[], [], [], ?_, rfl, ?_, ?_⟩ <;> simp [MediaSystem.start, construct]

/-- A step that gives nothing keeps the queue or empties it, and keeps the session or
has none but an empty one. -/
theorem streamed_of_less (streamed : Streamed before written given) (writing : after.writing = before.writing)
    (queue : after.pipeline.inputQueue = before.pipeline.inputQueue ∨ after.pipeline.inputQueue = [])
    (session : (∀ live, after.worker.liveTranscoder = some live →
        ∃ old, before.worker.liveTranscoder = some old ∧ live.appended = old.appended) ∨
      ∀ live, after.worker.liveTranscoder = some live → live.appended = []) : Streamed after written given := by
  obtain ⟨front, old, back, among, gave, queued, held⟩ := streamed
  have kept : ∃ still : List (List β), after.pipeline.inputQueue = still.flatten ∧ still.Sublist back := by
    obtain same | emptied := queue
    · exact ⟨back, same.trans queued, List.Sublist.refl _⟩
    · exact ⟨[], emptied, List.nil_sublist _⟩
  obtain ⟨still, left, fewer⟩ := kept
  rw [← writing] at among
  have fits : (front ++ old ++ still ++ after.writing.toList).Sublist written :=
    (((List.Sublist.refl (front ++ old)).append fewer).append (List.Sublist.refl _)).trans among
  obtain same | fresh := session
  · refine ⟨front, old, still, fits, gave, left, fun live opened => ?_⟩
    obtain ⟨earlier, was, appended⟩ := same live opened
    rw [appended, held earlier was]
  · refine ⟨front ++ old, [], still, by simpa using fits, by simpa using gave, left, fun live opened => ?_⟩
    rw [fresh live opened]
    rfl

theorem streamed_of_none (streamed : Streamed before written given) (writing : after.writing = before.writing)
    (queue : after.pipeline.inputQueue = before.pipeline.inputQueue ∨ after.pipeline.inputQueue = [])
    (closed : after.worker.liveTranscoder = none) : Streamed after written given := by
  refine streamed_of_less streamed writing queue (.inr ?_)
  intro live opened
  rw [closed] at opened
  cases opened

theorem streamed_write {packet : List β} {checkedAt stampedAt : Time} (streamed : Streamed before written given)
    (stepped : before.step (.write packet checkedAt stampedAt) = some after) : Streamed after (written ++ [packet]) given := by
  obtain ⟨free, rfl⟩ := MediaSystem.step_write.mp stepped
  obtain ⟨front, session, back, among, gave, queued, held⟩ := streamed
  obtain ⟨-, queue, -, -⟩ := admitPacket_spec before.pipeline packet checkedAt stampedAt
  rw [free] at among
  refine ⟨front, session, back, ?_, gave, queue.trans queued, held⟩
  simp only [Option.toList_none, List.append_nil] at among
  dsimp only
  split
  · exact among.append (List.Sublist.refl _)
  · rw [Option.toList_none]
    exact among.append (List.nil_sublist _)

theorem streamed_queueInput {packet : List β} (streamed : Streamed before written given)
    (pending : before.writing = some packet) :
    Streamed { before with pipeline := before.pipeline.queueInput packet, writing := none } written given := by
  obtain ⟨front, session, back, among, gave, queued, held⟩ := streamed
  rw [pending, Option.toList_some] at among
  simp only [Streamed, queueInput, Option.toList_none, List.append_nil]
  split
  · refine ⟨front, session, [packet], ?_, gave, by simp, held⟩
    refine List.Sublist.trans ?_ among
    exact (List.sublist_append_left (front ++ session) back).append (List.Sublist.refl _)
  · refine ⟨front, session, back ++ [packet], ?_, gave, by simp [queued], held⟩
    rwa [← List.append_assoc]

/-- The pass that gives the queue to the open session. -/
theorem streamed_append {live : LiveTranscoder β} (streamed : Streamed before written given)
    (opened : before.worker.liveTranscoder = some live) {pipeline : MediaPipeline β} {worker : MediaWorker β}
    (emptied : pipeline.inputQueue = [])
    (appends : worker.liveTranscoder = some { live with appended := live.appended ++ before.pipeline.inputQueue }) :
    Streamed { before with pipeline, worker } written (given ++ before.pipeline.inputQueue) := by
  obtain ⟨front, session, back, among, gave, queued, held⟩ := streamed
  refine ⟨front, session ++ back, [], ?_, ?_, emptied, fun other is => ?_⟩
  · simpa using among
  · rw [gave, queued, List.flatten_append, List.append_assoc]
  · obtain rfl := Option.some.inj (appends.symm.trans is)
    dsimp only
    rw [held live opened, queued, List.flatten_append]

theorem streamed_livePass {now : Time} (streamed : Streamed before written given) :
    Streamed (before.livePass now) written
      (given ++ if !before.worker.finishedLive && before.worker.liveTranscoder.isSome then before.pipeline.inputQueue else []) := by
  unfold MediaSystem.livePass
  cases spent : before.worker.finishedLive with
  | true =>
    simp only [Bool.not_true, Bool.false_and, Bool.false_eq_true, if_false, if_true, List.append_nil]
    exact streamed_of_none streamed rfl (.inr (by rfl)) rfl
  | false =>
    cases opened : before.worker.liveTranscoder with
    | none =>
      simp only [Option.isSome_none, Bool.and_false, Bool.false_eq_true, if_false, List.append_nil]
      exact streamed_of_none streamed rfl (.inr rfl) rfl
    | some live =>
      simp only [Option.isSome_some, Bool.not_false, Bool.and_self, if_true, Bool.false_eq_true, if_false, Option.map_some]
      exact streamed_append streamed opened rfl rfl

theorem streamed_pass {seen : Observation} {now : Time} (streamed : Streamed before written given)
    (observed : before.worker.observed = some seen) :
    Streamed (before.pass seen now) written (given ++ appendedBy before (.pass now)) := by
  have kept : ∀ live, before.worker.liveTranscoder = some live →
      ∃ old, before.worker.liveTranscoder = some old ∧ live.appended = old.appended := fun live opened => ⟨live, opened, rfl⟩
  cases mode : seen.mode with
  | retransmit =>
    have live := @streamed_livePass β before written given now streamed
    simpa [MediaSystem.pass, appendedBy, observed, mode] using live
  | fallbackVideo =>
    have nothing : appendedBy before (.pass now) = [] := by simp [appendedBy, observed, mode]
    rw [nothing, List.append_nil, MediaSystem.pass, mode]
    dsimp only [MediaSystem.videoPass]
    split
    · refine streamed_of_less streamed rfl (.inl ?_) (.inl kept)
      dsimp only
      split <;> simp [setTransmit]
    · exact streamed_of_less streamed rfl (.inl rfl) (.inl kept)
  | analogue =>
    have nothing : appendedBy before (.pass now) = [] := by simp [appendedBy, observed, mode]
    rw [nothing, List.append_nil, MediaSystem.pass, mode]
    dsimp only [MediaSystem.analoguePass]
    split
    · refine streamed_of_less streamed rfl (.inl ?_) (.inl kept)
      dsimp only
      split <;> simp [setTransmit]
    · exact streamed_of_less streamed rfl (.inl rfl) (.inl kept)
  | idle =>
    have nothing : appendedBy before (.pass now) = [] := by simp [appendedBy, observed, mode]
    rw [nothing, List.append_nil, MediaSystem.pass, mode]
    exact streamed
  | fallback =>
    have nothing : appendedBy before (.pass now) = [] := by simp [appendedBy, observed, mode]
    rw [nothing, List.append_nil, MediaSystem.pass, mode]
    exact streamed

theorem streamed_observe (streamed : Streamed before written given) : Streamed before.observe written given := by
  refine streamed_of_less streamed rfl (.inl rfl) ?_
  cases seen : before.pipeline.mode with
  | retransmit =>
    cases opened : before.worker.liveTranscoder with
    | none =>
      right
      intro live now
      simp only [MediaSystem.observe, MediaWorker.prepare, seen, opened, Option.none_or, Option.some.injEq] at now
      rw [← now]
    | some old =>
      left
      intro live now
      simp only [MediaSystem.observe, MediaWorker.prepare, seen, opened, Option.some_or, Option.some.injEq] at now
      exact ⟨old, rfl, by rw [now]⟩
  | idle | fallback | fallbackVideo | analogue =>
    right
    intro live now
    simp [MediaSystem.observe, MediaWorker.prepare, seen] at now

/-- A step gives the sessions nothing but the queue, and takes in nothing but a
packet that is written. -/
theorem step_streamed (streamed : Streamed before written given) (stepped : before.step event = some after) :
    Streamed after (written ++ writtenBy event) (given ++ appendedBy before event) := by
  have kept : ∀ live, before.worker.liveTranscoder = some live →
      ∃ old, before.worker.liveTranscoder = some old ∧ live.appended = old.appended := fun live opened => ⟨live, opened, rfl⟩
  have silent (none_written : writtenBy event = []) (none_given : appendedBy before event = [])
      (still : Streamed after written given) :
      Streamed after (written ++ writtenBy event) (given ++ appendedBy before event) := by
    rwa [none_written, none_given, List.append_nil, List.append_nil]
  cases event with
  | write packet checkedAt stampedAt =>
    have nothing : appendedBy before (.write packet checkedAt stampedAt) = [] := rfl
    rw [nothing, List.append_nil]
    exact streamed_write streamed stepped
  | pass now =>
    obtain ⟨seen, observed, rfl⟩ := MediaSystem.step_pass.mp stepped
    have nothing : writtenBy (.pass now : MediaEvent β) = [] := rfl
    rw [nothing, List.append_nil]
    exact streamed_pass streamed observed
  | call made =>
    obtain ⟨-, rfl⟩ := MediaSystem.step_call.mp stepped
    refine silent rfl rfl ?_
    exact streamed_of_less streamed rfl (call_inputQueue before.pipeline made) (.inl kept)
  | queueInput =>
    obtain ⟨packet, pending, rfl⟩ := MediaSystem.step_queueInput.mp stepped
    refine silent rfl rfl ?_
    exact streamed_queueInput streamed pending
  | observe =>
    obtain ⟨-, rfl⟩ := MediaSystem.step_observe.mp stepped
    refine silent rfl rfl ?_
    exact streamed_observe streamed
  | fail =>
    cases stepped
    refine silent rfl rfl ?_
    exact streamed_of_none streamed rfl (.inl rfl) rfl
  | muxData data =>
    obtain ⟨-, rfl⟩ := MediaSystem.step_muxData.mp stepped
    refine silent rfl rfl ?_
    exact streamed_of_less streamed rfl (.inl rfl) (.inl kept)
  | liveFinished =>
    obtain ⟨old, was, rfl⟩ := Option.map_eq_some_iff.mp stepped
    refine silent rfl rfl ?_
    refine streamed_of_less streamed rfl (.inl rfl) (.inl fun live opened => ⟨old, was, ?_⟩)
    obtain rfl := Option.some.inj opened
    rfl
  | videoFinished =>
    obtain ⟨video, -, rfl⟩ := Option.map_eq_some_iff.mp stepped
    refine silent rfl rfl ?_
    exact streamed_of_less streamed rfl (.inl rfl) (.inl kept)
  | analogueFinished =>
    obtain ⟨analogue, -, rfl⟩ := Option.map_eq_some_iff.mp stepped
    refine silent rfl rfl ?_
    exact streamed_of_less streamed rfl (.inl rfl) (.inl kept)
  | videoStatus statusJson =>
    obtain ⟨video, -, rfl⟩ := Option.map_eq_some_iff.mp stepped
    refine silent rfl rfl ?_
    refine streamed_of_less streamed rfl (.inl ?_) (.inl kept)
    unfold setFallbackVideoStatus
    dsimp only
    split <;> rfl
  | streamInfo text =>
    obtain ⟨live, -, rfl⟩ := Option.map_eq_some_iff.mp stepped
    refine silent rfl rfl ?_
    refine streamed_of_less streamed rfl (.inl ?_) (.inl kept)
    unfold setSessionStreamInfo
    split <;> rfl

end SessionStream
end WhRepeater
