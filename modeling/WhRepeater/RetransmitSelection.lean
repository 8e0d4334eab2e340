import WhRepeater.MediaWorker
import WhRepeater.Runs

/-! Retransmission is for a selected digital input. A tick looks at what the
selected input is, a write does not: the ticks of every run are right, and the
writes are right while none is let through under an analogue selection. -/
namespace WhRepeater.RetransmitSelection
open Runs MediaPipeline

variable {β : Type} {pipeline : MediaPipeline β} {before after : MediaSystem β} {event : MediaEvent β}

/-- The selected input is there and is not analogue. -/
def Digital (pipeline : MediaPipeline β) : Prop :=
  ∃ input, pipeline.active = some input ∧ isAnalogueInput pipeline.config input = false

/-- What is asked of each step: a tick leaves retransmission to a digital
input, and so does a write, which also takes no bytes without one. -/
def OnlyDigital (before : MediaSystem β) (event : MediaEvent β) (after : MediaSystem β) : Prop :=
  match event with
  | .call (.tick _) => after.pipeline.mode = .retransmit → Digital after.pipeline
  | .write _ _ _ =>
    (after.pipeline.mode = .retransmit ∧ before.pipeline.mode ≠ .retransmit ∨ after.writing ≠ none) →
      Digital after.pipeline
  | .queueInput => after.pipeline.inputQueue ≠ before.pipeline.inputQueue → Digital after.pipeline
  | _ => True

/-- No packet is written under an analogue selection, unless the pause after a
failed live session refuses it. -/
def WritesDigital (before : MediaSystem β) : MediaEvent β → Prop
  | .write packet checkedAt _ =>
    ∀ input, before.pipeline.active = some input → isAnalogueInput before.pipeline.config input = true →
      packet = [] ∨ checkedAt < before.pipeline.liveRetryAfter
  | _ => True

/-- Bytes a call has still to queue were let through for a digital input. -/
def WritingDigital (system : MediaSystem β) : Prop := system.writing ≠ none → Digital system.pipeline

theorem digital_of_standing {other : MediaPipeline β} (same : other.standing = pipeline.standing) :
    Digital other ↔ Digital pipeline := by
  simp only [standing, Prod.mk.injEq] at same
  simp only [Digital, same.1, same.2.1]

theorem tickActive_retransmit (pipeline : MediaPipeline β) (input : ActiveInput) (now : Time)
    (retransmit : (pipeline.tickActive input now).mode = .retransmit) :
    isAnalogueInput pipeline.config input = false := by
  by_contra analogue
  have kind : isAnalogueInput pipeline.config input = true := by simpa using analogue
  rw [tickActive, if_pos kind] at retransmit
  split at retransmit
  · simp at retransmit
  · simp at retransmit

/-- Whatever the tick finds, it is in retransmit mode afterwards only for a
digital input. -/
theorem tick_retransmit_digital (now : Time) (retransmit : (pipeline.tick now).mode = .retransmit) :
    Digital (pipeline.tick now) := by
  rw [digital_of_standing tick_standing]
  unfold tick at retransmit
  split at retransmit
  · rename_i input active
    refine ⟨input, active, ?_⟩
    split at retransmit
    · exact tickActive_retransmit pipeline.dropFallbackVideo input now retransmit
    · exact tickActive_retransmit pipeline input now retransmit
  · split at retransmit
    · rename_i video
      simp [video] at retransmit
    · split at retransmit
      · simp at retransmit
      · simp at retransmit

/-- Under the guard, a packet the first region lets through is written for a
digital input. -/
theorem admitted_digital {packet : List β} {checkedAt stampedAt : Time}
    (met : WritesDigital before (.write packet checkedAt stampedAt))
    (admitted : (before.pipeline.admitPacket packet checkedAt stampedAt).2 = true) :
    Digital (before.pipeline.admitPacket packet checkedAt stampedAt).1 := by
  obtain ⟨standing, -, let_through, -⟩ := admitPacket_spec before.pipeline packet checkedAt stampedAt
  obtain ⟨bytes, selected, due⟩ := let_through.mp admitted
  obtain ⟨input, active⟩ := Option.ne_none_iff_exists'.mp selected
  refine (digital_of_standing standing).mpr ⟨input, active, ?_⟩
  by_contra analogue
  obtain nothing | early := met input active (by simpa using analogue)
  · exact bytes nothing
  · exact due early

/-- A digital input stays selected while its packet waits to be queued: the
control thread is inside the call. -/
theorem step_writingDigital (held : WritingDigital before) (met : WritesDigital before event)
    (stepped : before.step event = some after) : WritingDigital after := by
  cases event with
  | call call =>
    obtain ⟨free, rfl⟩ := MediaSystem.step_call.mp stepped
    exact fun writing => absurd free writing
  | write packet checkedAt stampedAt =>
    obtain ⟨-, rfl⟩ := MediaSystem.step_write.mp stepped
    intro writing
    refine admitted_digital met ?_
    by_contra refused
    simp [refused] at writing
  | queueInput =>
    obtain ⟨packet, -, rfl⟩ := MediaSystem.step_queueInput.mp stepped
    exact fun writing => absurd rfl writing
  | _ =>
    obtain ⟨standing, writing⟩ := MediaSystem.step_outside stepped trivial
    unfold WritingDigital
    rw [writing, digital_of_standing standing]
    exact held

/-- A write does what is asked of it exactly when the guard lets it: under an
analogue selection anything that is let through goes wrong. -/
theorem write_onlyDigital_iff {packet : List β} {checkedAt stampedAt : Time}
    (stepped : before.step (.write packet checkedAt stampedAt) = some after) :
    OnlyDigital before (.write packet checkedAt stampedAt) after ↔
      WritesDigital before (.write packet checkedAt stampedAt) := by
  obtain ⟨-, rfl⟩ := MediaSystem.step_write.mp stepped
  obtain ⟨standing, -, let_through, mode⟩ := admitPacket_spec before.pipeline packet checkedAt stampedAt
  constructor
  · intro only input active analogue
    by_contra neither
    simp only [not_or] at neither
    have admitted := let_through.mpr ⟨neither.1, by simp [active], neither.2⟩
    obtain ⟨other, selected, digital⟩ := only (.inr (by simp [admitted]))
    obtain ⟨_, selected, digital⟩ := (digital_of_standing standing).mp ⟨other, selected, digital⟩
    rw [active, Option.some.injEq] at selected
    subst selected
    simp [analogue] at digital
  · intro met moved
    refine admitted_digital met ?_
    by_contra refused
    rw [Bool.not_eq_true] at refused
    obtain ⟨retransmit, other⟩ | writing := moved
    · rw [mode, refused] at retransmit
      exact other retransmit
    · simp [refused] at writing

/-- Ticks retransmit only a digital input in every run; writes do exactly if
none of them is let through under an analogue selection. -/
theorem only_digital_iff_writes_digital (config : RepeaterConfig) (startedAt : Time)
    (events : List (MediaEvent β)) :
    Throughout MediaSystem.step OnlyDigital (.start config startedAt) events ↔
      Guarded MediaSystem.step WritesDigital (.start config startedAt) events := by
  refine throughout_iff_guarded WritingDigital ?_ ?_ (fun writing => absurd rfl writing)
  · exact fun _ _ _ held met stepped => step_writingDigital held met stepped
  · intro before event after held stepped
    unfold OnlyDigital
    split
    · obtain ⟨-, rfl⟩ := MediaSystem.step_call.mp stepped
      exact iff_of_true (fun retransmit => tick_retransmit_digital _ retransmit) trivial
    · exact write_onlyDigital_iff stepped
    · obtain ⟨packet, writing, rfl⟩ := MediaSystem.step_queueInput.mp stepped
      exact iff_of_true (fun _ => held (by simp [writing])) trivial
    · simp_all [WritesDigital]

/-- A packet of the receiver that was selected before, written after the
capture was selected. -/
theorem late_packet_retransmits_capture :
    ¬ Throughout MediaSystem.step OnlyDigital (.start {} 0)
      [.call (.select (some { receiver := ⟨5⟩, target := {}, status := {} })), .call (.tick 1),
        .write [(0x47 : UInt8)] 2 2] := by
  intro along
  have last := (along _ rfl).2 _ rfl |>.2 _ rfl |>.1
  obtain ⟨input, active, digital⟩ := last (.inl ⟨by rfl, by decide⟩)
  rw [show input = _ from (Option.some.inj active).symm] at digital
  exact absurd digital (by decide)

end WhRepeater.RetransmitSelection
