import Mathlib.Data.Finset.Insert
import Mathlib.Data.List.Infix
import WhRepeater.Monitors
import WhRepeater.Types

/-! The buffer between the pipeline's worker and the demuxer of a live transcode
(`BlockingTsInput`). The worker appends, in chunks and only while there is room;
the demuxer reads, and waits for something to read; a stop ends both. -/
namespace WhRepeater

open Monitors (Outcome)

/-- What was inserted, what was read and whether a read has reported the end are
books that the code does not keep. -/
structure BlockingTsInput where
  buffer : Bytes := []
  stopped : Bool := false
  accepted : Bytes := []
  delivered : Bytes := []
  ended : Bool := false
  deriving Repr, DecidableEq

namespace BlockingTsInput

def maxBufferedBytes : Nat := 32 * 1024 * 1024

def maxAppendChunk : Nat := 1 * 1024 * 1024

inductive Op where
  | append (data : Bytes)
  | read (size : Nat)
  | stop
  deriving Repr, DecidableEq

/-- What the regions wait for. An `append` is the rest of the data it was given. -/
def guard (input : BlockingTsInput) : Op → Bool
  | .append data => input.stopped || decide (input.buffer.length + min maxAppendChunk data.length ≤ maxBufferedBytes)
  | .read _ => input.stopped || !input.buffer.isEmpty
  | .stop => true

/-- One pass of the loop of `append`. -/
def insert (input : BlockingTsInput) (data : Bytes) : Outcome BlockingTsInput Op :=
  if input.stopped then { shared := input }
  else
    { shared :=
        { input with
          buffer := input.buffer ++ data.take maxAppendChunk
          accepted := input.accepted ++ data.take maxAppendChunk }
      signal := some .one
      next := if (data.drop maxAppendChunk).isEmpty then none else some (.append (data.drop maxAppendChunk)) }

def take (input : BlockingTsInput) (size : Nat) : Outcome BlockingTsInput Op :=
  if input.stopped && input.buffer.isEmpty then { shared := { input with ended := true } }
  else
    { shared :=
        { input with
          buffer := input.buffer.drop size
          delivered := input.delivered ++ input.buffer.take size }
      signal := some .all }

def act (input : BlockingTsInput) : Op → Outcome BlockingTsInput Op
  | .append data => input.insert data
  | .read size => input.take size
  | .stop => { shared := { input with stopped := true }, signal := some .all }

def monitor : Monitors.Monitor BlockingTsInput Op := { guard, act }

end BlockingTsInput

/-- The worker, the thread of the transcoder, and whoever else stops it. -/
inductive LiveThread where
  | worker
  | reader
  | stopper
  deriving Repr, DecidableEq

namespace LiveThread

instance : Fintype LiveThread := ⟨{.worker, .reader, .stopper}, fun thread => by cases thread <;> simp⟩

open BlockingTsInput (Op)

/-- Who calls what. An `append` of nothing takes no step. -/
def may : LiveThread → Op → Bool
  | .worker, .append data => !data.isEmpty
  | .worker, .stop => true
  | .reader, .read _ => true
  | .stopper, .stop => true
  | _, _ => false

end LiveThread

/-- The buffer, its threads, and all that the worker was given to append. -/
structure LiveInput where
  system : Monitors.System LiveThread BlockingTsInput BlockingTsInput.Op := { shared := {} }
  given : Bytes := []

namespace LiveInput

open BlockingTsInput (Op monitor maxBufferedBytes maxAppendChunk)
open Monitors (Event Phase System)

def allowed : Event LiveThread Op → Bool
  | .call thread op => thread.may op
  | _ => true

def givenBy : Event LiveThread Op → Bytes
  | .call _ (.append data) => data
  | _ => []

def step (input : LiveInput) (event : Event LiveThread Op) : Option LiveInput :=
  if allowed event then
    (input.system.step monitor event).map fun system => { system, given := input.given ++ givenBy event }
  else none

/-- What the worker still has to append of what it was given. -/
def remaining (input : LiveInput) : Bytes :=
  match (input.system.phase .worker).operation with
  | some (.append data) => data
  | _ => []

/-- The buffer is bounded, and what was read, what is buffered and what the
worker has left are what the worker was given, in that order, up to a stop. -/
structure Sound (input : LiveInput) : Prop where
  bounded : input.system.shared.buffer.length ≤ maxBufferedBytes
  inOrder : input.system.shared.accepted = input.system.shared.delivered ++ input.system.shared.buffer
  offered : input.system.shared.accepted <+: input.given
  whole : input.system.shared.stopped = false → input.given = input.system.shared.accepted ++ input.remaining
  ended : input.system.shared.ended = true → input.system.shared.stopped = true ∧ input.system.shared.buffer = []

variable {before after : LiveInput} {event : Event LiveThread Op}

theorem step_eq_some : before.step event = some after ↔
    allowed event = true ∧ before.system.step monitor event = some after.system ∧
      after.given = before.given ++ givenBy event := by
  obtain ⟨system, given⟩ := after
  simp only [step, Option.ite_none_right_eq_some, Option.map_eq_some_iff, LiveInput.mk.injEq]
  constructor
  · rintro ⟨permitted, _, stepped, rfl, rfl⟩
    exact ⟨permitted, stepped, rfl⟩
  · rintro ⟨permitted, stepped, rfl⟩
    exact ⟨permitted, _, stepped, rfl, rfl⟩

theorem remaining_congr (same : (after.system.phase .worker).operation = (before.system.phase .worker).operation) :
    after.remaining = before.remaining := by
  rw [remaining, remaining, same]

/-- A thread moves, and neither the data nor what the worker has left change. -/
theorem Sound.congr (sound : before.Sound) (shared : after.system.shared = before.system.shared)
    (given : after.given = before.given)
    (same : (after.system.phase .worker).operation = (before.system.phase .worker).operation) : after.Sound := by
  obtain ⟨bounded, inOrder, offered, whole, ended⟩ := sound
  refine ⟨?_, ?_, ?_, ?_, ?_⟩
  · rwa [shared]
  · rwa [shared]
  · rwa [shared, given]
  · rwa [shared, given, remaining_congr same]
  · rwa [shared]

/-- A thread acted, and what the step left stands in for what it found. -/
def acted (before : LiveInput) (thread : LiveThread) (op : Op) : LiveInput :=
  { before with
    system :=
      { before.system.move thread (before.system.shared.act op).phase with
        shared := (before.system.shared.act op).shared } }

theorem remaining_acted_worker (before : LiveInput) (op : Op) :
    (before.acted .worker op).remaining =
      match (before.system.shared.act op).next with
      | some (.append data) => data
      | _ => [] := by
  simp only [remaining, acted, System.move_self, Outcome.operation_phase]

theorem append_sound {data : Bytes} (sound : before.Sound) (entering : before.system.phase .worker = .entering (.append data))
    (met : before.system.shared.guard (.append data) = true) : (before.acted .worker (.append data)).Sound := by
  obtain ⟨bounded, inOrder, offered, whole, ended⟩ := sound
  have left : before.remaining = data := by rw [remaining, entering]; rfl
  cases halted : before.system.shared.stopped with
  | true =>
    have same : (before.acted .worker (.append data)).system.shared = before.system.shared := by
      simp [acted, BlockingTsInput.act, BlockingTsInput.insert, halted]
    refine ⟨?_, ?_, ?_, ?_, ?_⟩
    · rwa [same]
    · rwa [same]
    · rw [same]
      exact offered
    · rw [same, halted]
      exact nofun
    · rwa [same]
  | false =>
    have room : before.system.shared.buffer.length + min maxAppendChunk data.length ≤ maxBufferedBytes := by
      simpa [BlockingTsInput.guard, halted] using met
    have given : before.given = before.system.shared.accepted ++ data := by rw [whole halted, left]
    have rest : (before.acted .worker (.append data)).remaining = data.drop maxAppendChunk := by
      rw [remaining_acted_worker]
      cases beyond : data.drop maxAppendChunk <;>
        simp [BlockingTsInput.act, BlockingTsInput.insert, halted, beyond]
    have shared : (before.acted .worker (.append data)).system.shared =
        { before.system.shared with
          buffer := before.system.shared.buffer ++ data.take maxAppendChunk
          accepted := before.system.shared.accepted ++ data.take maxAppendChunk } := by
      simp [acted, BlockingTsInput.act, BlockingTsInput.insert, halted]
    have parts : before.given = before.system.shared.accepted ++ data.take maxAppendChunk ++ data.drop maxAppendChunk := by
      rw [given, List.append_assoc, List.take_append_drop]
    refine ⟨?_, ?_, ?_, ?_, ?_⟩
    · rw [shared]
      simpa using room
    · rw [shared]
      simp [inOrder]
    · rw [shared]
      exact ⟨data.drop maxAppendChunk, parts.symm⟩
    · intro _
      rw [shared, rest]
      exact parts
    · rw [shared]
      intro spent
      exact absurd (ended spent).1 (by simp [halted])

theorem read_sound {size : Nat} (sound : before.Sound) : (before.acted .reader (.read size)).Sound := by
  obtain ⟨bounded, inOrder, offered, whole, ended⟩ := sound
  have left : (before.acted .reader (.read size)).remaining = before.remaining :=
    remaining_congr (by simp [acted, System.move_other])
  by_cases spent : (before.system.shared.stopped && before.system.shared.buffer.isEmpty) = true
  · have shared : (before.acted .reader (.read size)).system.shared = { before.system.shared with ended := true } := by
      simp only [acted, BlockingTsInput.act, BlockingTsInput.take, if_pos spent]
    rw [Bool.and_eq_true, List.isEmpty_iff] at spent
    refine ⟨?_, ?_, ?_, ?_, ?_⟩
    · rwa [shared]
    · rwa [shared]
    · rw [shared]
      exact offered
    · rw [shared, left]
      exact whole
    · rw [shared]
      exact fun _ => spent
  · have shared : (before.acted .reader (.read size)).system.shared =
        { before.system.shared with
          buffer := before.system.shared.buffer.drop size
          delivered := before.system.shared.delivered ++ before.system.shared.buffer.take size } := by
      simp only [acted, BlockingTsInput.act, BlockingTsInput.take, if_neg spent]
    refine ⟨?_, ?_, ?_, ?_, ?_⟩
    · rw [shared]
      simp only [List.length_drop]
      omega
    · rw [shared]
      simp [inOrder, List.append_assoc]
    · rw [shared]
      exact offered
    · rw [shared, left]
      exact whole
    · rw [shared]
      intro reported
      exact absurd (ended reported) (by simpa using spent)

theorem stop_sound {thread : LiveThread} (sound : before.Sound) : (before.acted thread .stop).Sound := by
  obtain ⟨bounded, inOrder, offered, whole, ended⟩ := sound
  exact ⟨bounded, inOrder, offered, nofun, fun reported => ⟨rfl, (ended reported).2⟩⟩

/-! ## Every order of steps -/

def Calls (thread : LiveThread) (op : Op) : Prop := thread.may op = true

theorem waits_reader {thread : LiveThread} (apart : thread ≠ .worker) (waits : Monitors.Waits monitor Calls thread) :
    thread = .reader := by
  obtain ⟨shared, op, calls, unmet⟩ := waits
  cases thread with
  | worker => exact absurd rfl apart
  | reader => rfl
  | stopper =>
    cases op with
    | append data => exact absurd calls (by simp [Calls, LiveThread.may])
    | read size => exact absurd calls (by simp [Calls, LiveThread.may])
    | stop => exact absurd unmet (by simp [monitor, BlockingTsInput.guard])

theorem tells : Monitors.Tells monitor Calls := by
  refine ⟨?_, ?_⟩
  · intro thread shared op next calls goesOn
    cases op with
    | append data =>
      cases thread with
      | worker =>
        simp only [monitor, BlockingTsInput.act, BlockingTsInput.insert] at goesOn
        split at goesOn
        · exact absurd goesOn (by simp)
        · split at goesOn
          case isTrue spent => exact absurd goesOn (by simp)
          case isFalse spent =>
            cases goesOn
            simpa [Calls, LiveThread.may] using spent
      | reader => exact absurd calls (by simp [Calls, LiveThread.may])
      | stopper => exact absurd calls (by simp [Calls, LiveThread.may])
    | read size =>
      simp only [monitor, BlockingTsInput.act, BlockingTsInput.take] at goesOn
      split at goesOn <;> exact absurd goesOn (by simp)
    | stop => exact absurd goesOn (by simp [monitor, BlockingTsInput.act])
  · intro thread shared op calls met other held otherCalls apart unmet ends
    cases op with
    | append data =>
      cases thread with
      | worker =>
        have waits : Monitors.Waits monitor Calls other := ⟨shared, held, otherCalls, unmet⟩
        have reads : other = .reader := waits_reader apart waits
        cases halted : shared.stopped with
        | true =>
          have same : (monitor.act shared (.append data)).shared = shared := by
            simp [monitor, BlockingTsInput.act, BlockingTsInput.insert, halted]
          rw [same, unmet] at ends
          exact absurd ends (by simp)
        | false =>
          refine .inr ⟨by simp [monitor, BlockingTsInput.act, BlockingTsInput.insert, halted], ?_⟩
          intro third away waiting
          rw [reads]
          exact waits_reader away waiting
      | reader => exact absurd calls (by simp [Calls, LiveThread.may])
      | stopper => exact absurd calls (by simp [Calls, LiveThread.may])
    | read size =>
      by_cases spent : (shared.stopped && shared.buffer.isEmpty) = true
      · rw [Bool.and_eq_true] at spent
        cases held with
        | append data => exact absurd unmet (by simp [monitor, BlockingTsInput.guard, spent.1])
        | read size => exact absurd unmet (by simp [monitor, BlockingTsInput.guard, spent.1])
        | stop => exact absurd unmet (by simp [monitor, BlockingTsInput.guard])
      · left
        simp only [monitor, BlockingTsInput.act, BlockingTsInput.take, if_neg spent]
    | stop => exact .inl rfl

theorem call_sound {thread : LiveThread} {op : Op} (sound : before.Sound) (stepped : before.step (.call thread op) = some after) :
    after.Sound := by
  obtain ⟨permitted, stepped, given⟩ := step_eq_some.mp stepped
  obtain ⟨outside, moved⟩ := System.step_call.mp stepped
  have shared : after.system.shared = before.system.shared := by rw [← moved, System.move_shared]
  cases thread with
  | worker =>
    have none_left : before.remaining = [] := by rw [remaining, outside]; rfl
    have entering : after.system.phase .worker = .entering op := by rw [← moved, System.move_self]
    have fresh : after.remaining = givenBy (.call .worker op) := by
      rw [remaining, entering]
      cases op <;> rfl
    obtain ⟨bounded, inOrder, offered, whole, ended⟩ := sound
    refine ⟨?_, ?_, ?_, ?_, ?_⟩
    · rwa [shared]
    · rwa [shared]
    · rw [shared, given]
      exact offered.trans (List.prefix_append ..)
    · intro running
      rw [shared] at running ⊢
      rw [given, fresh, whole running, none_left, List.append_nil]
    · rwa [shared]
  | reader =>
    cases op with
    | append data => exact absurd permitted (by simp [allowed, LiveThread.may])
    | read size =>
      refine sound.congr shared (by rw [given]; exact List.append_nil _) ?_
      rw [← moved, System.move_other (by simp)]
    | stop => exact absurd permitted (by simp [allowed, LiveThread.may])
  | stopper =>
    cases op with
    | append data => exact absurd permitted (by simp [allowed, LiveThread.may])
    | read size => exact absurd permitted (by simp [allowed, LiveThread.may])
    | stop =>
      refine sound.congr shared (by rw [given]; exact List.append_nil _) ?_
      rw [← moved, System.move_other (by simp)]

/-- A step that is not a call gives nothing new, and moves one thread or wakes others. -/
theorem moved_sound {system : System LiveThread BlockingTsInput Op} (sound : before.Sound)
    (calls : ∀ thread op, before.system.phase thread = .entering op → Calls thread op)
    (moved : System.Moved monitor (fun _ _ => False) before.system system) :
    ({ before with system } : LiveInput).Sound := by
  have elsewhere : ∀ {thread : LiveThread} {phase : Phase Op},
      phase.operation = (before.system.phase thread).operation →
      ((before.system.move thread phase).phase .worker).operation = (before.system.phase .worker).operation := by
    intro thread phase same
    by_cases worker : thread = .worker
    · subst worker
      rw [System.move_self, same]
    · rw [System.move_other (Ne.symm worker)]
  cases moved with
  | called _ never => exact never.elim
  | @acted thread op entering met =>
    have permitted := calls thread op entering
    cases op with
    | append data =>
      cases thread with
      | worker => exact append_sound sound entering met
      | reader => exact absurd permitted (by simp [Calls, LiveThread.may])
      | stopper => exact absurd permitted (by simp [Calls, LiveThread.may])
    | read size =>
      cases thread with
      | reader => exact read_sound sound
      | worker => exact absurd permitted (by simp [Calls, LiveThread.may])
      | stopper => exact absurd permitted (by simp [Calls, LiveThread.may])
    | stop => exact stop_sound sound
  | slept entering _ => exact sound.congr rfl rfl (elsewhere (by rw [entering]; rfl))
  | woke asleep => exact sound.congr rfl rfl (elsewhere (by rw [asleep]; rfl))
  | @toldAll thread next signalling =>
    refine sound.congr rfl rfl ?_
    by_cases worker : thread = .worker
    · subst worker
      rw [System.move_self, Phase.operation_resume, signalling]
      rfl
    · rw [System.move_other (Ne.symm worker)]
      exact Phase.operation_woken _
  | @toldOne thread next sleeper op signalling asleep =>
    refine sound.congr rfl rfl ?_
    by_cases worker : thread = .worker
    · subst worker
      rw [System.move_self, Phase.operation_resume, signalling]
      rfl
    · rw [System.move_other (Ne.symm worker)]
      exact elsewhere (by rw [asleep]; rfl)
  | toldNone signalling _ => exact sound.congr rfl rfl (elsewhere (by rw [signalling, Phase.operation_resume]; rfl))

theorem silent_sound (sound : before.Sound) (attended : Monitors.Attended monitor Calls before.system)
    (silent : ∀ thread op, event ≠ .call thread op) (stepped : before.step event = some after) : after.Sound := by
  obtain ⟨-, systemStep, given⟩ := step_eq_some.mp stepped
  have moved := System.step_moved (fun thread op called => silent thread op called) systemStep
  have nothing : givenBy event = [] := by
    cases event with
    | call thread op => exact absurd rfl (silent thread op)
    | enter thread => rfl
    | wake thread => rfl
    | notify thread woken => rfl
  have kept := moved_sound sound (fun thread op entering => attended.allowed thread op (by rw [entering]; rfl)) moved
  exact kept.congr rfl (by rw [given, nothing, List.append_nil]) rfl

theorem step_kept (sound : before.Sound) (attended : Monitors.Attended monitor Calls before.system)
    (stepped : before.step event = some after) : after.Sound ∧ Monitors.Attended monitor Calls after.system := by
  constructor
  · cases event with
    | call thread op => exact call_sound sound stepped
    | enter thread => exact silent_sound sound attended (by simp) stepped
    | wake thread => exact silent_sound sound attended (by simp) stepped
    | notify thread woken => exact silent_sound sound attended (by simp) stepped
  · obtain ⟨permitted, systemStep, -⟩ := step_eq_some.mp stepped
    refine Monitors.attended_of_moved tells attended (System.step_moved ?_ systemStep)
    rintro thread op rfl
    exact permitted

theorem start_sound : ({} : LiveInput).Sound :=
  ⟨Nat.zero_le _, rfl, List.prefix_rfl, fun _ => rfl, nofun⟩

/-- Whatever order the threads take their steps in, a run keeps the buffer
sound and its sleepers attended to. -/
theorem run_kept {events : List (Event LiveThread Op)} (sound : before.Sound)
    (attended : Monitors.Attended monitor Calls before.system) (ran : Runs.run step before events = some after) :
    after.Sound ∧ Monitors.Attended monitor Calls after.system := by
  induction events generalizing before with
  | nil =>
    cases ran
    exact ⟨sound, attended⟩
  | cons event rest ih =>
    obtain ⟨next, stepped, ran⟩ := Option.bind_eq_some_iff.mp ran
    obtain ⟨sound, attended⟩ := step_kept sound attended stepped
    exact ih sound attended ran

theorem live_input_in_order {events : List (Event LiveThread Op)} {final : LiveInput}
    (ran : Runs.run step {} events = some final) : final.Sound :=
  (run_kept start_sound (Monitors.attended_start _) ran).1

/-- A read before the first append, which sleeps, is woken by it and takes two
of its three bytes. -/
def readFirst : List (Event LiveThread Op) :=
  [.call .reader (.read 2), .enter .reader, .call .worker (.append [1, 2, 3]), .enter .worker,
    .notify .worker (some .reader), .enter .reader, .notify .reader none]

theorem live_input_in_order_readFirst :
    ∃ final, Runs.run step {} readFirst = some final ∧ final.system.shared.delivered = [1, 2] ∧ final.Sound :=
  ⟨(Runs.run step {} readFirst).get rfl, rfl, rfl, @live_input_in_order readFirst _ rfl⟩

theorem live_input_sleeps {events : List (Event LiveThread Op)} {final : LiveInput}
    (ran : Runs.run step {} events = some final) (quiet : Monitors.Quiet final.system) :
    (∀ data, final.system.phase .worker = .asleep (.append data) →
        final.system.shared.stopped = false ∧
          maxBufferedBytes < final.system.shared.buffer.length + min maxAppendChunk data.length) ∧
      (∀ size, final.system.phase .reader = .asleep (.read size) →
        final.system.shared.stopped = false ∧ final.system.shared.buffer = []) ∧
      ¬((final.system.phase .worker).isAsleep = true ∧ (final.system.phase .reader).isAsleep = true) := by
  have attended := (run_kept start_sound (Monitors.attended_start _) ran).2
  have full : ∀ data, final.system.phase .worker = .asleep (.append data) →
      final.system.shared.stopped = false ∧
        maxBufferedBytes < final.system.shared.buffer.length + min maxAppendChunk data.length := by
    intro data asleep
    have unmet := attended.unmet quiet asleep
    simpa [monitor, BlockingTsInput.guard] using unmet
  have dry : ∀ size, final.system.phase .reader = .asleep (.read size) →
      final.system.shared.stopped = false ∧ final.system.shared.buffer = [] := by
    intro size asleep
    have unmet := attended.unmet quiet asleep
    simpa [monitor, BlockingTsInput.guard] using unmet
  refine ⟨full, dry, ?_⟩
  rintro ⟨worker, reader⟩
  obtain ⟨held, worker⟩ := Phase.isAsleep_iff.mp worker
  obtain ⟨asked, reader⟩ := Phase.isAsleep_iff.mp reader
  have workerUnmet := attended.unmet quiet worker
  have readerCalls : LiveThread.may .reader asked = true := attended.allowed .reader asked (by rw [reader]; rfl)
  cases held with
  | append data =>
    cases asked with
    | read size =>
      have none_buffered := (dry size reader).2
      have spent := (full data worker).2
      rw [none_buffered] at spent
      have chunk : min maxAppendChunk data.length ≤ maxAppendChunk := Nat.min_le_left ..
      have fits : maxAppendChunk ≤ maxBufferedBytes := by decide
      simp only [List.length_nil] at spent
      omega
    | append data => exact absurd readerCalls (by simp [LiveThread.may])
    | stop => exact absurd readerCalls (by simp [LiveThread.may])
  | read size =>
    have workerCalls : LiveThread.may .worker (.read size) = true := attended.allowed .worker _ (by rw [worker]; rfl)
    exact absurd workerCalls (by simp [LiveThread.may])
  | stop => exact absurd workerUnmet (by simp [monitor, BlockingTsInput.guard])

theorem live_input_sleeps_readFirst :
    ∃ final, Runs.run step {} (readFirst.take 2) = some final ∧ final.system.phase .reader = .asleep (.read 2) ∧
      final.system.shared.buffer = [] := by
  refine ⟨(Runs.run step {} (readFirst.take 2)).get rfl, rfl, rfl, ?_⟩
  refine ((@live_input_sleeps (readFirst.take 2) _ rfl ?_).2.1 2 rfl).2
  intro thread
  cases thread <;> rfl

end LiveInput

end WhRepeater
