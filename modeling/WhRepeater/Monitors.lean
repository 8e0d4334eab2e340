import Mathlib.Data.Fintype.Defs
import Mathlib.Logic.Function.Basic
import WhRepeater.Runs

/-! Monitors: shared data behind a mutex, and threads that wait on its one
condition variable until the data meet what their operation asks. The region
that holds the mutex is one step, and the notification that follows it another,
so that threads may come between the two. A wait may end for no reason. -/
namespace Monitors

inductive Signal where
  | one
  | all
  deriving Repr, DecidableEq

/-- What a region did: the data it leaves, whom it notifies once the mutex is
free, and what its thread goes on with. -/
structure Outcome (Shared Op : Type*) where
  shared : Shared
  signal : Option Signal := none
  next : Option Op := none

/-- `guard` is what an operation waits for, and `act` what it then does. -/
structure Monitor (Shared Op : Type*) where
  guard : Shared → Op → Bool
  act : Shared → Op → Outcome Shared Op

inductive Phase (Op : Type*) where
  | outside
  | entering (op : Op)
  | asleep (op : Op)
  | signalling (signal : Signal) (next : Option Op)
  deriving Repr, DecidableEq

namespace Phase

variable {Op : Type*}

def resume (next : Option Op) : Phase Op := next.elim .outside .entering

def isAsleep : Phase Op → Bool
  | .asleep _ => true
  | _ => false

def isSignalling : Phase Op → Bool
  | .signalling _ _ => true
  | _ => false

def woken : Phase Op → Phase Op
  | .asleep op => .entering op
  | phase => phase

/-- The operation a thread is in, or goes on with. -/
def operation : Phase Op → Option Op
  | .outside => none
  | .entering op => some op
  | .asleep op => some op
  | .signalling _ next => next

@[simp] theorem operation_resume (next : Option Op) : (resume next).operation = next := by
  cases next <;> rfl

@[simp] theorem operation_woken (phase : Phase Op) : phase.woken.operation = phase.operation := by
  cases phase <;> rfl

theorem resume_ne_asleep {next : Option Op} {op : Op} : resume next ≠ .asleep op := by
  cases next <;> simp [resume]

theorem woken_ne_asleep {phase : Phase Op} {op : Op} : phase.woken ≠ .asleep op := by
  cases phase <;> simp [woken]

theorem woken_of_awake {phase : Phase Op} (awake : phase.isAsleep = false) : phase.woken = phase := by
  cases phase with
  | asleep op => exact absurd awake (by simp [isAsleep])
  | outside => rfl
  | entering op => rfl
  | signalling signal next => rfl

theorem isAsleep_iff {phase : Phase Op} : phase.isAsleep = true ↔ ∃ op, phase = .asleep op := by
  cases phase <;> simp [isAsleep]

end Phase

namespace Outcome

variable {Shared Op : Type*}

/-- Where the thread of the region is once the mutex is free. -/
def phase (outcome : Outcome Shared Op) : Phase Op :=
  match outcome.signal with
  | none => .resume outcome.next
  | some signal => .signalling signal outcome.next

@[simp] theorem operation_phase (outcome : Outcome Shared Op) : outcome.phase.operation = outcome.next := by
  obtain ⟨shared, signal, next⟩ := outcome
  cases signal with
  | none => exact Phase.operation_resume next
  | some signal => rfl

theorem phase_ne_asleep {outcome : Outcome Shared Op} {op : Op} : outcome.phase ≠ .asleep op := by
  obtain ⟨shared, signal, next⟩ := outcome
  cases signal with
  | none => exact Phase.resume_ne_asleep
  | some signal => simp [phase]

end Outcome

structure System (Thread Shared Op : Type*) where
  shared : Shared
  phase : Thread → Phase Op := fun _ => .outside

/-- `wake` is a wait that ends for no reason. A notification of one thread
names the thread that it wakes, when there is one to wake. -/
inductive Event (Thread Op : Type*) where
  | call (thread : Thread) (op : Op)
  | enter (thread : Thread)
  | wake (thread : Thread)
  | notify (thread : Thread) (woken : Option Thread)
  deriving Repr, DecidableEq

variable {Thread Shared Op : Type*} [DecidableEq Thread]

namespace System

/-- One thread moves, and the others stay where they are. -/
def move (system : System Thread Shared Op) (thread : Thread) (phase : Phase Op) : System Thread Shared Op :=
  { system with phase := Function.update system.phase thread phase }

def enter (monitor : Monitor Shared Op) (system : System Thread Shared Op) (thread : Thread) (op : Op) :
    System Thread Shared Op :=
  if monitor.guard system.shared op then
    { system.move thread (monitor.act system.shared op).phase with shared := (monitor.act system.shared op).shared }
  else system.move thread (.asleep op)

def wakeAll (system : System Thread Shared Op) : System Thread Shared Op :=
  { system with phase := fun thread => (system.phase thread).woken }

def wakeOne [Fintype Thread] (system : System Thread Shared Op) : Option Thread → Option (System Thread Shared Op)
  | none => if ∀ thread, (system.phase thread).isAsleep = false then some system else none
  | some sleeper =>
    if (system.phase sleeper).isAsleep then some (system.move sleeper (system.phase sleeper).woken) else none

def notify [Fintype Thread] (system : System Thread Shared Op) (woken : Option Thread) :
    Signal → Option (System Thread Shared Op)
  | .one => system.wakeOne woken
  | .all => if woken = none then some system.wakeAll else none

def step [Fintype Thread] (monitor : Monitor Shared Op) (system : System Thread Shared Op) :
    Event Thread Op → Option (System Thread Shared Op)
  | .call thread op =>
    match system.phase thread with
    | .outside => some (system.move thread (.entering op))
    | _ => none
  | .enter thread =>
    match system.phase thread with
    | .entering op => some (system.enter monitor thread op)
    | _ => none
  | .wake thread =>
    match system.phase thread with
    | .asleep op => some (system.move thread (.entering op))
    | _ => none
  | .notify thread woken =>
    match system.phase thread with
    | .signalling signal next => (system.notify woken signal).map fun told => told.move thread (.resume next)
    | _ => none

variable {monitor : Monitor Shared Op} {may : Thread → Op → Prop} {before after : System Thread Shared Op}

@[simp] theorem move_shared (system : System Thread Shared Op) (thread : Thread) (phase : Phase Op) :
    (system.move thread phase).shared = system.shared := rfl

@[simp] theorem move_self (system : System Thread Shared Op) (thread : Thread) (phase : Phase Op) :
    (system.move thread phase).phase thread = phase := Function.update_self ..

theorem move_other {system : System Thread Shared Op} {thread other : Thread} {phase : Phase Op} (apart : other ≠ thread) :
    (system.move thread phase).phase other = system.phase other := Function.update_of_ne apart ..

/-- What a step can do, when threads call only what they may. -/
inductive Moved (monitor : Monitor Shared Op) (may : Thread → Op → Prop) (before : System Thread Shared Op) :
    System Thread Shared Op → Prop where
  | called {thread op} (outside : before.phase thread = .outside) (allowed : may thread op) :
      Moved monitor may before (before.move thread (.entering op))
  | acted {thread op} (entering : before.phase thread = .entering op) (met : monitor.guard before.shared op = true) :
      Moved monitor may before
        { before.move thread (monitor.act before.shared op).phase with shared := (monitor.act before.shared op).shared }
  | slept {thread op} (entering : before.phase thread = .entering op) (unmet : monitor.guard before.shared op = false) :
      Moved monitor may before (before.move thread (.asleep op))
  | woke {thread op} (asleep : before.phase thread = .asleep op) :
      Moved monitor may before (before.move thread (.entering op))
  | toldAll {thread next} (signalling : before.phase thread = .signalling .all next) :
      Moved monitor may before (before.wakeAll.move thread (.resume next))
  | toldOne {thread next sleeper op} (signalling : before.phase thread = .signalling .one next)
      (asleep : before.phase sleeper = .asleep op) :
      Moved monitor may before ((before.move sleeper (.entering op)).move thread (.resume next))
  | toldNone {thread next} (signalling : before.phase thread = .signalling .one next)
      (awake : ∀ other, (before.phase other).isAsleep = false) :
      Moved monitor may before (before.move thread (.resume next))

theorem step_call [Fintype Thread] {thread : Thread} {op : Op} : before.step monitor (.call thread op) = some after ↔
    before.phase thread = .outside ∧ before.move thread (.entering op) = after := by
  cases phase : before.phase thread <;> simp [step, phase]

theorem step_moved [Fintype Thread] {event : Event Thread Op} (allowed : ∀ thread op, event = .call thread op → may thread op)
    (stepped : before.step monitor event = some after) : Moved monitor may before after := by
  cases event with
  | call thread op =>
    cases phase : before.phase thread <;> simp only [step, phase, reduceCtorEq, Option.some.injEq] at stepped
    subst stepped
    exact .called phase (allowed thread op rfl)
  | enter thread =>
    cases phase : before.phase thread <;> simp only [step, phase, reduceCtorEq, Option.some.injEq] at stepped
    subst stepped
    unfold enter
    split
    case isTrue met => exact .acted phase met
    case isFalse unmet => exact .slept phase (by simpa using unmet)
  | wake thread =>
    cases phase : before.phase thread <;> simp only [step, phase, reduceCtorEq, Option.some.injEq] at stepped
    subst stepped
    exact .woke phase
  | notify thread woken =>
    cases phase : before.phase thread <;>
      simp only [step, phase, reduceCtorEq, Option.map_eq_some_iff] at stepped
    rename_i signal next
    obtain ⟨told, notified, rfl⟩ := stepped
    cases signal with
    | all =>
      simp only [notify, Option.ite_none_right_eq_some, Option.some.injEq] at notified
      obtain ⟨-, rfl⟩ := notified
      exact .toldAll phase
    | one =>
      cases woken with
      | none =>
        simp only [notify, wakeOne, Option.ite_none_right_eq_some, Option.some.injEq] at notified
        obtain ⟨awake, rfl⟩ := notified
        exact .toldNone phase awake
      | some sleeper =>
        simp only [notify, wakeOne, Option.ite_none_right_eq_some, Option.some.injEq] at notified
        obtain ⟨asleep, rfl⟩ := notified
        obtain ⟨op, asleep⟩ := Phase.isAsleep_iff.mp asleep
        rw [asleep]
        exact .toldOne phase asleep

/-- The data change only as an operation whose guard is met changes them. -/
theorem Moved.shared (moved : Moved monitor may before after) :
    after.shared = before.shared ∨
      ∃ thread op, before.phase thread = .entering op ∧ monitor.guard before.shared op = true ∧
        after.shared = (monitor.act before.shared op).shared := by
  cases moved with
  | acted entering met => exact .inr ⟨_, _, entering, met, rfl⟩
  | called | slept | woke | toldAll | toldOne | toldNone => exact .inl rfl

end System

/-! ## No wake-up is lost -/

/-- The thread has an operation that may have to wait. -/
def Waits (monitor : Monitor Shared Op) (may : Thread → Op → Prop) (thread : Thread) : Prop :=
  ∃ shared op, may thread op ∧ monitor.guard shared op = false

/-- Nobody but these two threads ever waits. -/
def Lone (monitor : Monitor Shared Op) (may : Thread → Op → Prop) (thread sleeper : Thread) : Prop :=
  ∀ other, other ≠ thread → Waits monitor may other → other = sleeper

/-- An operation that may end the wait of another thread notifies all threads,
or one when there is only one it could be. -/
structure Tells (monitor : Monitor Shared Op) (may : Thread → Op → Prop) : Prop where
  goesOn : ∀ thread shared op next, may thread op → (monitor.act shared op).next = some next → may thread next
  tells : ∀ thread shared op, may thread op → monitor.guard shared op = true → ∀ other held, may other held →
    other ≠ thread → monitor.guard shared held = false →
    monitor.guard (monitor.act shared op).shared held = true →
    (monitor.act shared op).signal = some .all ∨
      (monitor.act shared op).signal = some .one ∧ Lone monitor may thread other

/-- A thread on the point of a notification that reaches the sleeper. -/
def Hears (monitor : Monitor Shared Op) (may : Thread → Op → Prop) (system : System Thread Shared Op)
    (sleeper : Thread) : Prop :=
  ∃ thread next, system.phase thread = .signalling .all next ∨
    system.phase thread = .signalling .one next ∧ Lone monitor may thread sleeper

structure Attended (monitor : Monitor Shared Op) (may : Thread → Op → Prop) (system : System Thread Shared Op) : Prop where
  allowed : ∀ thread op, (system.phase thread).operation = some op → may thread op
  waits : ∀ thread op, system.phase thread = .asleep op → Waits monitor may thread
  heard : ∀ thread op, system.phase thread = .asleep op → monitor.guard system.shared op = true →
    Hears monitor may system thread

variable {monitor : Monitor Shared Op} {may : Thread → Op → Prop} {before after system : System Thread Shared Op}

omit [DecidableEq Thread] in
theorem Hears.mono {sleeper : Thread} (hears : Hears monitor may before sleeper)
    (kept : ∀ thread signal next, before.phase thread = .signalling signal next → after.phase thread = before.phase thread) :
    Hears monitor may after sleeper := by
  obtain ⟨thread, next, all | ⟨one, lone⟩⟩ := hears
  · exact ⟨thread, next, .inl ((kept thread _ next all).trans all)⟩
  · exact ⟨thread, next, .inr ⟨(kept thread _ next one).trans one, lone⟩⟩

omit [DecidableEq Thread] in
theorem attended_start (shared : Shared) : Attended monitor may ({ shared } : System Thread Shared Op) := by
  refine ⟨?_, ?_, ?_⟩
  · intro thread op within
    exact absurd within (by simp [Phase.operation])
  · intro thread op asleep
    exact absurd asleep (by simp)
  · intro thread op asleep
    exact absurd asleep (by simp)

/-- A thread that was not on the point of a notification moves, and the data stay. -/
theorem Attended.move {thread : Thread} {phase : Phase Op} (attended : Attended monitor may before)
    (quiet : ∀ signal next, before.phase thread ≠ .signalling signal next)
    (allowed : ∀ op, phase.operation = some op → may thread op)
    (unmet : ∀ op, phase = .asleep op → monitor.guard before.shared op = false) :
    Attended monitor may (before.move thread phase) := by
  refine ⟨?_, ?_, ?_⟩
  · intro other op within
    by_cases same : other = thread
    · subst same
      exact allowed op (by simpa using within)
    · rw [System.move_other same] at within
      exact attended.allowed other op within
  · intro other op asleep
    by_cases same : other = thread
    · subst same
      rw [System.move_self] at asleep
      exact ⟨before.shared, op, allowed op (by rw [asleep]; rfl), unmet op asleep⟩
    · rw [System.move_other same] at asleep
      exact attended.waits other op asleep
  · intro other op asleep met
    by_cases same : other = thread
    · subst same
      rw [System.move_self] at asleep
      rw [System.move_shared, unmet op asleep] at met
      exact absurd met (by simp)
    · rw [System.move_other same] at asleep
      refine (attended.heard other op asleep met).mono fun signaller signal next signalling => ?_
      refine System.move_other ?_
      rintro rfl
      exact quiet signal next signalling

/-- A step keeps every sleeper attended to: whoever ends its wait is on the
point of notifying it. -/
theorem attended_of_moved (tells : Tells monitor may) (attended : Attended monitor may before)
    (moved : System.Moved monitor may before after) : Attended monitor may after := by
  cases moved with
  | @called thread op outside allowed =>
    refine attended.move (by simp [outside]) ?_ (by simp)
    intro held within
    cases within
    exact allowed
  | @slept thread op entering unmet =>
    refine attended.move (by simp [entering]) ?_ ?_
    · intro held within
      exact attended.allowed thread held (by rw [entering]; exact within)
    · intro held asleep
      cases asleep
      exact unmet
  | @woke thread op asleep =>
    refine attended.move (by simp [asleep]) ?_ (by simp)
    intro held within
    exact attended.allowed thread held (by rw [asleep]; exact within)
  | @acted thread op entering met =>
    have may_op : may thread op := attended.allowed thread op (by rw [entering]; rfl)
    refine ⟨?_, ?_, ?_⟩
    · intro other held within
      by_cases same : other = thread
      · subst same
        simp only [System.move_self, Outcome.operation_phase] at within
        exact tells.goesOn other before.shared op held may_op within
      · simp only [System.move_other same] at within
        exact attended.allowed other held within
    · intro other held asleep
      by_cases same : other = thread
      · subst same
        simp only [System.move_self] at asleep
        exact absurd asleep Outcome.phase_ne_asleep
      · simp only [System.move_other same] at asleep
        exact attended.waits other held asleep
    · intro other held asleep ends
      by_cases same : other = thread
      · subst same
        simp only [System.move_self] at asleep
        exact absurd asleep Outcome.phase_ne_asleep
      · simp only [System.move_other same] at asleep
        by_cases waited : monitor.guard before.shared held = true
        · refine (attended.heard other held asleep waited).mono fun signaller signal next signalling => ?_
          refine System.move_other ?_
          rintro rfl
          exact absurd (signalling.symm.trans entering) (by simp)
        · have told := tells.tells thread before.shared op may_op met other held
            (attended.allowed other held (by rw [asleep]; rfl)) same (by simpa using waited) ends
          refine ⟨thread, (monitor.act before.shared op).next, told.imp ?_ ?_⟩
          · intro all
            simp [Outcome.phase, all]
          · rintro ⟨one, lone⟩
            exact ⟨by simp [Outcome.phase, one], lone⟩
  | @toldAll thread next signalling =>
    have asleep_elsewhere : ∀ other op, (before.wakeAll.move thread (.resume next)).phase other ≠ .asleep op := by
      intro other op
      by_cases same : other = thread
      · subst same
        rw [System.move_self]
        exact Phase.resume_ne_asleep
      · rw [System.move_other same]
        exact Phase.woken_ne_asleep
    refine ⟨?_, fun other op asleep => absurd asleep (asleep_elsewhere other op),
      fun other op asleep => absurd asleep (asleep_elsewhere other op)⟩
    intro other op within
    by_cases same : other = thread
    · subst same
      rw [System.move_self, Phase.operation_resume] at within
      exact attended.allowed other op (by rw [signalling]; exact within)
    · rw [System.move_other same] at within
      exact attended.allowed other op (by simpa [System.wakeAll] using within)
  | @toldOne thread next sleeper op signalling asleep =>
    have apart : sleeper ≠ thread := by
      rintro rfl
      exact absurd (asleep.symm.trans signalling) (by simp)
    have elsewhere : ∀ other held,
        ((before.move sleeper (.entering op)).move thread (.resume next)).phase other = .asleep held →
          other ≠ thread ∧ other ≠ sleeper ∧ before.phase other = .asleep held := by
      intro other held sleeping
      by_cases same : other = thread
      · subst same
        rw [System.move_self] at sleeping
        exact absurd sleeping Phase.resume_ne_asleep
      · rw [System.move_other same] at sleeping
        by_cases woken : other = sleeper
        · subst woken
          rw [System.move_self] at sleeping
          exact absurd sleeping (by simp)
        · rw [System.move_other woken] at sleeping
          exact ⟨same, woken, sleeping⟩
    refine ⟨?_, ?_, ?_⟩
    · intro other held within
      by_cases same : other = thread
      · subst same
        rw [System.move_self, Phase.operation_resume] at within
        exact attended.allowed other held (by rw [signalling]; exact within)
      · rw [System.move_other same] at within
        by_cases woken : other = sleeper
        · subst woken
          rw [System.move_self] at within
          exact attended.allowed other held (by rw [asleep]; exact within)
        · rw [System.move_other woken] at within
          exact attended.allowed other held within
    · intro other held sleeping
      exact attended.waits other held (elsewhere other held sleeping).2.2
    · intro other held sleeping met
      obtain ⟨-, woken, slept⟩ := elsewhere other held sleeping
      obtain ⟨signaller, after, heard⟩ := attended.heard other held slept met
      have other_signaller : signaller ≠ thread := by
        rintro rfl
        obtain all | ⟨one, lone⟩ := heard
        · exact absurd (all.symm.trans signalling) (by simp)
        · exact woken (lone sleeper apart (attended.waits sleeper op asleep)).symm
      have other_sleeper : signaller ≠ sleeper := by
        rintro rfl
        obtain all | ⟨one, -⟩ := heard
        · exact absurd (all.symm.trans asleep) (by simp)
        · exact absurd (one.symm.trans asleep) (by simp)
      refine ⟨signaller, after, ?_⟩
      rw [System.move_other other_signaller, System.move_other other_sleeper]
      exact heard
  | @toldNone thread next signalling awake =>
    have elsewhere : ∀ other held, (before.move thread (.resume next)).phase other ≠ .asleep held := by
      intro other held
      by_cases same : other = thread
      · subst same
        rw [System.move_self]
        exact Phase.resume_ne_asleep
      · rw [System.move_other same]
        intro sleeping
        exact absurd (awake other) (by simp [sleeping, Phase.isAsleep])
    refine ⟨?_, fun other held sleeping => absurd sleeping (elsewhere other held),
      fun other held sleeping => absurd sleeping (elsewhere other held)⟩
    intro other held within
    by_cases same : other = thread
    · subst same
      rw [System.move_self, Phase.operation_resume] at within
      exact attended.allowed other held (by rw [signalling]; exact within)
    · rw [System.move_other same] at within
      exact attended.allowed other held within

/-- No thread is between the end of its region and the notification it owes. -/
def Quiet (system : System Thread Shared Op) : Prop :=
  ∀ thread, (system.phase thread).isSignalling = false

omit [DecidableEq Thread] in
/-- With no notification under way, a sleeper waits for what is not so yet. -/
theorem Attended.unmet {thread : Thread} {op : Op} (attended : Attended monitor may system) (quiet : Quiet system)
    (asleep : system.phase thread = .asleep op) : monitor.guard system.shared op = false := by
  cases met : monitor.guard system.shared op with
  | false => rfl
  | true =>
    obtain ⟨signaller, next, all | ⟨one, -⟩⟩ := attended.heard thread op asleep met
    · exact absurd (quiet signaller) (by simp [all, Phase.isSignalling])
    · exact absurd (quiet signaller) (by simp [one, Phase.isSignalling])

end Monitors
