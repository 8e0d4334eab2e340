import WhRepeater.Runs
import WhRepeater.ScanScheduler

/-! What a fresh transport is evidence of. A locked receiver is reported as locked
only while valid packets of the present tuning keep arriving: packets counted
before the tune are in its baseline. -/
namespace WhRepeater

open Runs

def baselineValidPacketWatch (watch : ValidPacketWatch) (validPackets : UInt64) (now : Time) (preserveSuppression : Bool) :
    ValidPacketWatch :=
  { validPackets
    lastProgress := now
    suppressUntil := if preserveSuppression then watch.suppressUntil else 0
    seen := true
    hasProgress := false }

/-- What was observed of a receiver: a tune, or an evaluation, with whether it saw
the count differ from the one recorded before. -/
inductive Sighting where
  | tuned (time : Time)
  | evaluated (time : Time) (changed fresh : Bool)
  deriving Repr, DecidableEq

namespace Sighting

def isTune : Sighting → Bool
  | .tuned _ => true
  | .evaluated .. => false

def sawChange : Sighting → Bool
  | .tuned _ => false
  | .evaluated _ changed _ => changed

/-- The observations since the last tune. The latest comes first. -/
def sinceTune (history : List Sighting) : List Sighting := history.takeWhile (·.isTune = false)

end Sighting

inductive FreshnessEvent where
  | tune (now : Time)
  | arrive
  | evaluate (now : Time)

/-- The watch and the counter of a receiver and the steady clock, which starts at
boot; then the count that was seen last, and what was observed. -/
structure FreshnessRun where
  watch : ValidPacketWatch := {}
  validPackets : UInt64 := 0
  clock : Time := 0
  recorded : Option UInt64 := none
  history : List Sighting := []

namespace FreshnessRun

open Sighting

/-- The count differs from the one recorded before. -/
def seesChange (run : FreshnessRun) : Bool := run.recorded.any (· ≠ run.validPackets)

def step (run : FreshnessRun) : FreshnessEvent → Option FreshnessRun
  | .tune now =>
    if now < run.clock then none
    else
      some { run with
        watch := baselineValidPacketWatch run.watch run.validPackets now true
        clock := now
        recorded := some run.validPackets
        history := .tuned now :: run.history }
  | .arrive => some { run with validPackets := run.validPackets + 1 }
  | .evaluate now =>
    if now < run.clock then none
    else
      let (fresh, watch) := validTransportFresh run.watch run.validPackets now
      some { run with
        watch
        clock := now
        recorded := some run.validPackets
        history := .evaluated now run.seesChange fresh :: run.history }

/-- An evaluation was not fresh, and no change was seen since. -/
def Quiet (history : List Sighting) : Prop :=
  ∃ recent older time seen, history = recent ++ .evaluated time seen false :: older ∧
    ∀ sighting ∈ recent, sighting.sawChange = false

/-- What is asked of an evaluation: it is fresh only on a change that was seen
since the last tune, not too long ago, and not fresh after one that was not,
unless a change is seen. -/
structure Evidenced (history : List Sighting) (now : Time) (changed fresh : Bool) : Prop where
  progress : fresh = true → ∃ time seen,
    .evaluated time true seen ∈ sinceTune (.evaluated now changed fresh :: history) ∧
      now - time ≤ validTransportTimeout + staleTransportLockGrace
  quiet : Quiet history → changed = false → fresh = false

variable {run next : FreshnessRun} {now : Time} {fresh : Bool} {after watch : ValidPacketWatch} {validPackets : UInt64}

/-! ## The evaluation -/

/-- A change is fresh, and is progress. -/
theorem fresh_of_change (seen : watch.seen = true) (changed : validPackets ≠ watch.validPackets) :
    validTransportFresh watch validPackets now = (true, { watch with
      validPackets
      lastProgress := now
      suppressUntil := 0
      hasProgress := true }) := by
  rw [validTransportFresh, if_neg (by simp [seen]), if_pos changed]

/-- Without a change an evaluation is fresh on recent progress only, which it
keeps; otherwise there is none from then on. -/
theorem fresh_of_same (unseen : watch.hasProgress = true → watch.seen = true)
    (unsuppressed : watch.hasProgress = true → watch.suppressUntil ≤ now) (same : watch.seen = true → validPackets = watch.validPackets)
    (evaluated : validTransportFresh watch validPackets now = (fresh, after)) :
    after.seen = true ∧ after.validPackets = validPackets ∧
      (fresh = true → after = watch ∧ watch.hasProgress = true ∧
        now - watch.lastProgress ≤ validTransportTimeout + staleTransportLockGrace) ∧
      (fresh = false → after.hasProgress = false) := by
  unfold validTransportFresh at evaluated
  cases seen : watch.seen with
  | false =>
    rw [if_pos seen] at evaluated
    obtain ⟨rfl, rfl⟩ := Prod.mk.inj evaluated
    exact ⟨rfl, rfl, by simp, fun _ => by simpa [seen] using unseen⟩
  | true =>
    obtain rfl := same seen
    rw [if_neg (by simp [seen]), if_neg (by simp)] at evaluated
    cases progress : watch.hasProgress with
    | false =>
      rw [if_pos progress] at evaluated
      obtain ⟨rfl, rfl⟩ := Prod.mk.inj evaluated
      split_ifs <;> simp [seen, progress]
    | true =>
      rw [if_neg (by simp [progress]), if_neg (Int.not_lt.mpr (unsuppressed progress))] at evaluated
      split_ifs at evaluated with stale grace <;> obtain ⟨rfl, rfl⟩ := Prod.mk.inj evaluated
      · exact ⟨seen, rfl, fun _ => ⟨rfl, rfl, grace⟩, by simp⟩
      · simp [seen]
      · exact ⟨seen, rfl, fun _ => ⟨rfl, rfl, (Int.not_lt.mp stale).trans (by decide)⟩, by simp⟩

/-! ## The run -/

theorem quiet_cons {sighting : Sighting} {history : List Sighting} : Quiet (sighting :: history) ↔
    (∃ time seen, sighting = .evaluated time seen false) ∨ (sighting.sawChange = false ∧ Quiet history) := by
  constructor
  · rintro ⟨recent, older, time, seen, split, unchanged⟩
    cases recent with
    | nil => exact .inl ⟨time, seen, (List.cons.inj split).1⟩
    | cons first rest =>
      obtain ⟨rfl, onward⟩ := List.cons.inj split
      exact .inr ⟨unchanged sighting (List.mem_cons_self ..), rest, older, time, seen, onward,
        fun other member => unchanged other (List.mem_cons_of_mem _ member)⟩
  · rintro (⟨time, seen, rfl⟩ | ⟨same, recent, older, time, seen, rfl, unchanged⟩)
    · exact ⟨[], history, time, seen, rfl, by simp⟩
    · exact ⟨sighting :: recent, older, time, seen, rfl, by simpa [same] using unchanged⟩

/-- The watch stands as the observations left it. -/
structure Watched (run : FreshnessRun) : Prop where
  booted : 0 ≤ run.clock
  recorded : run.recorded = if run.watch.seen then some run.watch.validPackets else none
  unseen : run.watch.hasProgress = true → run.watch.seen = true
  unsuppressed : run.watch.hasProgress = true → run.watch.suppressUntil = 0
  progress : run.watch.hasProgress = true → ∃ seen, .evaluated run.watch.lastProgress true seen ∈ sinceTune run.history
  quiet : Quiet run.history → run.watch.hasProgress = false

theorem watched_start : Watched {} := by
  refine ⟨le_rfl, rfl, fun has => absurd has (by decide), fun has => absurd has (by decide), fun has => absurd has (by decide), ?_⟩
  exact fun _ => rfl

theorem tune_watched (watched : Watched run) (stepped : run.step (.tune now) = some next) : Watched next := by
  unfold step at stepped
  dsimp only at stepped
  split_ifs at stepped with early
  obtain rfl := Option.some.inj stepped
  exact ⟨watched.booted.trans (Int.not_lt.mp early), rfl, fun _ => rfl, fun has => absurd has (by simp [baselineValidPacketWatch]),
    fun has => absurd has (by simp [baselineValidPacketWatch]), fun _ => rfl⟩

theorem evaluate_spec (watched : Watched run) (stepped : run.step (.evaluate now) = some next) :
    Watched next ∧ Evidenced run.history now run.seesChange (validTransportFresh run.watch run.validPackets now).1 := by
  obtain ⟨booted, recorded, unseen, unsuppressed, progress, quiet⟩ := watched
  unfold step at stepped
  dsimp only at stepped
  split_ifs at stepped with early
  obtain rfl := Option.some.inj stepped
  have later : 0 ≤ now := booted.trans (Int.not_lt.mp early)
  by_cases changes : run.watch.seen = true ∧ run.validPackets ≠ run.watch.validPackets
  · obtain ⟨seen, changed⟩ := changes
    have saw : run.seesChange = true := by simp [seesChange, recorded, seen, Ne.symm changed]
    rw [fresh_of_change seen changed, saw]
    refine ⟨⟨later, by simp [seen], fun _ => seen, fun _ => rfl, fun _ => ⟨true, by simp [sinceTune, isTune]⟩, ?_⟩,
      fun _ => ⟨now, true, by simp [sinceTune, isTune], by rw [Int.sub_self]; decide⟩, by simp⟩
    intro since
    simp [quiet_cons, sawChange] at since
  · have same : run.watch.seen = true → run.validPackets = run.watch.validPackets := fun seen => by
      by_contra changed
      exact changes ⟨seen, changed⟩
    have saw : run.seesChange = false := by
      cases seen : run.watch.seen <;> simp [seesChange, recorded, seen, same]
    rw [saw]
    generalize evaluated_ : validTransportFresh run.watch run.validPackets now = result
    obtain ⟨fresh, after⟩ := result
    have unsuppressedNow : run.watch.hasProgress = true → run.watch.suppressUntil ≤ now := fun has => by
      rw [unsuppressed has]
      exact later
    obtain ⟨seen, counted, kept, lost⟩ := fresh_of_same unseen unsuppressedNow same evaluated_
    cases fresh with
    | false =>
      have none := lost rfl
      refine ⟨⟨later, by simp [seen, counted], fun _ => seen, fun has => absurd has (by simp [none]),
        fun has => absurd has (by simp [none]), fun _ => none⟩, by simp, fun _ _ => rfl⟩
    | true =>
      obtain ⟨rfl, has, recent⟩ := kept rfl
      obtain ⟨at_, found⟩ := progress has
      have stands : .evaluated run.watch.lastProgress true at_ ∈ sinceTune (.evaluated now false true :: run.history) := by
        simpa [sinceTune, isTune] using found
      have loud : ¬ Quiet run.history := fun since => by simp [has] at quiet; exact quiet since
      refine ⟨⟨later, by simp [seen, counted], unseen, unsuppressed, fun _ => ⟨at_, stands⟩, fun since => ?_⟩,
        fun _ => ⟨_, at_, stands, recent⟩, fun since => absurd since loud⟩
      simp [quiet_cons, loud] at since

theorem step_watched {event : FreshnessEvent} (watched : Watched run) (stepped : run.step event = some next) : Watched next := by
  cases event with
  | tune now => exact tune_watched watched stepped
  | evaluate now => exact (evaluate_spec watched stepped).1
  | arrive =>
    obtain rfl := Option.some.inj stepped
    exact ⟨watched.booted, watched.recorded, watched.unseen, watched.unsuppressed, watched.progress, watched.quiet⟩

end FreshnessRun

/-! ## The tuner -/

namespace Tuner

variable {tuner : Tuner} {target : ScanTarget} {tuning : Tuning} {reading : Reading} {now : Time}

theorem tune_watch : (tuner.tune target tuning).watch =
    baselineValidPacketWatch tuner.watch tuning.validPackets tuning.time true := rfl

/-- A poll evaluates the watch once or not at all, and a receiver whose module is
there is locked after it only if that was fresh. -/
theorem poll_evaluates : ((tuner.poll reading now).watch = tuner.watch ∨
      (tuner.poll reading now).watch = (validTransportFresh tuner.watch reading.validPackets now).2) ∧
    (tuner.status.target.isSome = true → isLocked (tuner.poll reading now).status.state = true →
      (tuner.poll reading now).watch = (validTransportFresh tuner.watch reading.validPackets now).2 ∧
        (validTransportFresh tuner.watch reading.validPackets now).1 = true) := by
  unfold poll
  dsimp only
  split_ifs with untargeted missing locked fresh <;> simp_all [isLocked]

end Tuner

/-- Whatever the order of tunes, arrivals and evaluations, no evaluation is fresh
without its evidence. -/
theorem transport_fresh_on_evidence (events : List FreshnessEvent) :
    Throughout FreshnessRun.step
      (fun before event _ => ∀ now, event = .evaluate now → FreshnessRun.Evidenced before.history now before.seesChange
        (validTransportFresh before.watch before.validPackets now).1) {} events := by
  refine throughout_of_invariant FreshnessRun.Watched (fun run event next watched stepped => ?_) FreshnessRun.watched_start
  refine ⟨FreshnessRun.step_watched watched stepped, ?_⟩
  rintro now rfl
  exact (FreshnessRun.evaluate_spec watched stepped).2

end WhRepeater
