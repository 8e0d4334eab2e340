import Mathlib.Logic.Function.Basic
import WhRepeater.SignalArbitrator

/-! The tuners (`nim_controller.cpp`, the Serit controller) and the scanner that
drives them (`scan_scheduler.cpp`). What the registers and counters of a tuner
say at a poll is an input, as is whether a tuning succeeds; an I2C error at a
poll ends the daemon. -/
namespace WhRepeater

structure ValidPacketWatch where
  validPackets : UInt64 := 0
  lastProgress : Time := 0
  suppressUntil : Time := 0
  seen : Bool := false
  hasProgress : Bool := false
  deriving Repr, DecidableEq

/-- What the tuner of one receiver says at a poll; the errors are the sum of its
five error counters. -/
structure Reading where
  headerMode : UInt8 := 0
  mer : Option DoubleBits := none
  validPackets : UInt64 := 0
  transportPackets : UInt64 := 0
  errors : UInt64 := 0
  deriving Repr, DecidableEq

/-- How a tuning goes: when, at which packet counter, and whether the tuner
takes it. -/
structure Tuning where
  time : Time := 0
  validPackets : UInt64 := 0
  taken : Bool := true
  deriving Repr, DecidableEq

/-- The status and the packet watch of one receiver, and whether its module is
there. -/
structure Tuner where
  status : ReceiverStatus
  watch : ValidPacketWatch := {}
  nimPresent : Bool := true
  deriving Repr, DecidableEq

def validTransportTimeout : Duration := milliseconds 1500

def staleTransportLockGrace : Duration := milliseconds 7500

def falseLockSuppressDuration : Duration := milliseconds 5000

def stateFromHeaderMode (headerMode : UInt8) : ReceiverState :=
  match (headerMode >>> 5) &&& 0x03 with
  | 1 => .foundHeader
  | 2 => .lockedDvbs2
  | 3 => .lockedDvbs
  | _ => .searching

def validTransportFresh (watch : ValidPacketWatch) (validPackets : UInt64) (now : Time) : Bool × ValidPacketWatch :=
  if watch.seen = false then (false, { watch with seen := true, validPackets, lastProgress := now })
  else if validPackets ≠ watch.validPackets then
    (true, { watch with validPackets, lastProgress := now, suppressUntil := 0, hasProgress := true })
  else if watch.hasProgress = false then
    (false, if now - watch.lastProgress > validTransportTimeout then
        { watch with suppressUntil := now + falseLockSuppressDuration }
      else watch)
  else if watch.suppressUntil > now then (false, watch)
  else if now - watch.lastProgress > validTransportTimeout then
    if now - watch.lastProgress ≤ validTransportTimeout + staleTransportLockGrace then (true, watch)
    else (false, { watch with suppressUntil := now + falseLockSuppressDuration, hasProgress := false })
  else (true, watch)

namespace Tuner

def tune (tuner : Tuner) (target : ScanTarget) (tuning : Tuning) : Tuner :=
  { tuner with
    status := { tuner.status with
      target := some target
      state := if tuner.nimPresent = true ∧ tuning.taken = true then .searching else .fault
      updatedAt := tuning.time
      merDb := none
      dNumberDb := none
      modulation := none }
    watch := { tuner.watch with
      validPackets := tuning.validPackets
      lastProgress := tuning.time
      seen := true
      hasProgress := false } }

/-- What `pollStatus` does with one status. -/
def poll (tuner : Tuner) (reading : Reading) (now : Time) : Tuner :=
  if tuner.status.target.isNone then tuner
  else if tuner.nimPresent = false then { tuner with status := { tuner.status with state := .fault, updatedAt := now } }
  else
    let counted := { tuner.status with
      transportPackets := reading.transportPackets
      continuityErrors := reading.errors
      updatedAt := now }
    let state := stateFromHeaderMode reading.headerMode
    if isLocked state then
      let (fresh, watch) := validTransportFresh tuner.watch reading.validPackets now
      if fresh then { tuner with watch, status := { counted with state, merDb := reading.mer <|> tuner.status.merDb } }
      else { tuner with watch, status := { counted with state := .lost, merDb := none, dNumberDb := none, modulation := none } }
    else { tuner with status := { counted with state, merDb := none, dNumberDb := none, modulation := none } }

variable {tuner : Tuner} {reading : Reading} {now : Time} {target : ScanTarget} {tuning : Tuning}

@[simp] theorem tune_receiver : (tuner.tune target tuning).status.receiver = tuner.status.receiver := rfl

@[simp] theorem poll_receiver : (tuner.poll reading now).status.receiver = tuner.status.receiver := by
  unfold poll
  dsimp only
  repeat' split
  all_goals rfl

@[simp] theorem poll_target : (tuner.poll reading now).status.target = tuner.status.target := by
  unfold poll
  dsimp only
  repeat' split
  all_goals rfl

end Tuner

/-- The tuners, one for each of the receivers 1 to 4. -/
abbrev NimController := List Tuner

namespace NimController

/-- `initialise`, with what it found of the two modules. -/
def initialise (nimPresent : ReceiverId → Bool) : NimController :=
  ([1, 2, 3, 4] : List Int32).map fun number =>
    { status := { receiver := ⟨number⟩ }, nimPresent := nimPresent ⟨number⟩ }

def statuses (nim : NimController) : List ReceiverStatus := nim.map Tuner.status

/-- The source throws for any other receiver, which no configuration has. -/
def tune (nim : NimController) (receiver : ReceiverId) (target : ScanTarget) (tuning : Tuning) : NimController :=
  nim.map fun tuner => if tuner.status.receiver = receiver then tuner.tune target tuning else tuner

def pollStatus (nim : NimController) (readings : ReceiverId → Reading) (now : Time) : NimController :=
  nim.map fun tuner => tuner.poll (readings tuner.status.receiver) now

theorem tune_other {nim : NimController} {receiver other : ReceiverId} (apart : receiver ≠ other) :
    ((nim.tune receiver target tuning).find? fun tuner => tuner.status.receiver = other) =
      nim.find? fun tuner => tuner.status.receiver = other := by
  induction nim with
  | nil => rfl
  | cons tuner rest ih =>
    unfold tune at ih ⊢
    rw [List.map_cons]
    by_cases mine : tuner.status.receiver = receiver
    · have tuned : tuner.status.receiver ≠ other := by rwa [mine]
      rw [if_pos mine, List.find?_cons_of_neg (by simp [tuned]), List.find?_cons_of_neg (by simp [tuned]), ih]
    · rw [if_neg mine]
      by_cases found : tuner.status.receiver = other
      · rw [List.find?_cons_of_pos (by simpa using found), List.find?_cons_of_pos (by simpa using found)]
      · rw [List.find?_cons_of_neg (by simpa using found), List.find?_cons_of_neg (by simpa using found), ih]

/-- The status of a receiver after a poll. -/
theorem pollStatus_find {nim : NimController} {readings : ReceiverId → Reading} {now : Time} {receiver : ReceiverId} :
    ((nim.pollStatus readings now).find? fun tuner => tuner.status.receiver = receiver) =
      (nim.find? fun tuner => tuner.status.receiver = receiver).map fun tuner =>
        tuner.poll (readings tuner.status.receiver) now := by
  unfold pollStatus
  rw [List.find?_map]
  refine congrArg (Option.map _) (congrArg (List.find? · nim) ?_)
  funext tuner
  simp

theorem statuses_find {nim : NimController} {receiver : ReceiverId} :
    (nim.statuses.find? fun status => status.receiver = receiver) =
      (nim.find? fun tuner => tuner.status.receiver = receiver).map Tuner.status := by
  unfold statuses
  rw [List.find?_map]
  rfl

end NimController

/-! ## The scanner -/

structure Cursor where
  index : Nat := 0
  nextRetune : Time := 0
  hangUntil : Time := 0
  tuned : Bool := false
  wasLocked : Bool := false
  deriving Repr, DecidableEq

structure ScanScheduler where
  receivers : List ReceiverConfig
  cursors : ReceiverId → Cursor := fun _ => {}

namespace ScanScheduler

/-- The cursor of a receiver that is not locked, and the target to tune it to now. -/
def advance (cursor : Cursor) (receiver : ReceiverConfig) (now : Time) : Cursor × Option ScanTarget :=
  let cursor :=
    if cursor.wasLocked then { cursor with wasLocked := false, hangUntil := now + milliseconds receiver.hangTime } else cursor
  if cursor.hangUntil > now then (cursor, none)
  else if cursor.tuned = false ∨ now ≥ cursor.nextRetune then
    ({ cursor with
        index := (cursor.index + 1) % receiver.targets.length
        nextRetune := now + milliseconds receiver.dwellTime
        tuned := true },
      receiver.targets[cursor.index % receiver.targets.length]?)
  else (cursor, none)

/-- One receiver of `tick`. -/
def visit (statuses : List ReceiverStatus) (tunings : ReceiverId → Tuning) (now : Time)
    (state : ScanScheduler × NimController) (receiver : ReceiverConfig) : ScanScheduler × NimController :=
  let (scheduler, nim) := state
  if receiver.enabled = false ∨ receiver.targets = [] then (scheduler, nim)
  else
    let cursor := scheduler.cursors receiver.receiver
    let set (cursor : Cursor) : ScanScheduler :=
      { scheduler with cursors := Function.update scheduler.cursors receiver.receiver cursor }
    if (statuses.find? fun status => status.receiver = receiver.receiver).any fun status => isLocked status.state then
      (set { cursor with wasLocked := true, hangUntil := 0, nextRetune := now + milliseconds receiver.dwellTime }, nim)
    else
      match advance cursor receiver now with
      | (cursor, none) => (set cursor, nim)
      | (cursor, some target) => (set cursor, nim.tune receiver.receiver target (tunings receiver.receiver))

def tick (scheduler : ScanScheduler) (nim : NimController) (statuses : List ReceiverStatus) (tunings : ReceiverId → Tuning)
    (now : Time) : ScanScheduler × NimController :=
  scheduler.receivers.foldl (visit statuses tunings now) (scheduler, nim)

/-! ## Only enabled receivers are tuned -/

variable {statuses : List ReceiverStatus} {tunings : ReceiverId → Tuning} {now : Time} {nim : NimController}
  {scheduler : ScanScheduler}

@[simp] theorem visit_receivers (receiver : ReceiverConfig) :
    (visit statuses tunings now (scheduler, nim) receiver).1.receivers = scheduler.receivers := by
  unfold visit
  dsimp only
  split
  · rfl
  · split
    · rfl
    · split <;> rfl

@[simp] theorem tick_receivers : (scheduler.tick nim statuses tunings now).1.receivers = scheduler.receivers := by
  have kept : ∀ (receivers : List ReceiverConfig) (state : ScanScheduler × NimController),
      (receivers.foldl (visit statuses tunings now) state).1.receivers = state.1.receivers := by
    intro receivers
    induction receivers with
    | nil => exact fun _ => rfl
    | cons receiver rest ih => exact fun state => (ih _).trans (visit_receivers receiver)
  exact kept _ _

/-- The scanner leaves a tuner alone unless its receiver is enabled and not locked. -/
theorem visit_tuner (receiver : ReceiverConfig) {tuner : Tuner}
    (after : tuner ∈ (visit statuses tunings now (scheduler, nim) receiver).2) :
    tuner ∈ nim ∨ (tuner.status.receiver = receiver.receiver ∧ receiver.enabled = true ∧
      ((statuses.find? fun status => status.receiver = receiver.receiver).any fun status => isLocked status.state) = false) := by
  unfold visit at after
  dsimp only at after
  split at after
  · exact .inl after
  · rename_i visited
    split at after
    · exact .inl after
    · rename_i unlocked
      split at after
      · exact .inl after
      · obtain ⟨earlier, among, same⟩ := List.mem_map.mp after
        split at same
        · rename_i mine
          refine .inr ⟨by rw [← same, Tuner.tune_receiver, mine], by simpa using (not_or.mp visited).1, by simpa using unlocked⟩
        · exact .inl (same ▸ among)

theorem tick_tuner {tuner : Tuner} (after : tuner ∈ (scheduler.tick nim statuses tunings now).2) :
    tuner ∈ nim ∨ ((∃ receiver ∈ scheduler.receivers, tuner.status.receiver = receiver.receiver ∧ receiver.enabled = true) ∧
      ((statuses.find? fun status => status.receiver = tuner.status.receiver).any fun status => isLocked status.state) = false) := by
  have along : ∀ (receivers : List ReceiverConfig) (state : ScanScheduler × NimController),
      tuner ∈ (receivers.foldl (visit statuses tunings now) state).2 →
      tuner ∈ state.2 ∨ ((∃ receiver ∈ receivers, tuner.status.receiver = receiver.receiver ∧ receiver.enabled = true) ∧
        ((statuses.find? fun status => status.receiver = tuner.status.receiver).any fun status => isLocked status.state) = false) := by
    intro receivers
    induction receivers with
    | nil => exact fun _ after => .inl after
    | cons receiver rest ih =>
      intro state after
      rcases ih _ after with earlier | ⟨⟨later, among, mine, enabled⟩, unlocked⟩
      · rcases visit_tuner receiver earlier with before | ⟨mine, enabled, unlocked⟩
        · exact .inl before
        · exact .inr ⟨⟨receiver, List.mem_cons_self, mine, enabled⟩, by rwa [mine]⟩
      · exact .inr ⟨⟨later, List.mem_cons_of_mem _ among, mine, enabled⟩, unlocked⟩
  exact along _ _ after

/-- The tuner of a locked receiver stays as it is. -/
theorem tick_locked {receiver : ReceiverId}
    (locked : ((statuses.find? fun status => status.receiver = receiver).any fun status => isLocked status.state) = true) :
    ((scheduler.tick nim statuses tunings now).2.find? fun tuner => tuner.status.receiver = receiver) =
      nim.find? fun tuner => tuner.status.receiver = receiver := by
  have along : ∀ (receivers : List ReceiverConfig) (state : ScanScheduler × NimController),
      ((receivers.foldl (visit statuses tunings now) state).2.find? fun tuner => tuner.status.receiver = receiver) =
        state.2.find? fun tuner => tuner.status.receiver = receiver := by
    intro receivers
    induction receivers with
    | nil => exact fun _ => rfl
    | cons entry rest ih =>
      intro state
      refine (ih _).trans ?_
      unfold visit
      dsimp only
      split
      · rfl
      · split
        · rfl
        · rename_i unlocked
          have other : entry.receiver ≠ receiver := by
            rintro rfl
            exact unlocked locked
          split
          · rfl
          · exact NimController.tune_other other
  exact along _ _

end ScanScheduler
end WhRepeater
