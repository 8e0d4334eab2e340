import WhRepeater.Binary64
import WhRepeater.Config

/-! The choice of the receiver that goes on air (`signal_arbitrator.cpp`). A
chosen receiver is kept while it is usable; otherwise the usable receiver that
comes first in the configuration is taken, and the clearer of two entries of one
rank. Whether the configuration enables a receiver is not asked. -/
namespace WhRepeater

def isLocked (state : ReceiverState) : Bool := state = .lockedDvbs || state = .lockedDvbs2

/-- A quality that is known falls short of the threshold. -/
def fallsShort (quality : Option DoubleBits) (minimum : Rat) : Bool :=
  quality.any fun bits => (Binary64.Value.ofBits bits).less (.finite minimum)

structure SignalArbitrator where
  config : RepeaterConfig
  activeReceiver : Option ReceiverId := none
  deriving Repr, DecidableEq

namespace SignalArbitrator

def isUsable (arbitrator : SignalArbitrator) (status : ReceiverStatus) : Bool :=
  isLocked status.state && !fallsShort status.merDb arbitrator.config.minimumMerDb &&
    !fallsShort status.dNumberDb arbitrator.config.minimumDNumberDb

/-- The place in the configuration, or the one behind the last. -/
def receiverPriority (arbitrator : SignalArbitrator) (receiver : ReceiverId) : Nat :=
  arbitrator.config.receivers.findIdx fun entry => entry.receiver = receiver

/-- A usable receiver with its target. -/
def activeInput (arbitrator : SignalArbitrator) (status : ReceiverStatus) : Option ActiveInput :=
  if arbitrator.isUsable status then
    status.target.map fun target => { receiver := status.receiver, target, status }
  else none

def activeForReceiver (arbitrator : SignalArbitrator) (statuses : List ReceiverStatus) (receiver : ReceiverId) :
    Option ActiveInput :=
  (statuses.find? fun status => status.receiver = receiver).bind arbitrator.activeInput

/-- `merDb.value_or(0.0)`. -/
def merOrZero (status : ReceiverStatus) : Binary64.Value := .ofBits (status.merDb.getD 0)

/-- The status takes the place of the best one so far. -/
def better (arbitrator : SignalArbitrator) (status best : ReceiverStatus) : Bool :=
  let priority := arbitrator.receiverPriority status.receiver
  let bestPriority := arbitrator.receiverPriority best.receiver
  priority < bestPriority || (priority = bestPriority && (merOrZero best).less (merOrZero status))

def bestOf (arbitrator : SignalArbitrator) (statuses : List ReceiverStatus) : Option ReceiverStatus :=
  statuses.foldl (fun best status =>
    if (arbitrator.activeInput status).isNone then best
    else
      match best with
      | none => some status
      | some standing => if arbitrator.better status standing then some status else some standing) none

def chooseBest (arbitrator : SignalArbitrator) (statuses : List ReceiverStatus) : Option ActiveInput × SignalArbitrator :=
  match (arbitrator.bestOf statuses).bind arbitrator.activeInput with
  | none => (none, arbitrator)
  | some best => (some best, { arbitrator with activeReceiver := some best.receiver })

def choose (arbitrator : SignalArbitrator) (statuses : List ReceiverStatus) : Option ActiveInput × SignalArbitrator :=
  match arbitrator.activeReceiver with
  | none => arbitrator.chooseBest statuses
  | some receiver =>
    match arbitrator.activeForReceiver statuses receiver with
    | some active => (some active, arbitrator)
    | none => ({ arbitrator with activeReceiver := none } : SignalArbitrator).chooseBest statuses

/-! ## What is chosen -/

variable {arbitrator : SignalArbitrator} {statuses : List ReceiverStatus} {status : ReceiverStatus} {active : ActiveInput}

theorem activeInput_some (found : arbitrator.activeInput status = some active) :
    arbitrator.isUsable status = true ∧ status.target = some active.target ∧ active.receiver = status.receiver := by
  unfold activeInput at found
  split at found
  · rename_i usable
    obtain ⟨target, held, rfl⟩ := Option.map_eq_some_iff.mp found
    exact ⟨usable, held, rfl⟩
  · cases found

theorem bestOf_mem (best : arbitrator.bestOf statuses = some status) : status ∈ statuses := by
  -- Every candidate so far is one of the statuses seen.
  have among : ∀ (rest : List ReceiverStatus) (standing : Option ReceiverStatus),
      rest.foldl (fun best status =>
        if (arbitrator.activeInput status).isNone then best
        else
          match best with
          | none => some status
          | some standing => if arbitrator.better status standing then some status else some standing) standing = some status →
      standing = some status ∨ status ∈ rest := by
    intro rest
    induction rest with
    | nil => exact fun _ found => .inl found
    | cons next rest ih =>
      intro standing found
      rw [List.foldl_cons] at found
      rcases ih _ found with taken | later
      · split at taken
        · exact .inl taken
        · split at taken
          · exact .inr (by rw [Option.some.inj taken]; exact List.mem_cons_self)
          · split at taken
            · exact .inr (by rw [Option.some.inj taken]; exact List.mem_cons_self)
            · exact .inl taken
      · exact .inr (List.mem_cons_of_mem next later)
  rcases among statuses none best with absent | member
  · cases absent
  · exact member

theorem chooseBest_active (chosen : (arbitrator.chooseBest statuses).1 = some active) :
    ∃ status ∈ statuses, arbitrator.activeInput status = some active := by
  unfold chooseBest at chosen
  split at chosen
  · cases chosen
  · rename_i best found
    obtain rfl := Option.some.inj chosen
    obtain ⟨status, best, found⟩ := Option.bind_eq_some_iff.mp found
    exact ⟨status, bestOf_mem best, found⟩

/-- What is chosen is a usable receiver with a target. -/
theorem choose_active (chosen : (arbitrator.choose statuses).1 = some active) :
    ∃ status ∈ statuses, arbitrator.activeInput status = some active := by
  unfold choose at chosen
  split at chosen
  · exact chooseBest_active chosen
  · split at chosen
    · rename_i receiver held kept found
      obtain rfl := Option.some.inj chosen
      obtain ⟨status, first, found⟩ := Option.bind_eq_some_iff.mp found
      exact ⟨status, List.mem_of_find?_eq_some first, found⟩
    · -- Letting go of the held receiver leaves the thresholds alone.
      obtain ⟨status, among, found⟩ := chooseBest_active chosen
      exact ⟨status, among, found⟩

@[simp] theorem chooseBest_config : (arbitrator.chooseBest statuses).2.config = arbitrator.config := by
  unfold chooseBest
  split <;> rfl

@[simp] theorem choose_config : (arbitrator.choose statuses).2.config = arbitrator.config := by
  unfold choose
  split
  · exact chooseBest_config
  · split
    · rfl
    · exact chooseBest_config

end SignalArbitrator
end WhRepeater
