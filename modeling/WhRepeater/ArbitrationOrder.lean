import Mathlib.Data.List.Induction
import Mathlib.Data.List.Nodup
import WhRepeater.SignalArbitrator

/-! Which receiver is chosen (`SignalArbitrator::choose`). The scan for the best
status comes to the first one in an order of all candidates. It does so with a MER
that is not a number as well, but such a MER counts by where it stands in the list,
as it neither beats nor is beaten. -/
namespace Binary64.Value

variable {value other third : Value}

theorem less_asymm (less : value.less other = true) : other.less value = false := by
  cases value <;> cases other <;> simp_all [Value.less]
  exact less.le

theorem less_irrefl : value.less value = false := by
  cases value <;> simp [less]

theorem less_of_not_less (number : value ≠ nan) (first : other.less value = false) (second : other.less third = true) :
    value.less third = true := by
  cases value <;> cases other <;> cases third <;> simp_all [less]
  exact first.trans_lt second

theorem ne_nan_of_less (less : value.less other = true) : value ≠ nan ∧ other ≠ nan := by
  cases value <;> cases other <;> simp_all [Value.less]

theorem not_less_lowest : value.less (infinite true) = false := by
  cases value <;> simp [less]

theorem not_highest_less : (infinite false).less value = false := by
  cases value <;> rfl

end Binary64.Value

namespace WhRepeater.SignalArbitrator

/-- Locked, and no worse than the configuration asks as far as is known. -/
def Usable (config : RepeaterConfig) (status : ReceiverStatus) : Prop :=
  (status.state = .lockedDvbs ∨ status.state = .lockedDvbs2) ∧
    (∀ mer ∈ status.merDb, (Binary64.Value.ofBits mer).less (.finite config.minimumMerDb) = false) ∧
    ∀ dNumber ∈ status.dNumberDb, (Binary64.Value.ofBits dNumber).less (.finite config.minimumDNumberDb) = false

variable {arbitrator : SignalArbitrator} {config : RepeaterConfig} {front statuses : List ReceiverStatus}
variable {calls : List (List ReceiverStatus)}
variable {mer : Nat → ReceiverStatus → Binary64.Value} {position rivalPosition : Nat}
variable {status standing rival : ReceiverStatus} {active : ActiveInput}

theorem fallsShort_eq_false {quality : Option DoubleBits} {minimum : Rat} :
    fallsShort quality minimum = false ↔ ∀ bits ∈ quality, (Binary64.Value.ofBits bits).less (.finite minimum) = false := by
  cases quality <;> simp [fallsShort]

theorem isUsable_iff : arbitrator.isUsable status = true ↔ Usable arbitrator.config status := by
  simp only [isUsable, Usable, isLocked, Bool.and_eq_true, Bool.or_eq_true, decide_eq_true_eq, Bool.not_eq_true',
    fallsShort_eq_false, and_assoc]

def Candidate (config : RepeaterConfig) (status : ReceiverStatus) : Prop := Usable config status ∧ status.target.isSome

instance (config : RepeaterConfig) : DecidablePred (Candidate config) := fun status =>
  decidable_of_iff (({ config } : SignalArbitrator).isUsable status = true ∧ status.target.isSome = true)
    (and_congr_left' isUsable_iff)

/-- Where the configuration first lists the receiver, or the place behind its last. -/
def place (config : RepeaterConfig) (receiver : ReceiverId) : Nat := (config.receivers.map (·.receiver)).idxOf receiver

/-- By the place in the configuration, then the higher MER, then the place in the list. -/
def Precedes (config : RepeaterConfig) (mer : Nat → ReceiverStatus → Binary64.Value) (position : Nat)
    (status : ReceiverStatus) (rivalPosition : Nat) (rival : ReceiverStatus) : Prop :=
  place config status.receiver < place config rival.receiver ∨
    (place config status.receiver = place config rival.receiver ∧
      ((mer rivalPosition rival).less (mer position status) = true ∨
        ((mer position status).less (mer rivalPosition rival) = false ∧ position < rivalPosition)))

/-- A candidate that precedes all others. -/
def Least (config : RepeaterConfig) (mer : Nat → ReceiverStatus → Binary64.Value) (statuses : List ReceiverStatus)
    (position : Nat) (status : ReceiverStatus) : Prop :=
  statuses[position]? = some status ∧ Candidate config status ∧
    ∀ rivalPosition rival, statuses[rivalPosition]? = some rival → Candidate config rival → rivalPosition ≠ position →
      Precedes config mer position status rivalPosition rival

/-- A MER that is not a number is the highest of its place in the configuration
if it is the first candidate of that, and else the lowest. -/
def countedMer (config : RepeaterConfig) (statuses : List ReceiverStatus) (position : Nat) (status : ReceiverStatus) :
    Binary64.Value :=
  if merOrZero status = .nan then
    .infinite (decide (∃ earlier ∈ statuses.take position,
      Candidate config earlier ∧ place config earlier.receiver = place config status.receiver))
  else merOrZero status

/-- What is returned for the statuses after the previous call chose a receiver, or none. -/
structure Arbitrates (config : RepeaterConfig) (mer : Nat → ReceiverStatus → Binary64.Value) (previous : Option ReceiverId)
    (statuses : List ReceiverStatus) (result : Option ActiveInput) : Prop where
  keeps : ∀ status ∈ statuses, previous = some status.receiver → Candidate config status →
    ∃ active, result = some active ∧ active.receiver = status.receiver
  least : (∀ status ∈ statuses, previous = some status.receiver → ¬ Candidate config status) →
    ∀ active, result = some active → ∃ position, Least config mer statuses position active.status
  none_iff : result = none ↔ ∀ status ∈ statuses, ¬ Candidate config status
  own : ∀ active, result = some active →
    active.status ∈ statuses ∧ active.receiver = active.status.receiver ∧ active.status.target = some active.target

/-- The receiver goes first: it was chosen by the previous call and is still a
candidate, or there is no such receiver and it is the least candidate. -/
def Due (config : RepeaterConfig) (previous : Option ReceiverId) (statuses : List ReceiverStatus) (receiver : ReceiverId) : Prop :=
  ∃ position status, statuses[position]? = some status ∧ status.receiver = receiver ∧ Candidate config status ∧
    (previous = some receiver ∨
      ((∀ held ∈ statuses, previous = some held.receiver → ¬ Candidate config held) ∧
        Least config (countedMer config statuses) statuses position status))

/-- What the last of the calls returned, and the arbitrator behind it. -/
def afterCalls (config : RepeaterConfig) (calls : List (List ReceiverStatus)) : Option ActiveInput × SignalArbitrator :=
  calls.foldl (fun last statuses => last.2.choose statuses) (none, { config })

/-! ## One status -/

theorem activeInput_eq_some : arbitrator.activeInput status = some active ↔
    Usable arbitrator.config status ∧ active.status = status ∧ active.receiver = status.receiver ∧
      status.target = some active.target := by
  rw [activeInput]
  split
  · rename_i usable
    rw [Option.map_eq_some_iff, and_iff_right (isUsable_iff.mp usable)]
    constructor
    · rintro ⟨target, held, rfl⟩
      exact ⟨rfl, rfl, held⟩
    · rintro ⟨rfl, receiver, held⟩
      exact ⟨active.target, held, by rw [← receiver]⟩
  · rename_i unusable
    exact iff_of_false nofun fun found => unusable (isUsable_iff.mpr found.1)

theorem activeInput_isSome : (arbitrator.activeInput status).isSome = true ↔ Candidate arbitrator.config status := by
  rw [Option.isSome_iff_exists, Candidate, Option.isSome_iff_exists]
  constructor
  · rintro ⟨active, found⟩
    obtain ⟨usable, -, -, held⟩ := activeInput_eq_some.mp found
    exact ⟨usable, active.target, held⟩
  · rintro ⟨usable, target, held⟩
    exact ⟨⟨status.receiver, target, status⟩, activeInput_eq_some.mpr ⟨usable, rfl, rfl, held⟩⟩

theorem candidate_of_activeInput (found : arbitrator.activeInput status = some active) : Candidate arbitrator.config status :=
  activeInput_isSome.mp (Option.isSome_iff_exists.mpr ⟨active, found⟩)

theorem receiverPriority_eq (receiver : ReceiverId) : arbitrator.receiverPriority receiver = place arbitrator.config receiver := by
  rw [receiverPriority, place, List.idxOf, List.findIdx_map]
  congr 1

theorem better_iff : arbitrator.better status standing = true ↔
    place arbitrator.config status.receiver < place arbitrator.config standing.receiver ∨
      (place arbitrator.config status.receiver = place arbitrator.config standing.receiver ∧
        (merOrZero standing).less (merOrZero status) = true) := by
  simp only [better, receiverPriority_eq, Bool.or_eq_true, Bool.and_eq_true, decide_eq_true_eq]

/-! ## The scan -/

theorem bestOf_concat : arbitrator.bestOf (front ++ [status]) =
    if Candidate arbitrator.config status then
      match arbitrator.bestOf front with
      | none => some status
      | some standing => if arbitrator.better status standing then some status else some standing
    else arbitrator.bestOf front := by
  have absent : (arbitrator.activeInput status).isNone = true ↔ ¬ Candidate arbitrator.config status := by
    rw [← activeInput_isSome, Option.isNone_iff_eq_none, Option.isSome_iff_ne_none, not_not]
  unfold bestOf
  rw [List.foldl_append, List.foldl_cons, List.foldl_nil]
  by_cases candidate : Candidate arbitrator.config status
  · exact (if_neg fun none => absent.mp none candidate).trans (if_pos candidate).symm
  · exact (if_pos (absent.mpr candidate)).trans (if_neg candidate).symm

theorem bestOf_eq_none_iff : arbitrator.bestOf statuses = none ↔ ∀ status ∈ statuses, ¬ Candidate arbitrator.config status := by
  induction statuses using List.reverseRecOn with
  | nil => exact iff_of_true rfl (List.forall_mem_nil _)
  | append_singleton front status ih =>
    rw [bestOf_concat, List.forall_mem_append, List.forall_mem_singleton]
    by_cases candidate : Candidate arbitrator.config status
    · rw [if_pos candidate]
      refine iff_of_false ?_ fun none => none.2 candidate
      split
      · exact nofun
      · split <;> exact nofun
    · rw [if_neg candidate, ih, and_iff_left candidate]

/-- What is behind a status does not change how its MER counts. -/
theorem countedMer_concat (within : position ≤ front.length) (status rival : ReceiverStatus) :
    countedMer config (front ++ [status]) position rival = countedMer config front position rival := by
  rw [countedMer, countedMer, List.take_append_of_le_length within]

theorem countedMer_of_number (number : merOrZero status ≠ .nan) : countedMer config statuses position status = merOrZero status :=
  if_neg number

theorem countedMer_ne_nan : countedMer config statuses position status ≠ .nan := by
  unfold countedMer
  split
  · exact nofun
  · assumption

theorem countedMer_of_preceded (unordered : merOrZero status = .nan) {earlier : ReceiverStatus}
    (among : earlier ∈ statuses.take position) (candidate : Candidate config earlier)
    (same : place config earlier.receiver = place config status.receiver) :
    countedMer config statuses position status = .infinite true := by
  rw [countedMer, if_pos unordered, decide_eq_true ⟨earlier, among, candidate, same⟩]

/-- The least candidate has a MER that is not a number only where that counts most. -/
theorem countedMer_of_least (least : Least config (countedMer config statuses) statuses position status)
    (unordered : merOrZero status = .nan) : countedMer config statuses position status = .infinite false := by
  rw [countedMer, if_pos unordered]
  by_cases preceded : ∃ earlier ∈ statuses.take position, Candidate config earlier ∧ place config earlier.receiver = place config status.receiver
  · obtain ⟨earlier, among, candidate, same⟩ := preceded
    have lowest := countedMer_of_preceded unordered among candidate same
    obtain ⟨index, here⟩ := List.mem_iff_getElem?.mp among
    rw [List.getElem?_take] at here
    split at here
    · rename_i before
      -- An earlier candidate would precede it.
      rcases least.2.2 index earlier here candidate before.ne with ahead | ⟨-, higher | ⟨-, behind⟩⟩
      · exact absurd same.symm ahead.ne
      · rw [lowest, Binary64.Value.not_less_lowest] at higher
        cases higher
      · exact absurd behind before.asymm
    · cases here
  · rw [decide_eq_false preceded]

theorem Least.within (least : Least config mer statuses position status) : position < statuses.length :=
  (List.getElem?_eq_some_iff.mp least.1).1

/-- No candidate is placed before the least one, or is as high with a higher MER. -/
theorem Least.leads (least : Least config mer statuses position status) (there : statuses[rivalPosition]? = some rival)
    (candidate : Candidate config rival) :
    place config status.receiver < place config rival.receiver ∨
      (place config status.receiver = place config rival.receiver ∧
        (mer position status).less (mer rivalPosition rival) = false) := by
  by_cases same : rivalPosition = position
  · subst same
    obtain rfl := Option.some.inj (there.symm.trans least.1)
    exact .inr ⟨rfl, Binary64.Value.less_irrefl⟩
  · rcases least.2.2 rivalPosition rival there candidate same with ahead | ⟨level, higher | ⟨not_lower, -⟩⟩
    · exact .inl ahead
    · exact .inr ⟨level, Binary64.Value.less_asymm higher⟩
    · exact .inr ⟨level, not_lower⟩

theorem Precedes.asymm (precedes : Precedes config mer position status rivalPosition rival) :
    ¬ Precedes config mer rivalPosition rival position status := by
  rcases precedes with ahead | ⟨level, order⟩
  · rintro (behind | ⟨level, -⟩)
    · exact ahead.asymm behind
    · exact ahead.ne level.symm
  · rintro (behind | ⟨-, reverse⟩)
    · exact behind.ne level.symm
    rcases order with higher | ⟨not_lower, before⟩
    · rcases reverse with lower | ⟨not_higher, -⟩
      · rw [Binary64.Value.less_asymm higher] at lower
        cases lower
      · rw [higher] at not_higher
        cases not_higher
    · rcases reverse with lower | ⟨-, after⟩
      · rw [not_lower] at lower
        cases lower
      · exact before.asymm after

theorem Least.unique (least : Least config mer statuses position status) (other : Least config mer statuses rivalPosition rival) :
    status = rival := by
  by_cases same : rivalPosition = position
  · subst same
    exact Option.some.inj (least.1.symm.trans other.1)
  · exact absurd (other.2.2 position status least.1 least.2.1 (Ne.symm same)) (least.2.2 _ rival other.1 other.2.1 same).asymm

/-- A status that replaces the least one so far precedes all candidates before it. -/
theorem replacing_precedes (least : Least config (countedMer config front) front position standing)
    (replaces : place config status.receiver < place config standing.receiver ∨
      (place config status.receiver = place config standing.receiver ∧ (merOrZero standing).less (merOrZero status) = true))
    (there : front[rivalPosition]? = some rival) (candidate : Candidate config rival) :
    Precedes config (countedMer config (front ++ [status])) front.length status rivalPosition rival := by
  have within := (List.getElem?_eq_some_iff.mp there).1
  rcases replaces with ahead | ⟨level, higher⟩
  · rcases least.leads there candidate with further | ⟨same, -⟩
    · exact .inl (ahead.trans further)
    · exact .inl (same ▸ ahead)
  · obtain ⟨standing_number, number⟩ := Binary64.Value.ne_nan_of_less higher
    rcases least.leads there candidate with further | ⟨same, not_lower⟩
    · exact .inl (level ▸ further)
    · refine .inr ⟨level.trans same, .inl ?_⟩
      rw [countedMer_of_number standing_number] at not_lower
      rw [countedMer_concat within.le, countedMer_of_number number]
      exact Binary64.Value.less_of_not_less countedMer_ne_nan not_lower higher

/-- A status that does not replace the least one so far is preceded by it. -/
theorem standing_precedes (least : Least config (countedMer config front) front position standing)
    (stays : ¬ (place config status.receiver < place config standing.receiver ∨
      (place config status.receiver = place config standing.receiver ∧ (merOrZero standing).less (merOrZero status) = true))) :
    Precedes config (countedMer config (front ++ [status])) position standing front.length status := by
  obtain ⟨behind, not_higher⟩ := not_or.mp stays
  rcases (not_lt.mp behind).lt_or_eq with ahead | level
  · exact .inl ahead
  refine .inr ⟨level, .inr ⟨?_, least.within⟩⟩
  rw [countedMer_concat least.within.le, countedMer_concat le_rfl]
  by_cases unordered : merOrZero status = .nan
  · have among : standing ∈ front.take front.length := by
      rw [List.take_length]
      exact List.mem_of_getElem? least.1
    rw [countedMer_of_preceded unordered among least.2.1 level]
    exact Binary64.Value.not_less_lowest
  by_cases standing_unordered : merOrZero standing = .nan
  · rw [countedMer_of_least least standing_unordered]
    exact Binary64.Value.not_highest_less
  · rw [countedMer_of_number unordered, countedMer_of_number standing_unordered]
    exact Bool.eq_false_iff.mpr fun higher => not_higher ⟨level.symm, higher⟩

theorem getElem?_concat_eq_some :
    (front ++ [status])[rivalPosition]? = some rival ↔
      front[rivalPosition]? = some rival ∨ (rivalPosition = front.length ∧ rival = status) := by
  by_cases before : rivalPosition < front.length
  · rw [List.getElem?_append_left before, or_iff_left fun last => before.ne last.1]
  · rw [List.getElem?_append_right (not_lt.mp before), List.getElem?_eq_none (not_lt.mp before), List.getElem?_singleton]
    split
    · rename_i zero
      have last : rivalPosition = front.length := by omega
      simp [last, eq_comm]
    · rename_i beyond
      have off : rivalPosition ≠ front.length := by omega
      simp [off]

/-- The least candidate so far stays the least before a status that it precedes,
or that is no candidate. -/
theorem Least.stays (least : Least config (countedMer config front) front position standing)
    (last : Candidate config status →
      Precedes config (countedMer config (front ++ [status])) position standing front.length status) :
    Least config (countedMer config (front ++ [status])) (front ++ [status]) position standing := by
  refine ⟨getElem?_concat_eq_some.mpr (.inl least.1), least.2.1, fun rivalPosition rival there candidate other => ?_⟩
  rcases getElem?_concat_eq_some.mp there with before | ⟨rfl, rfl⟩
  · have precedes := least.2.2 rivalPosition rival before candidate other
    have within := (List.getElem?_eq_some_iff.mp before).1
    rwa [Precedes, countedMer_concat within.le, countedMer_concat least.within.le]
  · exact last candidate

theorem least_last (candidate : Candidate config status)
    (first : ∀ rivalPosition rival, front[rivalPosition]? = some rival → Candidate config rival →
      Precedes config (countedMer config (front ++ [status])) front.length status rivalPosition rival) :
    Least config (countedMer config (front ++ [status])) (front ++ [status]) front.length status := by
  refine ⟨getElem?_concat_eq_some.mpr (.inr ⟨rfl, rfl⟩), candidate, fun rivalPosition rival there candidate other => ?_⟩
  rcases getElem?_concat_eq_some.mp there with before | ⟨last, -⟩
  · exact first rivalPosition rival before candidate
  · exact absurd last other

/-- The scan comes to the least candidate. -/
theorem bestOf_least (best : arbitrator.bestOf statuses = some status) :
    ∃ position, Least arbitrator.config (countedMer arbitrator.config statuses) statuses position status := by
  induction statuses using List.reverseRecOn generalizing status with
  | nil => cases best
  | append_singleton front next ih =>
    rw [bestOf_concat] at best
    split at best
    · rename_i candidate
      split at best
      · rename_i none
        obtain rfl := Option.some.inj best
        exact ⟨front.length, least_last candidate fun _ rival there rivals =>
          absurd rivals (bestOf_eq_none_iff.mp none rival (List.mem_of_getElem? there))⟩
      · rename_i standing found
        obtain ⟨position, least⟩ := ih found
        split at best
        · rename_i replaces
          obtain rfl := Option.some.inj best
          exact ⟨front.length, least_last candidate fun _ _ => replacing_precedes least (better_iff.mp replaces)⟩
        · rename_i stays
          obtain rfl := Option.some.inj best
          exact ⟨position, least.stays fun _ => standing_precedes least (mt better_iff.mpr stays)⟩
    · rename_i absent
      obtain ⟨position, least⟩ := ih best
      exact ⟨position, least.stays fun candidate => absurd candidate absent⟩

/-! ## The calls -/

theorem chooseBest_cases :
    (arbitrator.bestOf statuses = none ∧ arbitrator.chooseBest statuses = (none, arbitrator)) ∨
      ∃ status active, arbitrator.bestOf statuses = some status ∧ arbitrator.activeInput status = some active ∧
        arbitrator.chooseBest statuses = (some active, { arbitrator with activeReceiver := some active.receiver }) := by
  cases best : arbitrator.bestOf statuses with
  | none => exact .inl ⟨rfl, by simp only [chooseBest, best, Option.bind_none]⟩
  | some status =>
    obtain ⟨position, least⟩ := bestOf_least best
    obtain ⟨active, found⟩ := Option.isSome_iff_exists.mp (activeInput_isSome.mpr least.2.1)
    exact .inr ⟨status, active, rfl, found, by simp only [chooseBest, best, Option.bind_some, found]⟩

/-- Without a candidate that was chosen before, the least one is taken. -/
theorem chooseBest_arbitrates {previous : Option ReceiverId}
    (gone : ∀ status ∈ statuses, previous = some status.receiver → ¬ Candidate arbitrator.config status) :
    Arbitrates arbitrator.config (countedMer arbitrator.config statuses) previous statuses (arbitrator.chooseBest statuses).1 := by
  rcases chooseBest_cases with ⟨none, chosen⟩ | ⟨status, active, best, found, chosen⟩
  · rw [chosen]
    refine ⟨fun status among held candidate => absurd candidate (gone status among held), ?_,
      iff_of_true rfl (bestOf_eq_none_iff.mp none), ?_⟩
    · intro _ _ absent
      cases absent
    · intro _ absent
      cases absent
  · obtain ⟨position, least⟩ := bestOf_least best
    obtain ⟨-, rfl, receiver, target⟩ := activeInput_eq_some.mp found
    have among := bestOf_mem best
    rw [chosen]
    refine ⟨fun status among held candidate => absurd candidate (gone status among held), ?_,
      iff_of_false nofun fun none => none active.status among least.2.1, ?_⟩
    · intro _ _ same
      obtain rfl := Option.some.inj same
      exact ⟨position, least⟩
    · intro _ same
      obtain rfl := Option.some.inj same
      exact ⟨among, receiver, target⟩

theorem activeForReceiver_eq (distinct : (statuses.map (·.receiver)).Nodup) (among : status ∈ statuses) :
    arbitrator.activeForReceiver statuses status.receiver = arbitrator.activeInput status := by
  have first : (statuses.find? fun other => other.receiver = status.receiver) = some status := by
    cases found : statuses.find? fun other => other.receiver = status.receiver with
    | none => simpa using List.find?_eq_none.mp found status among
    | some other =>
      have same : other.receiver = status.receiver := by simpa using List.find?_some found
      rw [List.inj_on_of_nodup_map distinct (List.mem_of_find?_eq_some found) among same]
  rw [activeForReceiver, first, Option.bind_some]

theorem choose_arbitrates (distinct : (statuses.map (·.receiver)).Nodup) :
    Arbitrates arbitrator.config (countedMer arbitrator.config statuses) arbitrator.activeReceiver statuses
      (arbitrator.choose statuses).1 := by
  unfold choose
  split
  · rename_i none
    rw [none]
    exact chooseBest_arbitrates fun _ _ => nofun
  · rename_i receiver held
    rw [held]
    split
    · rename_i active found
      obtain ⟨status, first, found⟩ := Option.bind_eq_some_iff.mp found
      have candidate := candidate_of_activeInput found
      obtain ⟨-, rfl, receiver_eq, target⟩ := activeInput_eq_some.mp found
      have among := List.mem_of_find?_eq_some first
      have same : active.status.receiver = receiver := by simpa using List.find?_some first
      refine ⟨fun status _ chosen _ => ⟨active, rfl, ?_⟩, fun gone => absurd candidate (gone _ among (by rw [same])),
        iff_of_false nofun fun none => none _ among candidate, fun _ chosen => ?_⟩
      · rw [receiver_eq, same, Option.some.inj chosen]
      · obtain rfl := Option.some.inj chosen
        exact ⟨among, receiver_eq, target⟩
    · rename_i lost
      refine @chooseBest_arbitrates { arbitrator with activeReceiver := none } _ _ fun status among chosen candidate => ?_
      obtain rfl := Option.some.inj chosen
      have found := (@activeInput_isSome arbitrator status).mpr candidate
      rw [← activeForReceiver_eq distinct among, lost] at found
      cases found

/-- The receiver that goes first is the one that is chosen. -/
theorem choose_receiver_iff (distinct : (statuses.map (·.receiver)).Nodup) {receiver : ReceiverId} :
    (arbitrator.choose statuses).1.map (·.receiver) = some receiver ↔
      Due arbitrator.config arbitrator.activeReceiver statuses receiver := by
  have arbitrates := @choose_arbitrates arbitrator statuses distinct
  constructor
  · intro first
    obtain ⟨active, chosen, rfl⟩ := Option.map_eq_some_iff.mp first
    obtain ⟨-, receiver_eq, -⟩ := arbitrates.own active chosen
    by_cases held : ∃ status ∈ statuses, arbitrator.activeReceiver = some status.receiver ∧ Candidate arbitrator.config status
    · obtain ⟨status, listed, previous, candidate⟩ := held
      obtain ⟨other, again, same⟩ := arbitrates.keeps status listed previous candidate
      obtain rfl := Option.some.inj (chosen.symm.trans again)
      obtain ⟨position, there⟩ := List.mem_iff_getElem?.mp listed
      exact ⟨position, status, there, same.symm, candidate, .inl (by rw [previous, same])⟩
    · have gone : ∀ status ∈ statuses, arbitrator.activeReceiver = some status.receiver → ¬ Candidate arbitrator.config status :=
        fun status listed previous candidate => held ⟨status, listed, previous, candidate⟩
      obtain ⟨position, least⟩ := arbitrates.least gone active chosen
      exact ⟨position, active.status, least.1, receiver_eq.symm, least.2.1, .inr ⟨gone, least⟩⟩
  · rintro ⟨position, status, there, rfl, candidate, previous | ⟨gone, least⟩⟩
    · obtain ⟨active, chosen, same⟩ := arbitrates.keeps status (List.mem_of_getElem? there) previous candidate
      rw [chosen, Option.map_some, same]
    · cases chosen : (arbitrator.choose statuses).1 with
      | none => exact absurd candidate (arbitrates.none_iff.mp chosen status (List.mem_of_getElem? there))
      | some active =>
        obtain ⟨_, other⟩ := arbitrates.least gone active chosen
        rw [Option.map_some, (arbitrates.own active chosen).2.1, other.unique least]

theorem chooseBest_activeReceiver (idle : arbitrator.activeReceiver = none) :
    (arbitrator.chooseBest statuses).2.activeReceiver = (arbitrator.chooseBest statuses).1.map (·.receiver) := by
  rcases chooseBest_cases with ⟨-, chosen⟩ | ⟨status, active, -, -, chosen⟩
  · rw [chosen, idle, Option.map_none]
  · rw [chosen, Option.map_some]

theorem choose_activeReceiver : (arbitrator.choose statuses).2.activeReceiver = (arbitrator.choose statuses).1.map (·.receiver) := by
  unfold choose
  split
  · rename_i none
    exact chooseBest_activeReceiver none
  · rename_i receiver held
    split
    · rename_i active found
      obtain ⟨status, first, found⟩ := Option.bind_eq_some_iff.mp found
      obtain ⟨-, -, receiver_eq⟩ := activeInput_some found
      have same : status.receiver = receiver := by simpa using List.find?_some first
      rw [held, Option.map_some, receiver_eq, same]
    · exact chooseBest_activeReceiver rfl

theorem afterCalls_concat : afterCalls config (calls ++ [statuses]) = (afterCalls config calls).2.choose statuses := by
  exact List.foldl_concat _ _ _ _

/-- At each call the arbitrator knows what it chose at the one before. -/
theorem afterCalls_spec (calls : List (List ReceiverStatus)) :
    (afterCalls config calls).2.config = config ∧
      (afterCalls config calls).2.activeReceiver = (afterCalls config calls).1.map (·.receiver) := by
  induction calls using List.reverseRecOn with
  | nil => exact ⟨rfl, rfl⟩
  | append_singleton calls statuses ih =>
    rw [afterCalls_concat]
    exact ⟨choose_config.trans ih.1, choose_activeReceiver⟩

/-- Each call keeps the receiver of the call before, or takes the least candidate. -/
theorem calls_arbitrate (config : RepeaterConfig) (calls : List (List ReceiverStatus)) {statuses : List ReceiverStatus}
    (distinct : (statuses.map (·.receiver)).Nodup) :
    Arbitrates config (countedMer config statuses) ((afterCalls config calls).1.map (·.receiver)) statuses
      (afterCalls config (calls ++ [statuses])).1 := by
  obtain ⟨same, previous⟩ := @afterCalls_spec config calls
  have arbitrates := @choose_arbitrates (afterCalls config calls).2 statuses distinct
  rwa [same, previous, ← afterCalls_concat] at arbitrates

def lockedStatus (receiver : ReceiverId) (merDb : DoubleBits) : ReceiverStatus :=
  { receiver, state := .lockedDvbs2, target := some {}, merDb := some merDb }

def pairConfig : RepeaterConfig := { receivers := [{ receiver := ⟨1⟩ }, { receiver := ⟨2⟩ }] }

def secondLocked : List ReceiverStatus := [lockedStatus ⟨2⟩ 0x4014000000000000]

def bothLocked : List ReceiverStatus := [lockedStatus ⟨1⟩ 0x4014000000000000, lockedStatus ⟨2⟩ 0x4014000000000000]

theorem second_kept :
    (afterCalls pairConfig ([secondLocked] ++ [bothLocked])).1.map (·.receiver) = some ⟨2⟩ ∧
      Arbitrates pairConfig (countedMer pairConfig bothLocked) ((afterCalls pairConfig [secondLocked]).1.map (·.receiver))
        bothLocked (afterCalls pairConfig ([secondLocked] ++ [bothLocked])).1 :=
  ⟨by decide +kernel, calls_arbitrate pairConfig [secondLocked] (by decide)⟩

/-! ## MERs that are numbers -/

/-- Then the MERs of the order are those of the statuses. -/
theorem arbitrates_of_numbers {previous : Option ReceiverId} {result : Option ActiveInput}
    (numbers : ∀ status ∈ statuses, merOrZero status ≠ .nan)
    (arbitrates : Arbitrates config (countedMer config statuses) previous statuses result) :
    Arbitrates config (fun _ => merOrZero) previous statuses result := by
  have same : ∀ {index listed}, statuses[index]? = some listed → countedMer config statuses index listed = merOrZero listed :=
    fun there => countedMer_of_number (numbers _ (List.mem_of_getElem? there))
  refine ⟨arbitrates.keeps, fun gone active chosen => ?_, arbitrates.none_iff, arbitrates.own⟩
  obtain ⟨position, there, candidate, precedes⟩ := arbitrates.least gone active chosen
  refine ⟨position, there, candidate, fun rivalPosition rival listed rivals other => ?_⟩
  have ahead := precedes rivalPosition rival listed rivals other
  rwa [Precedes, same there, same listed] at ahead

/-- The MERs of three receivers that are not configured are 5, no number, and 7. -/
def unorderedStatuses : List ReceiverStatus :=
  [lockedStatus ⟨1⟩ 0x4014000000000000, lockedStatus ⟨2⟩ 0x7ff8000000000000, lockedStatus ⟨3⟩ 0x401c000000000000]

/-- The third one is chosen, which comes behind the second: neither has the higher MER. -/
theorem unordered_choice :
    (unorderedStatuses.map (·.receiver)).Nodup ∧
      ¬ Arbitrates { receivers := [] } (fun _ => merOrZero) ((afterCalls { receivers := [] } []).1.map (·.receiver))
        unorderedStatuses (afterCalls { receivers := [] } ([] ++ [unorderedStatuses])).1 := by
  refine ⟨by decide, fun arbitrates => ?_⟩
  have chosen : (afterCalls { receivers := [] } ([] ++ [unorderedStatuses])).1 =
      some ⟨⟨3⟩, {}, lockedStatus ⟨3⟩ 0x401c000000000000⟩ := by decide +kernel
  have first : (afterCalls { receivers := [] } []).1.map (·.receiver) = none := rfl
  rw [first] at arbitrates
  obtain ⟨position, there, -, precedes⟩ := arbitrates.least (fun _ _ absent => by cases absent) _ chosen
  have third : unorderedStatuses[position]? = unorderedStatuses[2]? := there
  obtain rfl := (List.getElem?_inj (List.getElem?_eq_some_iff.mp there).1 (by decide)).mp third
  have behind := precedes 1 (lockedStatus ⟨2⟩ 0x7ff8000000000000) rfl (by decide +kernel) (by decide)
  revert behind
  unfold Precedes
  decide +kernel

end WhRepeater.SignalArbitrator
