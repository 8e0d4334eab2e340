import Mathlib.Data.List.Chain
import WhRepeater.ScanHolds

/-! The order in which the scanner goes through the targets of a receiver
(`ScanScheduler::tick`). Each cursor is followed on its own, and what it has tuned
so far says where it stands. -/
namespace WhRepeater

/-- When a receiver was tuned, and to which target. -/
abbrev Tune := Time × ScanTarget

namespace ScanScheduler

/-- What the calls of one tick tune the receiver to. -/
def tunesIn (calls : List TuneCall) (now : Time) (id : ReceiverId) : List Tune :=
  calls.filterMap fun call => if call.1 = id then some (now, call.2) else none

/-- Every tune of the receiver over a run. -/
def tunesOf (id : ReceiverId) : ScanScheduler × NimController → List Tick → List Tune
  | _, [] => []
  | state, tick :: rest =>
    tunesIn (state.1.tickCalls tick).2 tick.now id ++
      tunesOf id (state.1.tick state.2 tick.statuses tick.tunings tick.now) rest

variable {scheduler : ScanScheduler} {nim : NimController} {statuses : List ReceiverStatus} {now : Time}
  {receiver : ReceiverConfig} {receivers : List ReceiverConfig} {tick : Tick} {cursor : Cursor} {target : ScanTarget}
  {id : ReceiverId} {earlier : List Tick} {tunes : List Tune}

theorem tunesOf_concat (state : ScanScheduler × NimController) (events : List Tick) (tick : Tick) :
    tunesOf id state (events ++ [tick]) =
      tunesOf id state events ++ tunesIn ((ticks state events).1.tickCalls tick).2 tick.now id := by
  induction events generalizing state with
  | nil => simp [tunesOf, ticks]
  | cons first rest ih =>
    rw [List.cons_append, tunesOf, ih, tunesOf, List.append_assoc]
    rfl

/-! ## One cursor -/

theorem foldl_tunes_other (apart : id ∉ receivers.map (·.receiver)) (state : ScanScheduler × List TuneCall) :
    tunesIn (receivers.foldl (noteCall statuses now) state).2 now id = tunesIn state.2 now id := by
  induction receivers generalizing state with
  | nil => rfl
  | cons first rest ih =>
    rw [List.map_cons, List.mem_cons, not_or] at apart
    rw [List.foldl_cons, ih apart.2]
    unfold noteCall
    rcases follow (state.1.cursors first.receiver) first statuses now with ⟨cursor, _ | target⟩
    · simp [tunesIn]
    · simp [tunesIn, Ne.symm apart.1]

/-- What a receiver is tuned to in a tick is what its cursor says. -/
theorem foldl_tunes (distinct : (receivers.map (·.receiver)).Nodup) (among : receiver ∈ receivers)
    (state : ScanScheduler × List TuneCall) :
    tunesIn (receivers.foldl (noteCall statuses now) state).2 now receiver.receiver =
      tunesIn state.2 now receiver.receiver ++
        ((follow (state.1.cursors receiver.receiver) receiver statuses now).2.map fun target => (now, target)).toList := by
  induction receivers generalizing state with
  | nil => cases among
  | cons first rest ih =>
    rw [List.map_cons, List.nodup_cons] at distinct
    rw [List.foldl_cons]
    rcases List.mem_cons.mp among with rfl | later
    · rw [foldl_tunes_other distinct.1]
      unfold noteCall
      rcases follow (state.1.cursors receiver.receiver) receiver statuses now with ⟨cursor, _ | target⟩ <;> simp [tunesIn]
    · have apart : receiver.receiver ≠ first.receiver := fun same =>
        distinct.1 (same ▸ List.mem_map_of_mem later)
      have still : (noteCall statuses now state first).1.cursors receiver.receiver = state.1.cursors receiver.receiver :=
        Function.update_of_ne apart _ _
      rw [ih distinct.2 later, still]
      congr 1
      unfold noteCall
      rcases follow (state.1.cursors first.receiver) first statuses now with ⟨cursor, _ | target⟩
      · simp [tunesIn]
      · simp [tunesIn, apart.symm]

/-- A cursor after the ticks, and what it has tuned. -/
def followed (receiver : ReceiverConfig) (events : List Tick) : Cursor × List Tune :=
  events.foldl
    (fun state tick =>
      let (cursor, target) := follow state.1 receiver tick.statuses tick.now
      (cursor, state.2 ++ (target.map fun target => (tick.now, target)).toList))
    ({}, [])

theorem followed_concat (events : List Tick) (tick : Tick) :
    followed receiver (events ++ [tick]) =
      ((follow (followed receiver events).1 receiver tick.statuses tick.now).1,
        (followed receiver events).2 ++
          ((follow (followed receiver events).1 receiver tick.statuses tick.now).2.map fun target =>
            (tick.now, target)).toList) :=
  List.foldl_concat ..

theorem ticks_cursor (distinct : (receivers.map (·.receiver)).Nodup) (among : receiver ∈ receivers) (nim : NimController)
    (events : List Tick) :
    (ticks ({ receivers }, nim) events).1.cursors receiver.receiver = (followed receiver events).1 := by
  induction events using List.reverseRecOn with
  | nil => rfl
  | append_singleton events tick ih =>
    have same : (ticks ({ receivers }, nim) events).1.receivers = receivers := ticks_receivers _ _
    rw [ticks_concat, tick_calls, tickCalls, foldl_cursor (same.symm ▸ distinct) (same.symm ▸ among), ih, followed_concat]

theorem tickCalls_tunes (distinct : (receivers.map (·.receiver)).Nodup) (among : receiver ∈ receivers) (nim : NimController)
    (events : List Tick) (tick : Tick) :
    tunesIn ((ticks ({ receivers }, nim) events).1.tickCalls tick).2 tick.now receiver.receiver =
      ((follow (followed receiver events).1 receiver tick.statuses tick.now).2.map fun target => (tick.now, target)).toList := by
  have same : (ticks ({ receivers }, nim) events).1.receivers = receivers := ticks_receivers _ _
  rw [tickCalls, foldl_tunes (same.symm ▸ distinct) (same.symm ▸ among), ticks_cursor distinct among]
  rfl

/-- The scheduler makes the tunes of each receiver's own cursor. -/
theorem tunesOf_followed (distinct : (receivers.map (·.receiver)).Nodup) (among : receiver ∈ receivers) (nim : NimController)
    (events : List Tick) : tunesOf receiver.receiver ({ receivers }, nim) events = (followed receiver events).2 := by
  induction events using List.reverseRecOn with
  | nil => rfl
  | append_singleton events tick ih => rw [tunesOf_concat, ih, tickCalls_tunes distinct among, followed_concat]

/-- Letting go of a lock does not move the cursor. -/
theorem letGo_kept : (letGo cursor receiver now).index = cursor.index ∧ (letGo cursor receiver now).tuned = cursor.tuned ∧
    (letGo cursor receiver now).nextRetune = cursor.nextRetune := by
  unfold letGo
  split <;> exact ⟨rfl, rfl, rfl⟩

/-- What a tick does to the cursor of a receiver that is scanned. -/
theorem follow_cases (scanned : ¬ (receiver.enabled = false ∨ receiver.targets = [])) :
    (lockedIn statuses receiver.receiver = true ∧ follow cursor receiver statuses now =
      ({ cursor with wasLocked := true, hangUntil := 0, nextRetune := now + milliseconds receiver.dwellTime }, none)) ∨
    (lockedIn statuses receiver.receiver = false ∧ (letGo cursor receiver now).hangUntil ≤ now ∧
      (cursor.tuned = true → cursor.nextRetune ≤ now) ∧
      ∃ target, receiver.targets[cursor.index % receiver.targets.length]? = some target ∧
        follow cursor receiver statuses now =
          ({ letGo cursor receiver now with
              index := (cursor.index + 1) % receiver.targets.length
              nextRetune := now + milliseconds receiver.dwellTime
              tuned := true }, some target)) ∨
    (lockedIn statuses receiver.receiver = false ∧
      (now < (letGo cursor receiver now).hangUntil ∨ (cursor.tuned = true ∧ now < cursor.nextRetune)) ∧
      follow cursor receiver statuses now = (letGo cursor receiver now, none)) := by
  obtain ⟨index, tuned, nextRetune⟩ := @letGo_kept now receiver cursor
  unfold follow
  rw [if_neg scanned]
  cases locked : lockedIn statuses receiver.receiver with
  | true => exact .inl ⟨rfl, if_pos rfl⟩
  | false =>
    rw [if_neg Bool.false_ne_true, advance_letGo rfl, index, tuned, nextRetune]
    by_cases hangs : (letGo cursor receiver now).hangUntil > now
    · exact .inr (.inr ⟨rfl, .inl hangs, if_pos hangs⟩)
    rw [if_neg hangs]
    by_cases due : cursor.tuned = false ∨ now ≥ cursor.nextRetune
    · have targets : receiver.targets.length ≠ 0 := fun none => scanned (.inr (List.length_eq_zero_iff.mp none))
      have among : cursor.index % receiver.targets.length < receiver.targets.length := Nat.mod_lt _ (by omega)
      refine .inr (.inl ⟨rfl, not_lt.mp hangs, fun before => ?_, _, List.getElem?_eq_getElem among, ?_⟩)
      · exact due.resolve_left (by simp [before])
      · rw [if_pos due, List.getElem?_eq_getElem among]
    · obtain ⟨before, early⟩ := not_or.mp due
      exact .inr (.inr ⟨rfl, .inr ⟨by simpa using before, not_le.mp early⟩, if_neg due⟩)

/-! ## Where a cursor stands -/

/-- The tick tunes the receiver, or finds it locked. -/
def Touches (receiver : ReceiverConfig) (earlier : List Tick) (tick : Tick) : Prop :=
  lockedIn tick.statuses receiver.receiver = true ∨
    (follow (followed receiver earlier).1 receiver tick.statuses tick.now).2.isSome = true

/-- What the tunes so far say of the cursor. -/
structure Rotates (receiver : ReceiverConfig) (cursor : Cursor) (tunes : List Tune) (earlier : List Tick) : Prop where
  index : cursor.index % receiver.targets.length = tunes.length % receiver.targets.length
  entries : ∀ k tune, tunes[k]? = some tune → receiver.targets[k % receiver.targets.length]? = some tune.2
  apart : tunes.IsChain fun one next => one.1 + milliseconds receiver.dwellTime ≤ next.1
  tuned : cursor.tuned = true ↔ tunes ≠ []
  past : ∀ tune ∈ tunes, ∃ tick ∈ earlier, tune.1 = tick.now
  pending : ∀ tune ∈ tunes.getLast?, tune.1 + milliseconds receiver.dwellTime ≤ cursor.nextRetune
  touched : cursor.tuned = true → ∃ before last since, earlier = before ++ last :: since ∧ Touches receiver before last ∧
    cursor.nextRetune = last.now + milliseconds receiver.dwellTime
  unhung : earlier.foldl (Hold.next receiver.receiver) .never = .never → cursor.wasLocked = false ∧ cursor.hangUntil = 0

/-- A receiver that has never been locked has never been let go of. -/
theorem hold_never {hold : Hold} (never : hold.next id tick = .never) : hold = .never := by
  unfold Hold.next at never
  split at never
  · cases never
  · cases hold with
    | never => rfl
    | locked => cases never
    | lost since => cases never

theorem letGo_never (open_ : cursor.wasLocked = false) : letGo cursor receiver now = cursor :=
  if_neg (by rw [open_]; exact Bool.false_ne_true)

/-- A tick that leaves the receiver alone. -/
theorem Rotates.passed (rotates : Rotates receiver cursor tunes earlier) (now : Time) :
    Rotates receiver (letGo cursor receiver now) tunes (earlier ++ [tick]) := by
  obtain ⟨index, tuned, nextRetune⟩ := @letGo_kept now receiver cursor
  refine ⟨index ▸ rotates.index, rotates.entries, rotates.apart, tuned ▸ rotates.tuned, ?_, ?_, ?_, ?_⟩
  · intro tune among
    obtain ⟨made, found, same⟩ := rotates.past tune among
    exact ⟨made, List.mem_append_left _ found, same⟩
  · rw [nextRetune]
    exact rotates.pending
  · intro before
    obtain ⟨front, last, since, split, touched, due⟩ := rotates.touched (tuned ▸ before)
    exact ⟨front, last, since ++ [tick], by simp [split], touched, nextRetune.trans due⟩
  · intro never
    rw [List.foldl_concat] at never
    have untouched := rotates.unhung (hold_never never)
    rw [letGo_never untouched.1]
    exact untouched

/-- A tick that finds the receiver locked puts the next tune off. -/
theorem Rotates.locks (rotates : Rotates receiver cursor tunes earlier) (ordered : ∀ before ∈ earlier, before.now ≤ tick.now)
    (locked : lockedIn tick.statuses receiver.receiver = true) :
    Rotates receiver
      { cursor with wasLocked := true, hangUntil := 0, nextRetune := tick.now + milliseconds receiver.dwellTime } tunes
      (earlier ++ [tick]) := by
  refine ⟨rotates.index, rotates.entries, rotates.apart, rotates.tuned, ?_, ?_, ?_, ?_⟩
  · intro tune among
    obtain ⟨made, found, same⟩ := rotates.past tune among
    exact ⟨made, List.mem_append_left _ found, same⟩
  · intro tune last
    obtain ⟨made, found, same⟩ := rotates.past tune (List.mem_of_mem_getLast? last)
    exact Int.add_le_add_right (same ▸ ordered made found) _
  · exact fun _ => ⟨earlier, tick, [], rfl, .inl locked, rfl⟩
  · intro never
    rw [List.foldl_concat, Hold.next_locked _ locked] at never
    cases never

/-- A tick that tunes the receiver takes the next target. -/
theorem Rotates.tuning (rotates : Rotates receiver cursor tunes earlier)
    (due : cursor.tuned = true → cursor.nextRetune ≤ tick.now) (held : cursor = (followed receiver earlier).1)
    (entry : receiver.targets[cursor.index % receiver.targets.length]? = some target) {moved : Cursor}
    (tuned : follow cursor receiver tick.statuses tick.now = (moved, some target))
    (shape : moved = { letGo cursor receiver tick.now with
      index := (cursor.index + 1) % receiver.targets.length
      nextRetune := tick.now + milliseconds receiver.dwellTime
      tuned := true }) :
    Rotates receiver moved (tunes ++ [(tick.now, target)]) (earlier ++ [tick]) := by
  subst shape
  refine ⟨?_, ?_, ?_, by simp, ?_, ?_, ?_, ?_⟩
  · rw [List.length_append, List.length_singleton, Nat.mod_mod, Nat.add_mod, rotates.index, ← Nat.add_mod]
  · intro k tune found
    rcases Nat.lt_trichotomy k tunes.length with before | rfl | beyond
    · rw [List.getElem?_append_left before] at found
      exact rotates.entries k tune found
    · obtain rfl : (tick.now, target) = tune := by simpa using found
      rw [← rotates.index]
      exact entry
    · rw [List.getElem?_eq_none (by simp; omega)] at found
      cases found
  · refine List.isChain_append.mpr ⟨rotates.apart, List.isChain_singleton _, fun last among next first => ?_⟩
    obtain rfl : (tick.now, target) = next := by simpa using first
    have started : tunes ≠ [] := List.ne_nil_of_mem (List.mem_of_mem_getLast? among)
    exact (rotates.pending last among).trans (due (rotates.tuned.mpr started))
  · intro tune among
    rcases List.mem_append.mp among with before | here
    · obtain ⟨made, found, same⟩ := rotates.past tune before
      exact ⟨made, List.mem_append_left _ found, same⟩
    · obtain rfl := List.mem_singleton.mp here
      exact ⟨tick, by simp, rfl⟩
  · intro tune last
    obtain rfl : (tick.now, target) = tune := by simpa using last
    exact Int.le_refl _
  · refine fun _ => ⟨earlier, tick, [], rfl, .inr ?_, rfl⟩
    rw [← held, tuned]
    rfl
  · intro never
    rw [List.foldl_concat] at never
    have untouched := rotates.unhung (hold_never never)
    rw [letGo_never untouched.1]
    exact untouched

theorem rotates_followed (scanned : ¬ (receiver.enabled = false ∨ receiver.targets = [])) (events : List Tick)
    (ordered : events.Pairwise fun one next => one.now ≤ next.now) :
    Rotates receiver (followed receiver events).1 (followed receiver events).2 events := by
  induction events using List.reverseRecOn with
  | nil => exact ⟨rfl, nofun, List.isChain_nil, by simp [followed], nofun, nofun, nofun, fun _ => ⟨rfl, rfl⟩⟩
  | append_singleton earlier tick ih =>
    obtain ⟨ordered, -, past⟩ := List.pairwise_append.mp ordered
    have ready := ih ordered
    have before : ∀ made ∈ earlier, made.now ≤ tick.now := fun made among => past made among tick (by simp)
    rw [followed_concat]
    rcases @follow_cases tick.statuses tick.now receiver (followed receiver earlier).1 scanned with
      ⟨locked, same⟩ | ⟨-, -, due, target, entry, same⟩ | ⟨-, -, same⟩
    · rw [same]
      simpa using ready.locks before locked
    · have made := ready.tuning due rfl entry same rfl
      rw [same]
      exact made
    · rw [same]
      simpa using ready.passed tick.now

/-! ## The end of the hang time -/

theorem hold_locked_split (locked : earlier.foldl (Hold.next id) .never = .locked) :
    ∃ before last, earlier = before ++ [last] ∧ lockedIn last.statuses id = true := by
  induction earlier using List.reverseRecOn with
  | nil => cases locked
  | append_singleton before last _ =>
    rw [List.foldl_concat] at locked
    unfold Hold.next at locked
    split at locked
    · exact ⟨before, last, rfl, ‹_›⟩
    · split at locked
      · cases locked
      · exact absurd locked ‹_›

theorem hold_lost_split {since : Time} (lost : earlier.foldl (Hold.next id) .never = .lost since) :
    ∃ before last first rest, earlier = before ++ last :: first :: rest ∧ lockedIn last.statuses id = true ∧
      (∀ tick ∈ first :: rest, lockedIn tick.statuses id = false) ∧ first.now = since := by
  induction earlier using List.reverseRecOn with
  | nil => cases lost
  | append_singleton earlier tick ih =>
    rw [List.foldl_concat] at lost
    unfold Hold.next at lost
    split at lost
    · cases lost
    · rename_i unlocked
      rw [Bool.not_eq_true] at unlocked
      split at lost
      · rename_i locked
        obtain ⟨before, last, rfl, held⟩ := hold_locked_split locked
        exact ⟨before, last, tick, [], by simp, held, by simpa using unlocked, Hold.lost.inj lost⟩
      · obtain ⟨before, last, first, rest, rfl, held, quiet, same⟩ := ih lost
        refine ⟨before, last, first, rest ++ [tick], by simp, held, ?_, same⟩
        rw [← List.cons_append]
        intro later among
        rcases List.mem_append.mp among with within | here
        · exact quiet later within
        · exact List.mem_singleton.mp here ▸ unlocked

/-- The receiver is without a lock, past its hang time if it had one, and has never
been tuned or has rested for its dwell time since it was last tuned or locked. -/
structure Due (receivers : List ReceiverConfig) (nim : NimController) (receiver : ReceiverConfig) (earlier : List Tick)
    (tick : Tick) : Prop where
  unlocked : lockedIn tick.statuses receiver.receiver = false
  hung : ∀ before last since, earlier = before ++ last :: since → lockedIn last.statuses receiver.receiver = true →
    (∀ later ∈ since, lockedIn later.statuses receiver.receiver = false) →
    ∀ first, (since ++ [tick]).head? = some first → first.now + milliseconds receiver.hangTime ≤ tick.now
  rested : tunesOf receiver.receiver ({ receivers }, nim) earlier = [] ∨
    ∀ before last since, earlier = before ++ last :: since →
      (lockedIn last.statuses receiver.receiver = true ∨
        tunesIn ((ticks ({ receivers }, nim) before).1.tickCalls last).2 last.now receiver.receiver ≠ []) →
      last.now + milliseconds receiver.dwellTime ≤ tick.now

variable {nim : NimController}

theorem Due.hangUntil_le (due : Due receivers nim receiver earlier tick)
    (marks : Marks receiver cursor (earlier.foldl (Hold.next receiver.receiver) .never))
    (rotates : Rotates receiver cursor tunes earlier) (started : 0 ≤ tick.now) :
    (letGo cursor receiver tick.now).hangUntil ≤ tick.now := by
  cases hold : earlier.foldl (Hold.next receiver.receiver) .never with
  | never =>
    have untouched := rotates.unhung hold
    rw [letGo_never untouched.1, untouched.2]
    exact started
  | locked =>
    obtain ⟨before, last, split, locked⟩ := hold_locked_split hold
    rw [hold] at marks
    have held : cursor.wasLocked = true := marks
    rw [letGo, if_pos held]
    exact due.hung before last [] split locked (by simp) tick rfl
  | lost since =>
    obtain ⟨before, last, first, rest, split, locked, quiet, same⟩ := hold_lost_split hold
    rw [hold] at marks
    rw [letGo_never marks.1, marks.2, ← same]
    exact due.hung before last (first :: rest) split locked quiet first rfl

/-- A receiver that is due is tuned. -/
theorem tuned_of_due (distinct : (receivers.map (·.receiver)).Nodup) (among : receiver ∈ receivers)
    (scanned : ¬ (receiver.enabled = false ∨ receiver.targets = []))
    (ordered : earlier.Pairwise fun one next => one.now ≤ next.now) (due : Due receivers nim receiver earlier tick)
    (started : 0 ≤ tick.now) :
    ∃ target, (follow (followed receiver earlier).1 receiver tick.statuses tick.now).2 = some target := by
  have rotates := rotates_followed scanned earlier ordered
  have marks := ticks_cursor distinct among nim earlier ▸ marks_run distinct among scanned nim earlier
  have hangs := due.hangUntil_le marks rotates started
  rcases @follow_cases tick.statuses tick.now receiver (followed receiver earlier).1 scanned with
    ⟨locked, -⟩ | ⟨-, -, -, target, -, same⟩ | ⟨-, waits, -⟩
  · rw [due.unlocked] at locked
    cases locked
  · exact ⟨target, by rw [same]⟩
  · rcases waits with hanging | ⟨tuned, early⟩
    · exact absurd hangs (not_le.mpr hanging)
    · have started := rotates.tuned.mp tuned
      rw [← tunesOf_followed distinct among nim] at started
      obtain ⟨before, last, since, split, touched, at_⟩ := rotates.touched tuned
      have rested := due.rested.resolve_left started before last since split
      rw [tickCalls_tunes distinct among] at rested
      refine absurd (rested (touched.imp_right fun made => ?_)) (not_le.mpr (at_ ▸ early))
      obtain ⟨target, same⟩ := Option.isSome_iff_exists.mp made
      simp [same]

/-- The tunes of a receiver go through its targets in turn and are its dwell time
apart, and a receiver that is scanned is tuned when it is due. -/
theorem targets_rotate (distinct : (receivers.map (·.receiver)).Nodup) (among : receiver ∈ receivers) (nim : NimController)
    (events : List Tick) (ordered : events.Pairwise fun one next => one.now ≤ next.now) :
    (∀ k tune, (tunesOf receiver.receiver ({ receivers }, nim) events)[k]? = some tune →
        receiver.targets[k % receiver.targets.length]? = some tune.2) ∧
      (tunesOf receiver.receiver ({ receivers }, nim) events).IsChain
        (fun one next => one.1 + milliseconds receiver.dwellTime ≤ next.1) ∧
      ∀ earlier tick later, events = earlier ++ tick :: later → receiver.enabled = true → receiver.targets ≠ [] →
        0 ≤ tick.now → Due receivers nim receiver earlier tick →
        ∃ target, tunesIn ((ticks ({ receivers }, nim) earlier).1.tickCalls tick).2 tick.now receiver.receiver =
          [(tick.now, target)] := by
  rw [tunesOf_followed distinct among]
  by_cases scanned : receiver.enabled = false ∨ receiver.targets = []
  · have never : (followed receiver events).2 = [] := by
      clear ordered
      induction events using List.reverseRecOn with
      | nil => rfl
      | append_singleton events tick ih => rw [followed_concat, ih, follow, if_pos scanned]; rfl
    rw [never]
    refine ⟨nofun, List.isChain_nil, fun earlier tick later _ enabled targets => ?_⟩
    rcases scanned with disabled | none
    · rw [disabled] at enabled
      cases enabled
    · exact absurd none targets
  · have rotates := rotates_followed scanned events ordered
    refine ⟨rotates.entries, rotates.apart, ?_⟩
    rintro earlier tick later rfl - - started due
    obtain ⟨target, tuned⟩ := tuned_of_due distinct among scanned (List.pairwise_append.mp ordered).1 due started
    exact ⟨target, by rw [tickCalls_tunes distinct among, tuned]; rfl⟩

/-- A receiver with two targets, which locks to the first one and loses it. -/
theorem two_targets_rotate :
    let receiver : ReceiverConfig := { receiver := ⟨1⟩, targets := [{ symbolRateKs := 333 }, { symbolRateKs := 1500 }] }
    let nim := NimController.initialise fun _ => true
    let events : List Tick := [{}, { statuses := [{ receiver := ⟨1⟩, state := .lockedDvbs2 }], now := seconds 1 },
      { now := seconds 2 }, { now := seconds 7 }, { now := seconds 9 }]
    (∀ k tune, (tunesOf receiver.receiver ({ receivers := [receiver] }, nim) events)[k]? = some tune →
        receiver.targets[k % receiver.targets.length]? = some tune.2) ∧
      (tunesOf receiver.receiver ({ receivers := [receiver] }, nim) events).IsChain
        (fun one next => one.1 + milliseconds receiver.dwellTime ≤ next.1) ∧
      ∀ earlier tick later, events = earlier ++ tick :: later → receiver.enabled = true → receiver.targets ≠ [] →
        0 ≤ tick.now → Due [receiver] nim receiver earlier tick →
        ∃ target, tunesIn ((ticks ({ receivers := [receiver] }, nim) earlier).1.tickCalls tick).2 tick.now receiver.receiver =
          [(tick.now, target)] := by
  intro receiver nim events
  have distinct : ([receiver].map (·.receiver)).Nodup := List.nodup_singleton _
  have among : receiver ∈ [receiver] := List.mem_cons_self
  exact targets_rotate distinct among nim events (by decide)

/-- Whenever it is due, the receiver is tuned. -/
def TunedWhenDue (receivers : List ReceiverConfig) (nim : NimController) (receiver : ReceiverConfig) : Prop :=
  ∀ earlier tick, ((earlier ++ [tick]).Pairwise fun one next => one.now ≤ next.now) →
    Due receivers nim receiver earlier tick →
    tunesIn ((ticks ({ receivers }, nim) earlier).1.tickCalls tick).2 tick.now receiver.receiver ≠ []

theorem due_first (receiver : ReceiverConfig) (receivers : List ReceiverConfig) (nim : NimController) (now : Time) :
    Due receivers nim receiver [] { now } :=
  ⟨rfl, fun before last since split => by simp at split, .inl rfl⟩

/-- The scanner passes over a disabled receiver and one without targets, and before
the clock's epoch over every one: a hang time that was never set ends there. -/
theorem passed_over :
    let off : ReceiverConfig := { receiver := ⟨1⟩, enabled := false, targets := [{}] }
    let bare : ReceiverConfig := { receiver := ⟨2⟩ }
    let scanned : ReceiverConfig := { receiver := ⟨3⟩, targets := [{}] }
    let nim := NimController.initialise fun _ => true
    ¬ TunedWhenDue [off, bare, scanned] nim off ∧ ¬ TunedWhenDue [off, bare, scanned] nim bare ∧
      ¬ TunedWhenDue [off, bare, scanned] nim scanned := by
  refine ⟨fun always => ?_, fun always => ?_, fun always => ?_⟩
  · exact always [] { now := 0 } (by simp) (due_first ..) (by decide)
  · exact always [] { now := 0 } (by simp) (due_first ..) (by decide)
  · exact always [] { now := -1 } (by simp) (due_first ..) (by decide)

end ScanScheduler
end WhRepeater
