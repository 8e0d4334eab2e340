import Mathlib.Data.List.Induction
import Mathlib.Data.List.Nodup
import WhRepeater.ScanScheduler

/-! When the scanner may tune (`ScanScheduler::tick`): a receiver that was locked
is left alone until its hang time has passed from the first tick without the
lock on. The calls of a tick are listed beside it. -/
namespace WhRepeater

/-- What one tick is given, and how the tunings in it go. -/
structure Tick where
  statuses : List ReceiverStatus := []
  now : Time := 0
  tunings : ReceiverId → Tuning := fun _ => {}

/-- A call of `NimController::tune`. -/
abbrev TuneCall := ReceiverId × ScanTarget

namespace ScanScheduler

/-- The status of the receiver, which the scheduler looks up, is a locked one. -/
def lockedIn (statuses : List ReceiverStatus) (receiver : ReceiverId) : Bool :=
  (statuses.find? fun status => status.receiver = receiver).any fun status => isLocked status.state

/-- The cursor of one receiver over a tick, and the target it is tuned to. -/
def follow (cursor : Cursor) (receiver : ReceiverConfig) (statuses : List ReceiverStatus) (now : Time) :
    Cursor × Option ScanTarget :=
  if receiver.enabled = false ∨ receiver.targets = [] then (cursor, none)
  else if lockedIn statuses receiver.receiver then
    ({ cursor with wasLocked := true, hangUntil := 0, nextRetune := now + milliseconds receiver.dwellTime }, none)
  else advance cursor receiver now

def noteCall (statuses : List ReceiverStatus) (now : Time) (state : ScanScheduler × List TuneCall) (receiver : ReceiverConfig) :
    ScanScheduler × List TuneCall :=
  let (cursor, target) := follow (state.1.cursors receiver.receiver) receiver statuses now
  ({ state.1 with cursors := Function.update state.1.cursors receiver.receiver cursor },
    state.2 ++ (target.map fun target => (receiver.receiver, target)).toList)

/-- The scheduler after a tick, and the calls in it. -/
def tickCalls (scheduler : ScanScheduler) (tick : Tick) : ScanScheduler × List TuneCall :=
  scheduler.receivers.foldl (noteCall tick.statuses tick.now) (scheduler, [])

def applyCalls (tunings : ReceiverId → Tuning) (calls : List TuneCall) (nim : NimController) : NimController :=
  calls.foldl (fun nim call => nim.tune call.1 call.2 (tunings call.1)) nim

def ticks (state : ScanScheduler × NimController) (events : List Tick) : ScanScheduler × NimController :=
  events.foldl (fun state tick => state.1.tick state.2 tick.statuses tick.tunings tick.now) state

variable {scheduler : ScanScheduler} {nim : NimController} {statuses : List ReceiverStatus} {now : Time}
  {receiver : ReceiverConfig} {receivers : List ReceiverConfig} {tick : Tick} {cursor : Cursor} {target : ScanTarget}

theorem visit_follow (tunings : ReceiverId → Tuning) :
    visit statuses tunings now (scheduler, nim) receiver =
      ((noteCall statuses now (scheduler, []) receiver).1,
        applyCalls tunings (noteCall statuses now (scheduler, []) receiver).2 nim) := by
  unfold visit noteCall follow lockedIn
  dsimp only
  split
  · simp [applyCalls]
  · split
    · rfl
    · rcases advance (scheduler.cursors receiver.receiver) receiver now with ⟨cursor, _ | target⟩ <;> rfl

/-- A tick does nothing to the tuners but its calls. -/
theorem tick_calls :
    scheduler.tick nim tick.statuses tick.tunings tick.now =
      ((scheduler.tickCalls tick).1, applyCalls tick.tunings (scheduler.tickCalls tick).2 nim) := by
  have along : ∀ (receivers : List ReceiverConfig) (scheduler : ScanScheduler) (calls : List TuneCall),
      receivers.foldl (visit tick.statuses tick.tunings tick.now) (scheduler, applyCalls tick.tunings calls nim) =
        ((receivers.foldl (noteCall tick.statuses tick.now) (scheduler, calls)).1,
          applyCalls tick.tunings (receivers.foldl (noteCall tick.statuses tick.now) (scheduler, calls)).2 nim) := by
    intro receivers
    induction receivers with
    | nil => exact fun _ _ => rfl
    | cons receiver rest ih =>
      intro scheduler calls
      rw [List.foldl_cons, List.foldl_cons, visit_follow]
      refine Eq.trans ?_ (ih _ _)
      congr 2
      exact (List.foldl_append ..).symm
  exact along scheduler.receivers scheduler []

/-- The receivers after those of an id leave its cursor alone. -/
theorem foldl_cursor_other {other : ReceiverId} (apart : other ∉ receivers.map (·.receiver))
    (state : ScanScheduler × List TuneCall) :
    (receivers.foldl (noteCall statuses now) state).1.cursors other = state.1.cursors other := by
  induction receivers generalizing state with
  | nil => rfl
  | cons receiver rest ih =>
    rw [List.map_cons, List.mem_cons, not_or] at apart
    rw [List.foldl_cons, ih apart.2]
    exact Function.update_of_ne apart.1 _ _

/-- Each receiver has its own cursor, and makes its own calls. -/
theorem foldl_cursor (distinct : (receivers.map (·.receiver)).Nodup) (among : receiver ∈ receivers)
    (state : ScanScheduler × List TuneCall) :
    (receivers.foldl (noteCall statuses now) state).1.cursors receiver.receiver =
      (follow (state.1.cursors receiver.receiver) receiver statuses now).1 := by
  induction receivers generalizing state with
  | nil => cases among
  | cons first rest ih =>
    rw [List.map_cons, List.nodup_cons] at distinct
    rw [List.foldl_cons]
    rcases List.mem_cons.mp among with rfl | later
    · exact (foldl_cursor_other distinct.1 _).trans (Function.update_self _ _ _)
    · have apart : receiver.receiver ≠ first.receiver := fun same =>
        distinct.1 (same ▸ List.mem_map_of_mem later)
      rw [ih distinct.2 later]
      congr 2
      exact Function.update_of_ne apart _ _

theorem foldl_calls (distinct : (receivers.map (·.receiver)).Nodup) (state : ScanScheduler × List TuneCall) {call : TuneCall}
    (called : call ∈ (receivers.foldl (noteCall statuses now) state).2) :
    call ∈ state.2 ∨ ∃ receiver ∈ receivers, call.1 = receiver.receiver ∧
      (follow (state.1.cursors receiver.receiver) receiver statuses now).2 = some call.2 := by
  induction receivers generalizing state with
  | nil => exact .inl called
  | cons first rest ih =>
    rw [List.map_cons, List.nodup_cons] at distinct
    rcases ih distinct.2 _ called with noted | ⟨receiver, later, mine, followed⟩
    · rcases List.mem_append.mp noted with before | here
      · exact .inl before
      · obtain ⟨target, found, rfl⟩ := Option.map_eq_some_iff.mp (Option.mem_toList.mp here)
        exact .inr ⟨first, List.mem_cons_self, rfl, found⟩
    · refine .inr ⟨receiver, List.mem_cons_of_mem _ later, mine, ?_⟩
      have apart : receiver.receiver ≠ first.receiver := fun same =>
        distinct.1 (same ▸ List.mem_map_of_mem later)
      rw [← followed]
      congr 2
      exact (Function.update_of_ne apart _ _).symm

/-! ## One receiver over the ticks -/

/-- What a receiver's ticks come to: no lock yet, a lock, or a lock that was
lost, with the time of the first tick without it. -/
inductive Hold where
  | never
  | locked
  | lost (since : Time)

def Hold.next (receiver : ReceiverId) (hold : Hold) (tick : Tick) : Hold :=
  if lockedIn tick.statuses receiver then .locked
  else
    match hold with
    | .locked => .lost tick.now
    | hold => hold

theorem Hold.next_locked {id : ReceiverId} (hold : Hold) (locked : lockedIn tick.statuses id = true) :
    hold.next id tick = .locked := if_pos locked

theorem Hold.next_lost {id : ReceiverId} (since : Time) (unlocked : lockedIn tick.statuses id = false) :
    Hold.next id (.lost since) tick = .lost since :=
  if_neg (by rw [unlocked]; exact Bool.false_ne_true)

theorem Hold.locked_next {id : ReceiverId} (unlocked : lockedIn tick.statuses id = false) :
    Hold.next id .locked tick = .lost tick.now :=
  if_neg (by rw [unlocked]; exact Bool.false_ne_true)

/-- The cursor of a receiver that is scanned says how its ticks came. -/
def Marks (receiver : ReceiverConfig) (cursor : Cursor) : Hold → Prop
  | .never => cursor.wasLocked = false
  | .locked => cursor.wasLocked = true
  | .lost since => cursor.wasLocked = false ∧ cursor.hangUntil = since + milliseconds receiver.hangTime

/-- The cursor once a lost lock has been noticed. -/
def letGo (cursor : Cursor) (receiver : ReceiverConfig) (now : Time) : Cursor :=
  if cursor.wasLocked then { cursor with wasLocked := false, hangUntil := now + milliseconds receiver.hangTime } else cursor

theorem letGo_open : (letGo cursor receiver now).wasLocked = false := by
  unfold letGo
  split
  · rfl
  · rename_i unlocked
    exact Bool.eq_false_iff.mpr unlocked

theorem advance_letGo {opened : Cursor} (same : letGo cursor receiver now = opened) :
    advance cursor receiver now =
      if opened.hangUntil > now then (opened, none)
      else if opened.tuned = false ∨ now ≥ opened.nextRetune then
        ({ opened with
            index := (opened.index + 1) % receiver.targets.length
            nextRetune := now + milliseconds receiver.dwellTime
            tuned := true },
          receiver.targets[opened.index % receiver.targets.length]?)
      else (opened, none) := by
  subst same
  rfl

/-- A target is given only after the hang time. -/
theorem advance_spec :
    (advance cursor receiver now).1.wasLocked = false ∧
      (advance cursor receiver now).1.hangUntil = (letGo cursor receiver now).hangUntil ∧
      ∀ target, (advance cursor receiver now).2 = some target →
        (letGo cursor receiver now).hangUntil ≤ now ∧ target ∈ receiver.targets := by
  have released := @letGo_open now receiver cursor
  generalize same : letGo cursor receiver now = opened at released ⊢
  rw [advance_letGo same]
  split
  · exact ⟨released, rfl, nofun⟩
  · rename_i passed
    split
    · exact ⟨released, rfl, fun target found => ⟨not_lt.mp passed, List.mem_of_getElem? found⟩⟩
    · exact ⟨released, rfl, nofun⟩

theorem follow_marks (scanned : ¬ (receiver.enabled = false ∨ receiver.targets = [])) {hold : Hold}
    (marks : Marks receiver cursor hold) :
    Marks receiver (follow cursor receiver tick.statuses tick.now).1 (hold.next receiver.receiver tick) := by
  unfold follow Hold.next
  rw [if_neg scanned]
  split
  · rfl
  · obtain ⟨opened, stays, -⟩ := @advance_spec tick.now receiver cursor
    unfold letGo at stays
    cases hold with
    | never => exact opened
    | locked =>
      have held : cursor.wasLocked = true := marks
      rw [if_pos held] at stays
      exact ⟨opened, stays⟩
    | lost since =>
      rw [if_neg (by rw [marks.1]; exact Bool.false_ne_true)] at stays
      exact ⟨opened, stays.trans marks.2⟩

/-! ## Every sequence of ticks -/

theorem ticks_receivers (state : ScanScheduler × NimController) (events : List Tick) :
    (ticks state events).1.receivers = state.1.receivers := by
  induction events generalizing state with
  | nil => rfl
  | cons tick rest ih => exact (ih _).trans tick_receivers

theorem ticks_concat (state : ScanScheduler × NimController) (events : List Tick) (tick : Tick) :
    ticks state (events ++ [tick]) =
      (ticks state events).1.tick (ticks state events).2 tick.statuses tick.tunings tick.now := List.foldl_concat ..

theorem marks_run (distinct : (receivers.map (·.receiver)).Nodup) (among : receiver ∈ receivers)
    (scanned : ¬ (receiver.enabled = false ∨ receiver.targets = [])) (nim : NimController) (events : List Tick) :
    Marks receiver ((ticks ({ receivers }, nim) events).1.cursors receiver.receiver)
      (events.foldl (Hold.next receiver.receiver) .never) := by
  induction events using List.reverseRecOn with
  | nil => rfl
  | append_singleton events tick ih =>
    have same : (ticks ({ receivers }, nim) events).1.receivers = receivers := ticks_receivers _ _
    rw [ticks_concat, tick_calls, tickCalls, foldl_cursor (same.symm ▸ distinct) (same.symm ▸ among), List.foldl_concat]
    exact follow_marks scanned ih

/-- A lock, and then no lock any more. -/
theorem hold_lost (receiver : ReceiverId) (before : List Tick) {last first : Tick} {since : List Tick}
    (locked : lockedIn last.statuses receiver = true)
    (unlocked : ∀ tick ∈ first :: since, lockedIn tick.statuses receiver = false) :
    (before ++ last :: first :: since).foldl (Hold.next receiver) .never = .lost first.now := by
  have stays : ∀ later : List Tick, (∀ tick ∈ later, lockedIn tick.statuses receiver = false) →
      later.foldl (Hold.next receiver) (.lost first.now) = .lost first.now := by
    intro later
    induction later with
    | nil => exact fun _ => rfl
    | cons tick rest ih =>
      intro unlocked
      rw [List.forall_mem_cons] at unlocked
      rw [List.foldl_cons, Hold.next_lost _ unlocked.1]
      exact ih unlocked.2
  rw [List.forall_mem_cons] at unlocked
  rw [List.foldl_append, List.foldl_cons, Hold.next_locked _ locked, List.foldl_cons, Hold.locked_next unlocked.1]
  exact stays since unlocked.2

/-- The receiver is one that is scanned, and without a lock; if it had one
before, the hang time has passed from the first tick without it on. -/
structure MayTune (receiver : ReceiverConfig) (earlier : List Tick) (tick : Tick) : Prop where
  enabled : receiver.enabled = true
  targets : receiver.targets ≠ []
  unlocked : lockedIn tick.statuses receiver.receiver = false
  hung : ∀ before last since, earlier = before ++ last :: since → lockedIn last.statuses receiver.receiver = true →
    (∀ later ∈ since, lockedIn later.statuses receiver.receiver = false) →
    ∀ first, (since ++ [tick]).head? = some first → first.now + milliseconds receiver.hangTime ≤ tick.now

theorem mayTune_of_follow {earlier : List Tick}
    (marks : ¬ (receiver.enabled = false ∨ receiver.targets = []) →
      Marks receiver cursor (earlier.foldl (Hold.next receiver.receiver) .never))
    (tunes : (follow cursor receiver tick.statuses tick.now).2 = some target) :
    MayTune receiver earlier tick ∧ target ∈ receiver.targets := by
  unfold follow at tunes
  split at tunes
  · cases tunes
  · rename_i scanned
    split at tunes
    · cases tunes
    · rename_i unlocked
      obtain ⟨-, -, given⟩ := @advance_spec tick.now receiver cursor
      obtain ⟨passed, among⟩ := given target tunes
      have marked := marks scanned
      obtain ⟨enabled, targets⟩ := not_or.mp scanned
      refine ⟨⟨by simpa using enabled, targets, by simpa using unlocked, ?_⟩, among⟩
      rintro before last since rfl locked quiet first head
      cases since with
      | nil =>
        -- This tick is the first one without the lock.
        obtain rfl := Option.some.inj head
        rw [List.foldl_concat, Hold.next_locked _ locked] at marked
        have held : cursor.wasLocked = true := marked
        rwa [letGo, if_pos held] at passed
      | cons next since =>
        obtain rfl := Option.some.inj head
        rw [hold_lost receiver.receiver before locked quiet] at marked
        rw [letGo, if_neg (by rw [marked.1]; exact Bool.false_ne_true), marked.2] at passed
        exact passed

/-- A tick tunes by its calls alone, and every call is for a receiver that may
be tuned, to a target of its own. -/
theorem held_receiver_not_retuned (distinct : (receivers.map (·.receiver)).Nodup) (nim : NimController) (earlier : List Tick)
    (tick : Tick) :
    let state := ticks ({ receivers }, nim) earlier
    (ticks ({ receivers }, nim) (earlier ++ [tick])).2 = applyCalls tick.tunings (state.1.tickCalls tick).2 state.2 ∧
      ∀ call ∈ (state.1.tickCalls tick).2, ∃ receiver ∈ receivers, receiver.receiver = call.1 ∧ call.2 ∈ receiver.targets ∧
        MayTune receiver earlier tick := by
  intro state
  have same : state.1.receivers = receivers := ticks_receivers _ _
  refine ⟨by rw [ticks_concat, tick_calls], fun call called => ?_⟩
  unfold tickCalls at called
  rw [same] at called
  rcases foldl_calls distinct _ called with never | ⟨receiver, among, mine, followed⟩
  · cases never
  · obtain ⟨may, target⟩ := mayTune_of_follow (fun scanned => marks_run distinct among scanned nim earlier) followed
    exact ⟨receiver, among, mine.symm, target, may⟩

/-- Two receivers, the first of which is locked, then lost. -/
theorem fading_receiver_not_retuned :
    let receivers : List ReceiverConfig := [{ receiver := ⟨1⟩, targets := [{}] }, { receiver := ⟨2⟩, targets := [{}] }]
    let earlier : List Tick := [{ statuses := [{ receiver := ⟨1⟩, state := .lockedDvbs2 }], now := 7 }, { now := seconds 1 }]
    let state := ticks ({ receivers }, NimController.initialise fun _ => true) earlier
    let tick : Tick := { now := seconds 5 }
    (ticks ({ receivers }, NimController.initialise fun _ => true) (earlier ++ [tick])).2 =
        applyCalls tick.tunings (state.1.tickCalls tick).2 state.2 ∧
      ∀ call ∈ (state.1.tickCalls tick).2, ∃ receiver ∈ receivers, receiver.receiver = call.1 ∧ call.2 ∈ receiver.targets ∧
        MayTune receiver earlier tick :=
  held_receiver_not_retuned (by decide) _ _ _

end ScanScheduler
end WhRepeater
