import WhRepeater.Latch
import WhRepeater.PcGatewayLoop

/-! Which source is on air. Both daemons latch their choice between the digital
source and the capture: the local loop holds the capture for its hang time as
well, the PC takes another source at once. -/
namespace WhRepeater

open Runs

namespace ActiveSourceFamily

/-- The families, in the order in which they are tried. -/
def all : List ActiveSourceFamily := [.nimOrGateway, .analogue]

theorem mem_all (family : ActiveSourceFamily) : family ∈ all := by
  cases family <;> decide

end ActiveSourceFamily

/-- What is asked of a selection: the family on air stays while it has an input,
gives way only when it has none, and the active input is its. -/
structure NotPreempted (input : ActiveSourceFamily → Option ActiveInput) (before after : Option ActiveSourceFamily)
    (active : Option ActiveInput) : Prop where
  kept : ∀ family, before = some family → (input family).isSome = true → after = some family
  switched : ∀ family other, before = some family → after = some other → other ≠ family → input family = none
  selected : active.isSome = after.isSome
  among : ∀ family, after = some family → active = input family

/-- A latched selection is not pre-empted. -/
theorem notPreempted_of_latch {input : ActiveSourceFamily → Option ActiveInput} {before after : Option ActiveSourceFamily}
    {active : Option ActiveInput} (latched : after = Latch.next ActiveSourceFamily.all input before) (bound : active = after.bind input) :
    NotPreempted input before after active := by
  constructor
  · intro family held usable
    rw [latched, held, Latch.next_of_input usable]
  · intro family other held chosen
    exact Latch.gone_of_switched held (latched.symm.trans chosen)
  · rw [bound]
    cases chosen : after with
    | none => rfl
    | some family =>
      rw [Option.bind_some]
      exact Latch.input_of_next (latched.symm.trans chosen)
  · intro family chosen
    rw [bound, chosen, Option.bind_some]

/-! ## The local loop -/

/-- What one iteration has to select from. -/
structure Availability where
  now : Time := 0
  nimActive : Option ActiveInput := none
  gatedAnalogueStatus : AnalogueStatus := {}
  deviceExists : Bool := false

/-- The loop, and when the capture on air was last usable, with its input then. -/
structure LocalRun where
  loop : GatewayLoop
  heard : Option (Time × ActiveInput) := none

namespace LocalRun

def analogueInput (run : LocalRun) (available : Availability) : Option ActiveInput :=
  analogueActiveInput run.loop.config available.gatedAnalogueStatus available.deviceExists

/-- The last input of the capture, inside its hang hold. -/
def heldInput (run : LocalRun) (available : Availability) : Option ActiveInput :=
  run.heard.bind fun heard =>
    if available.now < heard.1 + hangTimeForReceiver run.loop.config run.loop.config.analogue.capture.receiver then some heard.2
    else none

/-- The input each family has, as the run stands. -/
def input (run : LocalRun) (available : Availability) : ActiveSourceFamily → Option ActiveInput
  | .nimOrGateway => available.nimActive
  | .analogue => (run.analogueInput available).or (run.heldInput available)

def select (run : LocalRun) (available : Availability) : GatewayLoop :=
  ({ run.loop with nimActive := available.nimActive } : GatewayLoop).selectActive (run.analogueInput available) available.now

def step (run : LocalRun) (available : Availability) : Option LocalRun :=
  let loop := run.select available
  some {
    loop
    heard :=
      if loop.activeSourceFamily = some .analogue then
        ((run.analogueInput available).map fun input => (available.now, input)).or run.heard
      else none }

/-- The hold of the loop is that of the capture on air. -/
structure Consistent (run : LocalRun) : Prop where
  localMode : run.loop.gatewayMode = false
  held : run.loop.activeSourceFamily = some .analogue → ∃ heard, run.heard = some heard ∧
    run.loop.heldAnalogueActive = some heard.2 ∧ heard.2.receiver = run.loop.config.analogue.capture.receiver ∧
    run.loop.heldAnalogueUntil = heard.1 + hangTimeForReceiver run.loop.config run.loop.config.analogue.capture.receiver
  other : run.loop.activeSourceFamily ≠ some .analogue → run.heard = none

variable {run next : LocalRun} {available : Availability} {captured : ActiveInput}

theorem captured_receiver (found : run.analogueInput available = some captured) :
    captured.receiver = run.loop.config.analogue.capture.receiver :=
  (GatewayLoop.analogueActiveInput_fromCapture found).2

theorem heldInput_of_heard {heard : Time × ActiveInput} (found : run.heard = some heard) : run.heldInput available =
    if available.now < heard.1 + hangTimeForReceiver run.loop.config run.loop.config.analogue.capture.receiver then
      some heard.2 else none := by
  rw [heldInput, found, Option.bind_some]

/-- What a selection leaves: the latched family, with the input it has, and the
hold, renewed while the capture is usable. -/
structure Selected (run : LocalRun) (available : Availability) (after : GatewayLoop) : Prop where
  latched : after.activeSourceFamily = Latch.next ActiveSourceFamily.all (run.input available) run.loop.activeSourceFamily
  active : after.active = after.activeSourceFamily.bind (run.input available)
  standing : after.config = run.loop.config ∧ after.gatewayMode = run.loop.gatewayMode
  held : after.activeSourceFamily = some .analogue →
    (run.analogueInput available = none → run.loop.activeSourceFamily = some .analogue) ∧
      after.heldAnalogueActive = (run.analogueInput available).or run.loop.heldAnalogueActive ∧
      after.heldAnalogueUntil = ((run.analogueInput available).map fun input =>
        available.now + hangTimeForReceiver run.loop.config input.receiver).getD run.loop.heldAnalogueUntil

theorem select_selected (consistent : Consistent run) : Selected run available (run.select available) := by
  obtain ⟨localMode, held, other⟩ := consistent
  have mine := @captured_receiver run available
  unfold select GatewayLoop.selectActive
  dsimp only
  rw [if_neg (by simp [localMode])]
  cases family : run.loop.activeSourceFamily with
  | none =>
    have silent := other (by simp [family])
    cases nim : available.nimActive <;> cases analogue : run.analogueInput available <;> constructor <;>
      simp [GatewayLoop.selectLocal, GatewayLoop.continueFamily, GatewayLoop.finishSelection, GatewayLoop.hold, family,
        Latch.next, Latch.first, ActiveSourceFamily.all, input, heldInput, nim, analogue, silent, GatewayLoop.forRouter, mine]
  | some standing =>
    cases standing with
    | nimOrGateway =>
      have silent := other (by simp [family])
      cases nim : available.nimActive <;> cases analogue : run.analogueInput available <;> constructor <;>
        simp [GatewayLoop.selectLocal, GatewayLoop.continueFamily, GatewayLoop.finishSelection, GatewayLoop.hold, family,
          Latch.next, Latch.first, Option.filter_some, ActiveSourceFamily.all, input, heldInput, nim, analogue, silent,
          GatewayLoop.forRouter, mine]
    | analogue =>
      obtain ⟨heard, found, holds, receiver, until_⟩ := held family
      have kept := @heldInput_of_heard run available heard found
      split_ifs at kept with inside <;> cases nim : available.nimActive <;>
        cases analogue : run.analogueInput available <;> constructor <;>
        simp [GatewayLoop.selectLocal, GatewayLoop.continueFamily, GatewayLoop.finishSelection, GatewayLoop.hold, family,
          Latch.next, Latch.first, Option.filter_some, ActiveSourceFamily.all, input, nim, analogue, kept, holds, until_, inside,
          GatewayLoop.forRouter, mine, receiver]

theorem step_spec (consistent : Consistent run) (stepped : run.step available = some next) :
    Consistent next ∧ NotPreempted (run.input available) run.loop.activeSourceFamily next.loop.activeSourceFamily next.loop.active := by
  obtain rfl := Option.some.inj stepped
  obtain ⟨latched, active, ⟨config, gatewayMode⟩, renewed⟩ := @select_selected run available consistent
  refine ⟨⟨gatewayMode.trans consistent.localMode, fun onAir => ?_, fun off => if_neg off⟩, notPreempted_of_latch latched active⟩
  obtain ⟨was, holds, until_⟩ := renewed onAir
  dsimp only
  rw [if_pos onAir, config, holds, until_]
  cases analogue : run.analogueInput available with
  | some captured => exact ⟨(available.now, captured), rfl, rfl, captured_receiver analogue,
    by rw [Option.map_some, Option.getD_some, captured_receiver analogue]⟩
  | none => exact consistent.held (was analogue)

/-- What the selection goes by. -/
def selecting (loop : GatewayLoop) : RepeaterConfig × Bool × Option ActiveInput × Time × Option ActiveSourceFamily :=
  (loop.config, loop.gatewayMode, loop.heldAnalogueActive, loop.heldAnalogueUntil, loop.activeSourceFamily)

theorem Consistent.of_selecting {loop prepared : GatewayLoop} {heard : Option (Time × ActiveInput)}
    (consistent : Consistent ⟨loop, heard⟩) (same : selecting prepared = selecting loop) : Consistent ⟨prepared, heard⟩ := by
  simp only [selecting, Prod.mk.injEq] at same
  obtain ⟨config, mode, active, until_, family⟩ := same
  obtain ⟨localMode, held, other⟩ := consistent
  constructor
  · exact mode.trans localMode
  · dsimp only at held ⊢
    rw [config, active, until_, family]
    exact held
  · dsimp only at other ⊢
    rw [family]
    exact other

theorem gateAnalogue_selecting (loop : GatewayLoop) (status : AnalogueStatus) (now : Time) :
    selecting (loop.gateAnalogue status now).2 = selecting loop := by
  unfold GatewayLoop.gateAnalogue
  split <;> rfl

/-- An iteration of the local loop without a new configuration is a step of this
machine, from what the scan, the debounce and the arbitration have left. -/
theorem iterate_step (loop : GatewayLoop) (iteration : Iteration) (unchanged : iteration.pendingConfig = none)
    (heard : Option (Time × ActiveInput)) :
    ∃ prepared available next, selecting prepared = selecting loop ∧ available.now = iteration.now ∧
      step ⟨prepared, heard⟩ available = some next ∧ next.loop = loop.iterate iteration := by
  have configured : loop.configured iteration = loop := by rw [GatewayLoop.configured, unchanged, Option.elim_none]
  let scanned := loop.scan iteration
  let status := if scanned.config.analogue.capture.enabled then iteration.analogueStatus else disabledAnalogueStatus iteration.now
  let gated := scanned.gateAnalogue status iteration.now
  have same : selecting gated.2 = selecting loop := gateAnalogue_selecting scanned status iteration.now
  refine ⟨gated.2.chooseNim, ⟨iteration.now, gated.2.chooseNim.nimActive, gated.1, iteration.deviceExists⟩, _, same, rfl, rfl, ?_⟩
  unfold GatewayLoop.iterate
  rw [configured]
  rfl

/-- So it does not pre-empt the family on air either. -/
theorem iterate_spec {loop : GatewayLoop} {heard : Option (Time × ActiveInput)} (consistent : Consistent ⟨loop, heard⟩)
    (iteration : Iteration) (unchanged : iteration.pendingConfig = none) :
    ∃ input next, Consistent next ∧ next.loop = loop.iterate iteration ∧
      NotPreempted input loop.activeSourceFamily next.loop.activeSourceFamily next.loop.active := by
  obtain ⟨prepared, available, next, same, -, stepped, iterated⟩ := iterate_step loop iteration unchanged heard
  obtain ⟨kept, notPreempted⟩ := step_spec (consistent.of_selecting same) stepped
  have family : prepared.activeSourceFamily = loop.activeSourceFamily := by
    simp only [selecting, Prod.mk.injEq] at same
    exact same.2.2.2.2
  exact ⟨_, next, kept, iterated, family ▸ notPreempted⟩

end LocalRun

/-! ## The loop of the PC -/

namespace PcGatewayLoop

/-- The input each family has. -/
def input (loop : PcGatewayLoop) (iteration : PcIteration) : ActiveSourceFamily → Option ActiveInput
  | .nimOrGateway => iteration.gatewayActive
  | .analogue => loop.analogueInput iteration

variable {loop next : PcGatewayLoop} {iteration : PcIteration} {gateway : Option (ActiveInput × ActiveInput)}
  {oneDecimal : DoubleBits → Bytes} {stod : Bytes → Option DoubleBits}

theorem gatewayInputs_active (read : gatewayInputs stod iteration = .ok gateway) :
    gateway.map Prod.fst = iteration.gatewayActive := by
  unfold gatewayInputs at read
  cases found : iteration.gatewayActive with
  | none =>
    rw [found] at read
    cases read
    rfl
  | some input =>
    rw [found] at read
    dsimp only at read
    cases shown : mediaDisplayInput stod input (iteration.latestRemoteGatewayStatus.getD []) with
    | error => rw [shown] at read; cases read
    | ok media =>
      rw [shown] at read
      cases read
      rfl

/-- The selection is latched. -/
theorem selectSource_latch (read : gateway.map Prod.fst = iteration.gatewayActive) :
    (loop.selectSource gateway (loop.analogueInput iteration)).activeSourceFamily =
        Latch.next ActiveSourceFamily.all (loop.input iteration) loop.activeSourceFamily ∧
      (loop.selectSource gateway (loop.analogueInput iteration)).active =
        (loop.selectSource gateway (loop.analogueInput iteration)).activeSourceFamily.bind (loop.input iteration) := by
  cases family : loop.activeSourceFamily with
  | none =>
    cases gateway <;> cases analogue : loop.analogueInput iteration <;>
      simp [selectSource, continueFamily, onAir, offAir, family, Latch.next, Latch.first, ActiveSourceFamily.all, input, ← read,
        analogue]
  | some standing =>
    cases standing <;> cases gateway <;> cases analogue : loop.analogueInput iteration <;>
      simp [selectSource, continueFamily, onAir, offAir, family, Latch.next, Latch.first, Option.filter_some,
        ActiveSourceFamily.all, input, ← read, analogue]

/-- What the notices leave alone. -/
def selection (loop : PcGatewayLoop) : RepeaterConfig × Option ActiveSourceFamily × Option ActiveInput × Option ActiveInput :=
  (loop.config, loop.activeSourceFamily, loop.active, loop.mediaActive)

theorem leavePc_selection {now : Time} : (loop.leavePc oneDecimal now).selection = loop.selection := by
  unfold leavePc
  split <;> rfl

theorem updateNotice_selection : (loop.updateNotice oneDecimal iteration).selection = loop.selection := by
  unfold updateNotice
  split
  · rfl
  · exact leavePc_selection
  · unfold idleNotice
    split
    · rfl
    · rfl
    · split <;> rfl

/-- The selection of an iteration, the notice it makes, and what it hands over. -/
theorem step_eq_some : loop.step oneDecimal stod iteration = some next ↔
    ∃ gateway, gatewayInputs stod iteration = .ok gateway ∧
      next = { (loop.selectSource gateway (loop.analogueInput iteration)).updateNotice oneDecimal iteration with
        handed := some (((loop.selectSource gateway (loop.analogueInput iteration)).updateNotice oneDecimal iteration).accessNotice,
          ((loop.selectSource gateway (loop.analogueInput iteration)).updateNotice oneDecimal iteration).accessNoticeEndTone) } := by
  unfold step iterate
  cases gatewayInputs stod iteration with
  | error text => simp [Except.toOption, bind, Except.bind]
  | ok gateway => simp [Except.toOption, bind, Except.bind, pure, Except.pure, eq_comm]

theorem step_latch (stepped : loop.step oneDecimal stod iteration = some next) :
    next.activeSourceFamily = Latch.next ActiveSourceFamily.all (loop.input iteration) loop.activeSourceFamily ∧
      next.active = next.activeSourceFamily.bind (loop.input iteration) := by
  obtain ⟨gateway, read, rfl⟩ := step_eq_some.mp stepped
  have kept := @updateNotice_selection (loop.selectSource gateway (loop.analogueInput iteration)) iteration oneDecimal
  obtain ⟨latched, active⟩ := @selectSource_latch loop iteration gateway (gatewayInputs_active read)
  simp only [selection, Prod.mk.injEq] at kept
  obtain ⟨-, family, same, -⟩ := kept
  refine ⟨family.trans latched, ?_⟩
  dsimp only
  rw [same, active, family]

end PcGatewayLoop

/-- From a start or a reload on, neither loop lets a source be pre-empted. -/
theorem families_not_preempted (oneDecimal : DoubleBits → Bytes) (stod : Bytes → Option DoubleBits) (loop : GatewayLoop)
    (pc : PcGatewayLoop) (availables : List Availability) (iterations : List PcIteration)
    (localMode : loop.gatewayMode = false) (fresh : loop.activeSourceFamily = none) :
    Throughout LocalRun.step
        (fun before available after => NotPreempted (before.input available) before.loop.activeSourceFamily
          after.loop.activeSourceFamily after.loop.active) ⟨loop, none⟩ availables ∧
      Throughout (PcGatewayLoop.step oneDecimal stod)
        (fun before iteration after => NotPreempted (before.input iteration) before.activeSourceFamily
          after.activeSourceFamily after.active) pc iterations := by
  constructor
  · refine throughout_of_invariant LocalRun.Consistent (fun _ _ _ => LocalRun.step_spec) ?_
    exact ⟨localMode, fun onAir => absurd onAir (by simp [fresh]), fun _ => rfl⟩
  · refine throughout_of_invariant (fun _ => True) (fun loop iteration next _ stepped => ?_) trivial
    obtain ⟨latched, active⟩ := PcGatewayLoop.step_latch stepped
    exact ⟨trivial, notPreempted_of_latch latched active⟩

/-- A capture that is usable. -/
def usableCapture : AnalogueStatus := { enabled := true, present := true, ready := true, locked := true }

def captureConfig : RepeaterConfig := { analogue := { capture := { enabled := true } } }

/-- The digital source comes up beside the capture on air. -/
theorem capture_keeps_the_air :
    Throughout LocalRun.step
        (fun before available after => NotPreempted (before.input available) before.loop.activeSourceFamily
          after.loop.activeSourceFamily after.loop.active)
        ⟨.start captureConfig fun _ => true, none⟩
        [{ now := 1, gatedAnalogueStatus := usableCapture, deviceExists := true },
          { now := 2, nimActive := some ⟨⟨1⟩, {}, {}⟩, gatedAnalogueStatus := usableCapture, deviceExists := true }] ∧
      Throughout (PcGatewayLoop.step (fun _ => []) fun _ => none)
        (fun before iteration after => NotPreempted (before.input iteration) before.activeSourceFamily
          after.activeSourceFamily after.active)
        { config := captureConfig }
        [{ now := 1, gatedAnalogueStatus := usableCapture, deviceExists := true },
          { now := 2, gatewayActive := some ⟨⟨1⟩, {}, {}⟩, gatedAnalogueStatus := usableCapture, deviceExists := true }] :=
  families_not_preempted (fun _ => []) (fun _ => none) (.start captureConfig fun _ => true) { config := captureConfig } _ _
    (by decide +kernel) rfl

end WhRepeater
