import WhRepeater.Runs
import WhRepeater.ScanScheduler

/-! The loop of the daemon that has tuners (`Daemon::runPiGatewayOrLocal`), from
a reload to the input it routes. A reload gives the scanner and the arbitrator
the new configuration, but a receiver it disables keeps its target and its lock,
and may still be chosen. -/
namespace WhRepeater

inductive ActiveSourceFamily where
  | nimOrGateway | analogue
  deriving Repr, DecidableEq

/-- What the loop reads of the capture status. -/
structure AnalogueStatus where
  enabled : Bool := false
  present : Bool := false
  ready : Bool := false
  locked : Bool := false
  updatedAt : Time := 0
  deriving Repr, DecidableEq

def kAnalogueSyncDebounce : Duration := milliseconds 1500

def disabledAnalogueStatus (now : Time) : AnalogueStatus := { updatedAt := now }

def hangTimeForReceiver (config : RepeaterConfig) (receiver : ReceiverId) : Duration :=
  match config.receivers.find? fun entry => entry.receiver = receiver with
  | some entry => milliseconds entry.hangTime
  | none => seconds 5

/-- With whether the capture device exists. -/
def analogueActiveInput (config : RepeaterConfig) (analogue : AnalogueStatus) (deviceExists : Bool) : Option ActiveInput :=
  if config.analogue.capture.enabled = false ∨ analogue.enabled = false ∨ analogue.present = false ∨
      analogue.ready = false ∨ analogue.locked = false ∨ deviceExists = false then none
  else
    let sourceLabel := if config.analogue.capture.label = [] then bytes "Analogue" else config.analogue.capture.label
    let target : ScanTarget := { label := sourceLabel }
    some {
      receiver := config.analogue.capture.receiver
      target
      status := {
        receiver := config.analogue.capture.receiver
        state := .lockedDvbs
        target := some target
        serviceName := some sourceLabel
        modulation := some (bytes "SD analogue")
        updatedAt := analogue.updatedAt } }

/-- What the loop keeps, then what its last iteration chose, selected and routed. -/
structure GatewayLoop where
  config : RepeaterConfig
  gatewayMode : Bool
  nim : NimController
  scanner : ScanScheduler
  arbitrator : SignalArbitrator
  analogueLockedSince : Option Time := none
  heldAnalogueActive : Option ActiveInput := none
  heldAnalogueUntil : Time := 0
  activeSourceFamily : Option ActiveSourceFamily := none
  nimActive : Option ActiveInput := none
  active : Option ActiveInput := none
  activeForRouter : Option ActiveInput := none

/-- What comes from outside in one iteration: a pending configuration, the times
and readings of the two polls, the tunings between them, and the capture. -/
structure Iteration where
  pendingConfig : Option RepeaterConfig := none
  now : Time := 0
  firstPoll : Time := 0
  first : ReceiverId → Reading := fun _ => {}
  tunings : ReceiverId → Tuning := fun _ => {}
  secondPoll : Time := 0
  second : ReceiverId → Reading := fun _ => {}
  analogueStatus : AnalogueStatus := {}
  deviceExists : Bool := false

namespace GatewayLoop

def start (config : RepeaterConfig) (nimPresent : ReceiverId → Bool) : GatewayLoop :=
  { config
    gatewayMode := config.mode = bytes "ts-gateway"
    nim := .initialise nimPresent
    scanner := { receivers := config.receivers }
    arbitrator := { config } }

def reload (loop : GatewayLoop) (nextConfig : RepeaterConfig) : GatewayLoop :=
  { loop with
    config := nextConfig
    scanner := { receivers := nextConfig.receivers }
    arbitrator := { config := nextConfig }
    analogueLockedSince := none
    heldAnalogueActive := none
    activeSourceFamily := none }

def scan (loop : GatewayLoop) (iteration : Iteration) : GatewayLoop :=
  let nim := loop.nim.pollStatus iteration.first iteration.firstPoll
  let (scanner, nim) := loop.scanner.tick nim nim.statuses iteration.tunings iteration.now
  { loop with scanner, nim := nim.pollStatus iteration.second iteration.secondPoll }

/-- A lock of the capture counts once it has stood for a while. -/
def gateAnalogue (loop : GatewayLoop) (status : AnalogueStatus) (now : Time) : AnalogueStatus × GatewayLoop :=
  if status.locked then
    let since := loop.analogueLockedSince.getD now
    ({ status with locked := ¬ now - since < kAnalogueSyncDebounce }, { loop with analogueLockedSince := some since })
  else (status, { loop with analogueLockedSince := none })

def hold (loop : GatewayLoop) (analogueActive : ActiveInput) (now : Time) : GatewayLoop :=
  { loop with
    heldAnalogueActive := some analogueActive
    heldAnalogueUntil := now + hangTimeForReceiver loop.config analogueActive.receiver }

/-- The family on air goes on, or gives way. -/
def continueFamily (loop : GatewayLoop) (analogueActive : Option ActiveInput) (now : Time) : GatewayLoop :=
  match loop.activeSourceFamily with
  | none => { loop with active := none }
  | some .nimOrGateway =>
    if loop.nimActive.isSome then { loop with active := loop.nimActive }
    else { loop with active := none, activeSourceFamily := none }
  | some .analogue =>
    if analogueActive.isSome then { loop with active := analogueActive }
    else if loop.heldAnalogueActive.isSome = true ∧ now < loop.heldAnalogueUntil then
      { loop with active := loop.heldAnalogueActive }
    else { loop with active := none, heldAnalogueActive := none, activeSourceFamily := none }

def selectLocal (loop : GatewayLoop) (analogueActive : Option ActiveInput) (now : Time) : GatewayLoop :=
  let loop := loop.continueFamily analogueActive now
  if loop.active = none ∧ loop.activeSourceFamily = none then
    if loop.nimActive.isSome then
      { loop with active := loop.nimActive, activeSourceFamily := some .nimOrGateway, heldAnalogueActive := none }
    else
      match analogueActive with
      | some analogue => { loop.hold analogue now with active := some analogue, activeSourceFamily := some .analogue }
      | none => loop
  else if loop.activeSourceFamily = some .analogue then
    match analogueActive with
    | some analogue => loop.hold analogue now
    | none => loop
  else loop

def selectGateway (loop : GatewayLoop) : GatewayLoop :=
  { loop with
    active := loop.nimActive
    activeSourceFamily := loop.nimActive.map fun _ => .nimOrGateway }

/-- The input that is not the capture's. -/
def forRouter (config : RepeaterConfig) (active : Option ActiveInput) : Option ActiveInput :=
  active.filter fun input => input.receiver ≠ config.analogue.capture.receiver

def finishSelection (loop : GatewayLoop) : GatewayLoop :=
  let loop := if loop.active = none then { loop with activeSourceFamily := none } else loop
  let routed := forRouter loop.config loop.active
  { loop with
    heldAnalogueActive := if routed.isSome then none else loop.heldAnalogueActive
    activeForRouter := routed }

def chooseNim (loop : GatewayLoop) : GatewayLoop :=
  let (nimActive, arbitrator) := loop.arbitrator.choose loop.nim.statuses
  { loop with nimActive, arbitrator }

def selectActive (loop : GatewayLoop) (analogueActive : Option ActiveInput) (now : Time) : GatewayLoop :=
  (if loop.gatewayMode then loop.selectGateway else loop.selectLocal analogueActive now).finishSelection

def configured (loop : GatewayLoop) (iteration : Iteration) : GatewayLoop := iteration.pendingConfig.elim loop loop.reload

def iterate (loop : GatewayLoop) (iteration : Iteration) : GatewayLoop :=
  let loop := (loop.configured iteration).scan iteration
  let analogueStatus :=
    if loop.config.analogue.capture.enabled then iteration.analogueStatus else disabledAnalogueStatus iteration.now
  let (gatedAnalogueStatus, loop) := loop.gateAnalogue analogueStatus iteration.now
  loop.chooseNim.selectActive (analogueActiveInput loop.config gatedAnalogueStatus iteration.deviceExists) iteration.now

def step (loop : GatewayLoop) (iteration : Iteration) : Option GatewayLoop := some (loop.iterate iteration)

/-! ## What is asked -/

def ReceiverEnabled (config : RepeaterConfig) (receiver : ReceiverId) : Prop :=
  ∃ entry ∈ config.receivers, entry.receiver = receiver ∧ entry.enabled = true

/-- An input of the capture, which the configuration enables. -/
def FromCapture (config : RepeaterConfig) (input : ActiveInput) : Prop :=
  config.analogue.capture.enabled = true ∧ input.receiver = config.analogue.capture.receiver

/-- What was chosen, selected and routed is enabled in the current configuration. -/
structure OnAirEnabled (loop : GatewayLoop) : Prop where
  chosen : ∀ input, loop.nimActive = some input → ReceiverEnabled loop.config input.receiver
  selected : ∀ input, loop.active = some input → ReceiverEnabled loop.config input.receiver ∨ FromCapture loop.config input
  routed : ∀ input, loop.activeForRouter = some input → ReceiverEnabled loop.config input.receiver

/-- The tuner as the two polls of the iteration leave it, when it is not tuned
between them. -/
def polledTwice (iteration : Iteration) (tuner : Tuner) : Tuner :=
  (tuner.poll (iteration.first tuner.status.receiver) iteration.firstPoll).poll
    (iteration.second tuner.status.receiver) iteration.secondPoll

/-- An enabled receiver is held, locked at the first poll and usable at the second. -/
def HoldsEnabled (loop : GatewayLoop) (iteration : Iteration) : Prop :=
  ∃ receiver, loop.arbitrator.activeReceiver = some receiver ∧ ReceiverEnabled loop.config receiver ∧
    ∃ tuner, (loop.nim.find? fun tuner => tuner.status.receiver = receiver) = some tuner ∧
      isLocked (tuner.poll (iteration.first receiver) iteration.firstPoll).status.state = true ∧
      (loop.arbitrator.activeInput (polledTwice iteration tuner).status).isSome = true

/-- Unless an enabled receiver is held, no receiver that the configuration
disables is read as usable with the target of an earlier configuration. -/
def DisabledUnusable (loop : GatewayLoop) (iteration : Iteration) : Prop :=
  HoldsEnabled (loop.configured iteration) iteration ∨
    ∀ tuner ∈ loop.nim, ¬ ReceiverEnabled (loop.configured iteration).config tuner.status.receiver →
      (loop.configured iteration).arbitrator.activeInput (polledTwice iteration tuner).status = none

/-- The scanner and the arbitrator have the current configuration, and what is
held of the capture is its. -/
structure Consistent (loop : GatewayLoop) : Prop where
  scanner : loop.scanner.receivers = loop.config.receivers
  arbitrator : loop.arbitrator.config = loop.config
  held : ∀ input, loop.heldAnalogueActive = some input → FromCapture loop.config input

variable {loop : GatewayLoop} {iteration : Iteration} {input : ActiveInput}

theorem start_consistent (config : RepeaterConfig) (nimPresent : ReceiverId → Bool) :
    Consistent (start config nimPresent) := by
  refine ⟨rfl, rfl, ?_⟩
  intro input held
  simp [start] at held

theorem configured_consistent (consistent : Consistent loop) (iteration : Iteration) :
    Consistent (loop.configured iteration) := by
  unfold configured
  cases iteration.pendingConfig with
  | none => exact consistent
  | some nextConfig =>
    refine ⟨rfl, rfl, ?_⟩
    intro input held
    simp [reload] at held

@[simp] theorem configured_nim : (loop.configured iteration).nim = loop.nim := by
  unfold configured
  cases iteration.pendingConfig <;> rfl

/-! ## What is chosen -/

/-- A tuner after the scan is an earlier one polled twice, or that of an enabled receiver. -/
theorem scan_tuner (consistent : Consistent loop) {tuner : Tuner} (after : tuner ∈ (loop.scan iteration).nim) :
    (∃ earlier ∈ loop.nim, tuner = polledTwice iteration earlier) ∨ ReceiverEnabled loop.config tuner.status.receiver := by
  obtain ⟨scanned, among, rfl⟩ := List.mem_map.mp after
  rcases ScanScheduler.tick_tuner among with untouched | ⟨⟨receiver, configured, mine, enabled⟩, -⟩
  · obtain ⟨earlier, before, rfl⟩ := List.mem_map.mp untouched
    refine .inl ⟨earlier, before, ?_⟩
    rw [Tuner.poll_receiver]
    rfl
  · rw [consistent.scanner] at configured
    exact .inr ⟨receiver, configured, by rw [Tuner.poll_receiver, mine], enabled⟩

/-- The tuner of a receiver that is locked at the first poll. -/
theorem scan_locked {receiver : ReceiverId} {tuner : Tuner}
    (found : (loop.nim.find? fun tuner => tuner.status.receiver = receiver) = some tuner)
    (locked : isLocked (tuner.poll (iteration.first receiver) iteration.firstPoll).status.state = true) :
    ((loop.scan iteration).nim.find? fun tuner => tuner.status.receiver = receiver) = some (polledTwice iteration tuner) := by
  have mine : tuner.status.receiver = receiver := by simpa using List.find?_some found
  have first : ((loop.nim.pollStatus iteration.first iteration.firstPoll).find? fun tuner => tuner.status.receiver = receiver) =
      some (tuner.poll (iteration.first receiver) iteration.firstPoll) := by
    rw [NimController.pollStatus_find, found, Option.map_some, mine]
  have ticked : ((loop.scanner.tick (loop.nim.pollStatus iteration.first iteration.firstPoll)
      (loop.nim.pollStatus iteration.first iteration.firstPoll).statuses iteration.tunings iteration.now).2.find?
        fun tuner => tuner.status.receiver = receiver) = some (tuner.poll (iteration.first receiver) iteration.firstPoll) := by
    rw [ScanScheduler.tick_locked, first]
    rw [NimController.statuses_find, first]
    exact locked
  unfold scan
  dsimp only
  rw [NimController.pollStatus_find, ticked, Option.map_some, Tuner.poll_receiver]
  unfold polledTwice
  rw [mine]

/-- The arbitrator chooses an enabled receiver. -/
theorem chosen_enabled (consistent : Consistent loop)
    (met : HoldsEnabled loop iteration ∨ ∀ tuner ∈ loop.nim, ¬ ReceiverEnabled loop.config tuner.status.receiver →
      loop.arbitrator.activeInput (polledTwice iteration tuner).status = none)
    (chosen : (loop.arbitrator.choose (loop.scan iteration).nim.statuses).1 = some input) :
    ReceiverEnabled loop.config input.receiver := by
  rcases met with ⟨receiver, active, enabled, tuner, found, locked, usable⟩ | unusable
  · obtain ⟨kept, taken⟩ := Option.isSome_iff_exists.mp usable
    have mine : kept.receiver = receiver := by
      have same : tuner.status.receiver = receiver := by simpa using List.find?_some found
      rw [(SignalArbitrator.activeInput_some taken).2.2, polledTwice, Tuner.poll_receiver, Tuner.poll_receiver, same]
    have again : loop.arbitrator.activeForReceiver (loop.scan iteration).nim.statuses receiver = some kept := by
      rw [SignalArbitrator.activeForReceiver, NimController.statuses_find, scan_locked found locked]
      exact taken
    simp only [SignalArbitrator.choose, active, again] at chosen
    obtain rfl := Option.some.inj chosen
    rwa [mine]
  · obtain ⟨status, among, found⟩ := SignalArbitrator.choose_active chosen
    obtain ⟨tuner, scanned, rfl⟩ := List.mem_map.mp among
    obtain ⟨-, -, same⟩ := SignalArbitrator.activeInput_some found
    rw [same]
    by_contra disabled
    rcases scan_tuner consistent scanned with ⟨earlier, before, rfl⟩ | enabled
    · have stays : (polledTwice iteration earlier).status.receiver = earlier.status.receiver := by
        rw [polledTwice, Tuner.poll_receiver, Tuner.poll_receiver]
      rw [stays] at disabled
      rw [unusable earlier before disabled] at found
      cases found
    · exact disabled enabled

/-! ## What is selected -/

theorem analogueActiveInput_fromCapture {config : RepeaterConfig} {status : AnalogueStatus} {exists_ : Bool}
    (found : analogueActiveInput config status exists_ = some input) : FromCapture config input := by
  unfold analogueActiveInput at found
  split at found
  · cases found
  · rename_i ready
    obtain rfl := Option.some.inj found
    exact ⟨by simpa using (not_or.mp ready).1, rfl⟩

/-- The members a selection leaves alone. -/
def standing (loop : GatewayLoop) : RepeaterConfig × List ReceiverConfig × SignalArbitrator × Option ActiveInput :=
  (loop.config, loop.scanner.receivers, loop.arbitrator, loop.nimActive)

/-- What a selection makes active, and holds, was there before it. -/
structure Selects (before : GatewayLoop) (analogueActive : Option ActiveInput) (after : GatewayLoop) : Prop where
  standing : after.standing = before.standing
  active : ∀ input, after.active = some input →
    before.nimActive = some input ∨ analogueActive = some input ∨ before.heldAnalogueActive = some input
  held : ∀ input, after.heldAnalogueActive = some input →
    analogueActive = some input ∨ before.heldAnalogueActive = some input

variable {analogueActive : Option ActiveInput} {now : Time}

theorem continueFamily_selects : Selects loop analogueActive (loop.continueFamily analogueActive now) := by
  unfold continueFamily
  split
  · refine ⟨rfl, ?_, fun _ => .inr⟩
    intro input found
    simp at found
  · split
    · exact ⟨rfl, fun _ => .inl, fun _ => .inr⟩
    · refine ⟨rfl, ?_, fun _ => .inr⟩
      intro input found
      simp at found
  · split
    · exact ⟨rfl, fun _ found => .inr (.inl found), fun _ => .inr⟩
    · split
      · exact ⟨rfl, fun _ found => .inr (.inr found), fun _ => .inr⟩
      · constructor
        · rfl
        · intro input found
          simp at found
        · intro input found
          simp at found

theorem selectLocal_selects : Selects loop analogueActive (loop.selectLocal analogueActive now) := by
  have continued := @continueFamily_selects loop analogueActive now
  have same : (loop.continueFamily analogueActive now).nimActive = loop.nimActive :=
    congrArg (fun standing => standing.2.2.2) continued.standing
  unfold selectLocal
  dsimp only
  split
  · split
    · refine ⟨continued.standing, ?_, ?_⟩
      · intro input found
        exact .inl (same.symm.trans found)
      · intro input found
        simp at found
    · cases analogueActive with
      | none => exact continued
      | some analogue => exact ⟨continued.standing, fun _ found => .inr (.inl found), fun _ found => .inl found⟩
  · split
    · cases analogueActive with
      | none => exact continued
      | some analogue => exact ⟨continued.standing, continued.active, fun _ found => .inl found⟩
    · exact continued

theorem selectGateway_selects : Selects loop analogueActive loop.selectGateway :=
  ⟨rfl, fun _ => .inl, fun _ => .inr⟩

theorem finishSelection_kept : loop.finishSelection.standing = loop.standing ∧ loop.finishSelection.active = loop.active ∧
    loop.finishSelection.activeForRouter = forRouter loop.config loop.active ∧
    ∀ input, loop.finishSelection.heldAnalogueActive = some input → loop.heldAnalogueActive = some input := by
  unfold finishSelection
  dsimp only
  split
  · refine ⟨rfl, rfl, rfl, ?_⟩
    intro input found
    split at found
    · cases found
    · exact found
  · refine ⟨rfl, rfl, rfl, ?_⟩
    intro input found
    split at found
    · cases found
    · exact found

/-! ## Iterations -/

@[simp] theorem scan_config : (loop.scan iteration).config = loop.config := rfl

@[simp] theorem scan_arbitrator : (loop.scan iteration).arbitrator = loop.arbitrator := rfl

theorem scan_consistent (consistent : Consistent loop) : Consistent (loop.scan iteration) :=
  ⟨ScanScheduler.tick_receivers.trans consistent.scanner, consistent.arbitrator, consistent.held⟩

theorem selectActive_onAir (consistent : Consistent loop)
    (chosen : ∀ input, loop.nimActive = some input → ReceiverEnabled loop.config input.receiver)
    (capture : ∀ input, analogueActive = some input → FromCapture loop.config input) :
    Consistent (loop.selectActive analogueActive now) ∧ OnAirEnabled (loop.selectActive analogueActive now) := by
  have selects : Selects loop analogueActive
      (if loop.gatewayMode then loop.selectGateway else loop.selectLocal analogueActive now) := by
    split
    · exact selectGateway_selects
    · exact selectLocal_selects
  unfold selectActive
  generalize (if loop.gatewayMode then loop.selectGateway else loop.selectLocal analogueActive now) = selected at selects ⊢
  obtain ⟨kept, active, routed, held⟩ := @finishSelection_kept selected
  obtain ⟨config, scanner, arbitrator, nimActive⟩ := by
    simpa only [standing, Prod.mk.injEq] using kept.trans selects.standing
  have selected_config : selected.config = loop.config := congrArg (fun standing => standing.1) selects.standing
  have sources : ∀ input, selected.active = some input →
      ReceiverEnabled loop.config input.receiver ∨ FromCapture loop.config input := by
    intro input found
    rcases selects.active input found with nim | analogue | before
    · exact .inl (chosen input nim)
    · exact .inr (capture input analogue)
    · exact .inr (consistent.held input before)
  constructor
  · constructor
    · rw [scanner, config, consistent.scanner]
    · rw [arbitrator, config, consistent.arbitrator]
    · intro input found
      rw [config]
      rcases selects.held input (held input found) with analogue | before
      · exact capture input analogue
      · exact consistent.held input before
  · constructor
    · intro input found
      rw [nimActive] at found
      rw [config]
      exact chosen input found
    · intro input found
      rw [active] at found
      rw [config]
      exact sources input found
    · -- The router gets no input of the capture.
      intro input found
      rw [routed, forRouter, Option.filter_eq_some_iff, decide_eq_true_eq] at found
      obtain ⟨found, other⟩ := found
      rw [config]
      rcases sources input found with enabled | ⟨-, same⟩
      · exact enabled
      · rw [selected_config] at other
        exact absurd same other

theorem gateAnalogue_consistent (consistent : Consistent loop) (status : AnalogueStatus) :
    Consistent (loop.gateAnalogue status now).2 := by
  unfold gateAnalogue
  split <;> exact ⟨consistent.scanner, consistent.arbitrator, consistent.held⟩

theorem gateAnalogue_choice (status : AnalogueStatus) : (loop.gateAnalogue status now).2.config = loop.config ∧
    (loop.gateAnalogue status now).2.arbitrator.choose (loop.gateAnalogue status now).2.nim.statuses =
      loop.arbitrator.choose loop.nim.statuses := by
  unfold gateAnalogue
  split <;> exact ⟨rfl, rfl⟩

theorem chooseNim_consistent (consistent : Consistent loop) : Consistent loop.chooseNim :=
  ⟨consistent.scanner, SignalArbitrator.choose_config.trans consistent.arbitrator, consistent.held⟩

/-- One iteration puts only enabled receivers on air, when those it disables are
not read as usable. -/
theorem iterate_onAir (consistent : Consistent loop) (met : DisabledUnusable loop iteration) :
    Consistent (loop.iterate iteration) ∧ OnAirEnabled (loop.iterate iteration) := by
  have ready := configured_consistent consistent iteration
  have unusable : HoldsEnabled (loop.configured iteration) iteration ∨ ∀ tuner ∈ (loop.configured iteration).nim,
      ¬ ReceiverEnabled (loop.configured iteration).config tuner.status.receiver →
        (loop.configured iteration).arbitrator.activeInput (polledTwice iteration tuner).status = none := by
    rw [configured_nim]
    exact met
  have enabled : ∀ input, (((loop.configured iteration).scan iteration).arbitrator.choose
      ((loop.configured iteration).scan iteration).nim.statuses).1 = some input →
      ReceiverEnabled ((loop.configured iteration).scan iteration).config input.receiver := by
    intro input chosen
    rw [scan_arbitrator] at chosen
    rw [scan_config]
    exact chosen_enabled ready unusable chosen
  have scanned := @scan_consistent _ iteration ready
  unfold iterate
  dsimp only
  generalize (loop.configured iteration).scan iteration = loop at *
  generalize (if loop.config.analogue.capture.enabled then iteration.analogueStatus
    else disabledAnalogueStatus iteration.now) = status
  obtain ⟨config, choice⟩ := @gateAnalogue_choice loop iteration.now status
  apply selectActive_onAir (chooseNim_consistent (gateAnalogue_consistent scanned status))
  · intro input found
    have chosen : (loop.arbitrator.choose loop.nim.statuses).1 = some input := by
      rw [← choice]
      exact found
    have onAir := enabled input chosen
    rw [← config] at onAir
    exact onAir
  · intro input found
    exact analogueActiveInput_fromCapture found

/-! ## Runs -/

open Runs

/-- Whatever is reloaded and whatever the tuners say, only enabled receivers go
on air as long as those that a reload disabled are not read as usable. -/
theorem on_air_enabled_while_unusable (config : RepeaterConfig) (nimPresent : ReceiverId → Bool) (iterations : List Iteration)
    (guarded : Guarded step DisabledUnusable (start config nimPresent) iterations) :
    Throughout step (fun _ _ after => OnAirEnabled after) (start config nimPresent) iterations := by
  refine throughout_of_guarded Consistent ?_ (start_consistent config nimPresent) guarded
  intro before iteration after consistent met stepped
  obtain rfl : before.iterate iteration = after := Option.some.inj stepped
  exact iterate_onAir consistent met

/-- Receiver 1 with one target. -/
def oneReceiver (enabled : Bool) : RepeaterConfig :=
  { receivers := [{ receiver := ⟨1⟩, enabled, targets := [{}] }] }

/-- A lock with fresh packets. -/
def locked (validPackets : UInt64) (_ : ReceiverId) : Reading := { headerMode := 0x40, validPackets }

/-- Receiver 1 is tuned, and locks. -/
def tunedAndLocked : List Iteration := [{ now := 1 }, { now := 2, first := locked 1, second := locked 1 }]

theorem untargeted_unusable {arbitrator : SignalArbitrator} {tuner : Tuner} (untargeted : tuner.status.target = none) :
    arbitrator.activeInput (polledTwice iteration tuner).status = none := by
  have still : (polledTwice iteration tuner).status.target = none := by
    rw [polledTwice, Tuner.poll_target, Tuner.poll_target, untargeted]
  unfold SignalArbitrator.activeInput
  rw [still, Option.map_none, ite_self]

theorem locked_receiver_on_air :
    Throughout step (fun _ _ after => OnAirEnabled after) (start (oneReceiver true) fun _ => true) tunedAndLocked := by
  refine on_air_enabled_while_unusable _ _ _ ?_
  intro tuned stepped
  obtain rfl := Option.some.inj stepped
  refine ⟨.inr ?_, ?_⟩
  · intro tuner among _
    have untargeted : ∀ tuner ∈ NimController.initialise fun _ => true, tuner.status.target = none := by decide
    exact untargeted_unusable (untargeted tuner among)
  · intro locked stepped
    refine ⟨.inr ?_, trivial⟩
    intro tuner among disabled
    have targets : ∀ tuner ∈ ((start (oneReceiver true) fun _ => true).iterate { now := 1 }).nim,
        tuner.status.receiver = ⟨1⟩ ∨ tuner.status.target = none := by decide +kernel
    rcases targets tuner among with first | untargeted
    · rw [first] at disabled
      exact absurd ⟨_, List.mem_cons_self, rfl, rfl⟩ disabled
    · exact untargeted_unusable untargeted

/-- A reload disables receiver 1 while it is locked and on air: it stays there. -/
theorem disabled_receiver_stays_on_air :
    ¬ Throughout step (fun _ _ after => OnAirEnabled after) (start (oneReceiver true) fun _ => true)
      (tunedAndLocked ++ [{ pendingConfig := some (oneReceiver false), now := 3, first := locked 2, second := locked 2 }]) := by
  intro along
  obtain ⟨-, along⟩ := along _ rfl
  obtain ⟨-, along⟩ := along _ rfl
  obtain ⟨last, -⟩ := along _ rfl
  have active : ((((start (oneReceiver true) fun _ => true).iterate { now := 1 }).iterate
      { now := 2, first := locked 1, second := locked 1 }).iterate
      { pendingConfig := some (oneReceiver false), now := 3, first := locked 2, second := locked 2 }).nimActive.isSome = true := by
    decide +kernel
  obtain ⟨input, chosen⟩ := Option.isSome_iff_exists.mp active
  obtain ⟨entry, among, -, enabled⟩ := last.chosen input chosen
  obtain rfl := List.mem_singleton.mp (show entry ∈ (oneReceiver false).receivers from among)
  cases enabled

end GatewayLoop
end WhRepeater
