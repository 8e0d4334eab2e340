import WhRepeater.HardwarePtt
import WhRepeater.Runs

/-! The PTT output on the Pi, which the PC daemon drives over the Pi's API
(`setPiHardwarePtt` in `daemon.cpp`), and which reloads leave no line keyed. -/
namespace WhRepeater

/-- One `POST /api/gpio/write` the daemon attempts. -/
structure PiGpioWrite where
  line : GpioLine
  activeHigh : Bool
  active : Bool
  deriving Repr, DecidableEq

/-- The level the write leaves its line at. -/
def PiGpioWrite.level (write : PiGpioWrite) : Bool :=
  if write.activeHigh then write.active else !write.active

/-- `config.enabled && config.mode == "pi-gpio"`. -/
def HardwarePttConfig.PiDrives (config : HardwarePttConfig) : Prop :=
  config.enabled = true ∧ config.mode = bytes "pi-gpio"

instance : DecidablePred HardwarePttConfig.PiDrives := fun config =>
  inferInstanceAs (Decidable (config.enabled = true ∧ config.mode = bytes "pi-gpio"))

/-- The new `lastState` and the write that was attempted, if any. `writeGpio`
tells whether the Pi acknowledges a write. -/
def setPiHardwarePtt (clientEnabled : Bool) (writeGpio : PiGpioWrite → Bool)
    (config : HardwarePttConfig) (enabled : Bool) (lastState : Option Bool) :
    Option Bool × Option PiGpioWrite :=
  if ¬ config.PiDrives then (none, none)
  else if lastState = some enabled then (lastState, none)
  else if clientEnabled = false then (lastState, none)
  else
    let write := ⟨config.configuredLine, config.activeHigh, enabled⟩
    (if writeGpio write then some enabled else lastState, some write)

namespace PiPttReloads
open Runs

/-- The daemon's part of the loop state, and the last write the Pi carried out
on each of its lines. -/
structure Gateway where
  config : RepeaterConfig
  piPttState : Option Bool := none
  lastWrite : GpioLine → Option PiGpioWrite := fun _ => none

/-- One pass of the loop: the pending configuration it takes, if any, and the
transmission its transmit formula demands. -/
structure Iteration where
  reload : Option RepeaterConfig
  transmitEnabled : Bool
  deriving DecidableEq

/-- The reload branch of `runPcGateway`, as far as the Pi output goes. -/
def applyReload (gateway : Gateway) : Option RepeaterConfig → Gateway
  | some nextConfig => { gateway with config := nextConfig, piPttState := none }
  | none => gateway

/-- The end of the pass, with a Pi that acknowledges every write. -/
def updatePtt (gateway : Gateway) (transmitEnabled : Bool) : Gateway :=
  let (piPttState, attempted) := setPiHardwarePtt gateway.config.piStatus.enabled (fun _ => true)
    gateway.config.hardwarePtt transmitEnabled gateway.piPttState
  { gateway with
    piPttState
    lastWrite := match attempted with
      | some write => Function.update gateway.lastWrite write.line (some write)
      | none => gateway.lastWrite }

/-- The Pi API is enabled, at the address the daemon started with. -/
def SamePi (gateway : Gateway) (iteration : Iteration) : Prop :=
  ∀ nextConfig, iteration.reload = some nextConfig → nextConfig.piStatus.enabled = true ∧
    nextConfig.piStatus.address = gateway.config.piStatus.address ∧
    nextConfig.piStatus.port = gateway.config.piStatus.port

instance (gateway : Gateway) (iteration : Iteration) : Decidable (SamePi gateway iteration) :=
  match taken : iteration.reload with
  | none => isTrue (by simp [SamePi, taken])
  | some config =>
    decidable_of_iff (config.piStatus.enabled = true ∧
      config.piStatus.address = gateway.config.piStatus.address ∧
      config.piStatus.port = gateway.config.piStatus.port) (by simp [SamePi, taken])

/-- A pass of the loop. A reload that leaves the Pi API is no step. -/
def step (gateway : Gateway) (iteration : Iteration) : Option Gateway :=
  if SamePi gateway iteration then
    some (updatePtt (applyReload gateway iteration.reload) iteration.transmitEnabled)
  else none

/-- The line was last left at the level its write called active. -/
def Keyed (gateway : Gateway) (line : GpioLine) : Prop :=
  ∃ write, gateway.lastWrite line = some write ∧ write.level = write.activeHigh

/-- Only the configured line is keyed, and only while it should be. -/
def OnlyDemandedLineKeyed (_ : Gateway) (iteration : Iteration) (after : Gateway) : Prop :=
  ∀ line, Keyed after line → line = after.config.hardwarePtt.configuredLine ∧
    after.config.hardwarePtt.PiDrives ∧ iteration.transmitEnabled = true

/-- A reload made while the Pi line is keyed stays with that line. -/
def KeepsKeyedLine (before : Gateway) (iteration : Iteration) : Prop :=
  ∀ nextConfig, iteration.reload = some nextConfig → before.piPttState = some true →
    nextConfig.hardwarePtt.PiDrives ∧
      nextConfig.hardwarePtt.configuredLine = before.config.hardwarePtt.configuredLine

/-- The remembered state is the state of the configured line, and no other
line is keyed. -/
structure Remembered (gateway : Gateway) : Prop where
  api : gateway.config.piStatus.enabled = true
  driven : gateway.piPttState ≠ none → gateway.config.hardwarePtt.PiDrives
  keyed : ∀ line, Keyed gateway line ↔
    line = gateway.config.hardwarePtt.configuredLine ∧ gateway.piPttState = some true

variable {gateway before after : Gateway} {config : RepeaterConfig} {iteration : Iteration}

theorem level_active_iff (write : PiGpioWrite) :
    write.level = write.activeHigh ↔ write.active = true := by
  cases high : write.activeHigh <;> simp [PiGpioWrite.level, high]

theorem keyed_update (write : PiGpioWrite) (line : GpioLine) (piPttState : Option Bool) :
    Keyed ⟨gateway.config, piPttState, Function.update gateway.lastWrite write.line (some write)⟩ line ↔
      if line = write.line then write.active = true else Keyed gateway line := by
  by_cases same : line = write.line
  · subst same
    simp [Keyed, level_active_iff]
  · simp [Keyed, same]

/-- With a Pi that answers, the pass ends with the configured line written as
demanded, or with nothing written and nothing to write. -/
theorem updatePtt_cases (api : gateway.config.piStatus.enabled = true) (transmitEnabled : Bool) :
    (¬ gateway.config.hardwarePtt.PiDrives ∧
      updatePtt gateway transmitEnabled = { gateway with piPttState := none }) ∨
    (gateway.config.hardwarePtt.PiDrives ∧ gateway.piPttState = some transmitEnabled ∧
      updatePtt gateway transmitEnabled = gateway) ∨
    (gateway.config.hardwarePtt.PiDrives ∧ gateway.piPttState ≠ some transmitEnabled ∧
      updatePtt gateway transmitEnabled = { gateway with
        piPttState := some transmitEnabled
        lastWrite := Function.update gateway.lastWrite gateway.config.hardwarePtt.configuredLine
          (some ⟨gateway.config.hardwarePtt.configuredLine,
            gateway.config.hardwarePtt.activeHigh, transmitEnabled⟩) }) := by
  by_cases drives : gateway.config.hardwarePtt.PiDrives
  · by_cases same : gateway.piPttState = some transmitEnabled
    · exact .inr (.inl ⟨drives, same, by simp [updatePtt, setPiHardwarePtt, drives, ← same]⟩)
    · exact .inr (.inr ⟨drives, same, by simp [updatePtt, setPiHardwarePtt, drives, same, api]⟩)
  · exact .inl ⟨drives, by simp [updatePtt, setPiHardwarePtt, drives]⟩

/-- Which lines are keyed after the update: the configured one as demanded
when the Pi drives it, the others as before. -/
theorem keyed_updatePtt (gateway : Gateway) (api : gateway.config.piStatus.enabled = true)
    (honest : ∀ state, gateway.piPttState = some state →
      (Keyed gateway gateway.config.hardwarePtt.configuredLine ↔ state = true))
    (transmitEnabled : Bool) (line : GpioLine) :
    Keyed (updatePtt gateway transmitEnabled) line ↔
      if gateway.config.hardwarePtt.PiDrives ∧ line = gateway.config.hardwarePtt.configuredLine then
        transmitEnabled = true
      else Keyed gateway line := by
  obtain ⟨off, same⟩ | ⟨on, remembered, same⟩ | ⟨on, -, same⟩ := updatePtt_cases api transmitEnabled
  · rw [same, if_neg (fun both => off both.1)]
    exact Iff.rfl
  · rw [same]
    by_cases here : line = gateway.config.hardwarePtt.configuredLine
    · subst here
      rw [if_pos ⟨on, rfl⟩]
      exact honest transmitEnabled remembered
    · rw [if_neg (fun both => here both.2)]
  · rw [same]
    refine (keyed_update ⟨_, _, transmitEnabled⟩ line _).trans ?_
    simp only [on, true_and]
    exact Iff.rfl

theorem piPttState_updatePtt (gateway : Gateway) (api : gateway.config.piStatus.enabled = true) (transmitEnabled : Bool) :
    (updatePtt gateway transmitEnabled).piPttState =
      if gateway.config.hardwarePtt.PiDrives then some transmitEnabled else none := by
  obtain ⟨off, same⟩ | ⟨on, remembered, same⟩ | ⟨on, -, same⟩ := updatePtt_cases api transmitEnabled
  · rw [same, if_neg off]
  · rw [same, if_pos on, remembered]
  · rw [same, if_pos on]

theorem remembered_honest (held : Remembered gateway) :
    ∀ state, gateway.piPttState = some state →
      (Keyed gateway gateway.config.hardwarePtt.configuredLine ↔ state = true) := by
  intro state remembered
  simp [held.keyed, remembered]

/-- What a pass does, once: the configuration is the reloaded one, its line is
written as demanded and remembered so, and every other line keeps its write. -/
theorem step_effect (held : Remembered before) (stepped : step before iteration = some after) :
    after.config = (iteration.reload.getD before.config) ∧
    after.config.piStatus.enabled = true ∧
    (after.piPttState =
      if after.config.hardwarePtt.PiDrives then some iteration.transmitEnabled else none) ∧
    ∀ line, Keyed after line ↔
      if after.config.hardwarePtt.PiDrives ∧ line = after.config.hardwarePtt.configuredLine then
        iteration.transmitEnabled = true
      else Keyed before line := by
  obtain ⟨reload, transmitEnabled⟩ := iteration
  simp only [step, Option.ite_none_right_eq_some, Option.some.injEq] at stepped
  obtain ⟨same, rfl⟩ := stepped
  cases reload with
  | none =>
    exact ⟨rfl, held.api, piPttState_updatePtt before held.api transmitEnabled,
      keyed_updatePtt before held.api (remembered_honest held) transmitEnabled⟩
  | some nextConfig =>
    have api := (same nextConfig rfl).1
    exact ⟨rfl, api, piPttState_updatePtt (applyReload before (some nextConfig)) api _,
      keyed_updatePtt (applyReload before (some nextConfig)) api
        (by simp [applyReload]) transmitEnabled⟩

/-- A pass whose reload, if any, stays with the keyed line leaves no other
line keyed, and remembers the state of its own. -/
theorem step_remembered (held : Remembered before) (keeps : KeepsKeyedLine before iteration)
    (stepped : step before iteration = some after) : Remembered after := by
  obtain ⟨config, api, state, keyed⟩ := step_effect held stepped
  have moved : ∀ line, Keyed before line → after.config.hardwarePtt.PiDrives ∧
      line = after.config.hardwarePtt.configuredLine := by
    intro line was
    obtain ⟨rfl, remembered⟩ := (held.keyed line).mp was
    cases reload : iteration.reload with
    | none =>
      rw [config, reload]
      exact ⟨held.driven (by simp [remembered]), rfl⟩
    | some nextConfig =>
      obtain ⟨drives, line⟩ := keeps nextConfig reload remembered
      rw [config, reload]
      exact ⟨drives, line.symm⟩
  refine ⟨api, ?_, fun line => ?_⟩
  · intro known
    by_contra off
    exact known (by rw [state, if_neg off])
  · rw [keyed line, state]
    by_cases here : after.config.hardwarePtt.PiDrives ∧ line = after.config.hardwarePtt.configuredLine
    · rw [if_pos here, if_pos here.1, Option.some.injEq, and_iff_right here.2]
    · rw [if_neg here]
      refine iff_of_false (fun was => here (moved line was)) ?_
      rintro ⟨same, remembered⟩
      by_cases on : after.config.hardwarePtt.PiDrives
      · exact here ⟨on, same⟩
      · simp [on] at remembered

/-- One pass leaves only the demanded line keyed exactly if its reload, if
any, stays with the line that was keyed. -/
theorem step_only_demanded_iff (held : Remembered before) (stepped : step before iteration = some after) :
    OnlyDemandedLineKeyed before iteration after ↔ KeepsKeyedLine before iteration := by
  constructor
  · intro only nextConfig reload remembered
    obtain ⟨config, -, -, keyed⟩ := step_effect held stepped
    have was := (held.keyed before.config.hardwarePtt.configuredLine).mpr ⟨rfl, remembered⟩
    simp only [reload, Option.getD_some] at config
    by_contra elsewhere
    have apart : ¬ (after.config.hardwarePtt.PiDrives ∧
        before.config.hardwarePtt.configuredLine = after.config.hardwarePtt.configuredLine) := by
      rw [config]
      exact fun both => elsewhere ⟨both.1, both.2.symm⟩
    have still := (keyed before.config.hardwarePtt.configuredLine).mpr (by rwa [if_neg apart])
    obtain ⟨line, on, -⟩ := only _ still
    exact apart ⟨on, line⟩
  · intro keeps line keyed
    obtain ⟨-, -, state, -⟩ := step_effect held stepped
    have after := step_remembered held keeps stepped
    obtain ⟨here, remembered⟩ := (after.keyed line).mp keyed
    have on := after.driven (by simp [remembered])
    rw [state, if_pos on, Option.some.injEq] at remembered
    exact ⟨here, on, remembered⟩

theorem start_remembered (api : config.piStatus.enabled = true) : Remembered { config } :=
  ⟨api, by simp, by simp [Keyed]⟩

/-- After every pass of the loop the one line that may be keyed is the
configured and demanded one, exactly if every reload of the run that comes
while the Pi line is keyed stays with that line: the reload forgets the state
of the line it leaves, and nobody writes to that line again. -/
theorem only_demanded_line_keyed_iff (config : RepeaterConfig) (api : config.piStatus.enabled = true)
    (iterations : List Iteration) :
    Throughout step OnlyDemandedLineKeyed { config } iterations ↔
      Guarded step KeepsKeyedLine { config } iterations :=
  throughout_iff_guarded Remembered
    (fun _ _ _ held keeps stepped => step_remembered held keeps stepped)
    (fun _ _ _ held stepped => step_only_demanded_iff held stepped) (start_remembered api)

/-- The daemon on the default Pi, keying its line for a pass. -/
def keyedPi : RepeaterConfig := { hardwarePtt := { enabled := true, mode := bytes "pi-gpio" } }

theorem keyed_pi_run :
    Throughout step OnlyDemandedLineKeyed { config := keyedPi } [⟨none, true⟩] ↔
      Guarded step KeepsKeyedLine { config := keyedPi } [⟨none, true⟩] :=
  only_demanded_line_keyed_iff keyedPi rfl [⟨none, true⟩]

/-- A reload that moves the output to line 13 while line 0 is keyed leaves
line 0 keyed, with nothing demanded. -/
theorem moved_line_stays_keyed :
    ¬ Throughout step OnlyDemandedLineKeyed { config := keyedPi }
      [⟨none, true⟩, ⟨some { hardwarePtt := { enabled := true, mode := bytes "pi-gpio", line := 13 } }, false⟩] := by
  intro along
  have apart := ((along _ rfl).2 _ rfl).1 keyedPi.hardwarePtt.configuredLine
    ⟨⟨keyedPi.hardwarePtt.configuredLine, true, true⟩, by rfl, rfl⟩
  exact absurd apart.2.2 (by decide)

end PiPttReloads
end WhRepeater
