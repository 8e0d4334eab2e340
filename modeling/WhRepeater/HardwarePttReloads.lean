import WhRepeater.HardwarePtt
import WhRepeater.Runs

/-! Which reloads the local PTT output survives. The replacement object opens
its line while the replaced one still holds its own, so a reload that keeps the
line in use is refused the line by the kernel and then gives it up. -/
namespace WhRepeater.HardwarePttReloads
open Runs

/-- The object in use and the kernel it talks to. -/
structure Host where
  ptt : HardwarePtt
  kernel : GpioKernel

inductive Event where
  | reload (config : HardwarePttConfig)
  | demand (enabled : Bool)
  deriving Repr, DecidableEq

/-- The daemon starts with the object its configuration gives it. -/
def boot (config : HardwarePttConfig) : Host :=
  let (ptt, kernel) := HardwarePtt.construct config {}
  { ptt, kernel }

def step (host : Host) : Event → Option Host
  | .reload config =>
    let (ptt, kernel) := host.ptt.reload config host.kernel
    some { ptt, kernel }
  | .demand enabled =>
    let (ptt, kernel) := host.ptt.setTransmitEnabled enabled host.kernel
    some { ptt, kernel }

/-- The object holds an open request on the configured line and on no other. -/
def HoldsConfiguredLine (host : Host) : Prop :=
  host.ptt.lineOpen = true ∧ ∃ fd, host.ptt.lineFd = some fd ∧
    host.kernel.requests = [(fd, host.ptt.config.configuredLine)]

/-- No descriptor is left open, and every line that was held before was last
driven to its inactive level. -/
def Released (before after : Host) : Prop :=
  after.kernel.requests = [] ∧ after.kernel.chips = [] ∧
    ∀ request ∈ before.kernel.requests,
      after.kernel.level request.2 = some (before.ptt.config.physicalHigh false)

/-- What is asked of each event of a run. -/
def Survives (before : Host) (event : Event) (after : Host) : Prop :=
  match event with
  | .reload config =>
    after.ptt.config = config ∧
      if config.Drives then HoldsConfiguredLine after else Released before after
  | .demand enabled =>
    after.ptt.config.Drives →
      after.kernel.level after.ptt.config.configuredLine =
        some (after.ptt.config.physicalHigh enabled)

/-- The reload does not ask again for the line the configuration in use has. -/
def ChangesLine (before : Host) : Event → Prop
  | .reload config =>
    ¬ (before.ptt.config.Drives ∧ config.Drives ∧
      before.ptt.config.configuredLine = config.configuredLine)
  | .demand _ => True

/-- The two shapes a host has while every reload so far changed the line. -/
inductive Consistent : Host → Prop where
  | released (off : ¬ config.Drives) :
      Consistent ⟨{ config }, ⟨nextFd, [], [], level⟩⟩
  | holding (on : config.Drives) (distinct : chipFd ≠ lineFd) (old : chipFd < nextFd ∧ lineFd < nextFd)
      (driven : level config.configuredLine = some (config.physicalHigh transmit)) :
      Consistent ⟨⟨config, some chipFd, some lineFd, true, transmit⟩,
        ⟨nextFd, [(chipFd, config.chip)], [(lineFd, config.configuredLine)], level⟩⟩

variable {config : HardwarePttConfig} {kernel : GpioKernel}

/-- A line nobody holds is granted, and starts inactive. -/
theorem construct_granted (on : config.Drives)
    (free : config.configuredLine ∉ kernel.requests.map Prod.snd) :
    HardwarePtt.construct config kernel =
      (⟨config, some kernel.nextFd, some (kernel.nextFd + 1), true, false⟩,
        ⟨kernel.nextFd + 2, (kernel.nextFd, config.chip) :: kernel.chips,
          (kernel.nextFd + 1, config.configuredLine) :: kernel.requests,
          Function.update kernel.level config.configuredLine (some (config.physicalHigh false))⟩) := by
  have granted : ∀ high, (kernel.openChip config.chip).2.requestLine config.configuredLine high =
      some (kernel.nextFd + 1, ⟨kernel.nextFd + 2, (kernel.nextFd, config.chip) :: kernel.chips,
        (kernel.nextFd + 1, config.configuredLine) :: kernel.requests,
        Function.update kernel.level config.configuredLine (some high)⟩) := by
    intro high
    exact if_neg free
  simp only [GpioKernel.openChip] at granted
  simp [HardwarePtt.construct, on, HardwarePtt.openLine, GpioKernel.openChip, granted,
    HardwarePtt.setLine, GpioKernel.setValues, GpioKernel.drive]

/-- A line that is held is refused, and the object ends up closed. -/
theorem construct_refused (on : config.Drives)
    (held : config.configuredLine ∈ kernel.requests.map Prod.snd)
    (fresh : ∀ chip ∈ kernel.chips, chip.1 ≠ kernel.nextFd)
    (freshRequests : ∀ request ∈ kernel.requests, request.1 ≠ kernel.nextFd) :
    HardwarePtt.construct config kernel =
      ({ config }, { kernel with nextFd := kernel.nextFd + 1 }) := by
  have refused : ∀ high, (kernel.openChip config.chip).2.requestLine config.configuredLine high = none := by
    intro high
    exact if_pos held
  have chips : kernel.chips.filter (fun chip => chip.1 != kernel.nextFd) = kernel.chips :=
    List.filter_eq_self.mpr (by simpa using fresh)
  have requests : kernel.requests.filter (fun request => request.1 != kernel.nextFd) = kernel.requests :=
    List.filter_eq_self.mpr (by simpa using freshRequests)
  simp only [GpioKernel.openChip] at refused
  simp [HardwarePtt.construct, on, HardwarePtt.openLine, GpioKernel.openChip, refused,
    HardwarePtt.closeLine, HardwarePtt.setLine, closeFd, GpioKernel.close, chips, requests]

theorem construct_off (off : ¬ config.Drives) :
    HardwarePtt.construct config kernel = ({ config }, kernel) := by
  simp [HardwarePtt.construct, off]

/-- The statement of the daemon in one line: the new object is made first, the
old one lets go afterwards. -/
theorem reload_eq (ptt : HardwarePtt) :
    ptt.reload config kernel =
      ((HardwarePtt.construct config kernel).1,
        (ptt.closeLine (HardwarePtt.construct config kernel).2).2) := by
  simp [HardwarePtt.reload, HardwarePtt.moveAssign, HardwarePtt.closeLine, HardwarePtt.setLine, closeFd]

@[simp] theorem closeLine_released (config : HardwarePttConfig) (kernel : GpioKernel) :
    ({ config } : HardwarePtt).closeLine kernel = ({ config }, kernel) := by
  simp [HardwarePtt.closeLine, HardwarePtt.setLine, closeFd]

/-- An open object drives its line inactive and closes both descriptors,
leaving every other request alone. -/
theorem closeLine_holding
    (granted : kernel.requests.find? (fun request => request.1 == lineFd) =
      some (lineFd, config.configuredLine)) :
    ((⟨config, some chipFd, some lineFd, true, transmit⟩ : HardwarePtt).closeLine kernel).2 =
      { kernel with
        chips := kernel.chips.filter fun chip => chip.1 != lineFd && chip.1 != chipFd
        requests := kernel.requests.filter fun request => request.1 != lineFd && request.1 != chipFd
        level := Function.update kernel.level config.configuredLine
          (some (config.physicalHigh false)) } := by
  simp [HardwarePtt.closeLine, HardwarePtt.setLine, closeFd, GpioKernel.setValues, granted,
    GpioKernel.drive, GpioKernel.close, List.filter_filter, Bool.and_comm]

/-- A reload that changes the line leaves a consistent host which does what is
asked of the event. -/
theorem reload_changes_line (shape : Consistent before) (changes : ChangesLine before (.reload config))
    (stepped : step before (.reload config) = some after) :
    Consistent after ∧ Survives before (.reload config) after := by
  simp only [step, reload_eq, Option.some.injEq] at stepped
  subst stepped
  cases shape with
  | @released _ nextFd level off =>
    by_cases on : config.Drives
    · rw [construct_granted on (by simp), closeLine_released]
      refine ⟨.holding on (by omega) (by constructor <;> omega) (by simp), rfl, ?_⟩
      rw [if_pos on]
      exact ⟨rfl, nextFd + 1, rfl, rfl⟩
    · rw [construct_off on, closeLine_released]
      refine ⟨.released on, rfl, ?_⟩
      rw [if_neg on]
      exact ⟨rfl, rfl, by simp⟩
  | @holding chipFd lineFd nextFd level was transmit old distinct bounds driven =>
    obtain ⟨chipOld, lineOld⟩ := bounds
    by_cases on : config.Drives
    · have free : config.configuredLine ≠ was.configuredLine :=
        fun same => changes ⟨old, on, same.symm⟩
      have newChip : nextFd ≠ lineFd ∧ nextFd ≠ chipFd := by omega
      have newLine : nextFd + 1 ≠ lineFd ∧ nextFd + 1 ≠ chipFd := by omega
      have chips : [(nextFd, config.chip), (chipFd, was.chip)].filter
          (fun chip => chip.1 != lineFd && chip.1 != chipFd) = [(nextFd, config.chip)] := by
        simp [newChip]
      have requests : [(nextFd + 1, config.configuredLine), (lineFd, was.configuredLine)].filter
          (fun request => request.1 != lineFd && request.1 != chipFd) =
            [(nextFd + 1, config.configuredLine)] := by
        simp [newLine]
      rw [construct_granted on (by simpa using free), closeLine_holding (by simp [newLine.1])]
      simp only [chips, requests]
      refine ⟨.holding on (by omega) (by constructor <;> omega) ?_, rfl, ?_⟩
      · simp [Function.update_of_ne free]
      · rw [if_pos on]
        exact ⟨rfl, nextFd + 1, rfl, rfl⟩
    · rw [construct_off on, closeLine_holding (by simp)]
      simp only [List.filter_cons, bne_self_eq_false, Bool.and_false, Bool.false_and, Bool.false_eq_true,
        ↓reduceIte, List.filter_nil]
      refine ⟨.released on, rfl, ?_⟩
      rw [if_neg on]
      exact ⟨rfl, rfl, by simp⟩

/-- A demand drives the line of a consistent host to the level asked for, and
does nothing to a host whose configuration drives none. -/
theorem demand_survives (shape : Consistent before)
    (stepped : step before (.demand enabled) = some after) :
    Consistent after ∧ Survives before (.demand enabled) after := by
  simp only [step, HardwarePtt.setTransmitEnabled, Option.some.injEq] at stepped
  subst stepped
  cases shape with
  | released off => exact ⟨by simpa [off] using Consistent.released off, by simp [Survives, off]⟩
  | @holding chipFd lineFd nextFd level was transmit old distinct bounds driven =>
    by_cases same : transmit = enabled
    · subst same
      simp only [or_true, ↓reduceIte]
      exact ⟨.holding old distinct bounds driven, fun _ => driven⟩
    · simp only [old, not_true_eq_false, Bool.true_eq_false, same, or_self, ↓reduceIte,
        HardwarePtt.setLine, GpioKernel.setValues, List.find?_cons_of_pos, BEq.rfl, GpioKernel.drive]
      exact ⟨.holding old distinct bounds (by simp), fun _ => by simp⟩

theorem boot_consistent (config : HardwarePttConfig) : Consistent (boot config) := by
  by_cases on : config.Drives
  · rw [boot, construct_granted on (by simp)]
    exact .holding on (by decide) (by decide) (by simp)
  · rw [boot, construct_off on]
    exact .released on

/-- A reload that keeps the line in use leaves an object which holds nothing. -/
theorem reload_same_line_fails (shape : Consistent before)
    (keeps : ¬ ChangesLine before (.reload config))
    (stepped : step before (.reload config) = some after) :
    ¬ Survives before (.reload config) after := by
  simp only [ChangesLine, not_not] at keeps
  obtain ⟨was, on, same⟩ := keeps
  simp only [step, reload_eq, Option.some.injEq] at stepped
  subst stepped
  cases shape with
  | released off => exact absurd was off
  | @holding chipFd lineFd nextFd level old transmit _ distinct bounds driven =>
    rw [construct_refused on (by simpa using same.symm) (by simp; omega) (by simp; omega)]
    rintro ⟨_, held⟩
    rw [if_pos on] at held
    exact Bool.false_ne_true held.1

/-- The local PTT output does what its configuration says after every reload
and demand of a run exactly if no reload of the run names again the line that
is in use: a reload that keeps the line loses it. -/
theorem survives_iff_lines_change (config : HardwarePttConfig) (events : List Event) :
    Throughout step Survives (boot config) events ↔
      Guarded step ChangesLine (boot config) events := by
  refine throughout_iff_guarded Consistent ?_ ?_ (boot_consistent config)
  · intro before event after shape met stepped
    cases event with
    | reload config => exact (reload_changes_line shape met stepped).1
    | demand enabled => exact (demand_survives shape stepped).1
  · intro before event after shape stepped
    cases event with
    | reload config =>
      constructor
      · intro survives
        by_contra keeps
        exact reload_same_line_fails shape keeps stepped survives
      · exact fun met => (reload_changes_line shape met stepped).2
    | demand enabled => exact iff_of_true (demand_survives shape stepped).2 trivial

/-- Booted with the output enabled on the default line, a reload of the same
configuration leaves the object in use with no line at all. -/
theorem same_line_reload_loses_the_line :
    ¬ Throughout step Survives (boot { enabled := true }) [.reload { enabled := true }] := by
  intro along
  obtain ⟨⟨_, held⟩, _⟩ := along _ rfl
  rw [if_pos (by decide)] at held
  exact absurd held.1 (by decide)

end WhRepeater.HardwarePttReloads
