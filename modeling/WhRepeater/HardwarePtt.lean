import WhRepeater.Config

/-! The local PTT output (`hardware_ptt.cpp`) over a kernel that grants a GPIO
line to one open request at a time. Opening a chip device and driving a granted
line succeed, so the one exception of this model is a refused line request. -/
namespace WhRepeater

/-- A line of a GPIO chip device. -/
structure GpioLine where
  chip : Bytes
  offset : UInt32
  deriving Repr, DecidableEq

/-- The descriptors the process holds open on GPIO devices, and the level each
line was last driven to (`true` is high). -/
structure GpioKernel where
  nextFd : Nat := 3
  chips : List (Nat × Bytes) := []
  requests : List (Nat × GpioLine) := []
  level : GpioLine → Option Bool := fun _ => none

def GpioKernel.openChip (kernel : GpioKernel) (chip : Bytes) : Nat × GpioKernel :=
  (kernel.nextFd,
    { kernel with nextFd := kernel.nextFd + 1, chips := (kernel.nextFd, chip) :: kernel.chips })

def GpioKernel.drive (kernel : GpioKernel) (line : GpioLine) (high : Bool) : GpioKernel :=
  { kernel with level := Function.update kernel.level line (some high) }

/-- `GPIO_V2_GET_LINE_IOCTL` with an output value: refused while an open
request holds the line. -/
def GpioKernel.requestLine (kernel : GpioKernel) (line : GpioLine) (high : Bool) : Option (Nat × GpioKernel) :=
  if line ∈ kernel.requests.map Prod.snd then none
  else some (kernel.nextFd,
    { kernel.drive line high with
      nextFd := kernel.nextFd + 1
      requests := (kernel.nextFd, line) :: kernel.requests })

/-- `GPIO_V2_LINE_SET_VALUES_IOCTL` on the line the descriptor was granted. -/
def GpioKernel.setValues (kernel : GpioKernel) (fd : Nat) (high : Bool) : GpioKernel :=
  match kernel.requests.find? (fun request => request.1 == fd) with
  | some request => kernel.drive request.2 high
  | none => kernel

def GpioKernel.close (kernel : GpioKernel) (fd : Nat) : GpioKernel :=
  { kernel with
    chips := kernel.chips.filter fun chip => chip.1 != fd
    requests := kernel.requests.filter fun request => request.1 != fd }

/-- The members of the class; a descriptor of `-1` is `none`. -/
structure HardwarePtt where
  config : HardwarePttConfig
  chipFd : Option Nat := none
  lineFd : Option Nat := none
  lineOpen : Bool := false
  transmitEnabled : Bool := false
  deriving Repr, DecidableEq

/-- The line a configuration names. -/
def HardwarePttConfig.configuredLine (config : HardwarePttConfig) : GpioLine := ⟨config.chip, config.line⟩

/-- The physical level a configuration assigns to an active or inactive output. -/
def HardwarePttConfig.physicalHigh (config : HardwarePttConfig) (active : Bool) : Bool :=
  if config.activeHigh then active else !active

/-- `config_.enabled && config_.mode == "local"`. -/
def HardwarePttConfig.Drives (config : HardwarePttConfig) : Prop :=
  config.enabled = true ∧ config.mode = bytes "local"

instance : DecidablePred HardwarePttConfig.Drives := fun config =>
  inferInstanceAs (Decidable (config.enabled = true ∧ config.mode = bytes "local"))

def closeFd (fd : Option Nat) (kernel : GpioKernel) : GpioKernel :=
  match fd with
  | some fd => kernel.close fd
  | none => kernel

/-- `none` in the second component when the line request throws; the chip
descriptor opened before it stays in the object. -/
def HardwarePtt.openLine (ptt : HardwarePtt) (kernel : GpioKernel) : HardwarePtt × GpioKernel × Option Unit :=
  let (chipFd, kernel) := kernel.openChip ptt.config.chip
  let ptt := { ptt with chipFd := some chipFd }
  match kernel.requestLine ptt.config.configuredLine (!ptt.config.activeHigh) with
  | none => (ptt, kernel, none)
  | some (lineFd, kernel) => ({ ptt with lineFd := some lineFd, lineOpen := true }, kernel, some ())

def HardwarePtt.setLine (ptt : HardwarePtt) (active : Bool) (kernel : GpioKernel) : GpioKernel :=
  if ptt.lineOpen then
    match ptt.lineFd with
    | some fd => kernel.setValues fd (ptt.config.physicalHigh active)
    | none => kernel
  else kernel

def HardwarePtt.closeLine (ptt : HardwarePtt) (kernel : GpioKernel) : HardwarePtt × GpioKernel :=
  let kernel := ptt.setLine false kernel
  let kernel := closeFd ptt.chipFd (closeFd ptt.lineFd kernel)
  ({ ptt with chipFd := none, lineFd := none, lineOpen := false, transmitEnabled := false }, kernel)

/-- `HardwarePtt::HardwarePtt`: a refused request leaves the object closed. -/
def HardwarePtt.construct (config : HardwarePttConfig) (kernel : GpioKernel) : HardwarePtt × GpioKernel :=
  let ptt : HardwarePtt := { config }
  if config.Drives then
    match ptt.openLine kernel with
    | (ptt, kernel, some ()) => (ptt, ptt.setLine false kernel)
    | (ptt, kernel, none) => ptt.closeLine kernel
  else (ptt, kernel)

/-- `HardwarePtt::operator=(HardwarePtt&&)`: the target releases its own line
first, then takes the members of the source. The source is returned second. -/
def HardwarePtt.moveAssign (target source : HardwarePtt) (kernel : GpioKernel) :
    HardwarePtt × HardwarePtt × GpioKernel :=
  let (_, kernel) := target.closeLine kernel
  (source,
    { source with chipFd := none, lineFd := none, lineOpen := false, transmitEnabled := false },
    kernel)

/-- `HardwarePtt::setTransmitEnabled`. -/
def HardwarePtt.setTransmitEnabled (ptt : HardwarePtt) (enabled : Bool) (kernel : GpioKernel) :
    HardwarePtt × GpioKernel :=
  if ¬ ptt.config.Drives ∨ ptt.lineOpen = false ∨ ptt.transmitEnabled = enabled then (ptt, kernel)
  else ({ ptt with transmitEnabled := enabled }, ptt.setLine enabled kernel)

/-- `hardwarePtt = HardwarePtt{config_.hardwarePtt};` in the daemon loops: the
temporary is constructed before the old object releases its line, and is
destroyed at the end of the statement. -/
def HardwarePtt.reload (ptt : HardwarePtt) (config : HardwarePttConfig) (kernel : GpioKernel) :
    HardwarePtt × GpioKernel :=
  let (temporary, kernel) := HardwarePtt.construct config kernel
  let (ptt, temporary, kernel) := ptt.moveAssign temporary kernel
  let (_, kernel) := temporary.closeLine kernel
  (ptt, kernel)

end WhRepeater
