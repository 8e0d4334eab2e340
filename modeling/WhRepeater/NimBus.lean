import Mathlib.Logic.Function.Basic
import WhRepeater.FailingPrograms
import WhRepeater.NimRegisters
import WhRepeater.Types

/-! The Serit controller on its I2C bus (`nim_controller.cpp`). The two tuners
answer at one address, each behind the repeater of its demodulator. The packet
queues and the packet watches, which never touch the bus, are modelled apart. -/
namespace WhRepeater

open FailingPrograms

/-- A read, or a write of a value, of a register. -/
structure I2cTransfer where
  address : UInt8
  register : UInt16
  written : Option UInt8 := none
  deriving Repr, DecidableEq

/-- A transfer, with the NIM the running operation is for and the repeaters as
they stood. -/
structure SeenTransfer where
  transfer : I2cTransfer
  serving : Option (Fin 2)
  repeaters : Fin 2 → Bool

/-- The bus: what each transfer will read or raise, the steady clock between the
transfers, the repeaters, and every transfer so far. -/
structure I2cBus where
  replies : Nat → Except Bytes UInt8
  clock : Nat → Time
  transfers : Nat := 0
  repeaters : Fin 2 → Bool := fun _ => false
  serving : Option (Fin 2) := none
  seen : List SeenTransfer := []

/-- The NIM whose demodulator has the address. -/
def addressedNim (address : UInt8) : Option (Fin 2) :=
  if address = nimDemodAddrA then some 0 else if address = nimDemodAddrB then some 1 else none

namespace I2cBus

def attempt (bus : I2cBus) (transfer : I2cTransfer) : I2cBus :=
  { bus with
    transfers := bus.transfers + 1
    seen := ⟨transfer, bus.serving, bus.repeaters⟩ :: bus.seen }

/-- Only a write of its repeater register changes a repeater. -/
def succeed (bus : I2cBus) (transfer : I2cTransfer) : I2cBus :=
  { bus.attempt transfer with
    repeaters :=
      match addressedNim transfer.address, transfer.written with
      | some nim, some value =>
        if transfer.register = stv0910P1I2cRpt then Function.update bus.repeaters nim (value &&& 0x80 ≠ 0) else bus.repeaters
      | _, _ => bus.repeaters }

end I2cBus

structure SeritNim where
  bus : I2cBus
  nimPresent : Fin 2 → Bool := fun _ => false
  repeaterOn : Fin 2 → Bool := fun _ => false
  rdiv : UInt8 := 0
  ctrl7 : UInt8 := 0
  ctrl8 : UInt8 := 0
  ctrl16 : UInt8 := 0
  ctrl17 : UInt8 := 0
  demodShadow : Fin 2 → UInt16 → UInt8 := fun _ _ => 0
  statuses : List ReceiverStatus := []

/-- What the controller runs. An exception leaves what was done before it. -/
abbrev SeritProgram := Program SeritNim Bytes

structure ReceiverHardware where
  receiver : ReceiverId
  nimIndex : Fin 2
  nimAddress : UInt8
  tuner : Nat
  deriving Repr, DecidableEq

def hardwareFor (receiver : ReceiverId) : Except Bytes ReceiverHardware :=
  if receiver.value = 1 then .ok ⟨receiver, 0, nimDemodAddrA, 1⟩
  else if receiver.value = 2 then .ok ⟨receiver, 0, nimDemodAddrA, 2⟩
  else if receiver.value = 3 then .ok ⟨receiver, 1, nimDemodAddrB, 1⟩
  else if receiver.value = 4 then .ok ⟨receiver, 1, nimDemodAddrB, 2⟩
  else .error (bytes "receiver must be 1..4")

def dmdIStateRegister (tuner : Nat) : UInt16 := if tuner = 1 then stv0910P2DmdIState else stv0910P1DmdIState

def dmdCfgMdRegister (tuner : Nat) : UInt16 := if tuner = 1 then stv0910P2DmdCfgMd else stv0910P1DmdCfgMd

def cfrInit0Register (tuner : Nat) : UInt16 := if tuner = 1 then stv0910P2CfrInit0 else stv0910P1CfrInit0

def cfrInit1Register (tuner : Nat) : UInt16 := if tuner = 1 then stv0910P2CfrInit1 else stv0910P1CfrInit1

def cfrUp0Register (tuner : Nat) : UInt16 := if tuner = 1 then stv0910P2CfrUp0 else stv0910P1CfrUp0

def cfrUp1Register (tuner : Nat) : UInt16 := if tuner = 1 then stv0910P2CfrUp1 else stv0910P1CfrUp1

def cfrLow0Register (tuner : Nat) : UInt16 := if tuner = 1 then stv0910P2CfrLow0 else stv0910P1CfrLow0

def cfrLow1Register (tuner : Nat) : UInt16 := if tuner = 1 then stv0910P2CfrLow1 else stv0910P1CfrLow1

def sfrInit0Register (tuner : Nat) : UInt16 := if tuner = 1 then stv0910P2SfrInit0 else stv0910P1SfrInit0

def sfrInit1Register (tuner : Nat) : UInt16 := if tuner = 1 then stv0910P2SfrInit1 else stv0910P1SfrInit1

namespace SeritNim

/-! ## The bus -/

def transfer (transfer : I2cTransfer) : SeritProgram UInt8 := do
  let nim ← get
  match nim.bus.replies nim.bus.transfers with
  | .ok value =>
    modify fun nim => { nim with bus := nim.bus.succeed transfer }
    return value
  | .error text =>
    modify fun nim => { nim with bus := nim.bus.attempt transfer }
    throw text

/-- What a transfer does, as the bus answers. -/
theorem ends_transfer {nim : SeritNim} {after : UInt8 → SeritNim → Prop} {failed : Bytes → SeritNim → Prop} {made : I2cTransfer} :
    Ends (transfer made) after failed nim ↔
      (∀ value, nim.bus.replies nim.bus.transfers = .ok value → after value { nim with bus := nim.bus.succeed made }) ∧
        ∀ text, nim.bus.replies nim.bus.transfers = .error text → failed text { nim with bus := nim.bus.attempt made } := by
  unfold transfer
  rw [ends_bind, ends_get]
  cases reply : nim.bus.replies nim.bus.transfers with
  | ok value =>
    dsimp only
    rw [ends_bind, ends_modify, ends_pure]
    simp
  | error text =>
    dsimp only
    rw [ends_bind, ends_modify, ends_throw]
    simp

def readReg8 (address register : UInt8) : SeritProgram UInt8 := transfer { address, register := register.toUInt16 }

def writeReg8 (address register value : UInt8) : SeritProgram Unit := do
  let _ ← transfer { address, register := register.toUInt16, written := some value }
  return

def readReg16 (address : UInt8) (register : UInt16) : SeritProgram UInt8 := transfer { address, register }

def writeReg16 (address : UInt8) (register : UInt16) (value : UInt8) : SeritProgram Unit := do
  let _ ← transfer { address, register, written := some value }
  return

/-- `steady_clock::now` -/
def steadyNow : SeritProgram Time := do
  let nim ← get
  return nim.bus.clock nim.bus.transfers

/-- From here on the operation is for this NIM. -/
def serve (hw : ReceiverHardware) : SeritProgram Unit :=
  modify fun nim => { nim with bus := { nim.bus with serving := some hw.nimIndex } }

/-! ## The repeaters -/

def demodAddress (index : Fin 2) : UInt8 := if index = 0 then nimDemodAddrA else nimDemodAddrB

theorem demodAddress_ne : ∀ index, demodAddress index ≠ nimTunerAddr := by decide

/-- One turn of the loop of `setRepeaters`; no NIM stands for `-1`. -/
def setRepeater (enabledNim : Option (Fin 2)) (index : Fin 2) : SeritProgram Unit := do
  let nim ← get
  if nim.nimPresent index = false ∧ enabledNim ≠ none then return
  else
    let desired : Bool := some index = enabledNim
    if nim.repeaterOn index = desired then return
    else
      writeReg16 (demodAddress index) stv0910P1I2cRpt (if desired then WhRepeater.repeaterOn else repeaterOff)
      modify fun nim => { nim with repeaterOn := Function.update nim.repeaterOn index desired }

def setRepeaters (enabledNim : Option (Fin 2)) : SeritProgram Unit := do
  setRepeater enabledNim 0
  setRepeater enabledNim 1

def disableRepeatersBestEffort : SeritProgram Unit := tryCatch (setRepeaters none) fun _ => return

/-! ## The demodulators -/

def writeDemod (nimIndex : Fin 2) (nimAddress : UInt8) (register : UInt16) (value : UInt8) : SeritProgram Unit := do
  setRepeaters none
  writeReg16 nimAddress register value
  modify fun nim => { nim with
    demodShadow := Function.update nim.demodShadow nimIndex (Function.update (nim.demodShadow nimIndex) register value) }

def readDemod (nimAddress : UInt8) (register : UInt16) : SeritProgram UInt8 := do
  setRepeaters none
  readReg16 nimAddress register

def fieldRegister (field : UInt32) : UInt16 := (field >>> 16).toUInt16

def fieldMask (field : UInt32) : UInt8 := (field &&& 0xff).toUInt8

def fieldShift (field : UInt32) : UInt32 := (field >>> 12) &&& 0x0f

def writeDemodField (nimIndex : Fin 2) (nimAddress : UInt8) (field : UInt32) (value : UInt8) : SeritProgram Unit := do
  let nim ← get
  let current := nim.demodShadow nimIndex (fieldRegister field)
  let next := (current &&& ~~~fieldMask field) ||| ((value.toUInt32 <<< fieldShift field).toUInt8 &&& fieldMask field)
  writeDemod nimIndex nimAddress (fieldRegister field) next

def readDemodField (nimAddress : UInt8) (field : UInt32) : SeritProgram UInt8 := do
  let value ← readDemod nimAddress (fieldRegister field)
  return ((value &&& fieldMask field).toUInt32 >>> fieldShift field).toUInt8

def waitForPllLock (nimAddress : UInt8) : Nat → SeritProgram Unit
  | 0 => throw (bytes "STV0910 PLL lock timed out")
  | left + 1 => do
    let locked ← readDemodField nimAddress stv0910FieldPllLock
    if locked ≠ 0 then return else waitForPllLock nimAddress left

def setupDemodClocks (nimIndex : Fin 2) (nimAddress : UInt8) : SeritProgram Unit := do
  let odf : UInt8 := 4
  let idf : UInt8 := 1
  let fXtalMhz := nimTunerXtalKhz / 1000
  let fPhiMhz := nimDemodMclkHz / 1000000
  let ndiv := ((fPhiMhz * odf.toUInt32 * idf.toUInt32) / fXtalMhz).toUInt8
  writeDemodField nimIndex nimAddress stv0910FieldOdf odf
  writeDemodField nimIndex nimAddress stv0910FieldIdf idf
  writeDemodField nimIndex nimAddress stv0910FieldNDiv ndiv
  writeDemodField nimIndex nimAddress stv0910FieldCp 7
  writeDemodField nimIndex nimAddress stv0910FieldStandby 0
  writeDemodField nimIndex nimAddress stv0910FieldBypassPllCore 0
  waitForPllLock nimAddress stv0910PllLockTimeout

def initialiseDemod (nimIndex : Fin 2) (nimAddress : UInt8) : SeritProgram Unit := do
  modify fun nim => { nim with demodShadow := Function.update nim.demodShadow nimIndex fun _ => 0 }
  stv0910InitRegisters.forM fun entry => writeDemod nimIndex nimAddress entry.1 entry.2
  writeDemod nimIndex nimAddress stv0910TstRes0 0x80
  writeDemod nimIndex nimAddress stv0910TstRes0 0x00
  setupDemodClocks nimIndex nimAddress

/-- The low byte of a signed value. -/
def lowByte (value : Int) : UInt8 := UInt8.ofNat (value % 256).toNat

def setupCarrierLoop (hw : ReceiverHardware) (symbolRateKs : UInt32) (calibrated : Bool) : SeritProgram Unit := do
  writeDemod hw.nimIndex hw.nimAddress (cfrInit0Register hw.tuner) 0x00
  writeDemod hw.nimIndex hw.nimAddress (cfrInit1Register hw.tuner) 0x00
  let limit : Int := (if calibrated then (symbolRateKs / 2).toNat else 1000) * 65536 / 135000
  writeDemod hw.nimIndex hw.nimAddress (cfrUp0Register hw.tuner) (lowByte limit)
  writeDemod hw.nimIndex hw.nimAddress (cfrUp1Register hw.tuner) (lowByte (limit / 256))
  let lowLimit := -limit
  writeDemod hw.nimIndex hw.nimAddress (cfrLow0Register hw.tuner) (lowByte lowLimit)
  writeDemod hw.nimIndex hw.nimAddress (cfrLow1Register hw.tuner) (lowByte (lowLimit / 256))
  let dmdCfgMd ← readDemod hw.nimAddress (dmdCfgMdRegister hw.tuner)
  writeDemod hw.nimIndex hw.nimAddress (dmdCfgMdRegister hw.tuner)
    (if symbolRateKs < 1000 then dmdCfgMd &&& ~~~0x40 else dmdCfgMd ||| 0x40)

def setupTimingLoop (hw : ReceiverHardware) (symbolRateKs : UInt32) : SeritProgram Unit := do
  let srReg := ((symbolRateKs <<< 16) / 135 / 1000).toUInt16
  writeDemod hw.nimIndex hw.nimAddress (sfrInit1Register hw.tuner) (srReg >>> 8).toUInt8
  writeDemod hw.nimIndex hw.nimAddress (sfrInit0Register hw.tuner) (srReg &&& 0xff).toUInt8

def setupDemodReceive (hw : ReceiverHardware) (symbolRateKs : UInt32) (calibrated : Bool) : SeritProgram Unit := do
  writeDemod hw.nimIndex hw.nimAddress (dmdIStateRegister hw.tuner) 0x1c
  setupCarrierLoop hw symbolRateKs calibrated
  setupTimingLoop hw symbolRateKs

/-! ## The tuners -/

/-- The waits for the bits of a tuner register, which differ in what they wait for. -/
def waitForTunerBits (done : UInt8 → Bool) (register : UInt8) (context : Bytes) : Nat → SeritProgram Unit
  | 0 => throw (context ++ bytes " timed out")
  | left + 1 => do
    let value ← readReg8 nimTunerAddr register
    if done value then return else waitForTunerBits done register context left

def waitForTunerBitClear (register mask : UInt8) (context : Bytes) : SeritProgram Unit :=
  waitForTunerBits (fun value => value &&& mask = 0) register context stv6120CalTimeout

def waitForTunerBitSet (register mask : UInt8) (context : Bytes) : SeritProgram Unit :=
  waitForTunerBits (fun value => value &&& mask = mask) register context stv6120CalTimeout

def dividerForFrequency (freqKhz : UInt32) : UInt8 :=
  if freqKhz ≤ stv6120PThreshold1Khz then 3
  else if freqKhz ≤ stv6120PThreshold2Khz then 2
  else if freqKhz ≤ stv6120PThreshold3Khz then 1
  else 0

def chargePumpForVco (fVcoKhz : UInt32) : UInt8 :=
  match stv6120IcpLookup.find? fun row => fVcoKhz ≤ row.2.1 with
  | some row => row.2.2.toUInt8
  | none => 7

def highPassFilterForFrequency (freqKhz : UInt32) : UInt8 :=
  let cfhf := (stv6120Cfhf.takeWhile fun limit => 3 * freqKhz / 1000 ≤ limit).length
  if cfhf = 0 then 0 else UInt8.ofNat (cfhf - 1)

def tunerFrequencyKhz (target : ScanTarget) : UInt32 :=
  if target.localOscillatorKhz = 0 then target.frequencyKhz
  else if target.frequencyKhz > target.localOscillatorKhz then target.frequencyKhz - target.localOscillatorKhz
  else target.localOscillatorKhz - target.frequencyKhz

def calibrateLowPass (tuner : Nat) : SeritProgram Unit := do
  let nim ← get
  let ctrlReg := if tuner = 1 then stv6120Ctrl7 else stv6120Ctrl16
  let statReg := if tuner = 1 then stv6120Stat1 else stv6120Stat2
  let ctrlShadow := if tuner = 1 then nim.ctrl7 else nim.ctrl16
  writeReg8 nimTunerAddr ctrlReg (ctrlShadow &&& ~~~(0x80 : UInt8))
  writeReg8 nimTunerAddr statReg 0x02
  waitForTunerBitClear statReg 0x02 (bytes "STV6120 low-pass calibration")
  writeReg8 nimTunerAddr ctrlReg ctrlShadow

def setTunerFrequency (tuner : Nat) (freqKhz : UInt32) : SeritProgram Unit := do
  let nim ← get
  let p := dividerForFrequency freqKhz
  let fVcoKhz := freqKhz <<< (p.toUInt32 + 1)
  let scaledVco := fVcoKhz <<< nim.rdiv.toUInt32
  let n := (scaledVco / nimTunerXtalKhz).toUInt16
  let f := (((scaledVco % nimTunerXtalKhz).toUInt64 <<< 18) / nimTunerXtalKhz.toUInt64).toUInt32
  let icp := chargePumpForVco fVcoKhz
  let cfhf := highPassFilterForFrequency freqKhz
  writeReg8 nimTunerAddr (if tuner = 1 then stv6120Ctrl3 else stv6120Ctrl12) (n &&& 0x00ff).toUInt8
  writeReg8 nimTunerAddr (if tuner = 1 then stv6120Ctrl4 else stv6120Ctrl13)
    (((f &&& 0x7f) <<< 1) ||| ((n &&& 0x0100) >>> 8).toUInt32).toUInt8
  writeReg8 nimTunerAddr (if tuner = 1 then stv6120Ctrl5 else stv6120Ctrl14) ((f &&& 0x7f80) >>> 7).toUInt8
  writeReg8 nimTunerAddr (if tuner = 1 then stv6120Ctrl6 else stv6120Ctrl15)
    (((f &&& 0x38000) >>> 15) ||| (icp.toUInt32 <<< 4) ||| 0x08).toUInt8
  writeReg8 nimTunerAddr (if tuner = 1 then stv6120Ctrl7 else stv6120Ctrl16)
    ((p.toUInt32 <<< 5).toUInt8 ||| if tuner = 1 then nim.ctrl7 else nim.ctrl16)
  writeReg8 nimTunerAddr (if tuner = 1 then stv6120Ctrl8 else stv6120Ctrl17)
    (cfhf ||| if tuner = 1 then nim.ctrl8 else nim.ctrl17)
  let statReg := if tuner = 1 then stv6120Stat1 else stv6120Stat2
  writeReg8 nimTunerAddr statReg 0x0c
  waitForTunerBitClear statReg 0x04 (bytes "STV6120 VCO calibration")
  waitForTunerBitSet statReg 0x01 (bytes "STV6120 PLL lock")

/-- `ctrl10` once the tuner is switched on, or off when there is no frequency, and
its input is chosen. -/
def inputControl (tuner : Nat) (freqKhz : UInt32) (antenna : Antenna) (ctrl10 : UInt8) : UInt8 :=
  let ctrl10 := ctrl10 &&& ~~~0x24
  let enable : UInt8 := if tuner = 1 then 0x01 else 0x02
  let ctrl10 := if freqKhz ≠ 0 then ctrl10 ||| enable else ctrl10 &&& ~~~enable
  match antenna with
  | .top => ctrl10 ||| 0x08
  | .bottom => ctrl10 ||| 0x10

/-- `ctrl9` with the RF input of the tuner. -/
def inputSelect (tuner : Nat) (antenna : Antenna) (ctrl9 : UInt8) : UInt8 :=
  let rfSel : UInt8 := match antenna with | .top => 1 | .bottom => 2
  if tuner = 1 then (ctrl9 &&& ~~~(0x03 : UInt8)) ||| rfSel else (ctrl9 &&& ~~~(0x0c : UInt8)) ||| (rfSel <<< 2)

def configureTuner (hw : ReceiverHardware) (freqKhz : UInt32) (target : ScanTarget) : SeritProgram Unit := do
  let commonK := (nimTunerXtalKhz / 1000 - 16).toUInt8
  let rdiv : UInt8 := if nimTunerXtalKhz ≥ stv6120RdivThresholdKhz then 1 else 0
  modify fun nim => { nim with rdiv }
  writeReg8 nimTunerAddr stv6120Ctrl1 ((commonK <<< 3) ||| (rdiv <<< 2) ||| 1)
  let calCtrl8 ← readReg8 nimTunerAddr stv6120Ctrl8
  writeReg8 nimTunerAddr stv6120Ctrl8 ((calCtrl8 &&& ~~~(0xe0 : UInt8)) ||| 0x40)
  modify fun nim => { nim with ctrl8 := 0 }
  let calCtrl17 ← readReg8 nimTunerAddr stv6120Ctrl17
  writeReg8 nimTunerAddr stv6120Ctrl17 (calCtrl17 &&& ~~~(0x20 : UInt8))
  modify fun nim => { nim with ctrl17 := 0 }
  writeReg8 nimTunerAddr (if hw.tuner = 1 then stv6120Ctrl2 else stv6120Ctrl11) 0x33
  let ctrlLowPass : UInt8 := if target.symbolRateKs = 27500 ∨ target.symbolRateKs = 22000 then 0x92 else 0x80
  modify fun nim => if hw.tuner = 1 then { nim with ctrl7 := ctrlLowPass } else { nim with ctrl16 := ctrlLowPass }
  writeReg8 nimTunerAddr (if hw.tuner = 1 then stv6120Ctrl7 else stv6120Ctrl16) ctrlLowPass
  let ctrl9 ← readReg8 nimTunerAddr stv6120Ctrl9
  let ctrl10 ← readReg8 nimTunerAddr stv6120Ctrl10
  writeReg8 nimTunerAddr stv6120Ctrl9 (inputSelect hw.tuner target.antenna ctrl9)
  writeReg8 nimTunerAddr stv6120Ctrl10 (inputControl hw.tuner freqKhz target.antenna ctrl10)
  writeReg8 nimTunerAddr stv6120Ctrl18 0x00
  writeReg8 nimTunerAddr stv6120Ctrl19 0x00
  writeReg8 nimTunerAddr stv6120Ctrl20 0x8c
  writeReg8 nimTunerAddr stv6120Ctrl21 0x00
  writeReg8 nimTunerAddr stv6120Ctrl22 0x00
  writeReg8 nimTunerAddr stv6120Ctrl23 0x8c
  if freqKhz > 0 then
    calibrateLowPass hw.tuner
    setTunerFrequency hw.tuner freqKhz
  else return

/-! ## The operations -/

def statusFor (nim : SeritNim) (receiver : ReceiverId) : ReceiverStatus :=
  (nim.statuses.find? fun status => status.receiver = receiver).getD { receiver }

/-- A change of the status of a receiver, which is appended when there is none. -/
def updateStatus (receiver : ReceiverId) (change : ReceiverStatus → ReceiverStatus) : SeritProgram Unit :=
  modify fun nim =>
    let index := nim.statuses.findIdx fun status => status.receiver = receiver
    { nim with
      statuses := if index < nim.statuses.length then nim.statuses.modify index change else nim.statuses ++ [change { receiver }] }

def setPresent (index : Fin 2) (present : Bool) : SeritProgram Unit :=
  modify fun nim => { nim with nimPresent := Function.update nim.nimPresent index present }

def initialiseNim (nimAddress : UInt8) (index : Fin 2) : SeritProgram Unit :=
  tryCatch
    (do
      setRepeaters none
      writeReg16 nimAddress stv0910P1Vth34 0xaa
      let readBack ← readReg16 nimAddress stv0910P1Vth34
      if readBack ≠ 0xaa then setPresent index false
      else
        setPresent index true
        let _ ← readReg16 nimAddress stv0910Mid
        let _ ← readReg16 nimAddress stv0910Did
        initialiseDemod index nimAddress)
    fun _ => setPresent index false

/-- `driver` is how configuring the driver goes. -/
def initialise (driver : Except Bytes Unit) : SeritProgram Unit := do
  modify fun nim => { nim with statuses := ([1, 2, 3, 4] : List Int32).map fun number => { receiver := ⟨number⟩ } }
  match driver with
  | .error text => throw text
  | .ok _ =>
    initialiseNim nimDemodAddrA 0
    initialiseNim nimDemodAddrB 1
    setRepeaters none

def tune (receiver : ReceiverId) (target : ScanTarget) : SeritProgram Unit := do
  match hardwareFor receiver with
  | .error text => throw text
  | .ok hw =>
    serve hw
    let updatedAt ← steadyNow
    updateStatus receiver fun status => { status with
      target := some target
      state := .searching
      updatedAt
      merDb := none
      dNumberDb := none
      modulation := none }
    let nim ← get
    if nim.nimPresent hw.nimIndex = false then updateStatus receiver fun status => { status with state := .fault }
    else
      tryCatch
        (do
          setRepeaters (some hw.nimIndex)
          configureTuner hw (tunerFrequencyKhz target) target
          setRepeaters none
          setupDemodReceive hw target.symbolRateKs false
          writeDemod hw.nimIndex hw.nimAddress (dmdIStateRegister hw.tuner) stv0910ScanBlindBestGuess)
        fun _ => do
          let updatedAt ← steadyNow
          updateStatus receiver fun status => { status with state := .fault, updatedAt }
          disableRepeatersBestEffort

/-- What `stopUnlocked` does on the bus, when the NIM is there. -/
def quieten (hw : ReceiverHardware) (target : ScanTarget) : SeritProgram Unit := do
  setRepeaters (some hw.nimIndex)
  configureTuner hw 0 target
  setRepeaters none
  writeReg16 hw.nimAddress (dmdIStateRegister hw.tuner) 0x1c

def stopUnlocked (receiver : ReceiverId) : SeritProgram Unit := do
  match hardwareFor receiver with
  | .error text => throw text
  | .ok hw =>
    serve hw
    updateStatus receiver id
    let nim ← get
    tryCatch
      (if nim.nimPresent hw.nimIndex then quieten hw ((nim.statusFor receiver).target.getD {}) else return)
      fun text => do
        disableRepeatersBestEffort
        throw text
    let updatedAt ← steadyNow
    updateStatus receiver fun status => { status with state := .idle, target := none, updatedAt }

def stop (receiver : ReceiverId) : SeritProgram Unit := stopUnlocked receiver

def shutdown : SeritProgram Unit := do
  ([1, 2, 3, 4] : List Int32).forM fun receiver => tryCatch (stopUnlocked ⟨receiver⟩) fun _ => return
  tryCatch (setRepeaters none) fun _ => return

end SeritNim

/-! ## Runs -/

inductive NimCall where
  | initialise (driver : Except Bytes Unit)
  | tune (receiver : ReceiverId) (target : ScanTarget)
  | stop (receiver : ReceiverId)
  | shutdown

namespace SeritNim

/-- A controller that has not been used, with both repeaters off. -/
def fresh (replies : Nat → Except Bytes UInt8) (clock : Nat → Time) : SeritNim := { bus := { replies, clock } }

def program : NimCall → SeritProgram Unit
  | .initialise driver => initialise driver
  | .tune receiver target => tune receiver target
  | .stop receiver => stop receiver
  | .shutdown => shutdown

/-- The controller after a call, whether it returned or raised. -/
def perform (nim : SeritNim) (call : NimCall) : SeritNim := (StateT.run (ExceptT.run (program call)) nim).2

end SeritNim
end WhRepeater
