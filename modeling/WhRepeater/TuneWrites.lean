import WhRepeater.ConfigMerges
import WhRepeater.TunerRegisters

/-! Where `tune` puts the numbers of a scan target, and that it puts them there
whenever it reports no fault. What is known of the controller is followed through
the operation: the registers that are written stay as they are to its end. -/
namespace WhRepeater

open FailingPrograms

namespace I2cBus

/-- What was last written to a register. -/
def held (bus : I2cBus) (key : UInt8 × UInt16) : Option UInt8 :=
  bus.seen.findSome? fun seen => if (seen.transfer.address, seen.transfer.register) = key then seen.transfer.written else none

theorem held_succeed (bus : I2cBus) (made : I2cTransfer) (key : UInt8 × UInt16) :
    (bus.succeed made).held key = (if (made.address, made.register) = key then made.written else none).or (bus.held key) := by
  unfold held
  change List.findSome? _ (⟨made, bus.serving, bus.repeaters⟩ :: bus.seen) = _
  rw [List.findSome?_cons]
  split <;> rename_i found <;> rw [found] <;> rfl

end I2cBus

/-- A bus that lets every wait of `tune` end at once. -/
def answering : Nat → Except Bytes UInt8 := fun _ => .ok 1

/-- What is known of the controller, besides what the bus answers. -/
structure Known where
  replies : Nat → Except Bytes UInt8
  statuses : List ReceiverStatus
  rdiv : Option UInt8 := none
  cells : List ((UInt8 × UInt16) × UInt8) := []

namespace Known

def keys (known : Known) : List (UInt8 × UInt16) := known.cells.map Prod.fst

def wrote (known : Known) (key : UInt8 × UInt16) (value : UInt8) : Known := { known with cells := (key, value) :: known.cells }

theorem keys_wrote (known : Known) (key : UInt8 × UInt16) (value : UInt8) :
    (known.wrote key value).keys = key :: known.keys := rfl

end Known

namespace SeritNim

structure Stands (known : Known) (nim : SeritNim) : Prop where
  replies : nim.bus.replies = known.replies
  statuses : nim.statuses = known.statuses
  rdiv : ∀ value ∈ known.rdiv, nim.rdiv = value
  cells : ∀ cell ∈ known.cells, nim.bus.held cell.1 = some cell.2

/-- Nothing fails on the bus that answers. -/
abbrev Unanswered (known : Known) : Bytes → SeritNim → Prop := fun _ _ => known.replies ≠ answering

abbrev Stays {α : Type} (known : Known) (program : SeritProgram α) : Prop := Maintains (Stands known) (Unanswered known) program

variable {known : Known} {nim : SeritNim} {hw : ReceiverHardware} {address value : UInt8} {register : UInt16} {tuner : Nat}

/-! ## Transfers -/

/-- A transfer that writes none of the registers. -/
theorem ends_apart {made : I2cTransfer} (stands : Stands known nim)
    (apart : made.written = none ∨ (made.address, made.register) ∉ known.keys) :
    Ends (transfer made) (fun value next => Stands known next ∧ (known.replies = answering → value = 1)) (Unanswered known)
      nim := by
  refine ends_transfer.mpr ⟨fun value replied => ⟨⟨stands.replies, stands.statuses, stands.rdiv, fun cell among => ?_⟩, ?_⟩,
    fun text raised => ?_⟩
  · have untouched : (if (made.address, made.register) = cell.1 then made.written else none) = none := by
      split
      · rename_i same
        refine apart.resolve_right fun absent => absent ?_
        rw [same]
        exact List.mem_map_of_mem among
      · rfl
    rw [I2cBus.held_succeed, untouched]
    exact stands.cells cell among
  · intro lucky
    rw [stands.replies, lucky] at replied
    cases replied
    rfl
  · intro lucky
    rw [stands.replies, lucky] at raised
    cases raised

theorem ends_read8 {register : UInt8} (stands : Stands known nim) : Ends (readReg8 nimTunerAddr register)
    (fun value next => Stands known next ∧ (known.replies = answering → value = 1)) (Unanswered known) nim :=
  ends_apart stands (.inl rfl)

theorem stays_apart {made : I2cTransfer}
    (apart : made.written = none ∨ (made.address, made.register) ∉ known.keys) : Stays known (transfer made) :=
  fun _ stands => (ends_apart stands apart).mono (fun _ _ kept => kept.1) fun _ _ failed => failed

theorem stays_readReg8 {register : UInt8} : Stays known (readReg8 nimTunerAddr register) :=
  stays_apart (.inl rfl)

theorem stays_writeReg8 {register : UInt8} (apart : (nimTunerAddr, register.toUInt16) ∉ known.keys) :
    Stays known (writeReg8 nimTunerAddr register value) :=
  maintains_bind (stays_apart (.inr apart)) fun _ => maintains_pure

theorem stays_readReg16 : Stays known (readReg16 address register) :=
  stays_apart (.inl rfl)

theorem stays_writeReg16 (apart : (address, register) ∉ known.keys) : Stays known (writeReg16 address register value) :=
  maintains_bind (stays_apart (.inr apart)) fun _ => maintains_pure

/-- A register that is written for the first time. -/
theorem ends_wrote (stands : Stands known nim) (fresh : (address, register) ∉ known.keys) :
    Ends (transfer ⟨address, register, some value⟩) (fun _ => Stands (known.wrote (address, register) value))
      (Unanswered known) nim := by
  refine ends_transfer.mpr
    ⟨fun answer replied => ⟨stands.replies, stands.statuses, stands.rdiv, fun cell among => ?_⟩, fun text raised => ?_⟩
  · rw [I2cBus.held_succeed]
    rcases List.mem_cons.mp among with rfl | among
    · rw [if_pos rfl]
      rfl
    · have other : (address, register) ≠ cell.1 := fun same => fresh (same ▸ List.mem_map_of_mem among)
      rw [if_neg other]
      exact stands.cells cell among
  · intro lucky
    rw [stands.replies, lucky] at raised
    cases raised

theorem ends_wrote8 {register : UInt8} (stands : Stands known nim) (fresh : (nimTunerAddr, register.toUInt16) ∉ known.keys) :
    Ends (writeReg8 nimTunerAddr register value) (fun _ => Stands (known.wrote (nimTunerAddr, register.toUInt16) value))
      (Unanswered known) nim :=
  (ends_wrote stands fresh).then fun _ _ kept => kept

/-- A change of the members that are not known of. -/
theorem Stands.changed {next : SeritNim} (stands : Stands known nim) (bus : next.bus = nim.bus)
    (statuses : next.statuses = nim.statuses) (rdiv : next.rdiv = nim.rdiv) : Stands known next :=
  ⟨by rw [bus, stands.replies], by rw [statuses, stands.statuses], by rw [rdiv]; exact stands.rdiv,
    by rw [bus]; exact stands.cells⟩

/-! ## The demodulators -/

/-- No repeater register is among those that were written. -/
def RepeatersApart (known : Known) : Prop := ∀ index, (demodAddress index, stv0910P1I2cRpt) ∉ known.keys

theorem stays_setRepeater (apart : RepeatersApart known) {enabledNim : Option (Fin 2)} {index : Fin 2} :
    Stays known (setRepeater enabledNim index) := by
  unfold setRepeater
  refine maintains_bind maintains_get fun nim => ?_
  refine maintains_ite maintains_pure (maintains_ite maintains_pure ?_)
  exact maintains_bind (stays_writeReg16 (apart index)) fun _ => maintains_modify fun _ stands => stands.changed rfl rfl rfl

theorem stays_setRepeaters (apart : RepeatersApart known) {enabledNim : Option (Fin 2)} : Stays known (setRepeaters enabledNim) :=
  maintains_bind (stays_setRepeater apart) fun _ => stays_setRepeater apart

theorem stays_writeDemod (apart : RepeatersApart known) {index : Fin 2} (other : (address, register) ∉ known.keys) :
    Stays known (writeDemod index address register value) := by
  unfold writeDemod
  refine maintains_bind (stays_setRepeaters apart) fun _ => ?_
  exact maintains_bind (stays_writeReg16 other) fun _ => maintains_modify fun _ stands => stands.changed rfl rfl rfl

theorem ends_wroteDemod (apart : RepeatersApart known) {index : Fin 2} (stands : Stands known nim)
    (fresh : (address, register) ∉ known.keys) :
    Ends (writeDemod index address register value) (fun _ => Stands (known.wrote (address, register) value))
      (Unanswered known) nim := by
  unfold writeDemod
  refine (stays_setRepeaters apart nim stands).then fun _ nim stands => ?_
  have wrote : Ends (writeReg16 address register value) (fun _ => Stands (known.wrote (address, register) value))
      (Unanswered known) nim := (ends_wrote stands fresh).then fun _ _ kept => kept
  exact wrote.then fun _ _ stands => ends_modify.mpr (stands.changed rfl rfl rfl)

theorem stays_readDemod (apart : RepeatersApart known) : Stays known (readDemod address register) :=
  maintains_bind (stays_setRepeaters apart) fun _ => stays_readReg16

/-! ## The tuner -/

/-- A wait ends when the bus answers what it waits for. -/
theorem stays_waitForTunerBits {done : UInt8 → Bool} (met : done 1 = true) {register : UInt8} {context : Bytes} (left : Nat) :
    Stays known (waitForTunerBits done register context (left + 1)) := by
  induction left with
  | zero =>
    intro nim stands
    refine (ends_read8 stands).then fun value next read => ?_
    by_cases ended : done value = true
    · rw [if_pos ended]
      exact read.1
    · rw [if_neg ended]
      exact fun lucky => ended (read.2 lucky ▸ met)
  | succ left ih => exact maintains_bind stays_readReg8 fun _ => maintains_ite maintains_pure ih

theorem stays_calibrateLowPass (bare : known.cells = []) : Stays known (calibrateLowPass tuner) := by
  have apart : ∀ key, key ∉ known.keys := fun key => by simp [Known.keys, bare]
  unfold calibrateLowPass
  refine maintains_bind maintains_get fun _ => ?_
  refine maintains_bind (stays_writeReg8 (apart _)) fun _ => ?_
  refine maintains_bind (stays_writeReg8 (apart _)) fun _ => ?_
  refine maintains_bind (stays_waitForTunerBits (by decide) 199) fun _ => ?_
  exact stays_writeReg8 (apart _)

/-- The registers that N and F are put into. -/
def tunerRegisters (tuner : Nat) : UInt8 × UInt8 × UInt8 × UInt8 :=
  (if tuner = 1 then stv6120Ctrl3 else stv6120Ctrl12, if tuner = 1 then stv6120Ctrl4 else stv6120Ctrl13,
    if tuner = 1 then stv6120Ctrl5 else stv6120Ctrl14, if tuner = 1 then stv6120Ctrl6 else stv6120Ctrl15)

/-- What is in them, newest first. -/
def tunerCells (tuner : Nat) (values : UInt8 × UInt8 × UInt8 × UInt8) : List ((UInt8 × UInt16) × UInt8) :=
  [((nimTunerAddr, (tunerRegisters tuner).2.2.2.toUInt16), values.2.2.2),
    ((nimTunerAddr, (tunerRegisters tuner).2.2.1.toUInt16), values.2.2.1),
    ((nimTunerAddr, (tunerRegisters tuner).2.1.toUInt16), values.2.1),
    ((nimTunerAddr, (tunerRegisters tuner).1.toUInt16), values.1)]

/-- What the tuner is told of a frequency. -/
def tunedBytes (freqKhz : UInt32) : UInt8 × UInt8 × UInt8 × UInt8 :=
  tunerBytes (wholeN 1 freqKhz) (fractionF 1 freqKhz)
    (chargePumpForVco (freqKhz <<< ((dividerForFrequency freqKhz).toUInt32 + 1)))

theorem ends_setTunerFrequency {freqKhz : UInt32} (bare : known.cells = []) (halved : known.rdiv = some 1)
    (stands : Stands known nim) :
    Ends (setTunerFrequency tuner freqKhz) (fun _ => Stands { known with cells := tunerCells tuner (tunedBytes freqKhz) })
      (Unanswered known) nim := by
  have one := stands.rdiv 1 (by rw [halved]; rfl)
  have none_yet : known.keys = [] := by
    rw [Known.keys, bare]
    rfl
  unfold setTunerFrequency
  rw [ends_bind, ends_get, one]
  -- N and F, and then registers that hold neither
  refine (ends_wrote8 stands (by simp [none_yet])).then fun _ nim stands => ?_
  refine (ends_wrote8 stands (by rw [Known.keys_wrote, none_yet]; split <;> decide)).then fun _ nim stands => ?_
  refine (ends_wrote8 stands (by rw [Known.keys_wrote, Known.keys_wrote, none_yet]; split <;> decide)).then fun _ nim stands => ?_
  refine (ends_wrote8 stands (by
    rw [Known.keys_wrote, Known.keys_wrote, Known.keys_wrote, none_yet]
    split <;> decide)).then fun _ nim stands => ?_
  have tuned : Stands { known with cells := tunerCells tuner (tunedBytes freqKhz) } nim := by
    simp only [Known.wrote, bare] at stands
    exact stands
  have apart : ∀ register ∈ [stv6120Ctrl7, stv6120Ctrl16, stv6120Ctrl8, stv6120Ctrl17, stv6120Stat1, stv6120Stat2],
      (nimTunerAddr, register.toUInt16) ∉ Known.keys { known with cells := tunerCells tuner (tunedBytes freqKhz) } := by
    simp only [Known.keys, tunerCells, tunerRegisters, List.map_cons, List.map_nil]
    split <;> decide +kernel
  refine (stays_writeReg8 (apart _ ?_) nim tuned).then fun _ nim tuned => ?_
  · split <;> decide
  refine (stays_writeReg8 (apart _ ?_) nim tuned).then fun _ nim tuned => ?_
  · split <;> decide
  refine (stays_writeReg8 (apart _ ?_) nim tuned).then fun _ nim tuned => ?_
  · split <;> decide
  refine (stays_waitForTunerBits (by decide) 199 nim tuned).then fun _ nim tuned => ?_
  exact stays_waitForTunerBits (by decide) 199 nim tuned

theorem ends_configureTuner {freqKhz : UInt32} {target : ScanTarget} (bare : known.cells = []) (positive : 0 < freqKhz)
    (stands : Stands known nim) :
    Ends (configureTuner hw freqKhz target)
      (fun _ => Stands { known with rdiv := some 1, cells := tunerCells hw.tuner (tunedBytes freqKhz) })
      (Unanswered known) nim := by
  have apart : ∀ key, key ∉ Known.keys { known with rdiv := some 1 } := fun key => by simp [Known.keys, bare]
  have halved : Stands { known with rdiv := some 1 } { nim with rdiv := 1 } :=
    ⟨stands.replies, stands.statuses, fun value same => by cases same; rfl, stands.cells⟩
  unfold configureTuner
  rw [ends_bind, ends_modify]
  refine (stays_writeReg8 (apart _) _ halved).then fun _ nim stands => ?_
  refine (stays_readReg8 nim stands).then fun _ nim stands => ?_
  refine (stays_writeReg8 (apart _) nim stands).then fun _ nim stands => ?_
  refine (maintains_modify ?_ nim stands).then fun _ nim stands => ?_
  · exact fun _ stands => stands.changed rfl rfl rfl
  refine (stays_readReg8 nim stands).then fun _ nim stands => ?_
  refine (stays_writeReg8 (apart _) nim stands).then fun _ nim stands => ?_
  refine (maintains_modify ?_ nim stands).then fun _ nim stands => ?_
  · exact fun _ stands => stands.changed rfl rfl rfl
  refine (stays_writeReg8 (apart _) nim stands).then fun _ nim stands => ?_
  refine (maintains_modify ?_ nim stands).then fun _ nim stands => ?_
  · intro _ stands
    split <;> exact stands.changed rfl rfl rfl
  refine (stays_writeReg8 (apart _) nim stands).then fun _ nim stands => ?_
  refine (stays_readReg8 nim stands).then fun _ nim stands => ?_
  refine (stays_readReg8 nim stands).then fun _ nim stands => ?_
  refine (stays_writeReg8 (apart _) nim stands).then fun _ nim stands => ?_
  refine (stays_writeReg8 (apart _) nim stands).then fun _ nim stands => ?_
  refine (stays_writeReg8 (apart _) nim stands).then fun _ nim stands => ?_
  refine (stays_writeReg8 (apart _) nim stands).then fun _ nim stands => ?_
  refine (stays_writeReg8 (apart _) nim stands).then fun _ nim stands => ?_
  refine (stays_writeReg8 (apart _) nim stands).then fun _ nim stands => ?_
  refine (stays_writeReg8 (apart _) nim stands).then fun _ nim stands => ?_
  refine (stays_writeReg8 (apart _) nim stands).then fun _ nim stands => ?_
  rw [if_pos positive]
  have calibrated : Stays { known with rdiv := some 1 } (calibrateLowPass hw.tuner) := stays_calibrateLowPass bare
  exact (calibrated nim stands).then fun _ nim stands =>
    @ends_setTunerFrequency { known with rdiv := some 1 } _ _ _ bare rfl stands

/-! ## The whole operation -/

/-- The registers after the operation. -/
def tuneCells (hw : ReceiverHardware) (target : ScanTarget) : List ((UInt8 × UInt16) × UInt8) :=
  ((hw.nimAddress, sfrInit0Register hw.tuner), (symbolRateRegister target.symbolRateKs &&& 0xff).toUInt8) ::
    ((hw.nimAddress, sfrInit1Register hw.tuner), (symbolRateRegister target.symbolRateKs >>> 8).toUInt8) ::
      tunerCells hw.tuner (tunedBytes (tunerFrequencyKhz target))

theorem hardware_cases {receiver : ReceiverId} (found : hardwareFor receiver = .ok hw) :
    (hw.nimAddress = nimDemodAddrA ∨ hw.nimAddress = nimDemodAddrB) ∧ (hw.tuner = 1 ∨ hw.tuner = 2) := by
  unfold hardwareFor at found
  split_ifs at found <;> cases found <;> simp

/-- No two of the registers of a demodulator and of a tuner are the same. -/
theorem demod_apart {receiver : ReceiverId} (found : hardwareFor receiver = .ok hw) (values : UInt8 × UInt8 × UInt8 × UInt8) :
    (∀ register, (hw.nimAddress, register) ∉ (tunerCells hw.tuner values).map Prod.fst) ∧
      ∀ index, (demodAddress index, stv0910P1I2cRpt) ∉ (tunerCells hw.tuner values).map Prod.fst := by
  have tuners : ∀ key ∈ (tunerCells hw.tuner values).map Prod.fst, key.1 = nimTunerAddr := by
    simp [tunerCells]
  have other : hw.nimAddress ≠ nimTunerAddr := by
    rcases (hardware_cases found).1 with same | same <;> rw [same] <;> decide
  exact ⟨fun register among => other (tuners _ among), fun index among => demodAddress_ne index (tuners _ among)⟩

theorem sfr_registers (tuner : Nat) : stv0910P1I2cRpt ≠ sfrInit1Register tuner ∧ stv0910P1I2cRpt ≠ sfrInit0Register tuner ∧
    sfrInit0Register tuner ≠ sfrInit1Register tuner ∧ dmdIStateRegister tuner ≠ sfrInit1Register tuner ∧
    dmdIStateRegister tuner ≠ sfrInit0Register tuner := by
  unfold sfrInit0Register sfrInit1Register dmdIStateRegister
  split <;> decide

theorem RepeatersApart.wrote (repeaters : RepeatersApart known) (other : stv0910P1I2cRpt ≠ register) :
    RepeatersApart (known.wrote (address, register) value) := by
  intro index among
  rcases List.mem_cons.mp among with same | among
  · exact other (Prod.ext_iff.mp same).2
  · exact repeaters index among

theorem ends_setupDemodReceive {symbolRateKs : UInt32} (stands : Stands known nim)
    (repeaters : RepeatersApart known) (apart : ∀ register, (hw.nimAddress, register) ∉ known.keys) :
    Ends (setupDemodReceive hw symbolRateKs false)
      (fun _ => Stands ((known.wrote (hw.nimAddress, sfrInit1Register hw.tuner) (symbolRateRegister symbolRateKs >>> 8).toUInt8).wrote
        (hw.nimAddress, sfrInit0Register hw.tuner) (symbolRateRegister symbolRateKs &&& 0xff).toUInt8)) (Unanswered known) nim := by
  have carrier : Stays known (setupCarrierLoop hw symbolRateKs false) := by
    unfold setupCarrierLoop
    refine maintains_bind (stays_writeDemod repeaters (apart _)) fun _ => ?_
    refine maintains_bind (stays_writeDemod repeaters (apart _)) fun _ => ?_
    refine maintains_bind (stays_writeDemod repeaters (apart _)) fun _ => ?_
    refine maintains_bind (stays_writeDemod repeaters (apart _)) fun _ => ?_
    refine maintains_bind (stays_writeDemod repeaters (apart _)) fun _ => ?_
    refine maintains_bind (stays_writeDemod repeaters (apart _)) fun _ => ?_
    refine maintains_bind (stays_readDemod repeaters) fun _ => ?_
    exact stays_writeDemod repeaters (apart _)
  unfold setupDemodReceive setupTimingLoop
  refine (stays_writeDemod repeaters (apart _) nim stands).then fun _ nim stands => ?_
  refine (carrier nim stands).then fun _ nim stands => ?_
  refine (ends_wroteDemod repeaters stands (apart _)).then fun _ nim stands => ?_
  refine ends_wroteDemod (repeaters.wrote (sfr_registers hw.tuner).1) stands ?_
  rw [Known.keys_wrote, List.mem_cons, not_or]
  exact ⟨fun same => (sfr_registers hw.tuner).2.2.1 (Prod.ext_iff.mp same).2, apart _⟩

/-- With a frequency to tune to, the operation leaves its numbers in the registers,
unless something fails. -/
theorem ends_received {receiver : ReceiverId} {target : ScanTarget} (found : hardwareFor receiver = .ok hw)
    (bare : known.cells = []) (positive : 0 < tunerFrequencyKhz target) (stands : Stands known nim) :
    Ends (do
        setRepeaters (some hw.nimIndex)
        configureTuner hw (tunerFrequencyKhz target) target
        setRepeaters none
        setupDemodReceive hw target.symbolRateKs false
        writeDemod hw.nimIndex hw.nimAddress (dmdIStateRegister hw.tuner) stv0910ScanBlindBestGuess)
      (fun _ => Stands { known with rdiv := some 1, cells := tuneCells hw target }) (Unanswered known) nim := by
  obtain ⟨apart, repeaters⟩ := demod_apart found (tunedBytes (tunerFrequencyKhz target))
  have dark : RepeatersApart known := fun index => by simp [Known.keys, bare]
  have tuned : RepeatersApart { known with rdiv := some 1, cells := tunerCells hw.tuner (tunedBytes (tunerFrequencyKhz target)) } :=
    repeaters
  refine (stays_setRepeaters dark nim stands).then fun _ nim stands => ?_
  refine (ends_configureTuner bare positive stands).then fun _ nim stands => ?_
  refine (stays_setRepeaters tuned nim stands).then fun _ nim stands => ?_
  refine (ends_setupDemodReceive stands tuned apart).then fun _ nim stands => ?_
  refine stays_writeDemod ((tuned.wrote (sfr_registers hw.tuner).1).wrote (sfr_registers hw.tuner).2.1) ?_ nim stands
  rw [Known.keys_wrote, Known.keys_wrote, List.mem_cons, List.mem_cons, not_or, not_or]
  obtain ⟨-, -, -, first, second⟩ := sfr_registers hw.tuner
  exact ⟨fun same => second (Prod.ext_iff.mp same).2, fun same => first (Prod.ext_iff.mp same).2, apart _⟩

/-- The status that was changed is the one that is there. -/
theorem ends_updateStatus {receiver : ReceiverId} {change : ReceiverStatus → ReceiverStatus}
    {after : Unit → SeritNim → Prop} {failed : Bytes → SeritNim → Prop}
    (kept : ∀ status, (change status).receiver = status.receiver)
    (then_ : ∀ statuses, ((({ nim with statuses } : SeritNim).statusFor receiver) = change (nim.statusFor receiver)) →
      after () { nim with statuses }) : Ends (updateStatus receiver change) after failed nim := by
  rw [updateStatus, ends_modify]
  refine then_ _ ?_
  dsimp only [statusFor]
  induction nim.statuses with
  | nil => simp [kept]
  | cons first rest ih =>
    by_cases same : first.receiver = receiver
    · simp [List.findIdx_cons, same, kept]
    · have later : (first :: rest).findIdx (fun status => status.receiver = receiver) =
          rest.findIdx (fun status => status.receiver = receiver) + 1 := by simp [List.findIdx_cons, same]
      rw [later, List.length_cons]
      by_cases inside : rest.findIdx (fun status => status.receiver = receiver) < rest.length
      · rw [if_pos inside] at ih
        rw [if_pos (by omega), List.modify_succ_cons, List.find?_cons_of_neg (by simpa using same), ih,
          List.find?_cons_of_neg (by simpa using same)]
      · rw [if_neg inside] at ih
        rw [if_neg (by omega), List.cons_append, List.find?_cons_of_neg (by simpa using same), ih,
          List.find?_cons_of_neg (by simpa using same)]

/-- Nothing that the repeaters do shows in a status, even when it fails. -/
theorem preserves_statuses_setRepeaters {statuses : List ReceiverStatus} {enabledNim : Option (Fin 2)} :
    Preserves (fun nim => nim.statuses = statuses) (setRepeaters enabledNim) := by
  have turned : ∀ index, Preserves (fun nim => nim.statuses = statuses) (setRepeater enabledNim index) := by
    intro index
    have written : ∀ made, Preserves (fun nim => nim.statuses = statuses) (transfer made) := fun made nim same =>
      ends_transfer.mpr ⟨fun _ _ => same, fun _ _ => same⟩
    unfold setRepeater
    refine preserves_bind preserves_get fun _ => ?_
    refine preserves_ite preserves_pure (preserves_ite preserves_pure ?_)
    exact preserves_bind (preserves_bind (written _) fun _ => preserves_pure) fun _ => preserves_modify fun _ same => same
  exact preserves_bind (turned 0) fun _ => turned 1

/-- A tune ends in a fault, which it does not when the bus answers and the NIM is
there, or with the numbers in the registers. -/
theorem ends_tune {receiver : ReceiverId} {target : ScanTarget} (found : hardwareFor receiver = .ok hw)
    (positive : 0 < tunerFrequencyKhz target) :
    Ends (tune receiver target)
      (fun _ final => ((final.statusFor receiver).state = .fault ∧
          (nim.bus.replies ≠ answering ∨ nim.nimPresent hw.nimIndex = false)) ∨
        ((final.statusFor receiver).state = .searching ∧ ∀ cell ∈ tuneCells hw target, final.bus.held cell.1 = some cell.2))
      (fun _ _ => False) nim := by
  unfold tune
  rw [found]
  dsimp only
  rw [ends_bind, serve, ends_modify, ends_bind, steadyNow, ends_bind, ends_get, ends_pure, ends_bind]
  refine ends_updateStatus (fun _ => rfl) fun statuses searching => ?_
  rw [ends_bind, ends_get]
  by_cases absent : nim.nimPresent hw.nimIndex = false
  · rw [if_pos absent]
    refine ends_updateStatus (fun _ => rfl) fun statuses fault => .inl ⟨?_, .inr absent⟩
    rw [fault]
  · rw [if_neg absent, ends_tryCatch]
    have stands : Stands { replies := nim.bus.replies, statuses }
        { nim with bus := { nim.bus with serving := some hw.nimIndex }, statuses } := ⟨rfl, rfl, nofun, nofun⟩
    refine (ends_received found rfl positive stands).mono (fun _ final done => .inr ⟨?_, done.cells⟩) fun _ final unanswered => ?_
    · have same : final.statusFor receiver = ({ nim with
          bus := { nim.bus with serving := some hw.nimIndex }, statuses } : SeritNim).statusFor receiver := by
        rw [statusFor, statusFor, done.statuses]
      rw [same, searching]
    · rw [ends_bind, ends_bind, ends_get, ends_pure, ends_bind]
      refine ends_updateStatus (fun _ => rfl) fun statuses fault => ?_
      have quiet : Ends disableRepeatersBestEffort (fun _ next => next.statuses = statuses) (fun _ _ => False)
          { final with statuses } :=
        ends_tryCatch.mpr ((preserves_statuses_setRepeaters _ rfl).mono (fun _ _ same => same) fun _ _ same => same)
      refine quiet.mono (fun _ next same => .inl ⟨?_, .inl unanswered⟩) fun _ _ never => never
      have shown : next.statusFor receiver = ({ final with statuses } : SeritNim).statusFor receiver := by
        rw [statusFor, statusFor, same]
      rw [shown, fault]

theorem perform_tune {receiver : ReceiverId} {target : ScanTarget} (found : hardwareFor receiver = .ok hw)
    (positive : 0 < tunerFrequencyKhz target) :
    (((nim.perform (.tune receiver target)).statusFor receiver).state = .fault ∧
        (nim.bus.replies ≠ answering ∨ nim.nimPresent hw.nimIndex = false)) ∨
      (((nim.perform (.tune receiver target)).statusFor receiver).state = .searching ∧
        ∀ cell ∈ tuneCells hw target, (nim.perform (.tune receiver target)).bus.held cell.1 = some cell.2) := by
  have ends := @ends_tune nim hw receiver target found positive
  rw [Ends] at ends
  split at ends
  · rename_i ran
    rw [perform, program, ran]
    exact ends
  · exact ends.elim

/-! ## What the registers say afterwards -/

/-- N and F, as the registers of the tuner have them. -/
def tunerWord (bus : I2cBus) (tuner : Nat) : Option (Nat × Nat) := do
  let low ← bus.held (nimTunerAddr, (tunerRegisters tuner).1.toUInt16)
  let mixed ← bus.held (nimTunerAddr, (tunerRegisters tuner).2.1.toUInt16)
  let middle ← bus.held (nimTunerAddr, (tunerRegisters tuner).2.2.1.toUInt16)
  let high ← bus.held (nimTunerAddr, (tunerRegisters tuner).2.2.2.toUInt16)
  return (decodedN low mixed, decodedF mixed middle high)

def symbolRateWord (bus : I2cBus) (hw : ReceiverHardware) : Option Nat := do
  let high ← bus.held (hw.nimAddress, sfrInit1Register hw.tuner)
  let low ← bus.held (hw.nimAddress, sfrInit0Register hw.tuner)
  return 256 * high.toNat + low.toNat

/-- The registers say what the target asks for. -/
structure Faithful (target : ScanTarget) (hw : ReceiverHardware) (bus : I2cBus) : Prop where
  kept : NothingLost target
  vco : ∃ n f, tunerWord bus hw.tuner = some (n, f) ∧ vcoKhz n f ≤ requestedVcoKhz (tunerFrequencyKhz target) ∧
    requestedVcoKhz (tunerFrequencyKhz target) ≤ vcoKhz n f + 15000 / 2 ^ 18
  symbolRate : symbolRateWord bus hw = some (target.symbolRateKs.toNat * 65536 / 135000)

theorem faithful_of_cells {target : ScanTarget} {bus : I2cBus} (low : tunerFrequencyKhz target < 3840000)
    (slow : target.symbolRateKs < 65536) (cells : ∀ cell ∈ tuneCells hw target, bus.held cell.1 = some cell.2) :
    Faithful target hw bus := by
  have frequency : (tunerFrequencyKhz target).toNat < 3840000 := UInt32.lt_iff_toNat_lt.mp low
  have rate : target.symbolRateKs.toNat < 65536 := UInt32.lt_iff_toNat_lt.mp slow
  simp only [tuneCells, tunerCells, List.forall_mem_cons] at cells
  obtain ⟨sfr0, sfr1, ctrl6, ctrl5, ctrl4, ctrl3, -⟩ := cells
  refine ⟨(nothingLost_iff target).mpr ⟨low, slow⟩, ⟨_, _, ?_, decoded_near frequency⟩, ?_⟩
  · rw [tunerWord, ctrl3, ctrl4, ctrl5, ctrl6]
    exact congrArg some (Prod.ext (decodedN_tunerBytes ..) (decodedF_tunerBytes ..))
  · rw [symbolRateWord, sfr0, sfr1, ← symbolRateRegister_toNat rate]
    exact congrArg some (symbolRateBytes_toNat _)

/-- A NIM that answers at once. -/
def ready : SeritNim := { bus := { replies := answering, clock := fun _ => 0 }, nimPresent := fun _ => true }

/-- What is asked of `tune` for a target, on whatever bus and in whatever state. -/
def TunedFaithfully (target : ScanTarget) : Prop :=
  ∀ (nim : SeritNim) receiver hw, hardwareFor receiver = .ok hw →
    ((nim.perform (.tune receiver target)).statusFor receiver).state = .fault ∨
      Faithful target hw (nim.perform (.tune receiver target)).bus

/-- A bus that answers shows what is lost. -/
theorem bounds_of_tunedFaithfully {target : ScanTarget} (positive : 0 < tunerFrequencyKhz target)
    (always : TunedFaithfully target) :
    tunerFrequencyKhz target < 3840000 ∧ target.symbolRateKs < 65536 := by
  have answered := @perform_tune ready _ ⟨1⟩ target rfl positive
  rcases always ready ⟨1⟩ _ rfl with fault | faithful
  · rcases answered with ⟨-, unanswered | absent⟩ | ⟨searching, -⟩
    · exact absurd rfl unanswered
    · cases absent
    · rw [searching] at fault
      cases fault
  · exact (nothingLost_iff target).mp faithful.kept

/-- Nine bits hold N, and thirty-two the shifted symbol rate, only so far. -/
theorem tuned_faithfully_iff (target : ScanTarget) (positive : 0 < tunerFrequencyKhz target) :
    TunedFaithfully target ↔ tunerFrequencyKhz target < 3840000 ∧ target.symbolRateKs < 65536 := by
  refine ⟨bounds_of_tunedFaithfully positive, fun ⟨low, slow⟩ nim receiver hw found => ?_⟩
  rcases perform_tune found positive with ⟨fault, -⟩ | ⟨-, cells⟩
  · exact .inl fault
  · exact .inr (faithful_of_cells low slow cells)

theorem beacon_tuned_faithfully_iff :
    TunedFaithfully { frequencyKhz := 10491500, symbolRateKs := 1500, localOscillatorKhz := 9750000 } ↔
      (741500 : UInt32) < 3840000 ∧ (1500 : UInt32) < 65536 :=
  tuned_faithfully_iff _ (by decide)

/-! ## Targets that are tuned to something else -/

def wideText : Bytes :=
  bytes "\x7b\"receivers\":[\x7b\"id\":1,\"targets\":[\x7b\"frequencyKhz\":10491500,\"symbolRateKs\":1500,\"localOscillatorKhz\":5150000\x7d,\x7b\"frequencyKhz\":10491500,\"symbolRateKs\":66000,\"localOscillatorKhz\":9750000\x7d]\x7d]\x7d"

/-- With the oscillator of another band. -/
def highTarget : ScanTarget := { frequencyKhz := 10491500, symbolRateKs := 1500, localOscillatorKhz := 5150000, antenna := .top }

/-- With a symbol rate of seventeen bits. -/
def fastTarget : ScanTarget := { frequencyKhz := 10491500, symbolRateKs := 66000, localOscillatorKhz := 9750000, antenna := .top }

def wideTargets : RepeaterConfig := { receivers := [{ receiver := ⟨1⟩, targets := [highTarget, fastTarget] }] }

theorem wideTargets_accepted : configFromJson wrapping wideText = some (.ok wideTargets) := by
  have printed : (Document.object .compact [("receivers", .array .compact [.object .compact [("id", .decimal 1), ("targets",
      .array .compact [.object .compact
        [("frequencyKhz", .decimal 10491500), ("symbolRateKs", .decimal 1500), ("localOscillatorKhz", .decimal 5150000)],
      .object .compact
        [("frequencyKhz", .decimal 10491500), ("symbolRateKs", .decimal 66000), ("localOscillatorKhz", .decimal 9750000)]])]])]).print
      (fun _ => []) ++ [] = wideText := by decide +kernel
  have parsed : JsonParser.parse wideText =
      some (.ok (.object [(bytes "receivers", .array [.object [(bytes "id", .number 1), (bytes "targets", .array [
        .object [(bytes "frequencyKhz", .number 10491500), (bytes "symbolRateKs", .number 1500),
          (bytes "localOscillatorKhz", .number 5150000)],
        .object [(bytes "frequencyKhz", .number 10491500), (bytes "symbolRateKs", .number 66000),
          (bytes "localOscillatorKhz", .number 9750000)]])]])])) := by
    rw [← printed, Document.parse_print _ rfl, if_pos (by decide +kernel)]
    · rfl
    · simp only [Document.Proper, Document.ProperMembers, Document.ProperItems, and_true]
      decide +kernel
  rw [configFromJson_of_parse parsed]
  rfl

/-- The tuner of the first goes to 3 GHz for 10.7, and the demodulator of the second
expects a symbol rate of 464. -/
theorem wide_targets_mistuned :
    configFromJson wrapping wideText = some (.ok wideTargets) ∧
      (((ready.perform (.tune ⟨1⟩ highTarget)).statusFor ⟨1⟩).state = .searching ∧
        tunerWord (ready.perform (.tune ⟨1⟩ highTarget)).bus 1 = some (200, 52428) ∧
        requestedVcoKhz (tunerFrequencyKhz highTarget) = 10683000 ∧ vcoKhz 200 52428 < 3003000 ∧ ¬ TunedFaithfully highTarget) ∧
      ((ready.perform (.tune ⟨1⟩ fastTarget)).statusFor ⟨1⟩).state = .searching ∧
        symbolRateWord (ready.perform (.tune ⟨1⟩ fastTarget)).bus ⟨⟨1⟩, 0, nimDemodAddrA, 1⟩ = some 225 ∧
        66000 * 65536 / 135000 = 32039 ∧ ¬ TunedFaithfully fastTarget := by
  have high : ¬ TunedFaithfully highTarget := fun always =>
    absurd (bounds_of_tunedFaithfully (by decide) always).1 (by decide)
  have fast : ¬ TunedFaithfully fastTarget := fun always =>
    absurd (bounds_of_tunedFaithfully (by decide) always).2 (by decide)
  exact ⟨wideTargets_accepted, ⟨by decide +kernel, by decide +kernel, by decide +kernel, by decide +kernel, high⟩,
    by decide +kernel, by decide +kernel, by decide, fast⟩

end SeritNim
end WhRepeater
