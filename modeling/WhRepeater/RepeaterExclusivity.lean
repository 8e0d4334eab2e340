import WhRepeater.NimBus

/-! The tuners are reached one at a time. Through any failures of the bus, in any
order of calls, the cached repeaters are those of the hardware, a tuner is only
addressed behind its own repeater alone, and a demodulator is only written with
both repeaters off. -/
namespace WhRepeater

open FailingPrograms

/-- What is asked of a transfer. -/
structure SeenTransfer.Exclusive (seen : SeenTransfer) : Prop where
  tuner : seen.transfer.address = nimTunerAddr →
    ∃ nim, seen.serving = some nim ∧ ∀ other, seen.repeaters other = decide (other = nim)
  demod : (addressedNim seen.transfer.address).isSome = true → seen.transfer.written.isSome = true →
    seen.transfer.register ≠ stv0910P1I2cRpt → ∀ other, seen.repeaters other = false

namespace SeritNim

variable {nim next : SeritNim} {index served : Fin 2} {enabledNim : Option (Fin 2)} {absent : List (Fin 2)}
  {address value : UInt8} {register : UInt16} {hw : ReceiverHardware}

/-- The cached repeaters are those of the bus, and every transfer so far was exclusive. -/
structure Sound (nim : SeritNim) : Prop where
  cached : nim.repeaterOn = nim.bus.repeaters
  exclusive : ∀ seen ∈ nim.bus.seen, seen.Exclusive

/-- Both repeaters are off. -/
structure Off (nim : SeritNim) : Prop where
  sound : Sound nim
  off : ∀ index, nim.repeaterOn index = false

/-- The repeater of the NIM that is served is on, and the other one off. -/
structure Open (served : Fin 2) (nim : SeritNim) : Prop where
  sound : Sound nim
  serving : nim.bus.serving = some served
  present : nim.nimPresent served = true
  alone : ∀ index, nim.repeaterOn index = decide (index = served)

/-- Between the calls only a NIM that is there has its repeater on, unless none is
there: an absent one would be passed over when the other is selected. -/
structure Settled (nim : SeritNim) : Prop where
  sound : Sound nim
  present : (∀ index, nim.repeaterOn index = true → nim.nimPresent index = true) ∨ ∀ index, nim.nimPresent index = false

theorem Off.settled (off : Off nim) : Settled nim := ⟨off.sound, .inl fun index on => by simp [off.off] at on⟩

theorem Open.settled (open_ : Open served nim) : Settled nim := by
  refine ⟨open_.sound, .inl fun index on => ?_⟩
  rw [open_.alone, decide_eq_true_eq] at on
  rw [on]
  exact open_.present

theorem Sound.of_bus (sound : Sound nim) (bus : next.bus = nim.bus) (cached : next.repeaterOn = nim.repeaterOn) : Sound next :=
  ⟨by rw [cached, bus, sound.cached], by rw [bus]; exact sound.exclusive⟩

/-! ## Transfers -/

/-- A transfer that was exclusive, and changed no repeater. -/
theorem sound_attempt {made : I2cTransfer} (sound : Sound nim)
    (exclusive : SeenTransfer.Exclusive ⟨made, nim.bus.serving, nim.bus.repeaters⟩) :
    Sound { nim with bus := nim.bus.attempt made } := by
  refine ⟨sound.cached, fun seen member => ?_⟩
  rcases List.mem_cons.mp member with rfl | earlier
  · exact exclusive
  · exact sound.exclusive seen earlier

theorem sound_succeed {made : I2cTransfer} (sound : Sound nim)
    (exclusive : SeenTransfer.Exclusive ⟨made, nim.bus.serving, nim.bus.repeaters⟩)
    (unchanged : (nim.bus.succeed made).repeaters = nim.bus.repeaters) : Sound { nim with bus := nim.bus.succeed made } :=
  ⟨sound.cached.trans unchanged.symm, (sound_attempt sound exclusive).exclusive⟩

theorem preserves_open_transfer {written : Option UInt8} :
    Preserves (Open served) (transfer ⟨nimTunerAddr, register, written⟩) := by
  intro nim holds
  have unaddressed : addressedNim nimTunerAddr = none := by decide
  have exclusive : SeenTransfer.Exclusive ⟨⟨nimTunerAddr, register, written⟩, nim.bus.serving, nim.bus.repeaters⟩ := by
    refine ⟨fun _ => ⟨served, holds.serving, fun other => ?_⟩, fun addressed => by simp [unaddressed] at addressed⟩
    exact (congrFun holds.sound.cached other).symm.trans (holds.alone other)
  refine ends_transfer.mpr ⟨fun _ _ => ?_, fun _ _ => ?_⟩
  · have unchanged : (nim.bus.succeed ⟨nimTunerAddr, register, written⟩).repeaters = nim.bus.repeaters := by
      simp [I2cBus.succeed, unaddressed]
    exact ⟨sound_succeed holds.sound exclusive unchanged, holds.serving, holds.present, holds.alone⟩
  · exact ⟨sound_attempt holds.sound exclusive, holds.serving, holds.present, holds.alone⟩

/-- A transfer of a demodulator with both repeaters off leaves them off. -/
theorem preserves_off_transfer {written : Option UInt8} (demod : (addressedNim address).isSome = true)
    (harmless : ∀ value, written = some value → register = stv0910P1I2cRpt → value &&& 0x80 = 0) :
    Preserves Off (transfer ⟨address, register, written⟩) := by
  intro nim holds
  have untuned : address ≠ nimTunerAddr := by
    rintro rfl
    exact absurd demod (by decide)
  have dark : ∀ index, nim.bus.repeaters index = false := fun index => by rw [← holds.sound.cached, holds.off]
  have exclusive : SeenTransfer.Exclusive ⟨⟨address, register, written⟩, nim.bus.serving, nim.bus.repeaters⟩ :=
    ⟨fun tuner => absurd tuner untuned, fun _ _ _ => dark⟩
  refine ends_transfer.mpr ⟨fun _ _ => ?_, fun _ _ => ⟨sound_attempt holds.sound exclusive, holds.off⟩⟩
  have unchanged : (nim.bus.succeed ⟨address, register, written⟩).repeaters = nim.bus.repeaters := by
    unfold I2cBus.succeed
    dsimp only
    split
    · rename_i value _
      split_ifs with repeater
      · have off := harmless value rfl repeater
        funext index
        simp [Function.update_apply, off, dark]
      · rfl
    · rfl
  exact ⟨sound_succeed holds.sound exclusive unchanged, holds.off⟩

/-! ## The repeaters -/

theorem addressedNim_demodAddress : ∀ index, addressedNim (demodAddress index) = some index := by decide

/-- The two values of the repeater register are what they are called. -/
theorem repeater_bit : ∀ desired : Bool,
    (decide ((if desired then WhRepeater.repeaterOn else repeaterOff) &&& 0x80 ≠ 0) : Bool) = desired := by decide

/-- What a turn of `setRepeaters` does, when nothing else changes the repeaters. -/
theorem ends_setRepeater (sound : Sound nim) : Ends (setRepeater enabledNim index)
    (fun _ next => Sound next ∧ next.nimPresent = nim.nimPresent ∧ next.bus.serving = nim.bus.serving ∧
      next.repeaterOn = if nim.nimPresent index = false ∧ enabledNim ≠ none then nim.repeaterOn
        else Function.update nim.repeaterOn index (some index = enabledNim))
    (fun _ next => Sound next ∧ next.nimPresent = nim.nimPresent ∧ next.bus.serving = nim.bus.serving ∧
      next.repeaterOn = nim.repeaterOn) nim := by
  unfold setRepeater
  rw [ends_bind, ends_get]
  by_cases passed : nim.nimPresent index = false ∧ enabledNim ≠ none
  · rw [if_pos passed, ends_pure, if_pos passed]
    exact ⟨sound, rfl, rfl, rfl⟩
  · rw [if_neg passed]
    dsimp only
    by_cases standing : nim.repeaterOn index = decide (some index = enabledNim)
    · rw [if_pos standing, ends_pure, if_neg passed, ← standing, Function.update_eq_self]
      exact ⟨sound, rfl, rfl, rfl⟩
    · rw [if_neg standing, writeReg16, ends_bind, ends_bind, ends_transfer]
      have exclusive : SeenTransfer.Exclusive ⟨⟨demodAddress index, stv0910P1I2cRpt,
          some (if decide (some index = enabledNim) = true then WhRepeater.repeaterOn else repeaterOff)⟩,
          nim.bus.serving, nim.bus.repeaters⟩ :=
        ⟨fun tuner => absurd tuner (demodAddress_ne index), fun _ _ other => absurd rfl other⟩
      refine ⟨fun _ _ => ?_, fun _ _ => ⟨sound_attempt sound exclusive, rfl, rfl, rfl⟩⟩
      rw [ends_pure, ends_modify, if_neg passed]
      refine ⟨⟨?_, (sound_attempt sound exclusive).exclusive⟩, rfl, rfl, rfl⟩
      dsimp only [I2cBus.succeed]
      rw [addressedNim_demodAddress, sound.cached]
      dsimp only
      rw [if_pos rfl, repeater_bit]

theorem Settled.setRepeater (settled : Settled nim) :
    Ends (setRepeater enabledNim index) (fun _ => Settled) (fun _ => Settled) nim := by
  refine (ends_setRepeater settled.sound).mono ?_ ?_
  · rintro _ next ⟨sound, present, -, turned⟩
    refine ⟨sound, ?_⟩
    rw [present, turned]
    refine settled.present.imp_left fun there other on => ?_
    split_ifs at on with passed
    · exact there other on
    · by_cases mine : other = index
      · subst mine
        rw [Function.update_self, decide_eq_true_eq] at on
        by_contra missing
        exact passed ⟨by simpa using missing, by simp [← on]⟩
      · rw [Function.update_of_ne mine] at on
        exact there other on
  · rintro _ next ⟨sound, present, -, same⟩
    refine ⟨sound, ?_⟩
    rw [present, same]
    exact settled.present

theorem preserves_setRepeaters : Preserves Settled (setRepeaters enabledNim) :=
  preserves_bind (fun _ settled => settled.setRepeater) fun _ _ settled => settled.setRepeater

/-- Turning the repeaters off leaves both off, or fails and turns none on. -/
theorem ends_setRepeaters_none (sound : Sound nim) : Ends (setRepeaters none) (fun _ => Off)
    (fun _ next => Sound next ∧ next.nimPresent = nim.nimPresent ∧
      ∀ index, next.repeaterOn index = true → nim.repeaterOn index = true) nim := by
  refine ends_bind.mpr ((ends_setRepeater sound).mono ?_ ?_)
  · rintro _ first ⟨soundFirst, presentFirst, -, turnedFirst⟩
    rw [if_neg (by simp)] at turnedFirst
    refine (ends_setRepeater soundFirst).mono ?_ ?_
    · rintro _ second ⟨soundSecond, -, -, turnedSecond⟩
      rw [if_neg (by simp), turnedFirst] at turnedSecond
      refine ⟨soundSecond, Fin.forall_fin_two.mpr ⟨?_, ?_⟩⟩ <;> simp [turnedSecond]
    · rintro _ second ⟨soundSecond, presentSecond, -, same⟩
      refine ⟨soundSecond, presentSecond.trans presentFirst, fun index on => ?_⟩
      rw [same, turnedFirst, Function.update_apply] at on
      split_ifs at on with zero
      · simp at on
      · exact on
  · rintro _ next ⟨soundNext, present, -, same⟩
    exact ⟨soundNext, present, fun index on => by rwa [same] at on⟩

/-- The repeater of a NIM that is there comes on, alone. -/
theorem ends_setRepeaters_some (settled : Settled nim) (serving : nim.bus.serving = some served)
    (present : nim.nimPresent served = true) :
    Ends (setRepeaters (some served)) (fun _ => Open served) (fun _ => Settled) nim := by
  have passedOver : ∀ index, nim.nimPresent index = false → nim.repeaterOn index = false ∧ index ≠ served := by
    intro index missing
    refine ⟨?_, fun same => by simp [← same, missing] at present⟩
    rcases settled.present with there | none
    · by_contra on
      simp [there index (by simpa using on)] at missing
    · simp [none served] at present
  refine ends_bind.mpr (((ends_setRepeater settled.sound).and settled.setRepeater).mono ?_ fun _ _ both => both.2)
  rintro _ first ⟨⟨soundFirst, presentFirst, servingFirst, turnedFirst⟩, settledFirst⟩
  refine ((ends_setRepeater soundFirst).and settledFirst.setRepeater).mono ?_ fun _ _ both => both.2
  rintro _ second ⟨⟨soundSecond, presentSecond, servingSecond, turnedSecond⟩, -⟩
  refine ⟨soundSecond, by rw [servingSecond, servingFirst, serving], by rw [presentSecond, presentFirst, present], ?_⟩
  have zeroth : first.repeaterOn 0 = decide (0 = served) := by
    rw [turnedFirst]
    split_ifs with passed
    · rw [(passedOver 0 passed.1).1, decide_eq_false (passedOver 0 passed.1).2]
    · simp
  refine Fin.forall_fin_two.mpr ⟨?_, ?_⟩ <;> rw [turnedSecond, presentFirst] <;> split_ifs with passed
  · exact zeroth
  · rw [Function.update_of_ne (by decide), zeroth]
  · rw [turnedFirst, decide_eq_false (passedOver 1 passed.1).2]
    split_ifs
    · exact (passedOver 1 passed.1).1
    · rw [Function.update_of_ne (by decide), (passedOver 1 passed.1).1]
  · simp

/-! ## The demodulators -/

theorem preserves_off_setRepeaters : Preserves Off (setRepeaters none) := fun nim off =>
  (ends_setRepeaters_none off.sound).mono (fun _ _ kept => kept) fun _ next ⟨sound, _, fewer⟩ =>
    ⟨sound, fun index => by
      by_contra on
      exact absurd (fewer index (by simpa using on)) (by simp [off.off])⟩

section Demodulator

variable (demod : (addressedNim address).isSome = true)
include demod

theorem preserves_off_writeReg16 (harmless : register = stv0910P1I2cRpt → value &&& 0x80 = 0) :
    Preserves Off (writeReg16 address register value) :=
  preserves_bind (preserves_off_transfer demod fun _ same repeater => Option.some.inj same ▸ harmless repeater) fun _ =>
    preserves_pure

theorem preserves_off_readReg16 : Preserves Off (readReg16 address register) :=
  preserves_off_transfer demod fun _ same => absurd same (by simp)

theorem preserves_off_writeDemod (harmless : register = stv0910P1I2cRpt → value &&& 0x80 = 0) :
    Preserves Off (writeDemod index address register value) :=
  preserves_bind preserves_off_setRepeaters fun _ =>
    preserves_bind (preserves_off_writeReg16 demod harmless) fun _ =>
      preserves_modify fun _ off => ⟨off.sound.of_bus rfl rfl, off.off⟩

theorem preserves_off_readDemod : Preserves Off (readDemod address register) :=
  preserves_bind preserves_off_setRepeaters fun _ => preserves_off_readReg16 demod

theorem preserves_off_writeDemodField {field : UInt32} (apart : fieldRegister field ≠ stv0910P1I2cRpt) :
    Preserves Off (writeDemodField index address field value) :=
  preserves_bind preserves_get fun _ => preserves_off_writeDemod demod fun same => absurd same apart

theorem preserves_off_readDemodField {field : UInt32} : Preserves Off (readDemodField address field) :=
  preserves_bind (preserves_off_readDemod demod) fun _ => preserves_pure

theorem preserves_off_waitForPllLock (left : Nat) : Preserves Off (waitForPllLock address left) := by
  induction left with
  | zero => exact preserves_throw
  | succ left ih => exact preserves_bind (preserves_off_readDemodField demod) fun _ => preserves_ite preserves_pure ih

theorem preserves_off_setupDemodClocks : Preserves Off (setupDemodClocks index address) := by
  unfold setupDemodClocks
  refine preserves_bind (preserves_off_writeDemodField demod (by decide)) fun _ => ?_
  refine preserves_bind (preserves_off_writeDemodField demod (by decide)) fun _ => ?_
  refine preserves_bind (preserves_off_writeDemodField demod (by decide)) fun _ => ?_
  refine preserves_bind (preserves_off_writeDemodField demod (by decide)) fun _ => ?_
  refine preserves_bind (preserves_off_writeDemodField demod (by decide)) fun _ => ?_
  refine preserves_bind (preserves_off_writeDemodField demod (by decide)) fun _ => ?_
  exact preserves_off_waitForPllLock demod _

theorem preserves_off_initialiseDemod : Preserves Off (initialiseDemod index address) := by
  unfold initialiseDemod
  refine preserves_bind (preserves_modify fun _ off => ⟨off.sound.of_bus rfl rfl, off.off⟩) fun _ => ?_
  refine preserves_bind (preserves_forM fun entry member => ?_) fun _ => ?_
  · exact preserves_off_writeDemod demod (initRegisters_repeater entry member)
  refine preserves_bind (preserves_off_writeDemod demod fun same => absurd same (by decide)) fun _ => ?_
  refine preserves_bind (preserves_off_writeDemod demod fun same => absurd same (by decide)) fun _ => ?_
  exact preserves_off_setupDemodClocks demod

end Demodulator

/-- None of the registers a receiver is set up with is the repeater register. -/
theorem setup_registers (tuner : Nat) : dmdIStateRegister tuner ≠ stv0910P1I2cRpt ∧ dmdCfgMdRegister tuner ≠ stv0910P1I2cRpt ∧
    cfrInit0Register tuner ≠ stv0910P1I2cRpt ∧ cfrInit1Register tuner ≠ stv0910P1I2cRpt ∧
    cfrUp0Register tuner ≠ stv0910P1I2cRpt ∧ cfrUp1Register tuner ≠ stv0910P1I2cRpt ∧
    cfrLow0Register tuner ≠ stv0910P1I2cRpt ∧ cfrLow1Register tuner ≠ stv0910P1I2cRpt ∧
    sfrInit0Register tuner ≠ stv0910P1I2cRpt ∧ sfrInit1Register tuner ≠ stv0910P1I2cRpt := by
  unfold dmdIStateRegister dmdCfgMdRegister cfrInit0Register cfrInit1Register cfrUp0Register cfrUp1Register cfrLow0Register
    cfrLow1Register sfrInit0Register sfrInit1Register
  by_cases first : tuner = 1
  · simp only [if_pos first]
    decide
  · simp only [if_neg first]
    decide

theorem preserves_off_setupDemodReceive {symbolRateKs : UInt32} {calibrated : Bool}
    (demod : (addressedNim hw.nimAddress).isSome = true) : Preserves Off (setupDemodReceive hw symbolRateKs calibrated) := by
  obtain ⟨iState, cfgMd, init0, init1, up0, up1, low0, low1, sfr0, sfr1⟩ := setup_registers hw.tuner
  unfold setupDemodReceive setupCarrierLoop setupTimingLoop
  refine preserves_bind (preserves_off_writeDemod demod fun same => absurd same iState) fun _ => ?_
  refine preserves_bind ?_ fun _ => ?_
  · refine preserves_bind (preserves_off_writeDemod demod fun same => absurd same init0) fun _ => ?_
    refine preserves_bind (preserves_off_writeDemod demod fun same => absurd same init1) fun _ => ?_
    refine preserves_bind (preserves_off_writeDemod demod fun same => absurd same up0) fun _ => ?_
    refine preserves_bind (preserves_off_writeDemod demod fun same => absurd same up1) fun _ => ?_
    refine preserves_bind (preserves_off_writeDemod demod fun same => absurd same low0) fun _ => ?_
    refine preserves_bind (preserves_off_writeDemod demod fun same => absurd same low1) fun _ => ?_
    refine preserves_bind (preserves_off_readDemod demod) fun _ => ?_
    exact preserves_off_writeDemod demod fun same => absurd same cfgMd
  · refine preserves_bind (preserves_off_writeDemod demod fun same => absurd same sfr1) fun _ => ?_
    exact preserves_off_writeDemod demod fun same => absurd same sfr0

/-! ## The tuners -/

theorem preserves_open_readReg8 {register : UInt8} : Preserves (Open served) (readReg8 nimTunerAddr register) :=
  preserves_open_transfer

theorem preserves_open_writeReg8 {register : UInt8} : Preserves (Open served) (writeReg8 nimTunerAddr register value) :=
  preserves_bind preserves_open_transfer fun _ => preserves_pure

/-- A change of the members that no repeater depends on. -/
theorem preserves_open_modify {change : SeritNim → SeritNim} (kept : ∀ nim, (change nim).bus = nim.bus ∧
    (change nim).nimPresent = nim.nimPresent ∧ (change nim).repeaterOn = nim.repeaterOn) :
    Preserves (Open served) (modify change : SeritProgram PUnit) := by
  refine preserves_modify fun nim holds => ?_
  obtain ⟨bus, present, cached⟩ := kept nim
  exact ⟨holds.sound.of_bus bus cached, by rw [bus, holds.serving], by rw [present, holds.present],
    by rw [cached]; exact holds.alone⟩

theorem preserves_open_waitForTunerBits {done : UInt8 → Bool} {register : UInt8} {context : Bytes} (left : Nat) :
    Preserves (Open served) (waitForTunerBits done register context left) := by
  induction left with
  | zero => exact preserves_throw
  | succ left ih => exact preserves_bind preserves_open_readReg8 fun _ => preserves_ite preserves_pure ih

theorem preserves_open_calibrateLowPass {tuner : Nat} : Preserves (Open served) (calibrateLowPass tuner) := by
  unfold calibrateLowPass
  refine preserves_bind preserves_get fun _ => ?_
  refine preserves_bind preserves_open_writeReg8 fun _ => ?_
  refine preserves_bind preserves_open_writeReg8 fun _ => ?_
  refine preserves_bind (preserves_open_waitForTunerBits _) fun _ => ?_
  exact preserves_open_writeReg8

theorem preserves_open_setTunerFrequency {tuner : Nat} {freqKhz : UInt32} :
    Preserves (Open served) (setTunerFrequency tuner freqKhz) := by
  unfold setTunerFrequency
  refine preserves_bind preserves_get fun _ => ?_
  iterate 7 refine preserves_bind preserves_open_writeReg8 fun _ => ?_
  refine preserves_bind (preserves_open_waitForTunerBits _) fun _ => ?_
  exact preserves_open_waitForTunerBits _

theorem preserves_open_configureTuner {freqKhz : UInt32} {target : ScanTarget} :
    Preserves (Open served) (configureTuner hw freqKhz target) := by
  unfold configureTuner
  refine preserves_bind (preserves_open_modify fun _ => ⟨rfl, rfl, rfl⟩) fun _ => ?_
  refine preserves_bind preserves_open_writeReg8 fun _ => ?_
  refine preserves_bind preserves_open_readReg8 fun _ => ?_
  refine preserves_bind preserves_open_writeReg8 fun _ => ?_
  refine preserves_bind (preserves_open_modify fun _ => ⟨rfl, rfl, rfl⟩) fun _ => ?_
  refine preserves_bind preserves_open_readReg8 fun _ => ?_
  refine preserves_bind preserves_open_writeReg8 fun _ => ?_
  refine preserves_bind (preserves_open_modify fun _ => ⟨rfl, rfl, rfl⟩) fun _ => ?_
  refine preserves_bind preserves_open_writeReg8 fun _ => ?_
  refine preserves_bind (preserves_open_modify fun _ => by split <;> exact ⟨rfl, rfl, rfl⟩) fun _ => ?_
  refine preserves_bind preserves_open_writeReg8 fun _ => ?_
  refine preserves_bind preserves_open_readReg8 fun _ => ?_
  refine preserves_bind preserves_open_readReg8 fun _ => ?_
  iterate 8 refine preserves_bind preserves_open_writeReg8 fun _ => ?_
  exact preserves_ite (preserves_bind preserves_open_calibrateLowPass fun _ => preserves_open_setTunerFrequency) preserves_pure

/-! ## The operations -/

theorem ends_settled_none (settled : Settled nim) : Ends (setRepeaters none) (fun _ => Off) (fun _ => Settled) nim :=
  ((ends_setRepeaters_none settled.sound).and (preserves_setRepeaters nim settled)).mono (fun _ _ both => both.1)
    fun _ _ both => both.2

/-- What keeps both repeaters off, from there, leaves the controller settled. -/
theorem settled_of_off {program : SeritProgram Unit} (keeps : Preserves Off program) (off : Off nim) :
    Ends program (fun _ => Settled) (fun _ => Settled) nim :=
  (keeps nim off).mono (fun _ _ kept => kept.settled) fun _ _ kept => kept.settled

theorem settled_of_open {program : SeritProgram Unit} (keeps : Preserves (Open served) program) (open_ : Open served nim) :
    Ends program (fun _ => Open served) (fun _ => Settled) nim :=
  (keeps nim open_).mono (fun _ _ kept => kept) fun _ _ kept => kept.settled

/-- Settled, while an operation for a NIM runs. -/
structure Serving (served : Fin 2) (nim : SeritNim) : Prop where
  settled : Settled nim
  serving : nim.bus.serving = some served

theorem ends_serve (settled : Settled nim) : Ends (serve hw) (fun _ => Serving hw.nimIndex) (fun _ => Settled) nim :=
  ⟨⟨⟨settled.sound.cached, settled.sound.exclusive⟩, settled.present⟩, rfl⟩

theorem preserves_settled_updateStatus {receiver : ReceiverId} {change : ReceiverStatus → ReceiverStatus} :
    Preserves Settled (updateStatus receiver change) :=
  preserves_modify fun _ settled => ⟨settled.sound.of_bus rfl rfl, settled.present⟩

theorem preserves_serving_updateStatus {receiver : ReceiverId} {change : ReceiverStatus → ReceiverStatus} :
    Preserves (Serving served) (updateStatus receiver change) :=
  preserves_modify fun _ holds => ⟨⟨holds.settled.sound.of_bus rfl rfl, holds.settled.present⟩, holds.serving⟩

theorem preserves_steadyNow {invariant : SeritNim → Prop} : Preserves invariant steadyNow :=
  preserves_bind preserves_get fun _ => preserves_pure

/-- What keeps the operation serving its NIM leaves the controller settled if it fails. -/
theorem settled_of_serving {α : Type} {program : SeritProgram α} (keeps : Preserves (Serving served) program)
    (holds : Serving served nim) : Ends program (fun _ => Serving served) (fun _ => Settled) nim :=
  (keeps nim holds).mono (fun _ _ kept => kept) fun _ _ kept => kept.settled

theorem preserves_disableRepeaters : Preserves Settled disableRepeatersBestEffort :=
  preserves_tryCatch preserves_setRepeaters fun _ => preserves_pure

theorem hardwareFor_demod {receiver : ReceiverId} (found : hardwareFor receiver = .ok hw) :
    (addressedNim hw.nimAddress).isSome = true := by
  unfold hardwareFor at found
  split_ifs at found <;> cases found <;> rfl

/-- A tuner is configured behind its repeater alone, which is off again before
anything else goes on. -/
theorem ends_configured {freqKhz : UInt32} {target : ScanTarget} {rest : SeritProgram Unit} (rests : Preserves Off rest)
    (settled : Settled nim) (serving : nim.bus.serving = some hw.nimIndex) (present : nim.nimPresent hw.nimIndex = true) :
    Ends (do setRepeaters (some hw.nimIndex); configureTuner hw freqKhz target; setRepeaters none; rest)
      (fun _ => Settled) (fun _ => Settled) nim := by
  refine (ends_setRepeaters_some settled serving present).then fun _ opened open_ => ?_
  refine (settled_of_open preserves_open_configureTuner open_).then fun _ configured still => ?_
  exact (ends_settled_none still.settled).then fun _ dark off => settled_of_off rests off

theorem preserves_tune {receiver : ReceiverId} {target : ScanTarget} : Preserves Settled (tune receiver target) := by
  unfold tune
  cases found : hardwareFor receiver with
  | error text => exact preserves_throw
  | ok hw =>
    have demod := hardwareFor_demod found
    intro nim settled
    refine (ends_serve settled).then fun _ nim served => ?_
    refine (settled_of_serving preserves_steadyNow served).then fun updatedAt nim served => ?_
    refine (settled_of_serving preserves_serving_updateStatus served).then fun _ nim served => ?_
    rw [ends_bind, ends_get]
    by_cases absent : nim.nimPresent hw.nimIndex = false
    · rw [if_pos absent]
      exact preserves_settled_updateStatus nim served.settled
    · rw [if_neg absent, ends_tryCatch]
      have received : Preserves Off (do
          setupDemodReceive hw target.symbolRateKs false
          writeDemod hw.nimIndex hw.nimAddress (dmdIStateRegister hw.tuner) stv0910ScanBlindBestGuess) :=
        preserves_bind (preserves_off_setupDemodReceive demod) fun _ =>
          preserves_off_writeDemod demod fun same => absurd same (setup_registers hw.tuner).1
      refine (ends_configured received served.settled served.serving (by simpa using absent)).mono (fun _ _ kept => kept)
        fun _ nim settled => ?_
      refine preserves_bind preserves_steadyNow (fun _ => ?_) nim settled
      exact preserves_bind preserves_settled_updateStatus fun _ => preserves_disableRepeaters

theorem preserves_stopUnlocked {receiver : ReceiverId} : Preserves Settled (stopUnlocked receiver) := by
  unfold stopUnlocked
  cases found : hardwareFor receiver with
  | error text => exact preserves_throw
  | ok hw =>
    have demod := hardwareFor_demod found
    intro nim settled
    refine (ends_serve settled).then fun _ nim served => ?_
    refine (settled_of_serving preserves_serving_updateStatus served).then fun _ nim served => ?_
    rw [ends_bind, ends_get]
    refine Ends.then ?_ fun _ nim (settled : Settled nim) =>
      preserves_bind preserves_steadyNow (fun _ => preserves_settled_updateStatus) nim settled
    rw [ends_tryCatch]
    have raises : ∀ text nim, Settled nim → Ends (do disableRepeatersBestEffort; throw text : SeritProgram Unit)
        (fun _ => Settled) (fun _ => Settled) nim := fun text => preserves_bind preserves_disableRepeaters fun _ => preserves_throw
    split
    · rename_i present
      have stopped : Preserves Off (writeReg16 hw.nimAddress (dmdIStateRegister hw.tuner) 0x1c) :=
        preserves_off_writeReg16 demod fun same => absurd same (setup_registers hw.tuner).1
      exact (ends_configured stopped served.settled served.serving present).mono (fun _ _ kept => kept) raises
    · exact served.settled

theorem preserves_shutdown : Preserves Settled shutdown :=
  preserves_bind (preserves_forM fun _ _ => preserves_tryCatch preserves_stopUnlocked fun _ => preserves_pure) fun _ =>
    preserves_tryCatch preserves_setRepeaters fun _ => preserves_pure

/-- On the way through the initialisation: both repeaters are off, or the NIMs
tried so far are absent. -/
structure Tried (absent : List (Fin 2)) (nim : SeritNim) : Prop where
  sound : Sound nim
  offOrAbsent : (∀ index, nim.repeaterOn index = false) ∨ ∀ index ∈ absent, nim.nimPresent index = false

theorem Off.tried (off : Off nim) : Tried absent nim := ⟨off.sound, .inl off.off⟩

theorem Tried.setPresent (tried : Tried absent nim) :
    Tried (index :: absent) { nim with nimPresent := Function.update nim.nimPresent index false } := by
  refine ⟨tried.sound.of_bus rfl rfl, tried.offOrAbsent.imp_right fun gone => ?_⟩
  intro other member
  dsimp only
  rw [Function.update_apply]
  split_ifs with mine
  · rfl
  · exact gone other ((List.mem_cons.mp member).resolve_left mine)

theorem preserves_off_setPresent {present : Bool} : Preserves Off (SeritNim.setPresent index present) :=
  preserves_modify fun _ off => ⟨off.sound.of_bus rfl rfl, off.off⟩

theorem ends_initialiseNim (demod : (addressedNim address).isSome = true) (tried : Tried absent nim) :
    Ends (initialiseNim address index) (fun _ => Tried (index :: absent)) (fun _ => Settled) nim := by
  unfold initialiseNim
  rw [ends_tryCatch]
  refine Ends.mono ?_ (fun _ nim (off : Off nim) => off.tried) fun _ nim (tried : Tried absent nim) => tried.setPresent
  have dark : Ends (setRepeaters none) (fun _ => Off) (fun _ => Tried absent) nim := by
    refine (ends_setRepeaters_none tried.sound).mono (fun _ _ off => off) fun _ next ⟨sound, present, fewer⟩ => ?_
    refine ⟨sound, tried.offOrAbsent.imp (fun off other => ?_) fun gone => by rwa [present]⟩
    by_contra on
    exact absurd (fewer other (by simpa using on)) (by simp [off])
  refine dark.then fun _ nim off => ?_
  have probed : Preserves Off (do
      writeReg16 address stv0910P1Vth34 0xaa
      let readBack ← readReg16 address stv0910P1Vth34
      if readBack ≠ 0xaa then SeritNim.setPresent index false
      else
        SeritNim.setPresent index true
        let _ ← readReg16 address stv0910Mid
        let _ ← readReg16 address stv0910Did
        initialiseDemod index address) := by
    refine preserves_bind (preserves_off_writeReg16 demod fun same => absurd same (by decide)) fun _ => ?_
    refine preserves_bind (preserves_off_readReg16 demod) fun readBack => preserves_ite preserves_off_setPresent ?_
    refine preserves_bind preserves_off_setPresent fun _ => ?_
    refine preserves_bind (preserves_off_readReg16 demod) fun _ => ?_
    refine preserves_bind (preserves_off_readReg16 demod) fun _ => ?_
    exact preserves_off_initialiseDemod demod
  exact (probed nim off).mono (fun _ _ kept => kept) fun _ _ kept => kept.tried

theorem preserves_initialise {driver : Except Bytes Unit} : Preserves Settled (initialise driver) := by
  unfold initialise
  refine preserves_bind (preserves_modify fun _ settled => ⟨settled.sound.of_bus rfl rfl, settled.present⟩) fun _ => ?_
  cases driver with
  | error text => exact preserves_throw
  | ok _ =>
    intro nim settled
    have untried : Tried [] nim := ⟨settled.sound, .inr (by simp)⟩
    refine (ends_initialiseNim (by decide) untried).then fun _ nim first => ?_
    refine (ends_initialiseNim (by decide) first).then fun _ nim both => ?_
    refine preserves_setRepeaters nim ⟨both.sound, both.offOrAbsent.imp (fun off index on => by simp [off] at on) fun gone => ?_⟩
    exact Fin.forall_fin_two.mpr ⟨gone 0 (by simp), gone 1 (by simp)⟩

theorem preserves_program (call : NimCall) : Preserves Settled (program call) := by
  cases call with
  | initialise driver => exact preserves_initialise
  | tune receiver target => exact preserves_tune
  | stop receiver => exact preserves_stopUnlocked
  | shutdown => exact preserves_shutdown

theorem perform_settled (settled : Settled nim) (call : NimCall) : Settled (nim.perform call) := by
  have kept := preserves_program call nim settled
  unfold Ends at kept
  unfold perform
  generalize StateT.run (ExceptT.run (program call)) nim = ran at kept ⊢
  obtain ⟨result | result, final⟩ := ran <;> exact kept

/-- From call to call, whatever each comes to. -/
theorem foldl_settled (calls : List NimCall) (settled : Settled nim) : Settled (calls.foldl perform nim) := by
  induction calls generalizing nim with
  | nil => exact settled
  | cons call rest ih => exact ih (perform_settled settled call)

theorem fresh_settled {replies : Nat → Except Bytes UInt8} {clock : Nat → Time} : Settled (fresh replies clock) :=
  ⟨⟨rfl, by simp [fresh]⟩, .inr fun _ => rfl⟩

end SeritNim

/-- Whatever the calls, the modules found and the failures of the bus, every
transfer was exclusive. -/
theorem repeaters_exclusive (replies : Nat → Except Bytes UInt8) (clock : Nat → Time) (calls : List NimCall) :
    ∀ seen ∈ (calls.foldl SeritNim.perform (SeritNim.fresh replies clock)).bus.seen, seen.Exclusive :=
  (SeritNim.foldl_settled calls SeritNim.fresh_settled).sound.exclusive

/-- The first transfer to a module that does not answer, behind which the second is
tried. -/
theorem absent_module_exclusive :
    SeenTransfer.Exclusive ⟨⟨nimDemodAddrA, stv0910P1Vth34, some 0xaa⟩, none, fun _ => false⟩ := by
  have tried : ([NimCall.initialise (.ok ())].foldl SeritNim.perform (SeritNim.fresh (fun _ => .error []) fun _ => 0)).bus.seen =
      [⟨⟨nimDemodAddrB, stv0910P1Vth34, some 0xaa⟩, none, fun _ => false⟩,
        ⟨⟨nimDemodAddrA, stv0910P1Vth34, some 0xaa⟩, none, fun _ => false⟩] := rfl
  exact repeaters_exclusive (fun _ => .error []) (fun _ => 0) [.initialise (.ok ())] _
    (tried ▸ List.mem_cons_of_mem _ List.mem_cons_self)

end WhRepeater
