import Mathlib.Algebra.Order.Field.Rat
import Mathlib.Tactic.Linarith
import Mathlib.Tactic.Ring
import WhRepeater.NimBus

/-! What a tuner and its demodulator are told of a scan target (`setTunerFrequency`,
`setupTimingLoop`): the numbers that are put into their registers, and what the
registers say. -/
namespace WhRepeater

open FailingPrograms

/-! ## The numbers of the source -/

/-- The oscillator of the tuner runs at a multiple of the frequency. -/
def scaledVco (rdiv : UInt8) (freqKhz : UInt32) : UInt32 :=
  (freqKhz <<< ((SeritNim.dividerForFrequency freqKhz).toUInt32 + 1)) <<< rdiv.toUInt32

def wholeN (rdiv : UInt8) (freqKhz : UInt32) : UInt16 := (scaledVco rdiv freqKhz / nimTunerXtalKhz).toUInt16

def fractionF (rdiv : UInt8) (freqKhz : UInt32) : UInt32 :=
  (((scaledVco rdiv freqKhz % nimTunerXtalKhz).toUInt64 <<< 18) / nimTunerXtalKhz.toUInt64).toUInt32

/-- The four registers that N and F are spread over, with the charge pump. -/
def tunerBytes (n : UInt16) (f : UInt32) (icp : UInt8) : UInt8 × UInt8 × UInt8 × UInt8 :=
  ((n &&& 0x00ff).toUInt8, (((f &&& 0x7f) <<< 1) ||| ((n &&& 0x0100) >>> 8).toUInt32).toUInt8, ((f &&& 0x7f80) >>> 7).toUInt8,
    (((f &&& 0x38000) >>> 15) ||| (icp.toUInt32 <<< 4) ||| 0x08).toUInt8)

def symbolRateRegister (symbolRateKs : UInt32) : UInt16 := ((symbolRateKs <<< 16) / 135 / 1000).toUInt16

/-! ## What the registers say -/

/-- N has nine bits, and F eighteen. -/
def decodedN (low mixed : UInt8) : Nat := low.toNat + 256 * (mixed.toNat % 2)

def decodedF (mixed middle high : UInt8) : Nat := mixed.toNat / 2 + 128 * middle.toNat + 32768 * (high.toNat % 8)

/-- The frequency of the oscillator, with the crystal of 30 MHz halved. -/
def vcoKhz (n f : Nat) : Rat := (n + f / 2 ^ 18) * 15000

/-- The frequency that the oscillator should have. -/
def requestedVcoKhz (freqKhz : UInt32) : Rat := freqKhz.toNat * 2 ^ ((SeritNim.dividerForFrequency freqKhz).toNat + 1)

theorem masked_shift (word low width : Nat) :
    (word &&& (2 ^ width - 1) * 2 ^ low) >>> low = word / 2 ^ low % 2 ^ width := by
  rw [Nat.shiftRight_and_distrib, Nat.shiftRight_eq_div_pow, Nat.shiftRight_eq_div_pow,
    Nat.mul_div_cancel _ (Nat.two_pow_pos low), Nat.and_two_pow_sub_one_eq_mod]

theorem low_toNat (n : UInt16) : (n &&& 0x00ff).toUInt8.toNat = n.toNat % 256 := by
  rw [UInt16.toNat_toUInt8, UInt16.toNat_and]
  have low := masked_shift n.toNat 0 8
  rw [Nat.shiftRight_zero] at low
  change (n.toNat &&& (2 ^ 8 - 1) * 2 ^ 0) % 256 = _
  omega

theorem mixed_toNat (n : UInt16) (f : UInt32) :
    (((f &&& 0x7f) <<< 1) ||| ((n &&& 0x0100) >>> 8).toUInt32).toUInt8.toNat = 2 * (f.toNat % 128) + n.toNat / 256 % 2 := by
  rw [UInt32.toNat_toUInt8, UInt32.toNat_or, UInt32.toNat_shiftLeft, UInt32.toNat_and, UInt16.toNat_toUInt32,
    UInt16.toNat_shiftRight, UInt16.toNat_and]
  have low := masked_shift f.toNat 0 7
  have bit := masked_shift n.toNat 8 1
  rw [Nat.shiftRight_zero] at low
  change ((f.toNat &&& (2 ^ 7 - 1) * 2 ^ 0) <<< 1 % 2 ^ 32 ||| (n.toNat &&& (2 ^ 1 - 1) * 2 ^ 8) >>> 8) % 2 ^ 8 = _
  have shifted : (f.toNat / 2 ^ 0 % 2 ^ 7) <<< 1 % 2 ^ 32 = (f.toNat / 2 ^ 0 % 2 ^ 7) <<< 1 := by
    rw [Nat.shiftLeft_eq]
    omega
  rw [low, bit, shifted, ← Nat.shiftLeft_add_eq_or_of_lt (by omega : n.toNat / 2 ^ 8 % 2 ^ 1 < 2 ^ 1), Nat.shiftLeft_eq]
  omega

theorem middle_toNat (f : UInt32) : ((f &&& 0x7f80) >>> 7).toUInt8.toNat = f.toNat / 128 % 256 := by
  rw [UInt32.toNat_toUInt8, UInt32.toNat_shiftRight, UInt32.toNat_and]
  have middle := masked_shift f.toNat 7 8
  change (f.toNat &&& (2 ^ 8 - 1) * 2 ^ 7) >>> 7 % 2 ^ 8 = _
  omega

/-- What stands above the low three bits does not reach them. -/
theorem high_toNat (f : UInt32) (icp : UInt8) :
    (((f &&& 0x38000) >>> 15) ||| (icp.toUInt32 <<< 4) ||| 0x08).toUInt8.toNat % 8 = f.toNat / 32768 % 8 := by
  rw [UInt32.toNat_toUInt8, UInt32.toNat_or, UInt32.toNat_or, UInt32.toNat_shiftRight, UInt32.toNat_and,
    UInt32.toNat_shiftLeft, UInt8.toNat_toUInt32]
  have high := masked_shift f.toNat 15 3
  change ((f.toNat &&& (2 ^ 3 - 1) * 2 ^ 15) >>> 15 ||| icp.toNat <<< 4 % 2 ^ 32 ||| 8) % 2 ^ 8 % 2 ^ 3 = _
  have above : icp.toNat <<< 4 % 2 ^ 32 % 2 ^ 3 = 0 := by
    rw [Nat.shiftLeft_eq]
    omega
  rw [Nat.mod_mod_of_dvd _ (by decide : 2 ^ 3 ∣ 2 ^ 8), Nat.or_mod_two_pow, Nat.or_mod_two_pow, above, high]
  simp

theorem decodedN_tunerBytes (n : UInt16) (f : UInt32) (icp : UInt8) :
    decodedN (tunerBytes n f icp).1 (tunerBytes n f icp).2.1 = n.toNat % 512 := by
  simp only [decodedN, tunerBytes, low_toNat, mixed_toNat]
  omega

theorem decodedF_tunerBytes (n : UInt16) (f : UInt32) (icp : UInt8) :
    decodedF (tunerBytes n f icp).2.1 (tunerBytes n f icp).2.2.1 (tunerBytes n f icp).2.2.2 = f.toNat % 2 ^ 18 := by
  simp only [decodedF, tunerBytes, mixed_toNat, middle_toNat, high_toNat]
  omega

theorem symbolRateBytes_toNat (register : UInt16) :
    256 * (register >>> 8).toUInt8.toNat + (register &&& 0xff).toUInt8.toNat = register.toNat := by
  have wide := register.toNat_lt
  rw [low_toNat, UInt16.toNat_toUInt8, UInt16.toNat_shiftRight]
  change 256 * (register.toNat >>> 8 % 2 ^ 8) + _ = _
  rw [Nat.shiftRight_eq_div_pow]
  omega

/-! ## How high a frequency may be -/

/-- No bit of an intermediate number is cut off. -/
structure NothingLost (target : ScanTarget) : Prop where
  difference : ((SeritNim.tunerFrequencyKhz target).toNat : Int) =
    if target.localOscillatorKhz = 0 then (target.frequencyKhz.toNat : Int)
    else |(target.frequencyKhz.toNat : Int) - target.localOscillatorKhz.toNat|
  scaled : (SeritNim.tunerFrequencyKhz target).toNat *
    2 ^ ((SeritNim.dividerForFrequency (SeritNim.tunerFrequencyKhz target)).toNat + 1) * 2 < 2 ^ 32
  whole : (SeritNim.tunerFrequencyKhz target).toNat *
    2 ^ ((SeritNim.dividerForFrequency (SeritNim.tunerFrequencyKhz target)).toNat + 1) * 2 / 30000 < 2 ^ 9
  filter : 3 * (SeritNim.tunerFrequencyKhz target).toNat < 2 ^ 32
  shifted : target.symbolRateKs.toNat * 2 ^ 16 < 2 ^ 32
  register : target.symbolRateKs.toNat * 2 ^ 16 / 135 / 1000 < 2 ^ 16

theorem tunerFrequencyKhz_toNat (target : ScanTarget) :
    ((SeritNim.tunerFrequencyKhz target).toNat : Int) =
      if target.localOscillatorKhz = 0 then (target.frequencyKhz.toNat : Int)
      else |(target.frequencyKhz.toNat : Int) - target.localOscillatorKhz.toNat| := by
  unfold SeritNim.tunerFrequencyKhz
  split
  · rfl
  · split
    · rename_i above
      rw [gt_iff_lt, UInt32.lt_iff_toNat_lt] at above
      rw [UInt32.toNat_sub_of_le _ _ (UInt32.le_iff_toNat_le.mpr (by omega)), abs_of_nonneg (by omega)]
      omega
    · rename_i above
      rw [gt_iff_lt, UInt32.lt_iff_toNat_lt] at above
      rw [UInt32.toNat_sub_of_le _ _ (UInt32.le_iff_toNat_le.mpr (by omega)), abs_of_nonpos (by omega)]
      omega

/-- The divider keeps the oscillator of a low frequency below 4.8 GHz. -/
theorem divided_cases (freqKhz : UInt32) :
    (freqKhz.toNat ≤ 1191000 ∧ freqKhz.toNat * 2 ^ ((SeritNim.dividerForFrequency freqKhz).toNat + 1) * 2 ≤ 9568000) ∨
      (1191000 < freqKhz.toNat ∧ (SeritNim.dividerForFrequency freqKhz).toNat = 0) := by
  unfold SeritNim.dividerForFrequency
  simp only [UInt32.le_iff_toNat_le]
  split_ifs with first second third
  · left
    change freqKhz.toNat ≤ 299000 at first
    change _ ∧ freqKhz.toNat * 2 ^ (3 + 1) * 2 ≤ 9568000
    omega
  · left
    change freqKhz.toNat ≤ 596000 at second
    change _ ∧ freqKhz.toNat * 2 ^ (2 + 1) * 2 ≤ 9568000
    omega
  · left
    change freqKhz.toNat ≤ 1191000 at third
    change _ ∧ freqKhz.toNat * 2 ^ (1 + 1) * 2 ≤ 9568000
    omega
  · right
    change ¬ freqKhz.toNat ≤ 1191000 at third
    exact ⟨by omega, rfl⟩

/-- Nine bits of N are enough for the oscillator up to 7.68 GHz. -/
theorem scaled_lt_iff (freqKhz : UInt32) :
    freqKhz.toNat * 2 ^ ((SeritNim.dividerForFrequency freqKhz).toNat + 1) * 2 < 2 ^ 9 * 30000 ↔ freqKhz.toNat < 3840000 := by
  rcases divided_cases freqKhz with ⟨low, below⟩ | ⟨high, undivided⟩
  · omega
  · rw [undivided]
    omega

theorem nothingLost_iff (target : ScanTarget) :
    NothingLost target ↔ SeritNim.tunerFrequencyKhz target < 3840000 ∧ target.symbolRateKs < 65536 := by
  rw [UInt32.lt_iff_toNat_lt, UInt32.lt_iff_toNat_lt]
  change _ ↔ _ < 3840000 ∧ _ < 65536
  have scaled := scaled_lt_iff (SeritNim.tunerFrequencyKhz target)
  constructor
  · intro kept
    have whole := kept.whole
    have shifted := kept.shifted
    omega
  · rintro ⟨frequency, rate⟩
    have low := scaled.mpr frequency
    exact ⟨tunerFrequencyKhz_toNat target, by omega, by omega, by omega, by omega, by omega⟩

/-! ## What is decoded -/

theorem dividerForFrequency_le (freqKhz : UInt32) : (SeritNim.dividerForFrequency freqKhz).toNat ≤ 3 := by
  unfold SeritNim.dividerForFrequency
  split_ifs <;> decide

theorem scaledVco_toNat {freqKhz : UInt32} (low : freqKhz.toNat < 3840000) :
    (scaledVco 1 freqKhz).toNat = freqKhz.toNat * 2 ^ ((SeritNim.dividerForFrequency freqKhz).toNat + 1) * 2 := by
  have small := (scaled_lt_iff freqKhz).mpr low
  have few := dividerForFrequency_le freqKhz
  have places :
      ((SeritNim.dividerForFrequency freqKhz).toUInt32 + 1).toNat = (SeritNim.dividerForFrequency freqKhz).toNat + 1 := by
    rw [UInt32.toNat_add, UInt8.toNat_toUInt32]
    change ((SeritNim.dividerForFrequency freqKhz).toNat + 1) % 2 ^ 32 = _
    omega
  rw [scaledVco, UInt32.toNat_shiftLeft, UInt32.toNat_shiftLeft, places, Nat.mod_eq_of_lt (by omega : _ + 1 < 32),
    Nat.shiftLeft_eq, Nat.shiftLeft_eq]
  change freqKhz.toNat * 2 ^ ((SeritNim.dividerForFrequency freqKhz).toNat + 1) % 2 ^ 32 * 2 ^ 1 % 2 ^ 32 = _
  omega

theorem wholeN_toNat {freqKhz : UInt32} (low : freqKhz.toNat < 3840000) :
    (wholeN 1 freqKhz).toNat = (scaledVco 1 freqKhz).toNat / 30000 := by
  have small := (scaled_lt_iff freqKhz).mpr low
  have same := scaledVco_toNat low
  rw [wholeN, UInt32.toNat_toUInt16, UInt32.toNat_div]
  change (scaledVco 1 freqKhz).toNat / 30000 % 2 ^ 16 = _
  omega

theorem fractionF_toNat (rdiv : UInt8) (freqKhz : UInt32) :
    (fractionF rdiv freqKhz).toNat = (scaledVco rdiv freqKhz).toNat % 30000 * 2 ^ 18 / 30000 := by
  rw [fractionF, UInt64.toNat_toUInt32, UInt64.toNat_div, UInt64.toNat_shiftLeft, UInt32.toNat_toUInt64, UInt32.toNat_mod]
  change ((scaledVco rdiv freqKhz).toNat % 30000) <<< 18 % 2 ^ 64 / 30000 % 2 ^ 32 = _
  have remainder : (scaledVco rdiv freqKhz).toNat % 30000 * 2 ^ 18 < 2 ^ 64 := by omega
  have quotient : (scaledVco rdiv freqKhz).toNat % 30000 * 2 ^ 18 / 30000 < 2 ^ 32 := by omega
  rw [Nat.shiftLeft_eq, Nat.mod_eq_of_lt remainder, Nat.mod_eq_of_lt quotient]

theorem symbolRateRegister_toNat {symbolRateKs : UInt32} (low : symbolRateKs.toNat < 65536) :
    (symbolRateRegister symbolRateKs).toNat = symbolRateKs.toNat * 65536 / 135000 := by
  rw [symbolRateRegister, UInt32.toNat_toUInt16, UInt32.toNat_div, UInt32.toNat_div, UInt32.toNat_shiftLeft]
  change symbolRateKs.toNat <<< 16 % 2 ^ 32 / 135 / 1000 % 2 ^ 16 = _
  have kept : symbolRateKs.toNat * 2 ^ 16 < 2 ^ 32 := by omega
  rw [Nat.shiftLeft_eq, Nat.mod_eq_of_lt kept, Nat.div_div_eq_div_mul]
  exact Nat.mod_eq_of_lt (by omega)

/-- Cutting the fraction off leaves less than one step of it. -/
theorem decoded_near {freqKhz : UInt32} (low : freqKhz.toNat < 3840000) :
    vcoKhz ((wholeN 1 freqKhz).toNat % 512) ((fractionF 1 freqKhz).toNat % 2 ^ 18) ≤ requestedVcoKhz freqKhz ∧
      requestedVcoKhz freqKhz ≤
        vcoKhz ((wholeN 1 freqKhz).toNat % 512) ((fractionF 1 freqKhz).toNat % 2 ^ 18) + 15000 / 2 ^ 18 := by
  have small := (scaled_lt_iff freqKhz).mpr low
  have same := scaledVco_toNat low
  have whole := wholeN_toNat low
  have fraction := fractionF_toNat 1 freqKhz
  generalize (wholeN 1 freqKhz).toNat = n at whole ⊢
  generalize (fractionF 1 freqKhz).toNat = f at fraction ⊢
  generalize (scaledVco 1 freqKhz).toNat = scaled at same whole fraction
  have n_small : n % 512 = n := by omega
  have f_small : f % 2 ^ 18 = f := by omega
  have twice : (scaled : Rat) = requestedVcoKhz freqKhz * 2 := by
    rw [same, requestedVcoKhz]
    push_cast
    ring
  have parts : (scaled : Rat) = 30000 * n + (scaled % 30000 : Nat) := by
    exact_mod_cast (by omega : scaled = 30000 * n + scaled % 30000)
  have below : (30000 * f : Rat) ≤ (scaled % 30000 : Nat) * 2 ^ 18 := by
    exact_mod_cast (by omega : 30000 * f ≤ scaled % 30000 * 2 ^ 18)
  have above : ((scaled % 30000 : Nat) * 2 ^ 18 : Rat) ≤ 30000 * (f + 1) := by
    exact_mod_cast (by omega : scaled % 30000 * 2 ^ 18 ≤ 30000 * (f + 1))
  rw [n_small, f_small, vcoKhz]
  constructor <;> linarith

end WhRepeater
