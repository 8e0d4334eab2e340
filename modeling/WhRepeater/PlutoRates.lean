import Mathlib.Algebra.Order.Floor.Ring
import Mathlib.Data.Rat.Floor
import WhRepeater.ConfigMerges

/-! The rates of the transmitter: how much its multiplex carries
(`calculatePlutoMuxRateKbps`), and how the encoders share it. -/
namespace WhRepeater

/-- The code rates a transmitter can be given. -/
def codeRates : List (Nat × Nat) :=
  [(1, 4), (1, 3), (2, 5), (1, 2), (3, 5), (2, 3), (3, 4), (4, 5), (5, 6), (7, 8), (8, 9), (9, 10)]

def codeRateText (rate : Nat × Nat) : Bytes := printNat rate.1 ++ code '/' :: printNat rate.2

/-- The constellations of DVB-S2, with the bits of a symbol. -/
def constellations : List (Bytes × Nat) := [(bytes "qpsk", 2), (bytes "8psk", 3), (bytes "16apsk", 4), (bytes "32apsk", 5)]

/-- What the texts of a configuration say of its symbols: their bits and the code
rate. -/
structure Modulated (config : PlutoConfig) (bits : Nat) (rate : Nat × Nat) : Prop where
  coded : rate ∈ codeRates
  fec : config.fec = codeRateText rate
  system : (config.system = bytes "dvbs" ∧ bits = 2) ∨
    (config.system = bytes "dvbs2" ∧ (config.constellation, bits) ∈ constellations)

/-- In kbit/s, before it is cut to an integer. DVB-S sends 188 of every 204 bytes. -/
def exactMuxRate (config : PlutoConfig) (bits : Nat) (rate : Nat × Nat) : Rat :=
  config.symbolRateS.toNat * bits * (rate.1 / rate.2) * (if config.system = bytes "dvbs" then 188 / 204 else 1) / 1000

variable {arithmetic : Arithmetic} {config : PlutoConfig} {json : Json} {bits : Nat} {rate : Nat × Nat}

/-! ## What is accepted -/

theorem mem_of_oneOf {allowed : List String} {message : String} {text value : Bytes}
    (checked : oneOf allowed message text = .ok value) : value ∈ allowed.map bytes := by
  unfold oneOf at checked
  split at checked
  · rename_i among
    cases checked
    exact among
  · cases checked

theorem codeRate_of_fec : ∀ text ∈ (["auto", "1/4", "1/3", "2/5", "1/2", "3/5", "2/3", "3/4", "4/5", "5/6", "7/8", "8/9",
    "9/10"].map bytes), text ≠ bytes "auto" → ∃ rate ∈ codeRates, text = codeRateText rate := by
  decide +kernel

theorem fec_of_pluto (read : readPluto arithmetic json = .ok config) : ∃ rate ∈ codeRates, config.fec = codeRateText rate := by
  unfold readPluto at read
  iterate 28 obtain ⟨_, -, read⟩ := bind_eq_ok.mp read
  obtain ⟨fec, fec_read, read⟩ := bind_eq_ok.mp read
  have coded : ∃ rate ∈ codeRates, fec = codeRateText rate := by
    obtain ⟨-, rfl⟩ | ⟨value, -, parsed⟩ := optional_cases fec_read
    · exact ⟨(1, 2), by decide, by decide +kernel⟩
    · obtain ⟨text, -, parsed⟩ := bind_eq_ok.mp parsed
      obtain ⟨checked, among, parsed⟩ := bind_eq_ok.mp parsed
      split at parsed
      · cases parsed
      · rename_i explicit
        cases parsed
        exact codeRate_of_fec _ (mem_of_oneOf among) explicit
  iterate 3 obtain ⟨_, -, read⟩ := bind_eq_ok.mp read
  cases read
  exact coded

theorem system_of_pluto (read : readPluto arithmetic json = .ok config) :
    config.system = bytes "dvbs" ∨ config.system = bytes "dvbs2" := by
  unfold readPluto at read
  iterate 8 obtain ⟨_, -, read⟩ := bind_eq_ok.mp read
  obtain ⟨system, system_read, read⟩ := bind_eq_ok.mp read
  have known : system = bytes "dvbs" ∨ system = bytes "dvbs2" := by
    obtain ⟨-, rfl⟩ | ⟨value, -, parsed⟩ := optional_cases system_read
    · exact .inr rfl
    · obtain ⟨text, -, parsed⟩ := bind_eq_ok.mp parsed
      simpa using mem_of_oneOf parsed
  iterate 23 obtain ⟨_, -, read⟩ := bind_eq_ok.mp read
  cases read
  exact known

/-- The constellation is not checked as it is read, but no rate is calculated for
another one. -/
theorem constellation_of_bits {system constellation : Bytes} {bits : UInt32} (other : system ≠ bytes "dvbs")
    (calculated : constellationBits system constellation = .ok bits) : (constellation, bits.toNat) ∈ constellations := by
  unfold constellationBits at calculated
  rw [if_neg other] at calculated
  repeat' split at calculated
  all_goals cases calculated
  all_goals subst constellation; decide

theorem modulated_of_pluto (read : readPluto arithmetic json = .ok config) : ∃ bits rate, Modulated config bits rate := by
  obtain ⟨rate, coded, fec⟩ := fec_of_pluto read
  rcases system_of_pluto read with dvbs | dvbs2
  · exact ⟨2, rate, coded, fec, .inl ⟨dvbs, rfl⟩⟩
  · have calculated := (rates_of_pluto read).1
    obtain ⟨fraction, -, calculated⟩ := bind_eq_ok.mp calculated
    obtain ⟨bits, bits_calculated, -⟩ := bind_eq_ok.mp calculated
    have other : config.system ≠ bytes "dvbs" := by
      rw [dvbs2]
      decide
    exact ⟨bits.toNat, rate, coded, fec, .inr ⟨dvbs2, constellation_of_bits other bits_calculated⟩⟩

theorem modulated_of_accepted {text : Bytes} {accepted : RepeaterConfig}
    (read : configFromJson arithmetic text = some (.ok accepted)) : ∃ bits rate, Modulated accepted.pluto bits rate := by
  obtain ⟨root, -, read⟩ := read_of_accepted read
  obtain ⟨-, same⟩ | ⟨json, -, read⟩ := optional_cases (sections_of_config read).1
  · rw [same]
    exact ⟨2, (1, 2), by decide, by decide +kernel, .inr ⟨rfl, by decide⟩⟩
  · exact modulated_of_pluto read

/-! ## What is calculated -/

theorem fecFraction_codeRates : ∀ rate ∈ codeRates,
    fecFraction (codeRateText rate) = .ok (UInt32.ofNat rate.1, UInt32.ofNat rate.2) := by
  decide +kernel

theorem constellationBits_constellations : ∀ one ∈ constellations,
    constellationBits (bytes "dvbs2") one.1 = .ok (UInt32.ofNat one.2) := by
  decide +kernel

theorem codeRates_proper : ∀ rate ∈ codeRates, 0 < rate.1 ∧ rate.1 < rate.2 ∧ rate.2 ≤ 10 := by decide

theorem constellations_proper : ∀ one ∈ constellations, 0 < one.2 ∧ one.2 ≤ 5 := by decide

theorem constellationBits_of_modulated (modulated : Modulated config bits rate) :
    constellationBits config.system config.constellation = .ok (UInt32.ofNat bits) := by
  rcases modulated.system with ⟨dvbs, rfl⟩ | ⟨dvbs2, among⟩
  · rw [dvbs]
    rfl
  · rw [dvbs2]
    exact constellationBits_constellations _ among

theorem bits_of_modulated (modulated : Modulated config bits rate) : 0 < bits ∧ bits ≤ 5 := by
  rcases modulated.system with ⟨-, rfl⟩ | ⟨-, among⟩
  · omega
  · exact constellations_proper _ among

/-- The numerator and the denominator, as numbers. -/
def muxNumerator (config : PlutoConfig) (bits : Nat) (rate : Nat × Nat) : Nat :=
  config.symbolRateS.toNat * bits * rate.1 * if config.system = bytes "dvbs" then 188 else 1

def muxDenominator (config : PlutoConfig) (rate : Nat × Nat) : Nat :=
  rate.2 * if config.system = bytes "dvbs" then 204 else 1

theorem muxNumerator_lt (modulated : Modulated config bits rate) : muxNumerator config bits rate < 2 ^ 32 * 8460 := by
  have proper := codeRates_proper rate modulated.coded
  have few := bits_of_modulated modulated
  have wide := config.symbolRateS.toNat_lt
  have fraction : bits * rate.1 ≤ 5 * 9 := Nat.mul_le_mul few.2 (by omega)
  have share : (if config.system = bytes "dvbs" then 188 else 1) ≤ 188 := by split <;> omega
  calc muxNumerator config bits rate
      = config.symbolRateS.toNat * (bits * rate.1 * if config.system = bytes "dvbs" then 188 else 1) := by
        rw [muxNumerator, Nat.mul_assoc _ bits, Nat.mul_assoc]
    _ ≤ config.symbolRateS.toNat * (5 * 9 * 188) := Nat.mul_le_mul_left _ (Nat.mul_le_mul fraction share)
    _ < 2 ^ 32 * 8460 := by omega

theorem muxDenominator_bounds (modulated : Modulated config bits rate) :
    0 < muxDenominator config rate ∧ muxDenominator config rate ≤ 2040 := by
  have proper := codeRates_proper rate modulated.coded
  unfold muxDenominator
  split <;> omega

theorem floorDivide_ofNat {numerator denominator : Nat} (small : numerator < 2 ^ 64) (positive : 0 < denominator)
    (low : denominator < 2 ^ 64) :
    floorDivide (.ofNat numerator) (.ofNat denominator) = .ok (.ofNat (numerator / denominator)) := by
  have shown := UInt64.toNat_ofNat_of_lt' low
  have other : UInt64.ofNat denominator ≠ 0 := by
    intro zero
    rw [zero] at shown
    simp at shown
    omega
  rw [floorDivide, if_neg other]
  refine congrArg Except.ok (UInt64.toNat_inj.mp ?_)
  rw [UInt64.toNat_div, shown, UInt64.toNat_ofNat_of_lt' small,
    UInt64.toNat_ofNat_of_lt' (Nat.lt_of_le_of_lt (Nat.div_le_self ..) small)]

/-- No product leaves the 64 bits, so that the division is the one of the numbers. -/
theorem calculatePlutoMuxRateKbps_eq (modulated : Modulated config bits rate) :
    calculatePlutoMuxRateKbps config =
      .ok (.ofNat (muxNumerator config bits rate / muxDenominator config rate / 1000)) := by
  have proper := codeRates_proper rate modulated.coded
  have few := bits_of_modulated modulated
  have small := muxNumerator_lt modulated
  have divides := muxDenominator_bounds modulated
  have low : bits < UInt32.size ∧ rate.1 < UInt32.size ∧ rate.2 < UInt32.size := by
    simp only [UInt32.size]
    omega
  have numerator : config.symbolRateS.toUInt64 * (UInt32.ofNat bits).toUInt64 * (UInt32.ofNat rate.1).toUInt64 =
      UInt64.ofNat (config.symbolRateS.toNat * bits * rate.1) := by
    rw [UInt64.ofNat_mul, UInt64.ofNat_mul, UInt64.ofNat_uInt32ToNat, UInt32.toUInt64_ofNat' low.1,
      UInt32.toUInt64_ofNat' low.2.1]
  have denominator := UInt32.toUInt64_ofNat' low.2.2
  have divided := floorDivide_ofNat (Nat.lt_trans small (by decide)) divides.1
    (Nat.lt_of_le_of_lt divides.2 (by decide : 2040 < 2 ^ 64))
  have fraction := fecFraction_codeRates rate modulated.coded
  rw [← modulated.fec] at fraction
  have quotient := Nat.lt_of_le_of_lt (Nat.div_le_self (muxNumerator config bits rate) (muxDenominator config rate)) small
  have cut : (UInt64.ofNat (muxNumerator config bits rate / muxDenominator config rate) / 1000).toUInt32 =
      UInt32.ofNat (muxNumerator config bits rate / muxDenominator config rate / 1000) := by
    refine UInt32.toNat_inj.mp ?_
    rw [UInt64.toNat_toUInt32, UInt64.toNat_div, UInt64.toNat_ofNat_of_lt' (Nat.lt_trans quotient (by decide))]
    exact (UInt32.toNat_ofNat' ..).symm
  refine bind_eq_ok.mpr ⟨_, fraction, bind_eq_ok.mpr ⟨_, constellationBits_of_modulated modulated, ?_⟩⟩
  dsimp only
  rw [numerator, denominator]
  split
  all_goals refine bind_eq_ok.mpr ⟨_, ?_, congrArg Except.ok cut⟩
  all_goals rename_i system
  · rw [← divided, muxNumerator, muxDenominator, if_pos system, if_pos system, UInt64.ofNat_mul _ 188, UInt64.ofNat_mul _ 204]
    rfl
  · rw [← divided, muxNumerator, muxDenominator, if_neg system, if_neg system, Nat.mul_one, Nat.mul_one]

theorem exactMuxRate_eq (modulated : Modulated config bits rate) :
    exactMuxRate config bits rate = (muxNumerator config bits rate : Rat) / (muxDenominator config rate * 1000 : Nat) := by
  have proper := codeRates_proper rate modulated.coded
  have positive : (rate.2 : Rat) ≠ 0 := by
    exact_mod_cast (by omega : rate.2 ≠ 0)
  unfold exactMuxRate muxNumerator muxDenominator
  push_cast
  split <;> field_simp

theorem floor_exactMuxRate (modulated : Modulated config bits rate) :
    ⌊exactMuxRate config bits rate⌋ = (muxNumerator config bits rate / muxDenominator config rate / 1000 : Nat) := by
  rw [exactMuxRate_eq modulated, Rat.floor_natCast_div_natCast, Nat.div_div_eq_div_mul]
  rfl

/-- No share of the symbols carries more than five bits. -/
theorem mux_le (modulated : Modulated config bits rate) :
    muxNumerator config bits rate / muxDenominator config rate ≤ 5 * config.symbolRateS.toNat := by
  have proper := codeRates_proper rate modulated.coded
  have few := bits_of_modulated modulated
  have share : (rate.1 * if config.system = bytes "dvbs" then 188 else 1) ≤ muxDenominator config rate := by
    unfold muxDenominator
    split <;> omega
  apply Nat.div_le_of_le_mul
  calc muxNumerator config bits rate
      = config.symbolRateS.toNat * bits * (rate.1 * if config.system = bytes "dvbs" then 188 else 1) := Nat.mul_assoc ..
    _ ≤ config.symbolRateS.toNat * 5 * muxDenominator config rate :=
        Nat.mul_le_mul (Nat.mul_le_mul_left _ few.2) share
    _ = muxDenominator config rate * (5 * config.symbolRateS.toNat) := by
        rw [Nat.mul_comm, Nat.mul_comm 5]

theorem calculated_mux_le {mux : UInt32} (modulated : Modulated config bits rate)
    (calculated : calculatePlutoMuxRateKbps config = .ok mux) :
    mux.toNat = muxNumerator config bits rate / muxDenominator config rate / 1000 ∧ mux.toNat ≤ 21474836 := by
  rw [calculatePlutoMuxRateKbps_eq modulated] at calculated
  cases calculated
  have most := mux_le modulated
  have wide := config.symbolRateS.toNat_lt
  rw [UInt32.toNat_ofNat_of_lt' (by simp only [UInt32.size]; omega)]
  omega

/-- The video gets what the audio leaves. -/
theorem calculatePlutoVideoBitrateKbps_eq {mux : UInt32} (calculated : calculatePlutoMuxRateKbps config = .ok mux) :
    calculatePlutoVideoBitrateKbps config =
      .ok (if mux ≤ config.audioBitrateKbps then 1 else mux - config.audioBitrateKbps) :=
  bind_eq_ok.mpr ⟨mux, calculated, rfl⟩

/-- What is calculated: no product leaves its 64 bits, no divisor is zero, and the
rate is the exact one, cut to an integer. -/
structure Rates (config : PlutoConfig) (bits : Nat) (rate : Nat × Nat) (mux : UInt32) : Prop where
  products : config.symbolRateS.toNat * bits * rate.1 * 188 < 2 ^ 64 ∧ rate.2 * 204 < 2 ^ 64
  divisor : 0 < rate.2
  calculated : calculatePlutoMuxRateKbps config = .ok mux
  floor : (mux.toNat : Int) = ⌊exactMuxRate config bits rate⌋
  shared : config.audioBitrateKbps < mux →
    ∃ video, calculatePlutoVideoBitrateKbps config = .ok video ∧ video.toNat + config.audioBitrateKbps.toNat = mux.toNat

theorem rates_of_modulated (modulated : Modulated config bits rate) : ∃ mux, Rates config bits rate mux := by
  have proper := codeRates_proper rate modulated.coded
  have few := bits_of_modulated modulated
  have wide := config.symbolRateS.toNat_lt
  have calculated := calculatePlutoMuxRateKbps_eq modulated
  refine ⟨_, ⟨?_, by omega⟩, by omega, calculated, ?_, fun less => ?_⟩
  · have fraction : bits * rate.1 ≤ 5 * 9 := Nat.mul_le_mul few.2 (by omega)
    calc config.symbolRateS.toNat * bits * rate.1 * 188 = config.symbolRateS.toNat * (bits * rate.1) * 188 := by
          rw [Nat.mul_assoc _ bits]
      _ ≤ config.symbolRateS.toNat * (5 * 9) * 188 := Nat.mul_le_mul_right _ (Nat.mul_le_mul_left _ fraction)
      _ < 2 ^ 64 := by omega
  · rw [floor_exactMuxRate modulated, (calculated_mux_le modulated calculated).1]
  · have above := UInt32.lt_iff_toNat_lt.mp less
    rw [calculatePlutoVideoBitrateKbps_eq calculated, if_neg (UInt32.not_le.mpr less)]
    refine ⟨_, rfl, ?_⟩
    rw [UInt32.toNat_sub_of_le _ _ (UInt32.le_of_lt less)]
    omega

theorem mux_monotone {slower faster one other : UInt32}
    (modulated : Modulated config bits rate) (order : slower ≤ faster)
    (first : calculatePlutoMuxRateKbps { config with symbolRateS := slower } = .ok one)
    (second : calculatePlutoMuxRateKbps { config with symbolRateS := faster } = .ok other) : one ≤ other := by
  have again : ∀ symbolRateS, Modulated { config with symbolRateS } bits rate := fun _ =>
    ⟨modulated.coded, modulated.fec, modulated.system⟩
  rw [UInt32.le_iff_toNat_le, (calculated_mux_le (again slower) first).1, (calculated_mux_le (again faster) second).1]
  refine Nat.div_le_div_right (Nat.div_le_div_right ?_)
  unfold muxNumerator
  gcongr
  exact UInt32.le_iff_toNat_le.mp order

/-- A configuration of which no rate can be calculated is not accepted, and of an
accepted one it is calculated exactly, also with any other symbol rate. -/
theorem mux_rate_exact (arithmetic : Arithmetic) :
    (∀ text config, configFromJson arithmetic text = some (.ok config) →
        ∃ bits rate, Modulated config.pluto bits rate ∧
          ∃ mux : UInt32 → UInt32, (∀ symbolRateS, Rates { config.pluto with symbolRateS } bits rate (mux symbolRateS)) ∧
            ∀ slower faster, slower ≤ faster → mux slower ≤ mux faster) ∧
      ∀ (config : RepeaterConfig) message,
        calculatePlutoMuxRateKbps config.pluto = .error message ∨
          calculatePlutoVideoBitrateKbps config.pluto = .error message →
        ∀ text, configFromJson arithmetic text ≠ some (.ok config) := by
  constructor
  · intro text config accepted
    obtain ⟨bits, rate, modulated⟩ := modulated_of_accepted accepted
    have again : ∀ symbolRateS, Modulated { config.pluto with symbolRateS } bits rate := fun _ =>
      ⟨modulated.coded, modulated.fec, modulated.system⟩
    choose mux calculated using fun symbolRateS => rates_of_modulated (again symbolRateS)
    exact ⟨bits, rate, modulated, mux, calculated, fun slower faster order =>
      mux_monotone modulated order (calculated slower).calculated (calculated faster).calculated⟩
  · rintro config message thrown text accepted
    obtain ⟨root, -, read⟩ := read_of_accepted accepted
    obtain ⟨mux, video, mux_calculated, video_calculated⟩ := rates_of_config read
    rcases thrown with thrown | thrown
    · cases mux_calculated.symm.trans thrown
    · cases video_calculated.symm.trans thrown

/-! ## What the encoders are given -/

/-- In kbit/s. -/
def fallbackVideoBitrateKbps (config : RepeaterConfig) : Int32 :=
  let muxBudget := (config.pluto.muxRateKbps * 6 / 10).toInt32
  max 250 (min config.pluto.videoBitrateKbps.toInt32 muxBudget)

/-- What `initialiseAudio` gives the audio encoder, in bit/s. -/
def audioBitRate (config : RepeaterConfig) : Int64 := (max 32 config.pluto.audioBitrateKbps).toUInt64.toInt64 * 1000

theorem toInt_min (one other : Int32) : (min one other).toInt = min one.toInt other.toInt := by
  rw [show min one other = if one ≤ other then one else other from rfl, Int.min_def]
  simp only [Int32.le_iff_toInt_le]
  split <;> rfl

theorem toInt_of_small {number : UInt32} (small : number.toNat < 2 ^ 31) : number.toInt32.toInt = number.toNat :=
  BitVec.toInt_eq_toNat_of_lt (by change 2 * number.toNat < 2 ^ 32; omega)

theorem toInt_audioBitRate (config : RepeaterConfig) :
    (audioBitRate config).toInt = 1000 * max 32 (config.pluto.audioBitrateKbps.toNat : Int) := by
  have low := (max 32 config.pluto.audioBitrateKbps).toNat_lt
  have greater : (max 32 config.pluto.audioBitrateKbps).toNat = max 32 config.pluto.audioBitrateKbps.toNat := by
    rw [show max 32 config.pluto.audioBitrateKbps = if 32 ≤ config.pluto.audioBitrateKbps then _ else _ from rfl, Nat.max_def]
    simp only [UInt32.le_iff_toNat_le, UInt32.reduceToNat]
    split <;> rfl
  have wide : (max 32 config.pluto.audioBitrateKbps).toUInt64.toInt64.toInt = (max 32 config.pluto.audioBitrateKbps).toNat :=
    BitVec.toInt_eq_toNat_of_lt (by change 2 * (max 32 config.pluto.audioBitrateKbps).toNat < 2 ^ 64; omega)
  rw [audioBitRate, Int64.toInt_mul, wide, show (1000 : Int64).toInt = 1000 from rfl, Int.bmod_eq_of_le (by omega) (by omega)]
  omega

theorem toInt_fallbackVideoBitrateKbps {config : RepeaterConfig} {mux : Nat} (same : config.pluto.muxRateKbps.toNat = mux)
    (small : mux ≤ 21474836) (video : config.pluto.videoBitrateKbps.toNat ≤ 21474836) :
    (fallbackVideoBitrateKbps config).toInt = max 250 (min (config.pluto.videoBitrateKbps.toNat : Int) (mux * 6 / 10 : Nat)) := by
  subst same
  have product : (config.pluto.muxRateKbps * 6).toNat = config.pluto.muxRateKbps.toNat * 6 := by
    rw [UInt32.toNat_mul]
    exact Nat.mod_eq_of_lt (by simp; omega)
  have budget : (config.pluto.muxRateKbps * 6 / 10).toNat = config.pluto.muxRateKbps.toNat * 6 / 10 := by
    rw [UInt32.toNat_div, product]
    rfl
  rw [fallbackVideoBitrateKbps, toInt_max, toInt_min, toInt_of_small (by omega), toInt_of_small (by omega), budget]
  rfl

/-- The two floors, 250 kbit/s for the video and 32 for the audio, are what can be
too much for a slow transmitter. -/
theorem encoders_fit_iff {text : Bytes} {root json : Json} {config : RepeaterConfig} {mux : UInt32}
    (accepted : configFromJson arithmetic text = some (.ok config)) (parsed : JsonParser.parse text = some (.ok root))
    (given : optionalMember root "pluto" = some json) (calculated : calculatePlutoMuxRateKbps config.pluto = .ok mux)
    (more : config.pluto.audioBitrateKbps < mux) :
    1000 * (fallbackVideoBitrateKbps config).toInt + (audioBitRate config).toInt ≤ 1000 * mux.toNat ↔
      250 + max 32 config.pluto.audioBitrateKbps.toNat ≤ mux.toNat := by
  obtain ⟨bits, rate, modulated⟩ := modulated_of_accepted accepted
  have read : readConfig arithmetic root = .ok config := by
    obtain ⟨again, parsed_again, read⟩ := read_of_accepted accepted
    cases parsed.symm.trans parsed_again
    exact read
  have pluto := (sections_of_config read).1
  simp only [optional, given] at pluto
  obtain ⟨same, video⟩ := rates_of_pluto pluto
  cases calculated.symm.trans same
  have few := (calculated_mux_le modulated calculated).2
  have above := UInt32.lt_iff_toNat_lt.mp more
  rw [calculatePlutoVideoBitrateKbps_eq calculated, if_neg (UInt32.not_le.mpr more)] at video
  have left : config.pluto.videoBitrateKbps.toNat = config.pluto.muxRateKbps.toNat - config.pluto.audioBitrateKbps.toNat := by
    rw [← Except.ok.inj video, UInt32.toNat_sub_of_le _ _ (UInt32.le_of_lt more)]
  rw [toInt_audioBitRate, toInt_fallbackVideoBitrateKbps rfl few (by omega), left]
  omega

/-! ## A slow transmitter -/

def slowText : Bytes := bytes "\x7b\"pluto\":\x7b\"symbolRateS\":250000\x7d,\"receivers\":[]\x7d"

def slowRoot : Json :=
  .object [(bytes "pluto", .object [(bytes "symbolRateS", .number 250000)]), (bytes "receivers", .array [])]

/-- 250 kbit/s with the default modulation. -/
def slow : RepeaterConfig := { pluto := { symbolRateS := 250000, muxRateKbps := 250, videoBitrateKbps := 154 } }

theorem slow_parsed : JsonParser.parse slowText = some (.ok slowRoot) := by
  have printed : (Document.object .compact [("pluto", .object .compact [("symbolRateS", .decimal 250000)]),
      ("receivers", .array .compact [])]).print (fun _ => []) ++ [] = slowText := by decide +kernel
  rw [← printed, Document.parse_print _ rfl, if_pos (by decide +kernel)]
  · rfl
  · simp only [Document.Proper, Document.ProperMembers, Document.ProperItems, and_true]
    decide +kernel

theorem slow_accepted : configFromJson wrapping slowText = some (.ok slow) := by
  rw [configFromJson_of_parse slow_parsed]
  rfl

theorem slow_mux_rate : ∃ bits rate, Modulated slow.pluto bits rate ∧
    ∃ mux : UInt32 → UInt32, (∀ symbolRateS, Rates { slow.pluto with symbolRateS } bits rate (mux symbolRateS)) ∧
      ∀ slower faster, slower ≤ faster → mux slower ≤ mux faster :=
  (mux_rate_exact wrapping).1 slowText slow slow_accepted

theorem slow_encoders_fit_iff :
    1000 * (fallbackVideoBitrateKbps slow).toInt + (audioBitRate slow).toInt ≤ 1000 * (250 : UInt32).toNat ↔
      250 + max 32 slow.pluto.audioBitrateKbps.toNat ≤ (250 : UInt32).toNat :=
  encoders_fit_iff slow_accepted slow_parsed rfl rfl (by decide)

/-- Its video alone takes all there is. -/
theorem slow_encoders_too_much :
    configFromJson wrapping slowText = some (.ok slow) ∧ calculatePlutoMuxRateKbps slow.pluto = .ok 250 ∧
      slow.pluto.audioBitrateKbps = 96 ∧ fallbackVideoBitrateKbps slow = 250 ∧ audioBitRate slow = 96000 ∧
      ¬ 1000 * (fallbackVideoBitrateKbps slow).toInt + (audioBitRate slow).toInt ≤ 1000 * (250 : UInt32).toNat :=
  ⟨slow_accepted, rfl, rfl, by decide +kernel, by decide +kernel, by decide +kernel⟩

end WhRepeater
