import Mathlib.Data.Int.Log
import Mathlib.Data.Rat.Floor

/-! Rounding to the nearest `double`. A finite double is the rational it stands
for, so rounding takes rationals to rationals. -/
namespace Binary64

/-- The nearest integer, of two as near the even one. -/
def roundHalfEven (value : Rat) : Int :=
  let rest := value - ⌊value⌋
  if rest < 1 / 2 then ⌊value⌋
  else if 1 / 2 < rest then ⌊value⌋ + 1
  else if ⌊value⌋ % 2 = 0 then ⌊value⌋
  else ⌊value⌋ + 1

/-- The exponent of the last of the 53 places, or that of the subnormals. -/
def lastPlace (value : Rat) : Int := max (Int.log 2 |value| - 52) (-1074)

def round (value : Rat) : Rat := roundHalfEven (value / 2 ^ lastPlace value) * 2 ^ lastPlace value

/-- The integer without the fraction. -/
def truncate (value : Rat) : Int := if value < 0 then ⌈value⌉ else ⌊value⌋

/-- Magnitudes from here on are out of range. -/
def bound : Rat := 2 ^ 1024

/-- Magnitudes below this one are subnormal. -/
def smallestNormal : Rat := 2 ^ (-1022 : Int)

/-- What the bits of a `double` stand for. -/
inductive Value where
  | nan
  | infinite (negative : Bool)
  | finite (value : Rat)
  deriving Repr, DecidableEq

def Value.ofBits (bits : UInt64) : Value :=
  let negative := (bits >>> 63) = 1
  let exponent := ((bits >>> 52) &&& 0x7ff).toNat
  let fraction : Nat := bits.toNat % 2 ^ 52
  if exponent = 0x7ff then if fraction = 0 then .infinite negative else .nan
  else
    let magnitude : Rat :=
      if exponent = 0 then (fraction : Rat) * 2 ^ (-1074 : Int)
      else ((fraction : Rat) + 2 ^ 52) * 2 ^ ((exponent : Int) - 1075)
    .finite (if negative then -magnitude else magnitude)

/-- `operator<`, which no comparison with `nan` satisfies. -/
def Value.less : Value → Value → Bool
  | .nan, _ | _, .nan => false
  | .infinite negative, .infinite other => negative && !other
  | .infinite negative, .finite _ => negative
  | .finite _, .infinite negative => !negative
  | .finite value, .finite other => value < other

@[simp] theorem truncate_intCast (value : Int) : truncate value = value := by
  simp [truncate]

theorem roundHalfEven_intCast (value : Int) : roundHalfEven value = value := by
  simp [roundHalfEven]

theorem lastPlace_intCast_nonpos {value : Int} (small : |value| < 2 ^ 53) : lastPlace value ≤ 0 := by
  have log : Int.log 2 |(value : Rat)| ≤ 52 := by
    have cast : |(value : Rat)| = ((value.natAbs : Nat) : Rat) := by
      rw [← Int.cast_abs, Int.abs_eq_natAbs, Int.cast_natCast]
    rw [cast, Int.log_natCast]
    have places : Nat.log 2 value.natAbs < 53 := by
      refine Nat.log_lt_of_lt_pow' (by decide) ?_
      rw [Int.abs_eq_natAbs] at small
      exact_mod_cast small
    omega
  unfold lastPlace
  omega

/-- Integers of up to 53 bits are doubles. -/
theorem round_intCast {value : Int} (small : |value| < 2 ^ 53) : round value = value := by
  obtain ⟨places, exponent⟩ := Int.exists_eq_neg_ofNat (lastPlace_intCast_nonpos small)
  have scaled : (value : Rat) / 2 ^ lastPlace value = ((value * 2 ^ places : Int) : Rat) := by
    rw [exponent, zpow_neg, zpow_natCast, div_inv_eq_mul]
    push_cast
    rfl
  rw [round, scaled, roundHalfEven_intCast, ← scaled]
  exact div_mul_cancel₀ _ (zpow_ne_zero _ (by decide))

/-- A finite double is the rational. -/
def Represents (value : Rat) : Prop :=
  |value| < bound ∧ ∃ mantissa exponent : Int, |mantissa| < 2 ^ 53 ∧ -1074 ≤ exponent ∧ value = mantissa * 2 ^ exponent

/-- The last place of a double is no higher than its exponent. -/
theorem lastPlace_le {mantissa exponent : Int} (small : |mantissa| < 2 ^ 53) (subnormal : -1074 ≤ exponent)
    (nonzero : mantissa ≠ 0) : lastPlace (mantissa * 2 ^ exponent) ≤ exponent := by
  have scale : (0 : Rat) < 2 ^ exponent := zpow_pos (by norm_num) _
  have places : |(mantissa : Rat)| < 2 ^ (53 : Int) := by exact_mod_cast small
  have magnitude : |(mantissa : Rat) * 2 ^ exponent| < 2 ^ (53 + exponent) := by
    rw [abs_mul, abs_of_pos scale, zpow_add₀ (by norm_num)]
    exact mul_lt_mul_of_pos_right places scale
  have positive : 0 < |(mantissa : Rat) * 2 ^ exponent| :=
    abs_pos.mpr (mul_ne_zero (Int.cast_ne_zero.mpr nonzero) scale.ne')
  have log := (Int.lt_zpow_iff_log_lt (by decide : 1 < 2) positive).mp (by exact_mod_cast magnitude)
  unfold lastPlace
  omega

/-- A double is rounded to itself. -/
theorem round_of_represents {value : Rat} (represents : Represents value) : round value = value := by
  obtain ⟨-, mantissa, exponent, small, subnormal, rfl⟩ := represents
  by_cases zero : mantissa = 0
  · rw [zero, Int.cast_zero, zero_mul, round, zero_div]
    have none : roundHalfEven 0 = 0 := roundHalfEven_intCast 0
    rw [none, Int.cast_zero, zero_mul]
  · obtain ⟨shift, apart⟩ := Int.le.dest (lastPlace_le small subnormal zero)
    have scaled : (mantissa * 2 ^ exponent : Rat) / 2 ^ lastPlace (mantissa * 2 ^ exponent) =
        ((mantissa * 2 ^ shift : Int) : Rat) := by
      rw [div_eq_iff (zpow_ne_zero _ (by norm_num))]
      push_cast
      rw [mul_assoc, ← zpow_natCast, ← zpow_add₀ (by norm_num), Int.add_comm, apart]
    rw [round, scaled, roundHalfEven_intCast, ← scaled]
    exact div_mul_cancel₀ _ (zpow_ne_zero _ (by norm_num))

/-! ## Rounding and integers -/

theorem roundHalfEven_le {value : Rat} {number : Int} (below : value ≤ number) : roundHalfEven value ≤ number := by
  have floor : ⌊value⌋ ≤ number := Int.floor_le_iff.mpr (below.trans_lt (lt_add_one _))
  by_cases reached : ⌊value⌋ = number
  · have whole : value = number := le_antisymm below (reached ▸ Int.floor_le value)
    rw [whole, roundHalfEven_intCast]
  · unfold roundHalfEven
    dsimp only
    split_ifs <;> omega

theorem le_roundHalfEven {value : Rat} {number : Int} (above : (number : Rat) ≤ value) : number ≤ roundHalfEven value := by
  have floor : number ≤ ⌊value⌋ := Int.le_floor.mpr above
  unfold roundHalfEven
  dsimp only
  split_ifs <;> omega

/-- A last place above the point is 52 places below the first. -/
theorem pow_le_abs {value : Rat} (coarse : 0 < lastPlace value) : (2 : Rat) ^ (52 + lastPlace value) ≤ |value| := by
  have log : 52 + lastPlace value = Int.log 2 |value| := by
    unfold lastPlace at coarse ⊢
    omega
  have positive : 0 < |value| := by
    by_contra none
    have zero : |value| = 0 := le_antisymm (not_lt.mp none) (abs_nonneg value)
    rw [zero, Int.log_zero_right] at log
    omega
  have least := Int.zpow_log_le_self (by decide : 1 < 2) positive
  rw [log]
  exact_mod_cast least

/-- There is a number of last places between a value and an integer above it. -/
theorem exists_places_le {value : Rat} {number : Int} (small : |number| < 2 ^ 53) (below : value ≤ number) :
    ∃ places : Int, value ≤ places * 2 ^ lastPlace value ∧ (places * 2 ^ lastPlace value : Rat) ≤ number := by
  by_cases coarse : 0 < lastPlace value
  · have magnitude := pow_le_abs coarse
    have far : (2 : Rat) ^ (53 : Int) ≤ 2 ^ (52 + lastPlace value) := zpow_le_zpow_right₀ (by norm_num) (by omega)
    have bounds : -(2 : Rat) ^ (53 : Int) < number ∧ (number : Rat) < 2 ^ (53 : Int) := by exact_mod_cast abs_lt.mp small
    have negative : value < 0 := by
      by_contra above
      rw [abs_of_nonneg (not_lt.mp above)] at magnitude
      linarith [bounds.2]
    rw [abs_of_neg negative] at magnitude
    have split : ((-2 ^ 52 : Int) : Rat) * 2 ^ lastPlace value = -2 ^ (52 + lastPlace value) := by
      rw [zpow_add₀ (by norm_num)]
      push_cast
      norm_num
    refine ⟨-2 ^ 52, ?_, ?_⟩
    · rw [split]
      linarith
    · rw [split]
      linarith [bounds.1]
  · obtain ⟨places, exponent⟩ := Int.exists_eq_neg_ofNat (not_lt.mp coarse)
    have same : ((number * 2 ^ places : Int) : Rat) * 2 ^ lastPlace value = number := by
      rw [exponent, zpow_neg, zpow_natCast]
      push_cast
      exact mul_inv_cancel_right₀ (pow_ne_zero _ (by norm_num)) _
    exact ⟨number * 2 ^ places, same ▸ below, same.le⟩

/-- Rounding does not carry a value past an integer of up to 53 bits. -/
theorem round_le {value : Rat} {number : Int} (small : |number| < 2 ^ 53) (below : value ≤ number) : round value ≤ number := by
  obtain ⟨places, under, beyond⟩ := exists_places_le small below
  have unit : (0 : Rat) < 2 ^ lastPlace value := zpow_pos (by norm_num) _
  have rounded : (roundHalfEven (value / 2 ^ lastPlace value) : Rat) ≤ places :=
    Int.cast_le.mpr (roundHalfEven_le ((div_le_iff₀ unit).mpr under))
  exact (mul_le_mul_of_nonneg_right rounded unit.le).trans beyond

theorem le_round {value : Rat} {number : Int} (small : |number| < 2 ^ 53) (above : (number : Rat) ≤ value) :
    number ≤ round value := by
  have mirrored : lastPlace (-value) = lastPlace value := by simp only [lastPlace, abs_neg]
  have below : -value ≤ (-number : Int) := by
    push_cast
    linarith
  obtain ⟨places, under, beyond⟩ := exists_places_le (by rwa [abs_neg]) below
  rw [mirrored] at under beyond
  push_cast at beyond
  have unit : (0 : Rat) < 2 ^ lastPlace value := zpow_pos (by norm_num) _
  have rounded : ((-places : Int) : Rat) ≤ roundHalfEven (value / 2 ^ lastPlace value) := by
    refine Int.cast_le.mpr (le_roundHalfEven ((le_div_iff₀ unit).mpr ?_))
    push_cast
    linarith
  have scaled := mul_le_mul_of_nonneg_right rounded unit.le
  push_cast at scaled
  unfold round
  linarith

theorem truncate_le {value : Rat} {number : Int} (below : value ≤ number) : truncate value ≤ number := by
  unfold truncate
  split_ifs
  · exact Int.ceil_le.mpr below
  · exact Int.floor_le_iff.mpr (below.trans_lt (lt_add_one _))

theorem le_truncate {value : Rat} {number : Int} (above : (number : Rat) ≤ value) : number ≤ truncate value := by
  unfold truncate
  split_ifs
  · exact Int.le_ceil_iff.mpr ((sub_one_lt _).trans_le above)
  · exact Int.le_floor.mpr above

end Binary64
