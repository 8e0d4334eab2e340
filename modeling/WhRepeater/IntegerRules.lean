import WhRepeater.ConfigRead

/-! How a number of the configuration becomes an integer (`config.cpp`): the
conversions of `jsonUint32` and `jsonInt`, the bounds, the even sizes and the unit
of a duration. A literal is kept exactly when it is an integer of the type, or lies
beyond a bound that it is clamped to. -/
namespace WhRepeater

open Binary64 (truncate)

inductive IntegerType where
  | uint16
  | uint32
  | int
  deriving Repr, DecidableEq

namespace IntegerType

def least : IntegerType → Int
  | .uint16 | .uint32 => 0
  | .int => -2 ^ 31

def greatest : IntegerType → Int
  | .uint16 => 2 ^ 16 - 1
  | .uint32 => 2 ^ 32 - 1
  | .int => 2 ^ 31 - 1

def Holds (type : IntegerType) (number : Int) : Prop := type.least ≤ number ∧ number ≤ type.greatest

/-- The `double` without its fraction is a value of the type. -/
def Takes (type : IntegerType) (number : Rat) : Prop := (type.least - 1 : Rat) < number ∧ number < type.greatest + 1

end IntegerType

/-- What becomes of the number of a member. -/
inductive Rule where
  | whole (type : IntegerType)
  | clamped (type : IntegerType) (low high : Int)
  /-- Clamped, and the next even number below. -/
  | even (low high : Int)
  | atLeast (low : Int)
  /-- At least one second, in milliseconds. -/
  | seconds
  deriving Repr, DecidableEq

namespace Rule

/-- What the number is to become, whatever its fraction. -/
def meaning : Rule → Rat → Rat
  | .whole _, number => number
  | .clamped _ low high, number => clamp number low high
  | .even low high, number => 2 * ⌊clamp number (low : Rat) high / 2⌋
  | .atLeast low, number => max low number
  | .seconds, number => max 1 number * 1000

/-- What is made of the integer. -/
def result : Rule → Int → Int
  | .whole _, number => number
  | .clamped _ low high, number => clamp number low high
  | .even low high, number => 2 * (clamp number low high / 2)
  | .atLeast low, number => max low number
  | .seconds, number => max 1 number * 1000

/-- No conversion of the number, and no product, is out of the range of its type. -/
def InRange : Rule → Rat → Prop
  | .whole type, number => type.Takes number
  | .clamped type _ _, number => type.Takes number
  | .even _ _, number => IntegerType.uint32.Takes number
  | .atLeast _, number => IntegerType.int.Takes number
  | .seconds, number => IntegerType.int.Takes number ∧ IntegerType.int.Holds (max 1 (truncate number) * 1000)

/-- The literal is an integer where it is not clamped, and its double can be
converted. No even size lies between a size and its double. -/
def Sound : Rule → Rat → Prop
  | .whole type, literal => ∃ number : Int, literal = number ∧ type.Holds number
  | .clamped type low high, literal =>
    type.Takes (Binary64.round literal) ∧ (literal ≤ low ∨ high ≤ literal ∨ ∃ number : Int, literal = number)
  | .even low high, literal => IntegerType.uint32.Takes (Binary64.round literal) ∧
    ∀ half : Int, low < 2 * half → 2 * half ≤ high → 2 * half ≤ Binary64.round literal → 2 * half ≤ literal
  | .atLeast low, literal => IntegerType.int.Takes (Binary64.round literal) ∧ (literal ≤ low ∨ ∃ number : Int, literal = number)
  | .seconds, literal => IntegerType.int.Takes (Binary64.round literal) ∧
    (literal ≤ 1 ∨ ∃ number : Int, literal = number ∧ number ≤ 2147483)

/-- The bounds are in order, and doubles. -/
def Bounded : Rule → Prop
  | .whole _ => True
  | .clamped _ low high => |low| < 2 ^ 53 ∧ |high| < 2 ^ 53 ∧ low ≤ high
  | .even low high => 0 ≤ low ∧ low ≤ high ∧ high < 2 ^ 53
  | .atLeast low => |low| < 2 ^ 53
  | .seconds => True

instance (rule : Rule) : Decidable rule.Bounded := by
  cases rule <;> unfold Bounded <;> infer_instance

end Rule

variable {type : IntegerType} {literal number : Rat} {low high : Int}

/-! ## Conversions -/

theorem IntegerType.bounds (type : IntegerType) : type.least ≤ 0 ∧ 0 ≤ type.greatest ∧ -2 ^ 31 ≤ type.least ∧ type.greatest < 2 ^ 32 := by
  cases type <;> decide

theorem IntegerType.Takes.holds (takes : type.Takes number) : type.Holds (truncate number) := by
  obtain ⟨above, below⟩ := takes
  obtain ⟨nonpositive, nonnegative, -, -⟩ := type.bounds
  unfold truncate
  split_ifs with negative
  · constructor
    · exact Int.le_ceil_iff.mpr above
    · exact (Int.ceil_le.mpr (by exact_mod_cast negative.le)).trans nonnegative
  · constructor
    · exact nonpositive.trans (Int.le_floor.mpr (by exact_mod_cast not_lt.mp negative))
    · exact Int.floor_le_iff.mpr below

theorem IntegerType.Holds.takes {number : Int} (holds : type.Holds number) : type.Takes number := by
  have above : (type.least : Rat) ≤ number := Int.cast_le.mpr holds.1
  have below : (number : Rat) ≤ type.greatest := Int.cast_le.mpr holds.2
  constructor <;> linarith

theorem IntegerType.Holds.small {number : Int} (holds : type.Holds number) : |number| < 2 ^ 53 := by
  obtain ⟨-, -, low, high⟩ := type.bounds
  obtain ⟨above, below⟩ := holds
  rw [abs_lt]
  omega

/-- An integer of which the double can be converted is that double. -/
theorem IntegerType.Takes.small {number : Int} (takes : type.Takes (Binary64.round number)) : |number| < 2 ^ 53 := by
  obtain ⟨-, -, low, high⟩ := type.bounds
  have low : (-2 ^ 31 : Rat) ≤ type.least := by exact_mod_cast low
  have high : (type.greatest : Rat) < 2 ^ 32 := by exact_mod_cast high
  rw [abs_lt]
  constructor
  · by_contra below
    have far : ((number : Int) : Rat) ≤ ((-2 ^ 53 + 1 : Int) : Rat) := Int.cast_le.mpr (by omega)
    have rounded := Binary64.round_le (by decide) far
    push_cast at rounded
    linarith [takes.1]
  · by_contra above
    have far : ((2 ^ 53 - 1 : Int) : Rat) ≤ ((number : Int) : Rat) := Int.cast_le.mpr (by omega)
    have rounded := Binary64.le_round (by decide) far
    push_cast at rounded
    linarith [takes.2]

theorem le_of_le_truncate {least : Int} (positive : 0 < least) (reached : least ≤ truncate number) : (least : Rat) ≤ number := by
  unfold truncate at reached
  split_ifs at reached with negative
  · have none : ⌈number⌉ ≤ 0 := Int.ceil_le.mpr (by exact_mod_cast negative.le)
    omega
  · exact Int.le_floor.mp reached

/-! ## Bounds -/

theorem le_clamp_iff {α : Type} [LinearOrder α] {low high : α} (ordered : low ≤ high) (least value : α) :
    least ≤ clamp value low high ↔ least ≤ low ∨ (least ≤ high ∧ least ≤ value) := by
  unfold clamp
  split_ifs with below above
  · exact ⟨.inl, fun reached => reached.elim id fun both => both.2.trans below.le⟩
  · exact ⟨fun reached => .inr ⟨reached, reached.trans above.le⟩, fun reached => reached.elim (·.trans ordered) (·.1)⟩
  · exact ⟨fun reached => .inr ⟨reached.trans (not_lt.mp above), reached⟩,
      fun reached => reached.elim (·.trans (not_lt.mp below)) (·.2)⟩

theorem clamp_of_le {α : Type} [LinearOrder α] {low high value : α} (ordered : low ≤ high) (below : value ≤ low) :
    clamp value low high = low := by
  refine eq_of_forall_le_iff fun least => ?_
  rw [le_clamp_iff ordered]
  exact ⟨fun reached => reached.elim id fun both => both.2.trans below, .inl⟩

theorem clamp_of_ge {α : Type} [LinearOrder α] {low high value : α} (ordered : low ≤ high) (above : high ≤ value) :
    clamp value low high = high := by
  refine eq_of_forall_le_iff fun least => ?_
  rw [le_clamp_iff ordered]
  exact ⟨fun reached => reached.elim (·.trans ordered) (·.1), fun reached => .inr ⟨reached, reached.trans above⟩⟩

theorem clamp_of_mem {α : Type} [LinearOrder α] {low high value : α} (above : low ≤ value) (below : value ≤ high) :
    clamp value low high = value := by
  rw [clamp, if_neg (not_lt.mpr above), if_neg (not_lt.mpr below)]

/-! ## Each rule -/

theorem whole_iff : type.Takes (Binary64.round literal) ∧ (truncate (Binary64.round literal) : Rat) = literal ↔
    ∃ number : Int, literal = number ∧ type.Holds number := by
  constructor
  · rintro ⟨takes, same⟩
    exact ⟨truncate (Binary64.round literal), same.symm, takes.holds⟩
  · rintro ⟨number, rfl, holds⟩
    rw [Binary64.round_intCast holds.small, Binary64.truncate_intCast]
    exact ⟨holds.takes, rfl⟩

theorem clamped_iff (low_small : |low| < 2 ^ 53) (high_small : |high| < 2 ^ 53) (ordered : low ≤ high) :
    ((clamp (truncate (Binary64.round literal)) low high : Int) : Rat) = clamp literal (low : Rat) high ↔
      literal ≤ low ∨ high ≤ literal ∨ ∃ number : Int, literal = number := by
  have ordered_cast : (low : Rat) ≤ high := Int.cast_le.mpr ordered
  by_cases below : literal ≤ low
  · have same := Binary64.truncate_le (Binary64.round_le low_small below)
    rw [clamp_of_le ordered same, clamp_of_le ordered_cast below]
    exact iff_of_true rfl (.inl below)
  by_cases above : high ≤ literal
  · have same := Binary64.le_truncate (Binary64.le_round high_small above)
    rw [clamp_of_ge ordered same, clamp_of_ge ordered_cast above]
    exact iff_of_true rfl (.inr (.inl above))
  rw [clamp_of_mem (not_le.mp below).le (not_le.mp above).le]
  constructor
  · intro same
    exact .inr (.inr ⟨_, same.symm⟩)
  · rintro (under | beyond | ⟨number, rfl⟩)
    · exact absurd under below
    · exact absurd beyond above
    · have beyond : low < number := Int.cast_lt.mp (not_le.mp below)
      have under : number < high := Int.cast_lt.mp (not_le.mp above)
      have small : |number| < 2 ^ 53 := by
        rw [abs_lt] at low_small high_small ⊢
        omega
      rw [Binary64.round_intCast small, Binary64.truncate_intCast, clamp_of_mem beyond.le under.le]

/-- A size reaches an even number when its double does, unless the double is
where the size is not. -/
theorem even_iff (low_nonneg : 0 ≤ low) (ordered : low ≤ high) (high_small : high < 2 ^ 53) :
    ((2 * (clamp (truncate (Binary64.round literal)) low high / 2) : Int) : Rat) = 2 * ⌊clamp literal (low : Rat) high / 2⌋ ↔
      ∀ half : Int, low < 2 * half → 2 * half ≤ high → 2 * half ≤ Binary64.round literal → 2 * half ≤ literal := by
  have ordered_cast : (low : Rat) ≤ high := Int.cast_le.mpr ordered
  have stored : ∀ half : Int, half ≤ clamp (truncate (Binary64.round literal)) low high / 2 ↔
      2 * half ≤ low ∨ (2 * half ≤ high ∧ 2 * half ≤ truncate (Binary64.round literal)) := by
    intro half
    rw [← le_clamp_iff ordered, Int.le_ediv_iff_mul_le (by decide), Int.mul_comm]
  have meant : ∀ half : Int, half ≤ ⌊clamp literal (low : Rat) high / 2⌋ ↔
      2 * half ≤ low ∨ (2 * half ≤ high ∧ (2 * half : Rat) ≤ literal) := by
    intro half
    have scaled : (half : Rat) ≤ clamp literal (low : Rat) high / 2 ↔ (2 * half : Rat) ≤ clamp literal (low : Rat) high := by
      rw [le_div_iff₀ (by norm_num), mul_comm]
    rw [Int.le_floor, scaled, le_clamp_iff ordered_cast]
    norm_cast
  have same : ((2 * (clamp (truncate (Binary64.round literal)) low high / 2) : Int) : Rat) = 2 * ⌊clamp literal (low : Rat) high / 2⌋ ↔
      clamp (truncate (Binary64.round literal)) low high / 2 = ⌊clamp literal (low : Rat) high / 2⌋ := by
    rw [Int.cast_mul, Int.cast_ofNat, mul_right_inj' (by norm_num), Int.cast_inj]
  rw [same]
  constructor
  · intro equal half beyond under reached
    have sized := (stored half).mpr (.inr ⟨under, Binary64.le_truncate (by exact_mod_cast reached)⟩)
    rw [equal, meant] at sized
    exact sized.elim (fun small => absurd small (by omega)) (·.2)
  · intro reaches
    refine eq_of_forall_le_iff fun half => ?_
    rw [stored, meant]
    by_cases small : 2 * half ≤ low
    · exact iff_of_true (.inl small) (.inl small)
    refine or_congr_right (and_congr_right fun under => ?_)
    constructor
    · intro reached
      refine reaches half (by omega) under ?_
      exact_mod_cast le_of_le_truncate (by omega) reached
    · intro reached
      have size : ((2 * half : Int) : Rat) ≤ literal := by exact_mod_cast reached
      exact Binary64.le_truncate (Binary64.le_round (abs_lt.mpr (by omega)) size)

theorem atLeast_iff (low_small : |low| < 2 ^ 53) (takes : IntegerType.int.Takes (Binary64.round literal)) :
    ((max low (truncate (Binary64.round literal)) : Int) : Rat) = max (low : Rat) literal ↔
      literal ≤ low ∨ ∃ number : Int, literal = number := by
  by_cases below : literal ≤ low
  · have same := Binary64.truncate_le (Binary64.round_le low_small below)
    rw [max_eq_left same, max_eq_left below]
    exact iff_of_true rfl (.inl below)
  rw [max_eq_right (not_le.mp below).le]
  constructor
  · intro same
    exact .inr ⟨_, same.symm⟩
  · rintro (under | ⟨number, rfl⟩)
    · exact absurd under below
    · have beyond : low < number := Int.cast_lt.mp (not_le.mp below)
      rw [Binary64.round_intCast takes.small, Binary64.truncate_intCast, max_eq_right beyond.le]

/-- A product that stays in range is one of at most 2147483 seconds. -/
theorem seconds_iff (takes : IntegerType.int.Takes (Binary64.round literal)) :
    IntegerType.int.Holds (max 1 (truncate (Binary64.round literal)) * 1000) ∧
        ((max 1 (truncate (Binary64.round literal)) * 1000 : Int) : Rat) = max 1 literal * 1000 ↔
      literal ≤ 1 ∨ ∃ number : Int, literal = number ∧ number ≤ 2147483 := by
  have unscaled : ((max 1 (truncate (Binary64.round literal)) * 1000 : Int) : Rat) = max 1 literal * 1000 ↔
      literal ≤ 1 ∨ ∃ number : Int, literal = number := by
    have plain := @atLeast_iff literal 1 (by decide) takes
    rw [Int.cast_one] at plain
    rw [Int.cast_mul, Int.cast_ofNat, mul_left_inj' (by norm_num), plain]
  have range : ∀ number : Int, IntegerType.int.Holds (max 1 number * 1000) ↔ number ≤ 2147483 := by
    intro number
    simp only [IntegerType.Holds, IntegerType.least, IntegerType.greatest]
    omega
  rw [unscaled, range]
  constructor
  · rintro ⟨short, below | ⟨number, rfl⟩⟩
    · exact .inl below
    · rw [Binary64.round_intCast takes.small, Binary64.truncate_intCast] at short
      exact .inr ⟨number, rfl, short⟩
  · rintro (below | ⟨number, rfl, short⟩)
    · have one : literal ≤ ((1 : Int) : Rat) := by exact_mod_cast below
      have same := Binary64.truncate_le (Binary64.round_le (by decide) one)
      exact ⟨same.trans (by decide), .inl below⟩
    · rw [Binary64.round_intCast takes.small, Binary64.truncate_intCast]
      exact ⟨short, .inr ⟨number, rfl⟩⟩

/-- What is stored is what the literal means, with every step in range, exactly
for the literals that the rule keeps. -/
theorem Rule.unaltered_iff {rule : Rule} (bounded : rule.Bounded) (literal : Rat) :
    rule.InRange (Binary64.round literal) ∧ (rule.result (truncate (Binary64.round literal)) : Rat) = rule.meaning literal ↔
      rule.Sound literal := by
  cases rule with
  | whole type => exact whole_iff
  | clamped type low high => exact and_congr_right fun _ => clamped_iff bounded.1 bounded.2.1 bounded.2.2
  | even low high => exact and_congr_right fun _ => even_iff bounded.1 bounded.2.1 bounded.2.2
  | atLeast low => exact and_congr_right fun takes => atLeast_iff bounded takes
  | seconds =>
    simp only [Rule.InRange, and_assoc]
    exact and_congr_right fun takes => seconds_iff takes

end WhRepeater
