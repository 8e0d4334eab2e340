import Mathlib.Data.List.DropRight
import Mathlib.Algebra.Order.Ring.Int
import Mathlib.Tactic.Ring
import WhRepeater.ApiRequests
import WhRepeater.RecordedSteps

/-! The loops over digits in texts of clients (`jsonIntValue`, `jsonInt64Value` and
`parseTimecode` of `api_server.cpp`), with every number they compute on the way. The
loops look at no bound, so that long numbers leave the range of their type. -/
namespace WhRepeater

open TextScan RecordedSteps Recorded

namespace ApiServer

/-! ## Trimmed texts -/

/-- What `trimJson` leaves of a text. -/
def trimmed (value : Bytes) : Bytes := (value.dropWhile isBlank).rdropWhile isBlank

theorem trimJson_eq (value : Bytes) : trimJson value = .ok (trimmed value) := by
  have whole := @List.takeWhile_append_dropWhile _ isBlank value
  have lengths := congrArg List.length whole
  rw [List.length_append] at lengths
  unfold trimJson
  by_cases blank : (value.takeWhile isBlank).length = value.length
  · have nothing : value.dropWhile isBlank = [] := List.eq_nil_of_length_eq_zero (by omega)
    rw [trimmed, nothing, if_pos blank]
    rfl
  · have some : value.dropWhile isBlank ≠ [] := by
      intro nothing
      rw [nothing, List.length_nil] at lengths
      omega
    have among := List.head_mem some
    have first := List.head_dropWhile_not isBlank some
    have stops : ((value.dropWhile isBlank).reverse.takeWhile isBlank).length ≠ (value.dropWhile isBlank).reverse.length := by
      intro all
      have same := (List.takeWhile_prefix isBlank).eq_of_length all
      rw [List.takeWhile_eq_self_iff.mp same _ (List.mem_reverse.mpr among)] at first
      cases first
    have back : value.reverse.takeWhile isBlank = (value.dropWhile isBlank).reverse.takeWhile isBlank := by
      conv_lhs => rw [← whole, List.reverse_append, List.takeWhile_append, if_neg stops]
    have short := (List.takeWhile_prefix (l := (value.dropWhile isBlank).reverse) isBlank).length_le
    rw [List.length_reverse] at stops short
    rw [if_neg blank, back, substr_ok (by omega), drop_takeWhile, trimmed, List.rdropWhile,
      ← drop_takeWhile isBlank (value.dropWhile isBlank).reverse, List.drop_reverse, List.reverse_reverse]
    congr 2
    omega

/-- Nothing is trimmed from a text without blanks. -/
theorem trimmed_self {text : Bytes} (none : ∀ ch ∈ text, isBlank ch = false) : trimmed text = text := by
  have front : text.dropWhile isBlank = text := List.dropWhile_eq_self_iff.mpr fun some => by simp [none]
  rw [trimmed, front, List.rdropWhile_eq_self_iff]
  intro some
  rw [none _ (List.getLast_mem some)]
  exact Bool.false_ne_true

/-! ## Every number on the way -/

def digitLoop (parsed : Int) : Bytes → Recorded Int
  | [] => pure parsed
  | ch :: rest =>
    if isDigit ch = false then refused
    else do
      let scaled ← computed (parsed * 10)
      let next ← computed (scaled + (ch.toNat - 48 : Nat))
      digitLoop next rest

def unsigned (text : Bytes) : Bytes := if text.head? = some (code '-') then text.tail else text

/-- `jsonIntValue` and `jsonInt64Value`, which differ in the type of the numbers. -/
def integerSteps (value : Bytes) : Recorded Int :=
  let value := trimmed value
  if (unsigned value).head?.all isDigit = false ∨ unsigned value = [] then refused
  else do
    let parsed ← digitLoop 0 (unsigned value)
    if value.head? = some (code '-') then computed (-parsed) else pure parsed

def wholeSteps (value : Bytes) : Recorded Int := if value = [] then refused else digitLoop 0 value

/-- The products with the factors, one after the other. -/
def scaledSteps (value : Int) : List Nat → Recorded Int
  | [] => pure value
  | factor :: factors => do
    let scaled ← computed (value * factor)
    scaledSteps scaled factors

def fractionSteps (secondsText : Bytes) : Recorded Int :=
  if code '.' ∈ secondsText then do
    let fraction := (secondsText.dropWhile (· ≠ code '.')).tail
    let digits := (fraction.takeWhile isDigit).take 3
    let fractionalMs ← digitLoop 0 digits
    scaledSteps fractionalMs (List.replicate (3 - digits.length) 10)
  else pure 0

def componentSteps (milliseconds : Int) (factors : List Nat) (value : Bytes) : Recorded Int := do
  let parsed ← wholeSteps value
  let scaled ← scaledSteps parsed factors
  computed (milliseconds + scaled)

/-- A component that may be missing. -/
def optionalSteps (milliseconds : Int) (factors : List Nat) : Option Bytes → Recorded Int
  | none => pure milliseconds
  | some value => componentSteps milliseconds factors value

def timecodeSteps (text : Bytes) : Recorded Int :=
  let text := trimmed text
  let parts := text.splitOn (code ':')
  if text = [] ∨ 3 < parts.length then refused
  else do
    let secondsText := parts.getLast?.getD []
    let fractionalMs ← fractionSteps secondsText
    let seconds ← componentSteps fractionalMs [1000] (secondsText.takeWhile (· ≠ code '.'))
    let milliseconds ← computed (0 + seconds)
    let milliseconds ← optionalSteps milliseconds [60, 1000] (if 2 ≤ parts.length then parts[parts.length - 2]? else none)
    optionalSteps milliseconds [60, 60, 1000] (if parts.length = 3 then parts[0]? else none)

/-! ## The digits -/

/-- Digits, and at least one. -/
def Numeral (text : Bytes) : Prop := text ≠ [] ∧ text.all isDigit = true

instance (text : Bytes) : Decidable (Numeral text) := inferInstanceAs (Decidable (_ ∧ _))

/-- The number that the digits at the start write. -/
def leadingValue (text : Bytes) : Nat := digitsValue (text.takeWhile isDigit)

/-- Digits that go on where a number was read already. -/
def valueFrom (parsed : Nat) (digits : Bytes) : Nat := digits.foldl (fun value digit => 10 * value + (digit.toNat - 48)) parsed

theorem valueFrom_cons (parsed : Nat) (ch : UInt8) (digits : Bytes) :
    valueFrom parsed (ch :: digits) = valueFrom (10 * parsed + (ch.toNat - 48)) digits := by
  rw [valueFrom, valueFrom, List.foldl_cons]

theorem le_valueFrom (parsed : Nat) (digits : Bytes) : parsed ≤ valueFrom parsed digits := by
  induction digits generalizing parsed with
  | nil => exact Nat.le_refl _
  | cons ch digits ih =>
    rw [valueFrom_cons]
    have rest := ih (10 * parsed + (ch.toNat - 48))
    omega

theorem digitLoop_result (parsed : Nat) (text : Bytes) :
    (digitLoop parsed text).result = if text.all isDigit = true then some (valueFrom parsed text : Int) else none := by
  induction text generalizing parsed with
  | nil => rfl
  | cons ch text ih =>
    unfold digitLoop
    by_cases digit : isDigit ch = false
    · simp [digit]
    · have next : (parsed : Int) * 10 + (ch.toNat - 48 : Nat) = ((10 * parsed + (ch.toNat - 48) : Nat) : Int) := by omega
      rw [if_neg digit, result_bind, result_computed, Option.bind_some, result_bind, result_computed, Option.bind_some, next, ih]
      simp [digit, valueFrom_cons]

/-- The numbers on the way grow, so that the last of them tells about all. -/
theorem digitLoop_within (parsed : Nat) {low high : Int} (negative : low ≤ 0) (held : (parsed : Int) ≤ high) (text : Bytes) :
    (digitLoop parsed text).Within low high ↔ (valueFrom parsed (text.takeWhile isDigit) : Int) ≤ high := by
  induction text generalizing parsed with
  | nil => exact iff_of_true (within_pure _) held
  | cons ch text ih =>
    unfold digitLoop
    by_cases digit : isDigit ch = false
    · rw [if_pos digit, List.takeWhile_cons_of_neg (by simp [digit])]
      exact iff_of_true within_refused held
    · have next : (parsed : Int) * 10 + (ch.toNat - 48 : Nat) = ((10 * parsed + (ch.toNat - 48) : Nat) : Int) := by omega
      have grown := le_valueFrom (10 * parsed + (ch.toNat - 48)) (text.takeWhile isDigit)
      rw [if_neg digit, List.takeWhile_cons_of_pos (by simpa using digit), valueFrom_cons, within_computed_bind,
        within_computed_bind, next]
      by_cases held' : ((10 * parsed + (ch.toNat - 48) : Nat) : Int) ≤ high
      · rw [ih _ held']
        constructor
        · exact fun ⟨_, _, rest⟩ => rest
        · exact fun rest => ⟨⟨by omega, by omega⟩, ⟨by omega, held'⟩, rest⟩
      · constructor
        · exact fun ⟨_, next, _⟩ => absurd next.2 held'
        · intro rest
          omega

theorem valueFrom_eq (parsed : Nat) (digits : Bytes) :
    valueFrom parsed digits = parsed * 10 ^ digits.length + digitsValue digits := by
  induction digits generalizing parsed with
  | nil => simp [valueFrom, digitsValue]
  | cons ch digits ih =>
    have first : digitsValue (ch :: digits) = valueFrom (10 * 0 + (ch.toNat - 48)) digits := valueFrom_cons 0 ch digits
    rw [valueFrom_cons, first, ih, ih (10 * 0 + (ch.toNat - 48)), List.length_cons]
    ring

theorem digitsValue_append (front back : Bytes) :
    digitsValue (front ++ back) = digitsValue front * 10 ^ back.length + digitsValue back := by
  rw [← valueFrom_eq, valueFrom, digitsValue, List.foldl_append]
  rfl

theorem digit_lt {ch : UInt8} (digit : isDigit ch = true) : ch.toNat - 48 < 10 := by
  simp only [isDigit, Bool.and_eq_true, decide_eq_true_eq, UInt8.le_iff_toNat_le] at digit
  have above : ch.toNat ≤ 57 := digit.2
  omega

theorem digitsValue_lt {digits : Bytes} (all : digits.all isDigit = true) : digitsValue digits < 10 ^ digits.length := by
  induction digits with
  | nil => exact Nat.one_pos
  | cons ch digits ih =>
    rw [List.all_cons, Bool.and_eq_true] at all
    have first : digitsValue [ch] = ch.toNat - 48 := Nat.zero_add _
    have small := digit_lt all.1
    have rest := ih all.2
    rw [← List.singleton_append, digitsValue_append, first, List.length_append, List.length_singleton, Nat.pow_add, Nat.pow_one]
    have most : (ch.toNat - 48) * 10 ^ digits.length ≤ 9 * 10 ^ digits.length := Nat.mul_le_mul_right _ (by omega)
    omega

/-! ## Integers -/

/-- The integer that digits denote, behind a sign or not. -/
inductive Denotes : Bytes → Int → Prop
  | positive {digits : Bytes} (numeral : Numeral digits) : Denotes digits (digitsValue digits)
  | negative {digits : Bytes} (numeral : Numeral digits) : Denotes (code '-' :: digits) (-digitsValue digits)

theorem digitLoop_zero (text : Bytes) :
    (digitLoop 0 text).result = if text.all isDigit = true then some (digitsValue text : Int) else none :=
  digitLoop_result 0 text

theorem digitLoop_zero_within {low high : Int} (negative : low ≤ 0) (positive : 0 ≤ high) (text : Bytes) :
    (digitLoop 0 text).Within low high ↔ (leadingValue text : Int) ≤ high :=
  digitLoop_within 0 negative positive text

theorem leadingValue_all {text : Bytes} (all : text.all isDigit = true) : leadingValue text = digitsValue text := by
  rw [leadingValue, List.takeWhile_eq_self_iff.mpr (List.all_eq_true.mp all)]

theorem not_all_of_head {text : Bytes} (other : text.head?.all isDigit = false) : text.all isDigit = false ∧ leadingValue text = 0 := by
  cases text with
  | nil => cases other
  | cons ch text =>
    have first : isDigit ch = false := other
    rw [leadingValue, List.takeWhile_cons_of_neg (by simp [first]), List.all_cons, first]
    exact ⟨rfl, rfl⟩

/-- What is read is what is computed without bounds. -/
theorem jsonInteger_steps (value : Bytes) : jsonInteger value = .ok (integerSteps value).result := by
  have read : jsonInteger value = .ok (if unsigned (trimmed value) = [] ∨ (unsigned (trimmed value)).all isDigit = false then none
      else some (if (trimmed value).head? = some (code '-') then -digitsValue (unsigned (trimmed value))
        else digitsValue (unsigned (trimmed value)))) := by
    unfold jsonInteger
    rw [trimJson_eq]
    change (if unsigned (trimmed value) = [] ∨ (unsigned (trimmed value)).all isDigit = false then pure none else pure (some _)) = _
    exact (apply_ite Except.ok _ _ _).symm
  rw [read]
  unfold integerSteps
  dsimp only
  generalize unsigned (trimmed value) = digits
  by_cases empty : digits = []
  · rw [if_pos (Or.inl empty), if_pos (Or.inr empty), result_refused]
  · by_cases other : digits.head?.all isDigit = false
    · rw [if_pos (Or.inr (not_all_of_head other).1), if_pos (Or.inl other), result_refused]
    · have begins : ¬ (digits.head?.all isDigit = false ∨ digits = []) := not_or.mpr ⟨other, empty⟩
      rw [if_neg begins, result_bind, digitLoop_zero]
      by_cases all : digits.all isDigit = true
      · have accepted : ¬ (digits = [] ∨ digits.all isDigit = false) := not_or.mpr ⟨empty, by simp [all]⟩
        rw [if_neg accepted, if_pos all]
        split <;> rfl
      · rw [if_pos (Or.inr (Bool.eq_false_of_not_eq_true all)), if_neg all, Option.bind_none]

theorem integerSteps_within (bound : Nat) (positive : 0 < bound) (value : Bytes) :
    (integerSteps value).Within (-bound) (bound - 1) ↔ leadingValue (unsigned (trimmed value)) < bound := by
  unfold integerSteps
  dsimp only
  generalize unsigned (trimmed value) = digits
  by_cases begins : digits.head?.all isDigit = false ∨ digits = []
  · have none : leadingValue digits = 0 := begins.elim (fun other => (not_all_of_head other).2) fun empty => by rw [empty]; rfl
    rw [if_pos begins, none]
    exact iff_of_true within_refused positive
  · rw [if_neg begins, within_bind, digitLoop_zero_within (by omega) (by omega)]
    constructor
    · intro ⟨read, _⟩
      omega
    · refine fun small => ⟨by omega, fun parsed result => ?_⟩
      rw [digitLoop_zero] at result
      split at result
      · rename_i all
        have leading := leadingValue_all all
        cases result
        split
        · rw [within_computed]
          omega
        · exact within_pure _
      · cases result

/-- The integer is the one that the text denotes. -/
theorem integerSteps_denotes {value : Bytes} {number : Int} (result : (integerSteps value).result = some number) :
    Denotes (trimmed value) number ∧ |number| = leadingValue (unsigned (trimmed value)) := by
  unfold integerSteps at result
  dsimp only at result
  split at result
  · cases result
  · rename_i begins
    rw [result_bind, digitLoop_zero] at result
    split at result
    · rename_i all
      have numeral : Numeral (unsigned (trimmed value)) := ⟨(not_or.mp begins).2, all⟩
      rw [leadingValue_all numeral.2]
      rw [Option.bind_some] at result
      split at result
      · rename_i sign
        cases result
        obtain ⟨digits, written⟩ := List.head?_eq_some_iff.mp sign
        have behind : unsigned (trimmed value) = digits := by rw [unsigned, if_pos sign, written, List.tail_cons]
        rw [behind] at numeral ⊢
        rw [written, abs_neg, Nat.abs_cast]
        exact ⟨.negative numeral, rfl⟩
      · rename_i sign
        cases result
        have whole : unsigned (trimmed value) = trimmed value := if_neg sign
        rw [whole] at numeral ⊢
        exact ⟨.positive numeral, Nat.abs_cast _⟩
    · cases result

theorem head_numeral {digits : Bytes} (numeral : Numeral digits) : digits.head?.all isDigit = true := by
  obtain ⟨ch, digits, rfl⟩ := List.exists_cons_of_ne_nil numeral.1
  exact (Bool.and_eq_true_iff.mp numeral.2).1

/-- What a text denotes is read. -/
theorem jsonInteger_denotes {value : Bytes} {number : Int} (denotes : Denotes (trimmed value) number) :
    jsonInteger value = .ok (some number) := by
  rw [jsonInteger_steps]
  refine congrArg Except.ok ?_
  unfold integerSteps
  dsimp only
  generalize trimmed value = text at denotes
  have begins : ∀ {digits : Bytes}, Numeral digits → ¬ (digits.head?.all isDigit = false ∨ digits = []) := fun numeral =>
    not_or.mpr ⟨by rw [head_numeral numeral]; decide, numeral.1⟩
  cases denotes with
  | positive numeral =>
    have sign : text.head? ≠ some (code '-') := by
      intro sign
      have digit := head_numeral numeral
      rw [sign] at digit
      cases digit
    have whole : unsigned text = text := if_neg sign
    rw [whole, if_neg (begins numeral), result_bind, digitLoop_zero, if_pos numeral.2, Option.bind_some, if_neg sign, result_pure]
  | @negative digits numeral =>
    have whole : unsigned (code '-' :: digits) = digits := rfl
    rw [whole, if_neg (begins numeral), result_bind, digitLoop_zero, if_pos numeral.2, Option.bind_some, List.head?_cons, if_pos rfl,
      result_computed]

/-! ## Timecodes -/

/-- The seconds of a component that may have a fraction. -/
def wholePart (component : Bytes) : Bytes := component.takeWhile (· ≠ code '.')

def fractionDigits (component : Bytes) : Bytes := (component.dropWhile (· ≠ code '.')).tail.takeWhile isDigit

/-- The fraction in thousandths, cut to three digits. -/
def thousandths (digits : Bytes) : Nat := digitsValue digits * 1000 / 10 ^ digits.length

/-- What components add to a sum, each in its unit. Nothing where one is no number. -/
def added (sum : Nat) : List Nat → List Bytes → Option Nat
  | unit :: units, component :: components =>
    if Numeral component then added (sum + digitsValue component * unit) units components else none
  | _, _ => some sum

/-- Every sum of components fits, and so do the leading digits of the first one that is no number. -/
def Fits (bound sum : Nat) : List Nat → List Bytes → Prop
  | unit :: units, component :: components =>
    if Numeral component then
      sum + digitsValue component * unit < bound ∧ Fits bound (sum + digitsValue component * unit) units components
    else leadingValue component < bound
  | _, _ => True

instance decidableFits (bound : Nat) : ∀ sum units components, Decidable (Fits bound sum units components)
  | sum, unit :: units, component :: components =>
    have := decidableFits bound (sum + digitsValue component * unit) units components
    inferInstanceAs (Decidable (if Numeral component then _ ∧ _ else _))
  | _, [], _ => isTrue trivial
  | _, _ :: _, [] => isTrue trivial

/-- The milliseconds in a second, a minute and an hour. -/
def units : List Nat := [1000, 60 * 1000, 60 * 60 * 1000]

/-- The components that are whole numbers, from the seconds on. -/
def wholeComponents (parts : List Bytes) : List Bytes := wholePart (parts.getLast?.getD []) :: parts.dropLast.reverse

theorem wholeSteps_result (value : Bytes) :
    (wholeSteps value).result = if Numeral value then some (digitsValue value : Int) else none := by
  unfold wholeSteps
  by_cases empty : value = []
  · rw [if_pos empty, if_neg fun numeral => numeral.1 empty, result_refused]
  · rw [if_neg empty, digitLoop_zero]
    simp only [Numeral, ne_eq, empty, not_false_eq_true, true_and]

theorem wholeSteps_within {low high : Int} (negative : low ≤ 0) (positive : 0 ≤ high) (value : Bytes) :
    (wholeSteps value).Within low high ↔ (leadingValue value : Int) ≤ high := by
  unfold wholeSteps
  split
  · rename_i empty
    rw [empty]
    exact iff_of_true within_refused positive
  · exact digitLoop_zero_within negative positive value

theorem scaledSteps_result (value : Nat) (factors : List Nat) :
    (scaledSteps value factors).result = some ((value * factors.prod : Nat) : Int) := by
  induction factors generalizing value with
  | nil => rw [List.prod_nil, Nat.mul_one]; rfl
  | cons factor factors ih =>
    have next := ih (value * factor)
    rw [scaledSteps, result_bind, result_computed, Option.bind_some, ← Nat.cast_mul, next, List.prod_cons, Nat.mul_assoc]

theorem scaledSteps_within {value : Nat} {factors : List Nat} {low high : Int} (negative : low ≤ 0) (held : (value : Int) ≤ high)
    (positive : ∀ factor ∈ factors, 0 < factor) :
    (scaledSteps value factors).Within low high ↔ ((value * factors.prod : Nat) : Int) ≤ high := by
  induction factors generalizing value with
  | nil => simpa [scaledSteps] using held
  | cons factor factors ih =>
    have rest : ∀ other ∈ factors, 0 < other := fun other among => positive other (List.mem_cons_of_mem factor among)
    have grown : value * factor ≤ value * factor * factors.prod :=
      Nat.le_mul_of_pos_right _ (List.prod_pos_iff_forall_pos_nat.mpr rest)
    rw [scaledSteps, within_computed_bind, ← Nat.cast_mul, List.prod_cons, ← Nat.mul_assoc]
    by_cases next : ((value * factor : Nat) : Int) ≤ high
    · rw [ih next rest]
      exact and_iff_right ⟨by omega, next⟩
    · constructor
      · exact fun ⟨⟨_, held⟩, _⟩ => absurd held next
      · intro whole
        omega

theorem componentSteps_result (milliseconds : Nat) (factors : List Nat) (value : Bytes) :
    (componentSteps milliseconds factors value).result =
      if Numeral value then some ((milliseconds + digitsValue value * factors.prod : Nat) : Int) else none := by
  unfold componentSteps
  rw [result_bind, wholeSteps_result]
  split
  · rw [Option.bind_some, result_bind, scaledSteps_result, Option.bind_some, result_computed, Nat.cast_add]
  · rfl

theorem componentSteps_within (milliseconds : Nat) {factors : List Nat} {low high : Int} (negative : low ≤ 0) (positive : 0 ≤ high)
    (factors_pos : ∀ factor ∈ factors, 0 < factor) (value : Bytes) :
    (componentSteps milliseconds factors value).Within low high ↔
      if Numeral value then ((milliseconds + digitsValue value * factors.prod : Nat) : Int) ≤ high
      else (leadingValue value : Int) ≤ high := by
  unfold componentSteps
  by_cases numeral : Numeral value
  · have result := wholeSteps_result value
    rw [if_pos numeral] at result
    have grown : digitsValue value ≤ digitsValue value * factors.prod :=
      Nat.le_mul_of_pos_right _ (List.prod_pos_iff_forall_pos_nat.mpr factors_pos)
    rw [if_pos numeral, within_bind_some result, within_bind_some (scaledSteps_result _ _), within_computed, ← Nat.cast_add,
      wholeSteps_within negative positive, leadingValue_all numeral.2]
    constructor
    · exact fun ⟨_, _, _, whole⟩ => whole
    · intro whole
      have read : (digitsValue value : Int) ≤ high := by omega
      exact ⟨read, (scaledSteps_within negative read factors_pos).mpr (by omega), by omega, whole⟩
  · have result := wholeSteps_result value
    rw [if_neg numeral] at result
    rw [if_neg numeral, within_bind_none result, wholeSteps_within negative positive]

/-- Three digits are read, and the missing ones are zeros. -/
theorem thousandths_eq {digits : Bytes} (all : digits.all isDigit = true) :
    thousandths digits = digitsValue (digits.take 3) * 10 ^ (3 - (digits.take 3).length) := by
  unfold thousandths
  rw [List.length_take]
  by_cases short : digits.length ≤ 3
  · have scale : 1000 = 10 ^ (3 - digits.length) * 10 ^ digits.length := by
      rw [← Nat.pow_add, Nat.sub_add_cancel short]
    rw [List.take_of_length_le short, Nat.min_eq_right short, scale, ← Nat.mul_assoc,
      Nat.mul_div_cancel _ (Nat.pow_pos (by decide))]
  · obtain ⟨further, length⟩ := Nat.exists_eq_add_of_le (Nat.le_of_not_le short)
    have rest : (digits.drop 3).all isDigit = true :=
      List.all_eq_true.mpr fun ch among => List.all_eq_true.mp all ch (List.mem_of_mem_drop among)
    have small := digitsValue_lt rest
    have whole := digitsValue_append (digits.take 3) (digits.drop 3)
    rw [List.length_drop, length, Nat.add_sub_cancel_left] at small whole
    rw [List.take_append_drop] at whole
    have scale : 1000 = 10 ^ 3 := rfl
    rw [whole, length, scale, Nat.min_eq_left (Nat.le_add_right 3 further), Nat.sub_self, Nat.pow_zero, Nat.mul_one, Nat.pow_add,
      Nat.mul_comm (10 ^ 3), Nat.mul_div_mul_right _ _ (by decide : 0 < 10 ^ 3), Nat.mul_comm, Nat.mul_add_div (Nat.pow_pos (by decide)),
      Nat.div_eq_of_lt small, Nat.add_zero]

theorem thousandths_lt {digits : Bytes} (all : digits.all isDigit = true) : thousandths digits < 1000 := by
  have small := digitsValue_lt all
  exact Nat.div_lt_of_lt_mul ((Nat.mul_lt_mul_right (by decide)).mpr small)

theorem all_takeWhile (text : Bytes) : (text.takeWhile isDigit).all isDigit = true :=
  List.all_eq_true.mpr fun _ among => List.mem_takeWhile_imp among

theorem all_take {digits : Bytes} (all : digits.all isDigit = true) (count : Nat) : (digits.take count).all isDigit = true :=
  List.all_eq_true.mpr fun ch among => List.all_eq_true.mp all ch (List.mem_of_mem_take among)

/-- Without a fraction there are no thousandths. -/
theorem fractionDigits_absent {component : Bytes} (absent : code '.' ∉ component) : fractionDigits component = [] := by
  have none : component.dropWhile (· ≠ code '.') = [] :=
    List.dropWhile_eq_nil_iff.mpr fun ch among => decide_eq_true (ne_of_mem_of_not_mem among absent)
  rw [fractionDigits, none]
  rfl

theorem fractionSteps_result (secondsText : Bytes) :
    (fractionSteps secondsText).result = some (thousandths (fractionDigits secondsText) : Int) := by
  have all := all_takeWhile (secondsText.dropWhile (· ≠ code '.')).tail
  unfold fractionSteps
  split
  · rw [result_bind, digitLoop_zero, if_pos (all_take all 3), Option.bind_some, scaledSteps_result, List.prod_replicate,
      fractionDigits, thousandths_eq all]
  · rename_i absent
    rw [fractionDigits_absent absent]
    rfl

theorem fractionSteps_within {low high : Int} (negative : low ≤ 0) (large : 999 ≤ high) (secondsText : Bytes) :
    (fractionSteps secondsText).Within low high := by
  unfold fractionSteps
  split
  · dsimp only
    have all := all_takeWhile (secondsText.dropWhile (· ≠ code '.')).tail
    generalize (secondsText.dropWhile (· ≠ code '.')).tail.takeWhile isDigit = digits at all
    have first := all_take all 3
    have small := thousandths_lt all
    rw [thousandths_eq all] at small
    have read := digitLoop_zero (digits.take 3)
    rw [if_pos first] at read
    have value : digitsValue (digits.take 3) ≤ digitsValue (digits.take 3) * 10 ^ (3 - (digits.take 3).length) :=
      Nat.le_mul_of_pos_right _ (Nat.pow_pos (by decide))
    rw [within_bind_some read, digitLoop_zero_within negative (by omega), leadingValue_all first]
    refine ⟨by omega, (scaledSteps_within negative (by omega) fun factor among => ?_).mpr ?_⟩
    · rw [List.eq_of_mem_replicate among]
      decide
    · rw [List.prod_replicate]
      omega
  · exact within_pure _

/-- The milliseconds that the components of a text say. -/
def readTimecode (text : Bytes) : Option Nat :=
  let parts := text.splitOn (code ':')
  if text = [] ∨ 3 < parts.length then none
  else added (thousandths (fractionDigits (parts.getLast?.getD []))) units (wholeComponents parts)

/-- The milliseconds stay below the bound at every step. -/
def FitsTimecode (bound : Nat) (text : Bytes) : Prop :=
  let parts := text.splitOn (code ':')
  text = [] ∨ 3 < parts.length ∨
    Fits bound (thousandths (fractionDigits (parts.getLast?.getD []))) units (wholeComponents parts)

/-- The components one after the other, each with the factors of its unit. -/
def componentsSteps (milliseconds : Int) : List (List Nat) → List Bytes → Recorded Int
  | factors :: others, component :: components => do
    let milliseconds ← componentSteps milliseconds factors component
    componentsSteps milliseconds others components
  | _, _ => pure milliseconds

theorem timecodeSteps_eq (text : Bytes) :
    timecodeSteps text =
      if trimmed text = [] ∨ 3 < ((trimmed text).splitOn (code ':')).length then refused
      else (do
        let secondsText := ((trimmed text).splitOn (code ':')).getLast?.getD []
        let fractionalMs ← fractionSteps secondsText
        let seconds ← componentSteps fractionalMs [1000] (wholePart secondsText)
        let milliseconds ← computed (0 + seconds)
        componentsSteps milliseconds [[60, 1000], [60, 60, 1000]] ((trimmed text).splitOn (code ':')).dropLast.reverse) := by
  unfold timecodeSteps
  dsimp only
  have some_part := List.splitOn_ne_nil (code ':') (trimmed text)
  generalize (trimmed text).splitOn (code ':') = parts at some_part
  by_cases refuses : trimmed text = [] ∨ 3 < parts.length
  · rw [if_pos refuses, if_pos refuses]
  · rw [if_neg refuses, if_neg refuses]
    rcases parts with _ | ⟨first, _ | ⟨second, _ | ⟨third, _ | ⟨fourth, parts⟩⟩⟩⟩
    · exact absurd rfl some_part
    · rfl
    · rfl
    · have reversed : [first, second, third].dropLast.reverse = [second, first] := rfl
      simp only [reversed, componentsSteps, bind_pure]
      rfl
    · exact absurd (Or.inr (by simp)) refuses

theorem componentsSteps_result (sum : Nat) (units : List (List Nat)) (components : List Bytes) :
    (componentsSteps sum units components).result =
      (added sum (units.map List.prod) components).map (Nat.cast : Nat → Int) := by
  induction units generalizing sum components with
  | nil => rfl
  | cons factors units ih =>
    cases components with
    | nil => rfl
    | cons component components =>
      rw [componentsSteps, result_bind, componentSteps_result, List.map_cons, added]
      split
      · exact ih _ components
      · rfl

/-- A component stays in its bounds with what comes behind it when its sum does, and what comes behind
it from that sum. Behind one that is no number nothing comes. -/
theorem componentSteps_bind_within {sum bound : Nat} {low : Int} (negative : low ≤ 0) (some : 0 < bound) {factors : List Nat}
    (positive : ∀ factor ∈ factors, 0 < factor) (component : Bytes) {later : Int → Recorded Int} (rest : Nat → Prop)
    (later_within : ∀ sum : Nat, sum < bound → ((later sum).Within low (bound - 1) ↔ rest sum)) :
    (componentSteps sum factors component >>= later).Within low (bound - 1) ↔
      if Numeral component then
        sum + digitsValue component * factors.prod < bound ∧ rest (sum + digitsValue component * factors.prod)
      else leadingValue component < bound := by
  have result := componentSteps_result sum factors component
  have within := componentSteps_within sum negative (by omega : (0 : Int) ≤ bound - 1) positive component
  by_cases numeral : Numeral component
  · rw [if_pos numeral] at result within ⊢
    rw [within_bind_some result, within]
    constructor
    · intro ⟨next, others⟩
      exact ⟨by omega, (later_within _ (by omega)).mp others⟩
    · intro ⟨next, others⟩
      exact ⟨by omega, (later_within _ next).mpr others⟩
  · rw [if_neg numeral] at result within ⊢
    rw [within_bind_none result, within]
    omega

theorem componentsSteps_within {sum bound : Nat} {low : Int} (negative : low ≤ 0) (held : sum < bound) {units : List (List Nat)}
    (positive : ∀ factors ∈ units, ∀ factor ∈ factors, 0 < factor) (components : List Bytes) :
    (componentsSteps sum units components).Within low (bound - 1) ↔ Fits bound sum (units.map List.prod) components := by
  induction units generalizing sum components with
  | nil => exact iff_of_true (within_pure _) trivial
  | cons factors units ih =>
    cases components with
    | nil => exact iff_of_true (within_pure _) trivial
    | cons component components =>
      have others : ∀ other ∈ units, ∀ factor ∈ other, 0 < factor := fun other among =>
        positive other (List.mem_cons_of_mem factors among)
      rw [componentsSteps, List.map_cons, Fits]
      exact componentSteps_bind_within negative (by omega) (positive factors List.mem_cons_self) component
        (Fits bound · (units.map List.prod) components) fun _ held => ih held others components

theorem timecodeSteps_result (text : Bytes) :
    (timecodeSteps text).result = (readTimecode (trimmed text)).map (Nat.cast : Nat → Int) := by
  unfold readTimecode
  rw [timecodeSteps_eq]
  dsimp only
  generalize (trimmed text).splitOn (code ':') = parts
  split
  · rfl
  · rw [result_bind, fractionSteps_result, Option.bind_some, result_bind, componentSteps_result, wholeComponents, units, added,
      List.prod_singleton]
    split
    · rw [Option.bind_some, Int.zero_add, result_bind, result_computed, Option.bind_some, componentsSteps_result]
      rfl
    · rfl

theorem timecodeSteps_within (bound : Nat) (large : 1000 ≤ bound) (text : Bytes) :
    (timecodeSteps text).Within (-bound) (bound - 1) ↔ FitsTimecode bound (trimmed text) := by
  unfold FitsTimecode
  rw [timecodeSteps_eq]
  dsimp only
  generalize (trimmed text).splitOn (code ':') = parts
  rw [← or_assoc]
  by_cases refuses : trimmed text = [] ∨ 3 < parts.length
  · rw [if_pos refuses]
    exact iff_of_true within_refused (Or.inl refuses)
  · rw [if_neg refuses, or_iff_right refuses, wholeComponents, units, Fits]
    generalize parts.getLast?.getD [] = secondsText
    have low : -(bound : Int) ≤ 0 := by omega
    have fraction := fractionSteps_within low (by omega : (999 : Int) ≤ bound - 1) secondsText
    rw [within_bind_some (fractionSteps_result _), and_iff_right fraction]
    refine componentSteps_bind_within low (by omega) (by simp) (wholePart secondsText)
      (Fits bound · [60 * 1000, 60 * 60 * 1000] parts.dropLast.reverse) fun sum held => ?_
    rw [within_computed_bind, Int.zero_add, and_iff_right ⟨by omega, by omega⟩]
    exact componentsSteps_within low held
      (by simp : ∀ factors ∈ [[60, 1000], [60, 60, 1000]], ∀ factor ∈ factors, 0 < factor) parts.dropLast.reverse

/-! ## What the server reads -/

theorem partsFrom_eq (front text : Bytes) : partsFrom (front ++ text) front.length = .ok (text.splitOn (code ':')) := by
  induction h : text.length using Nat.strong_induction_on generalizing front text with
  | _ length ih =>
    have inside : front.length ≤ (front ++ text).length := by simp
    unfold partsFrom
    rw [dif_pos inside, substrFrom_ok inside, List.drop_left]
    by_cases colon : code ':' ∈ text
    · obtain ⟨part, rest, rfl, absent⟩ := List.eq_append_cons_of_mem colon
      have found : find (front ++ (part ++ code ':' :: rest)) [code ':'] front.length = some (front.length + part.length) :=
        find_separator absent
      have next : front ++ (part ++ code ':' :: rest) = (front ++ part ++ [code ':']) ++ rest := by simp
      have position : (front ++ part ++ [code ':']).length = front.length + part.length + 1 := by simp [Nat.add_assoc]
      have others := ih rest.length (by rw [← h, List.length_append, List.length_cons]; omega) (front ++ part ++ [code ':']) rest rfl
      rw [← next, position] at others
      split
      · rename_i absent
        rw [found] at absent
        cases absent
      · rename_i colon first
        rw [found] at first
        cases first
        rw [substr_ok inside, others, List.drop_left, Nat.add_sub_cancel_left, List.take_left,
          List.splitOn_append_cons_self_of_not_mem absent]
        rfl
    · split
      · rw [List.splitOn_eq_singleton colon]
        rfl
      · rename_i first
        rw [find_absent colon] at first
        cases first

theorem parseSeconds_eq (component : Bytes) :
    parseSeconds component = .ok (wholePart component, Int64.ofNat (thousandths (fractionDigits component))) := by
  unfold parseSeconds
  by_cases dot : code '.' ∈ component
  · obtain ⟨whole, rest, rfl, absent⟩ := List.eq_append_cons_of_mem dot
    have other : ∀ ch ∈ whole, decide (ch ≠ code '.') = true := fun ch among => decide_eq_true (ne_of_mem_of_not_mem among absent)
    have found : find ([] ++ (whole ++ code '.' :: rest)) [code '.'] 0 = some (0 + whole.length) := find_separator absent
    rw [List.nil_append, Nat.zero_add] at found
    have behind : (whole ++ code '.' :: rest).drop (whole.length + 1) = rest := by
      rw [← List.drop_drop, List.drop_left]
      rfl
    rw [found, wholePart, fractionDigits, List.takeWhile_append_of_pos other, List.dropWhile_append_of_pos other,
      List.takeWhile_cons_of_neg (by simp), List.append_nil, List.dropWhile_cons_of_neg (by simp), List.tail_cons,
      thousandths_eq (all_takeWhile rest)]
    dsimp only
    rw [substrFrom_ok (by simp), substr_ok (Nat.zero_le _), behind, List.drop_zero, List.take_left]
    rfl
  · have never : find ([] ++ component) [code '.'] 0 = none := find_absent dot
    rw [List.nil_append] at never
    have whole : wholePart component = component :=
      List.takeWhile_eq_self_iff.mpr fun ch among => decide_eq_true (ne_of_mem_of_not_mem among dot)
    rw [never, whole, fractionDigits_absent dot]
    rfl

theorem parseWhole_eq (value : Bytes) : parseWhole value = if Numeral value then some (Int64.ofNat (digitsValue value)) else none := by
  unfold parseWhole
  by_cases numeral : Numeral value
  · have accepted : ¬ (value = [] ∨ value.all isDigit = false) := not_or.mpr ⟨numeral.1, by simp [numeral.2]⟩
    rw [if_neg accepted, if_pos numeral]
  · have refused : value = [] ∨ value.all isDigit = false :=
      or_iff_not_imp_left.mpr fun some => Bool.eq_false_of_not_eq_true fun all => numeral ⟨some, all⟩
    rw [if_pos refused, if_neg numeral]

theorem parseTimecode_eq (text : Bytes) :
    parseTimecode text = .ok ((readTimecode (trimmed text)).map fun milliseconds => max 0 (Int64.ofNat milliseconds)) := by
  unfold parseTimecode readTimecode
  rw [trimJson_eq]
  dsimp only [bind, Except.bind]
  generalize trimmed text = text
  by_cases empty : text = []
  · rw [if_pos empty, if_pos (Or.inl empty)]
    rfl
  · have parts := partsFrom_eq [] text
    rw [List.nil_append, List.length_nil] at parts
    rw [if_neg empty, parts]
    have some_part := List.splitOn_ne_nil (code ':') text
    generalize text.splitOn (code ':') = parts at some_part
    dsimp only
    by_cases many : 3 < parts.length
    · rw [if_pos (Or.inr many), if_pos (Or.inr many)]
      rfl
    · rw [if_neg (not_or.mpr ⟨some_part, many⟩), if_neg (not_or.mpr ⟨empty, many⟩), parseSeconds_eq]
      dsimp only
      refine congrArg Except.ok ?_
      rcases parts with _ | ⟨first, _ | ⟨second, _ | ⟨third, _ | ⟨fourth, parts⟩⟩⟩⟩
      · exact absurd rfl some_part
      · by_cases seconds : Numeral (wholePart first)
        · simp [wholeComponents, added, units, parseWhole_eq, seconds, Int64.add_comm]
        · simp [wholeComponents, added, units, parseWhole_eq, seconds]
      · by_cases seconds : Numeral (wholePart second) <;> by_cases minutes : Numeral first <;>
          simp [wholeComponents, added, units, parseWhole_eq, seconds, minutes]
        congr 1
        grind
      · by_cases seconds : Numeral (wholePart third) <;> by_cases minutes : Numeral second <;> by_cases hours : Numeral first <;>
          simp [wholeComponents, added, units, parseWhole_eq, seconds, minutes, hours]
        congr 1
        grind
      · exact absurd (by simp) many

/-- Milliseconds that fit are the ones that are read. -/
theorem added_lt {bound sum total : Nat} {units : List Nat} {components : List Bytes} (held : sum < bound)
    (fits : Fits bound sum units components) (read : added sum units components = some total) : total < bound := by
  induction units generalizing sum components with
  | nil =>
    cases read
    exact held
  | cons unit units ih =>
    cases components with
    | nil =>
      cases read
      exact held
    | cons component components =>
      rw [Fits] at fits
      rw [added] at read
      by_cases numeral : Numeral component
      · rw [if_pos numeral] at fits read
        exact ih fits.1 fits.2 read
      · rw [if_neg numeral] at read
        cases read

theorem readTimecode_lt {bound milliseconds : Nat} {text : Bytes} (large : 1000 ≤ bound) (fits : FitsTimecode bound text)
    (read : readTimecode text = some milliseconds) : milliseconds < bound := by
  unfold FitsTimecode at fits
  unfold readTimecode at read
  dsimp only at fits read
  rw [← or_assoc] at fits
  split at read
  · cases read
  · rename_i accepted
    have small := fun component => thousandths_lt (all_takeWhile (List.dropWhile (· ≠ code '.') component).tail)
    exact added_lt (Nat.lt_of_lt_of_le (small _) large) (fits.resolve_left accepted) read

/-- What a fraction of a second is in thousandths, cut, or no fraction. -/
inductive Fraction : Bytes → Nat → Prop
  | absent : Fraction [] 0
  | present {digits rest : Bytes} (all : digits.all isDigit = true) (stops : ∀ ch ∈ rest.head?, isDigit ch = false)
      (colon : code ':' ∉ rest) : Fraction (code '.' :: digits ++ rest) (digitsValue digits * 1000 / 10 ^ digits.length)

/-- The milliseconds that a text of up to three components denotes. -/
inductive DenotesTime : Bytes → Int → Prop
  | seconds {seconds fraction : Bytes} {milliseconds : Nat} (whole : Numeral seconds) (cut : Fraction fraction milliseconds) :
      DenotesTime (seconds ++ fraction) (digitsValue seconds * 1000 + milliseconds)
  | minutes {minutes seconds fraction : Bytes} {milliseconds : Nat} (sixties : Numeral minutes) (whole : Numeral seconds)
      (cut : Fraction fraction milliseconds) :
      DenotesTime (minutes ++ code ':' :: (seconds ++ fraction))
        ((digitsValue minutes * 60 + digitsValue seconds) * 1000 + milliseconds)
  | hours {hours minutes seconds fraction : Bytes} {milliseconds : Nat} (whole_hours : Numeral hours) (sixties : Numeral minutes)
      (whole : Numeral seconds) (cut : Fraction fraction milliseconds) :
      DenotesTime (hours ++ code ':' :: (minutes ++ code ':' :: (seconds ++ fraction)))
        (((digitsValue hours * 60 + digitsValue minutes) * 60 + digitsValue seconds) * 1000 + milliseconds)

theorem separator_not_mem {ch : UInt8} {text part : Bytes} (among : part ∈ text.splitOn ch) : ch ∉ part := by
  induction h : text.length using Nat.strong_induction_on generalizing text with
  | _ length ih =>
    by_cases separated : ch ∈ text
    · obtain ⟨first, rest, rfl, absent⟩ := List.eq_append_cons_of_mem separated
      rw [List.splitOn_append_cons_self_of_not_mem absent] at among
      rcases List.mem_cons.mp among with rfl | later
      · exact absent
      · exact ih rest.length (by rw [← h, List.length_append, List.length_cons]; omega) later rfl
    · rw [List.splitOn_eq_singleton separated] at among
      rwa [List.mem_singleton.mp among]

theorem fraction_of_component {component : Bytes} (one : code ':' ∉ component) :
    ∃ fraction, component = wholePart component ++ fraction ∧ Fraction fraction (thousandths (fractionDigits component)) := by
  by_cases dot : code '.' ∈ component
  · obtain ⟨whole, rest, rfl, absent⟩ := List.eq_append_cons_of_mem dot
    have other : ∀ ch ∈ whole, decide (ch ≠ code '.') = true := fun ch among => decide_eq_true (ne_of_mem_of_not_mem among absent)
    rw [wholePart, fractionDigits, List.takeWhile_append_of_pos other, List.dropWhile_append_of_pos other,
      List.takeWhile_cons_of_neg (by simp), List.append_nil, List.dropWhile_cons_of_neg (by simp), List.tail_cons]
    have stops : ∀ ch ∈ (rest.dropWhile isDigit).head?, isDigit ch = false := by
      intro ch first
      have stop := List.head?_dropWhile_not isDigit rest
      rwa [first] at stop
    have colon : code ':' ∉ rest.dropWhile isDigit := fun among =>
      one (List.mem_append_right _ (List.mem_cons_of_mem _ ((List.dropWhile_sublist isDigit).subset among)))
    refine ⟨code '.' :: rest, rfl, ?_⟩
    have present := Fraction.present (all_takeWhile rest) stops colon
    rwa [List.cons_append, List.takeWhile_append_dropWhile] at present
  · have whole : wholePart component = component :=
      List.takeWhile_eq_self_iff.mpr fun ch among => decide_eq_true (ne_of_mem_of_not_mem among dot)
    rw [whole, fractionDigits_absent dot]
    exact ⟨[], (List.append_nil component).symm, .absent⟩

/-- A component that was added is a number. -/
theorem added_cons {sum unit total : Nat} {units : List Nat} {component : Bytes} {components : List Bytes}
    (read : added sum (unit :: units) (component :: components) = some total) :
    Numeral component ∧ added (sum + digitsValue component * unit) units components = some total := by
  rw [added] at read
  split at read
  · rename_i numeral
    exact ⟨numeral, read⟩
  · cases read

theorem readTimecode_denotes {text : Bytes} {milliseconds : Nat} (read : readTimecode text = some milliseconds) :
    DenotesTime text milliseconds := by
  unfold readTimecode at read
  dsimp only at read
  have whole : [code ':'].intercalate (text.splitOn (code ':')) = text := List.intercalate_splitOn (code ':')
  have some_part := List.splitOn_ne_nil (code ':') text
  have apart : ∀ part ∈ text.splitOn (code ':'), code ':' ∉ part := fun _ among => separator_not_mem among
  generalize text.splitOn (code ':') = parts at read whole some_part apart
  by_cases refuses : text = [] ∨ 3 < parts.length
  · rw [if_pos refuses] at read
    cases read
  · rw [if_neg refuses, wholeComponents, units] at read
    rcases parts with _ | ⟨first, _ | ⟨second, _ | ⟨third, _ | ⟨fourth, parts⟩⟩⟩⟩
    · exact absurd rfl some_part
    · have last : [first].getLast?.getD [] = first := rfl
      rw [last] at read
      obtain ⟨seconds, sum⟩ := added_cons read
      cases sum
      obtain ⟨fraction, split, cut⟩ := fraction_of_component (apart first (by simp))
      have denotes := DenotesTime.seconds seconds cut
      rw [← split] at denotes
      rw [← whole, List.intercalate_singleton, Nat.add_comm]
      exact_mod_cast denotes
    · have last : [first, second].getLast?.getD [] = second := rfl
      rw [last] at read
      obtain ⟨seconds, sum⟩ := added_cons read
      obtain ⟨minutes, sum⟩ := added_cons sum
      cases sum
      obtain ⟨fraction, split, cut⟩ := fraction_of_component (apart second (by simp))
      have denotes := DenotesTime.minutes minutes seconds cut
      have number : thousandths (fractionDigits second) + digitsValue (wholePart second) * 1000 + digitsValue first * (60 * 1000) =
          (digitsValue first * 60 + digitsValue (wholePart second)) * 1000 + thousandths (fractionDigits second) := by ring
      rw [← split] at denotes
      rw [← whole, List.intercalate_cons_cons, List.intercalate_singleton, List.append_assoc, List.singleton_append, number]
      exact_mod_cast denotes
    · have last : [first, second, third].getLast?.getD [] = third := rfl
      rw [last] at read
      obtain ⟨seconds, sum⟩ := added_cons read
      obtain ⟨minutes, sum⟩ := added_cons sum
      obtain ⟨hours, sum⟩ := added_cons sum
      cases sum
      obtain ⟨fraction, split, cut⟩ := fraction_of_component (apart third (by simp))
      have denotes := DenotesTime.hours hours minutes seconds cut
      have number : thousandths (fractionDigits third) + digitsValue (wholePart third) * 1000 + digitsValue second * (60 * 1000) +
          digitsValue first * (60 * 60 * 1000) =
            ((digitsValue first * 60 + digitsValue second) * 60 + digitsValue (wholePart third)) * 1000 +
              thousandths (fractionDigits third) := by ring
      rw [← split] at denotes
      rw [← whole, List.intercalate_cons_cons, List.intercalate_cons_cons, List.intercalate_singleton, List.append_assoc,
        List.append_assoc, List.singleton_append, List.singleton_append, number]
      exact_mod_cast denotes
    · exact absurd (Or.inr (by simp)) refuses

/-! ## The loops are exact where the digits fit -/

/-- The text is read as the integer it denotes, and no number on the way leaves `int`. -/
def ExactInt (text : Bytes) : Prop :=
  (integerSteps text).Within (-2 ^ 31) (2 ^ 31 - 1) ∧
    ∃ read, jsonIntValue text = .ok read ∧ ∀ value ∈ read, Denotes (trimmed text) value.toInt

def ExactInt64 (text : Bytes) : Prop :=
  (integerSteps text).Within (-2 ^ 63) (2 ^ 63 - 1) ∧
    ∃ read, jsonInt64Value text = .ok read ∧ ∀ value ∈ read, Denotes (trimmed text) value.toInt

def ExactTimecode (text : Bytes) : Prop :=
  (timecodeSteps text).Within (-2 ^ 63) (2 ^ 63 - 1) ∧
    ∃ read, parseTimecode text = .ok read ∧ ∀ value ∈ read, DenotesTime (trimmed text) value.toInt

/-- Digits that fit give an integer that fits, with its sign. -/
theorem integerSteps_fits {bound : Nat} {text : Bytes} {number : Int} (fits : leadingValue (unsigned (trimmed text)) < bound)
    (result : (integerSteps text).result = some number) : Denotes (trimmed text) number ∧ -(bound : Int) < number ∧ number < bound := by
  obtain ⟨denotes, magnitude⟩ := integerSteps_denotes result
  exact ⟨denotes, abs_lt.mp (by omega)⟩

theorem exactInt_iff (text : Bytes) : ExactInt text ↔ leadingValue (unsigned (trimmed text)) < 2 ^ 31 := by
  have within := integerSteps_within (2 ^ 31) (by decide) text
  constructor
  · exact fun held => within.mp held.1
  · intro fits
    refine ⟨within.mpr fits, (integerSteps text).result.map Int32.ofInt, ?_, fun value among => ?_⟩
    · unfold jsonIntValue
      rw [jsonInteger_steps]
      rfl
    · obtain ⟨number, result, rfl⟩ := Option.map_eq_some_iff.mp among
      obtain ⟨denotes, above, below⟩ := integerSteps_fits fits result
      rwa [Int32.toInt_ofInt_of_le (by omega) (by omega)]

theorem exactInt64_iff (text : Bytes) : ExactInt64 text ↔ leadingValue (unsigned (trimmed text)) < 2 ^ 63 := by
  have within := integerSteps_within (2 ^ 63) (by decide) text
  constructor
  · exact fun held => within.mp held.1
  · intro fits
    refine ⟨within.mpr fits, (integerSteps text).result.map Int64.ofInt, ?_, fun value among => ?_⟩
    · unfold jsonInt64Value
      rw [jsonInteger_steps]
      rfl
    · obtain ⟨number, result, rfl⟩ := Option.map_eq_some_iff.mp among
      obtain ⟨denotes, above, below⟩ := integerSteps_fits fits result
      rwa [Int64.toInt_ofInt_of_le (by omega) (by omega)]

theorem exactTimecode_iff (text : Bytes) : ExactTimecode text ↔ FitsTimecode (2 ^ 63) (trimmed text) := by
  have within := timecodeSteps_within (2 ^ 63) (by decide) text
  constructor
  · exact fun held => within.mp held.1
  · intro fits
    refine ⟨within.mpr fits, _, parseTimecode_eq text, fun value among => ?_⟩
    obtain ⟨milliseconds, read, rfl⟩ := Option.map_eq_some_iff.mp among
    have small := readTimecode_lt (by decide) fits read
    have value : (Int64.ofNat milliseconds).toInt = milliseconds := Int64.toInt_ofNat_of_lt small
    have positive : 0 ≤ Int64.ofNat milliseconds := Int64.le_iff_toInt_le.mpr (by rw [value]; exact Int.natCast_nonneg _)
    have largest : max 0 (Int64.ofNat milliseconds) = Int64.ofNat milliseconds := if_pos positive
    have denotes := readTimecode_denotes read
    rwa [largest, value]

end ApiServer

/-- The loops are exact on the texts whose digits fit their type, and on no others. -/
theorem digit_loops_exact (text : Bytes) :
    (ApiServer.ExactInt text ↔ ApiServer.leadingValue (ApiServer.unsigned (ApiServer.trimmed text)) < 2 ^ 31) ∧
      (ApiServer.ExactInt64 text ↔ ApiServer.leadingValue (ApiServer.unsigned (ApiServer.trimmed text)) < 2 ^ 63) ∧
      (ApiServer.ExactTimecode text ↔ ApiServer.FitsTimecode (2 ^ 63) (ApiServer.trimmed text)) :=
  ⟨ApiServer.exactInt_iff text, ApiServer.exactInt64_iff text, ApiServer.exactTimecode_iff text⟩

/-- A line, a position and a timecode with too many digits. -/
theorem long_numbers_overflow :
    ¬ ApiServer.ExactInt (bytes "99999999999") ∧ ¬ ApiServer.ExactInt64 (bytes "99999999999999999999") ∧
      ¬ ApiServer.ExactTimecode (bytes "9999999999999:00:00") := by
  rw [ApiServer.exactInt_iff, ApiServer.exactInt64_iff, ApiServer.exactTimecode_iff]
  refine ⟨by decide, by decide, ?_⟩
  rintro (empty | many | fits)
  · revert empty
    decide
  · revert many
    decide
  · revert fits
    decide

end WhRepeater
