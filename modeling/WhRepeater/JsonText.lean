import WhRepeater.JsonParser
import Mathlib.Data.Nat.Digits.Defs

/-! The strings and integers the configuration writer puts out (`config.cpp`),
and what the reader makes of them. A control character without an escape of its
own is written with one the reader does not know. -/
namespace WhRepeater

/-- `hex`. -/
def hexDigit (value : UInt8) : UInt8 := if value < 10 then 48 + value else 87 + value

/-- What `jsonString` writes for a byte. -/
def escape (ch : UInt8) : Bytes :=
  if ch = code '"' then [code '\\', code '"']
  else if ch = code '\\' then [code '\\', code '\\']
  else if ch = 8 then [code '\\', code 'b']
  else if ch = 12 then [code '\\', code 'f']
  else if ch = 10 then [code '\\', code 'n']
  else if ch = 13 then [code '\\', code 'r']
  else if ch = 9 then [code '\\', code 't']
  else if ch < 0x20 then
    [code '\\', code 'u', code '0', code '0', hexDigit ((ch >>> 4) &&& 0x0f), hexDigit (ch &&& 0x0f)]
  else [ch]

def jsonString (value : Bytes) : Bytes := code '"' :: (value.flatMap escape ++ [code '"'])

/-- `operator<<` for integers. -/
def printNat (value : Nat) : Bytes :=
  if value = 0 then [48] else (Nat.digits 10 value).reverse.map fun digit => UInt8.ofNat (48 + digit)

def printInt (value : Int) : Bytes :=
  if value < 0 then code '-' :: printNat value.natAbs else printNat value.natAbs

namespace JsonParser

/-! ## Strings -/

/-- The byte is written as itself or with an escape the reader knows. -/
def legible (ch : UInt8) : Bool := 0x20 ≤ ch || [8, 9, 10, 12, 13].contains ch

def Legible (value : Bytes) : Prop := value.all legible = true

instance : Decidable (Legible value) := inferInstanceAs (Decidable (_ = true))

/-- What `jsonString` writes for a byte: an escape of the reader's, the byte
itself, or the escape by number that the reader does not have. -/
theorem escape_cases (ch : UInt8) :
    (∃ escaped, escape ch = [code '\\', escaped] ∧ unescape escaped = some ch ∧ legible ch = true) ∨
      (escape ch = [ch] ∧ ch ≠ code '"' ∧ ch ≠ code '\\' ∧ legible ch = true) ∨
      (∃ digits, escape ch = code '\\' :: code 'u' :: digits ∧ legible ch = false) := by
  by_cases special : ch = code '"' ∨ ch = code '\\' ∨ ch = 8 ∨ ch = 12 ∨ ch = 10 ∨ ch = 13 ∨ ch = 9
  · left
    rcases special with rfl | rfl | rfl | rfl | rfl | rfl | rfl <;> exact ⟨_, rfl, rfl, rfl⟩
  · right
    simp only [not_or] at special
    obtain ⟨quote, backslash, backspace, feed, line, carriage, tab⟩ := special
    by_cases control : ch < 0x20
    · right
      refine ⟨[code '0', code '0', hexDigit ((ch >>> 4) &&& 0x0f), hexDigit (ch &&& 0x0f)], ?_, ?_⟩
      · simp only [escape, quote, backslash, backspace, feed, line, carriage, tab, control, if_true, if_false]
      · simp [legible, backspace, feed, line, carriage, tab, control]
    · left
      refine ⟨by simp only [escape, quote, backslash, backspace, feed, line, carriage, tab, control, if_false],
        quote, backslash, ?_⟩
      simp only [legible, Bool.or_eq_true, decide_eq_true_eq]
      exact .inl (UInt8.not_lt.mp control)

/-- The reader undoes the escape of a legible byte, and rejects any other. -/
theorem stringBody_escape (ch : UInt8) (rest : Bytes) :
    stringBody (escape ch ++ rest) =
      if legible ch then (stringBody rest).map fun (text, last) => (ch :: text, last)
      else .error "unsupported JSON escape" := by
  have escapes : code '\\' ≠ code '"' := by decide
  have number : unescape (code 'u') = none := rfl
  obtain ⟨escaped, written, known, readable⟩ | ⟨written, quote, backslash, readable⟩ | ⟨digits, written, unreadable⟩ :=
    escape_cases ch
  · rw [written, if_pos readable, List.cons_append, stringBody.eq_def]
    simp [escapes, known]
  · rw [written, if_pos readable, List.cons_append, stringBody.eq_def]
    simp [quote, backslash]
  · rw [written, unreadable, List.cons_append, stringBody.eq_def]
    simp [escapes, number]
    rfl

theorem stringBody_written (value rest : Bytes) :
    stringBody (value.flatMap escape ++ code '"' :: rest) =
      if Legible value then .ok (value, rest) else .error "unsupported JSON escape" := by
  induction value with
  | nil =>
    rw [List.flatMap_nil, List.nil_append, stringBody.eq_def]
    rfl
  | cons ch value ih =>
    rw [List.flatMap_cons, List.append_assoc, stringBody_escape, ih]
    by_cases readable : legible ch
    · by_cases others : Legible value
      · have all : Legible (ch :: value) := by simpa [Legible, readable] using others
        simp [readable, others, all, Except.map]
      · have not_all : ¬ Legible (ch :: value) := by simpa [Legible, readable] using others
        simp [readable, others, not_all, Except.map]
    · have not_all : ¬ Legible (ch :: value) := by simp [Legible, readable]
      rw [if_neg readable, if_neg not_all]

/-! ## Numbers -/

/-- No number goes on into such a rest. -/
def Delimited (rest : Bytes) : Prop := ∀ next ∈ rest.head?, isDigit next = false ∧ next ≠ code '.'

/-- The sign, the digits, and the point with its digits. -/
def numberText (negative : Bool) (whole : Bytes) (point : Bool) (fraction : Bytes) : Bytes :=
  (if negative then [code '-'] else []) ++ (whole ++ ((if point then [code '.'] else []) ++ fraction))

theorem yields_digits {front rest : Bytes} (all : front.all isDigit = true)
    (ends : ∀ next ∈ rest.head?, isDigit next = false) : Yields digits (front ++ rest) front rest := by
  have taken : (front ++ rest).takeWhile isDigit = front := by
    rw [List.takeWhile_append_of_pos (List.all_eq_true.mp all)]
    cases rest with
    | nil => simp
    | cons next rest => simp [ends next rfl]
  have left : (front ++ rest).dropWhile isDigit = rest := by
    rw [List.dropWhile_append_of_pos (List.all_eq_true.mp all)]
    cases rest with
    | nil => rfl
    | cons next rest => simp [ends next rfl]
  simp [Yields, digits, modifyGet, MonadStateOf.modifyGet, StateT.modifyGet, pure, ExceptT.pure, ExceptT.mk,
    taken, left]

theorem parseNumber_numberText {negative point : Bool} {whole fraction rest : Bytes}
    (wholeDigits : whole.all isDigit = true) (fractionAll : fraction.all isDigit = true)
    (pointed : point = false → fraction = []) (number : ¬ (whole = [] ∧ point = false)) (ends : Delimited rest) :
    parseNumber (numberText negative whole point fraction ++ rest) =
      some ((stod negative whole fraction).map fun value => (.number value, rest)) := by
  have behind : Yields (accept '.') ((if point then [code '.'] else []) ++ fraction ++ rest) point (fraction ++ rest) := by
    cases point with
    | true => exact yields_accept '.' _
    | false =>
      rw [pointed rfl]
      exact yields_accept_false fun same => (ends _ same).2 rfl
  have fractional : Yields (fractionDigits point) (fraction ++ rest) fraction rest := by
    cases point with
    | true => exact yields_digits fractionAll fun next first => (ends next first).1
    | false =>
      rw [pointed rfl]
      exact yields_pure [] rest
  have integral : Yields digits (whole ++ ((if point then [code '.'] else []) ++ fraction ++ rest)) whole
      ((if point then [code '.'] else []) ++ fraction ++ rest) := by
    refine yields_digits wholeDigits fun next first => ?_
    cases point with
    | true =>
      cases first
      rfl
    | false =>
      rw [pointed rfl] at first
      exact (ends next first).1
  have signed : Yields (accept '-') (numberText negative whole point fraction ++ rest) negative
      (whole ++ ((if point then [code '.'] else []) ++ fraction ++ rest)) := by
    simp only [numberText, List.append_assoc]
    cases negative with
    | true => exact yields_accept '-' _
    | false =>
      refine yields_accept_false fun sign => ?_
      cases whole with
      | cons digit whole =>
        cases sign
        have no_digit : isDigit (code '-') = false := rfl
        simp [no_digit] at wholeDigits
      | nil =>
        cases point with
        | true => cases sign
        | false => exact number ⟨rfl, rfl⟩
  unfold parseNumber
  rw [run_bind signed, run_bind integral, run_bind behind, run_bind fractional, if_neg number]
  rfl

/-- What is read as a number is the text of one. -/
theorem numberText_of_yields {text : Bytes} {json : Json} (yields : Yields parseNumber text json rest) :
    ∃ negative point whole fraction, text = numberText negative whole point fraction ++ rest ∧
      whole.all isDigit = true ∧ fraction.all isDigit = true ∧ (point = false → fraction = []) ∧
      ¬ (whole = [] ∧ point = false) ∧ (stod negative whole fraction).map Json.number = .ok json := by
  obtain ⟨negative, afterSign, sign, signed⟩ := accept_splits '-' text
  obtain ⟨whole, afterWhole, front, wholeDigits, integral⟩ := digits_splits afterSign
  obtain ⟨point, afterPoint, dot, behind⟩ := accept_splits '.' afterWhole
  obtain ⟨fraction, last, back, fractionAll, pointed, fractional⟩ := fractionDigits_splits point afterPoint
  simp only [Yields, parseNumber, run_bind signed, run_bind integral, run_bind behind, run_bind fractional] at yields
  split at yields
  · cases yields
  · rename_i number
    cases read : stod negative whole fraction with
    | error message =>
      rw [read] at yields
      cases yields
    | ok value =>
      rw [read] at yields
      cases yields
      refine ⟨negative, point, whole, fraction, ?_, wholeDigits, fractionAll, pointed, number, by rw [read]; rfl⟩
      rw [sign, front, dot, back]
      simp [numberText]

theorem digitsValue_digits (digits : List Nat) (small : ∀ digit ∈ digits, digit < 10) :
    digitsValue (digits.reverse.map fun digit => UInt8.ofNat (48 + digit)) = Nat.ofDigits 10 digits := by
  rw [digitsValue, List.foldl_map, List.foldl_reverse]
  induction digits with
  | nil => rfl
  | cons digit digits ih =>
    have below := small digit List.mem_cons_self
    rw [List.foldr_cons, ih fun other later => small other (List.mem_cons_of_mem digit later), Nat.ofDigits_cons,
      UInt8.toNat_ofNat_of_lt' (by change 48 + digit < 256; omega)]
    omega

theorem digitsValue_printNat (value : Nat) : digitsValue (printNat value) = value := by
  unfold printNat
  split
  · rename_i zero
    rw [zero]
    rfl
  · rw [digitsValue_digits _ fun _ => Nat.digits_lt_base (by decide), Nat.ofDigits_digits]

theorem isDigit_printNat (value : Nat) : (printNat value).all isDigit = true := by
  unfold printNat
  split
  · rfl
  · simp only [List.all_map, List.all_reverse, List.all_eq_true]
    intro digit among
    have below := Nat.digits_lt_base (by decide : 1 < 10) among
    simp only [Function.comp, isDigit, Bool.and_eq_true, decide_eq_true_eq, UInt8.le_iff_toNat_le,
      UInt8.toNat_ofNat_of_lt' (by change 48 + digit < 256; omega : 48 + digit < UInt8.size)]
    constructor
    · exact Nat.le_add_right 48 digit
    · change 48 + digit ≤ 57
      omega

theorem printNat_ne_nil (value : Nat) : printNat value ≠ [] := by
  unfold printNat
  split
  · exact List.cons_ne_nil _ _
  · rename_i positive
    simpa [Nat.digits_eq_nil_iff_eq_zero] using positive

theorem printInt_eq (value : Int) : printInt value = numberText (value < 0) (printNat value.natAbs) false [] := by
  by_cases negative : value < 0 <;> simp [printInt, numberText, negative]

theorem stod_printNat {value : Int} (small : |value| < 2 ^ 53) :
    stod (value < 0) (printNat value.natAbs) [] = .ok (value : Rat) := by
  have magnitude : ((value.natAbs : Nat) : Rat) = |(value : Rat)| := by
    rw [← Int.cast_abs, Int.abs_eq_natAbs, Int.cast_natCast]
  have signed : (if decide (value < 0) then -|(value : Rat)| else |(value : Rat)|) = value := by
    by_cases negative : value < 0
    · have below : (value : Rat) < 0 := by exact_mod_cast negative
      rw [if_pos (decide_eq_true negative), abs_of_neg below, neg_neg]
    · have above : (0 : Rat) ≤ value := by exact_mod_cast Int.not_lt.mp negative
      rw [if_neg (by simpa using negative), abs_of_nonneg above]
  have bounded : |(value : Rat)| < Binary64.bound := by
    have cast : |(value : Rat)| < 2 ^ 53 := by exact_mod_cast small
    exact lt_of_lt_of_le cast (pow_le_pow_right₀ (by norm_num) (by decide))
  simp only [stod, List.append_nil, digitsValue_printNat, List.length_nil, pow_zero, div_one, magnitude, signed,
    Binary64.round_intCast small, printNat_ne_nil, not_le.mpr bounded, false_and, if_false, ne_eq, not_true,
    and_false]
  rfl

/-- An integer of up to 53 bits is read back. -/
theorem yields_printInt {value : Int} (small : |value| < 2 ^ 53) (ends : Delimited rest) :
    Yields parseNumber (printInt value ++ rest) (.number value) rest := by
  rw [printInt_eq, Yields, parseNumber_numberText (isDigit_printNat _) rfl (fun _ => rfl)
    (fun none => printNat_ne_nil _ none.1) ends, stod_printNat small]
  rfl

end JsonParser
end WhRepeater
