import Mathlib.Data.Nat.Digits.Lemmas
import WhRepeater.DigitLoops

/-! Positions in timecodes (`parseTimecode` and `formatTimecode` of
`api_server.cpp`): a position that was written is read again, and a timecode as it is
written is one that is written of what was read of it. -/
namespace WhRepeater

open TextScan RecordedSteps Recorded

namespace ApiServer

/-! ## Padded numbers -/

theorem digit_inj {ch next : UInt8} (digit : isDigit ch = true) (other : isDigit next = true)
    (value : ch.toNat - 48 = next.toNat - 48) : ch = next := by
  simp only [isDigit, Bool.and_eq_true, decide_eq_true_eq, UInt8.le_iff_toNat_le] at digit other
  have low : 48 ≤ ch.toNat := digit.1
  have low_other : 48 ≤ next.toNat := other.1
  exact UInt8.toNat_inj.mp (by omega)

/-- Digits of one length differ where their numbers do. -/
theorem digits_unique {digits other : Bytes} (all : digits.all isDigit = true) (all_other : other.all isDigit = true)
    (length : digits.length = other.length) (value : digitsValue digits = digitsValue other) : digits = other := by
  induction digits using List.reverseRecOn generalizing other with
  | nil => exact (List.eq_nil_of_length_eq_zero length.symm).symm
  | append_singleton digits ch ih =>
    obtain rfl | ⟨other, next, rfl⟩ := List.eq_nil_or_concat other
    · simp at length
    · have single : ∀ ch : UInt8, digitsValue [ch] = ch.toNat - 48 := fun _ => Nat.zero_add _
      rw [List.concat_eq_append] at all_other length value ⊢
      rw [List.all_append, Bool.and_eq_true, List.all_cons, List.all_nil, Bool.and_true] at all all_other
      rw [digitsValue_append, digitsValue_append, single, single, List.length_singleton, List.length_singleton, Nat.pow_one] at value
      rw [List.length_append, List.length_append] at length
      have last := digit_lt all.2
      have last_other := digit_lt all_other.2
      rw [ih all.1 all_other.1 (Nat.add_right_cancel length) (by omega), digit_inj all.2 all_other.2 (by omega)]

theorem length_printNat_le {value width : Nat} (small : value < 10 ^ width) (some : 0 < width) : (printNat value).length ≤ width := by
  unfold printNat
  split
  · exact some
  · rw [List.length_map, List.length_reverse]
    exact (Nat.digits_length_le_iff (by decide) value).mpr small

theorem padded_eq (width value : Nat) :
    padded width value = List.replicate (width - (printNat value).length) (code '0') ++ printNat value := rfl

theorem all_padded (width value : Nat) : (padded width value).all isDigit = true := by
  have zero : isDigit (code '0') = true := rfl
  rw [padded_eq, List.all_append, JsonParser.isDigit_printNat, List.all_replicate, zero]
  simp

theorem digitsValue_zeros (count : Nat) : digitsValue (List.replicate count (code '0')) = 0 := by
  induction count with
  | zero => rfl
  | succ count ih =>
    rw [List.replicate_succ', digitsValue_append, ih]
    rfl

theorem digitsValue_padded (width value : Nat) : digitsValue (padded width value) = value := by
  rw [padded_eq, digitsValue_append, digitsValue_zeros, JsonParser.digitsValue_printNat, Nat.zero_mul, Nat.zero_add]

theorem length_padded (width value : Nat) : (padded width value).length = max width (printNat value).length := by
  rw [padded_eq, List.length_append, List.length_replicate]
  omega

theorem numeral_padded (width value : Nat) : Numeral (padded width value) := by
  refine ⟨fun empty => JsonParser.printNat_ne_nil value ?_, all_padded width value⟩
  rw [padded_eq] at empty
  exact (List.append_eq_nil_iff.mp empty).2

/-- Digits that begin with a zero only where they are as short as the width are
those that are written. -/
theorem padded_digitsValue {width : Nat} {digits : Bytes} (all : digits.all isDigit = true) (some : 0 < width)
    (wide : width ≤ digits.length) (leading : digits.length = width ∨ digits.head? ≠ Option.some (code '0')) :
    padded width (digitsValue digits) = digits := by
  refine digits_unique (all_padded width _) all ?_ (digitsValue_padded width _)
  have short := length_printNat_le (digitsValue_lt all) (Nat.lt_of_lt_of_le some wide)
  rw [length_padded]
  rcases leading with exactly | positive
  · omega
  · cases digits with
    | nil => exact absurd wide (Nat.not_le_of_lt some)
    | cons ch digits =>
      have long := digitsValue_lt (JsonParser.isDigit_printNat (digitsValue (ch :: digits)))
      have first := Bool.and_eq_true_iff.mp all |>.1
      have nonzero : 1 ≤ ch.toNat - 48 := by
        by_contra zero
        have least : ch = code '0' := digit_inj first rfl (Nat.eq_zero_of_not_pos zero)
        exact positive (congrArg Option.some least)
      have single : digitsValue [ch] = ch.toNat - 48 := Nat.zero_add _
      have large : 10 ^ digits.length ≤ digitsValue (ch :: digits) := by
        rw [← List.singleton_append, digitsValue_append, single]
        exact Nat.le_add_right_of_le (Nat.le_mul_of_pos_left _ nonzero)
      rw [JsonParser.digitsValue_printNat] at long
      have longer := (Nat.pow_lt_pow_iff_right (by decide)).mp (Nat.lt_of_le_of_lt large long)
      rw [List.length_cons] at short wide ⊢
      omega

/-! ## Written timecodes -/

/-- Hours, minutes, seconds and thousandths. -/
def written (hours minutes seconds fraction : Bytes) : Bytes :=
  hours ++ code ':' :: (minutes ++ code ':' :: (seconds ++ code '.' :: fraction))

variable {hours minutes seconds fraction : Bytes}

theorem trimmed_written (hours_all : hours.all isDigit = true) (minutes_all : minutes.all isDigit = true)
    (seconds_all : seconds.all isDigit = true) (fraction_all : fraction.all isDigit = true) :
    trimmed (written hours minutes seconds fraction) = written hours minutes seconds fraction := by
  refine trimmed_self fun ch among => ?_
  have digits : ∀ {digits : Bytes}, digits.all isDigit = true → ch ∈ digits → isBlank ch = false :=
    fun all among => isBlank_digit (List.all_eq_true.mp all ch among)
  simp only [written, List.mem_append, List.mem_cons] at among
  rcases among with among | rfl | among | rfl | among | rfl | among
  · exact digits hours_all among
  · rfl
  · exact digits minutes_all among
  · rfl
  · exact digits seconds_all among
  · rfl
  · exact digits fraction_all among

/-- The colons of a written timecode separate its components. -/
theorem splitOn_written (hours_all : hours.all isDigit = true) (minutes_all : minutes.all isDigit = true)
    (seconds_all : seconds.all isDigit = true) (fraction_all : fraction.all isDigit = true) :
    (written hours minutes seconds fraction).splitOn (code ':') = [hours, minutes, seconds ++ code '.' :: fraction] := by
  have absent : ∀ {digits : Bytes}, digits.all isDigit = true → code ':' ∉ digits := fun all => not_mem_digits all rfl
  have last : code ':' ∉ seconds ++ code '.' :: fraction := by
    simp only [List.mem_append, List.mem_cons, not_or]
    exact ⟨absent seconds_all, by decide, absent fraction_all⟩
  rw [written, List.splitOn_append_cons_self_of_not_mem (absent hours_all),
    List.splitOn_append_cons_self_of_not_mem (absent minutes_all), List.splitOn_eq_singleton last]

theorem wholePart_written (seconds_all : seconds.all isDigit = true) (fraction : Bytes) :
    wholePart (seconds ++ code '.' :: fraction) = seconds := by
  have other : ∀ ch ∈ seconds, decide (ch ≠ code '.') = true := fun ch among =>
    decide_eq_true (ne_of_mem_of_not_mem among (not_mem_digits seconds_all rfl))
  rw [wholePart, List.takeWhile_append_of_pos other, List.takeWhile_cons_of_neg (by simp), List.append_nil]

theorem fractionDigits_written (seconds_all : seconds.all isDigit = true) (fraction_all : fraction.all isDigit = true) :
    fractionDigits (seconds ++ code '.' :: fraction) = fraction := by
  have other : ∀ ch ∈ seconds, decide (ch ≠ code '.') = true := fun ch among =>
    decide_eq_true (ne_of_mem_of_not_mem among (not_mem_digits seconds_all rfl))
  rw [fractionDigits, List.dropWhile_append_of_pos other, List.dropWhile_cons_of_neg (by simp), List.tail_cons,
    List.takeWhile_eq_self_iff.mpr (List.all_eq_true.mp fraction_all)]

theorem thousandths_three {digits : Bytes} (three : digits.length = 3) : thousandths digits = digitsValue digits := by
  rw [thousandths, three]
  exact Nat.mul_div_cancel _ (by decide)

/-- In milliseconds. -/
def writtenValue (hours minutes seconds fraction : Bytes) : Nat :=
  ((digitsValue hours * 60 + digitsValue minutes) * 60 + digitsValue seconds) * 1000 + digitsValue fraction

/-- The components of a written timecode are the ones that are read. -/
theorem readTimecode_written (hours_some : Numeral hours) (minutes_some : Numeral minutes) (seconds_some : Numeral seconds)
    (fraction_all : fraction.all isDigit = true) (three : fraction.length = 3) :
    readTimecode (written hours minutes seconds fraction) = some (writtenValue hours minutes seconds fraction) := by
  have some_text : written hours minutes seconds fraction ≠ [] := fun empty => hours_some.1 (List.append_eq_nil_iff.mp empty).1
  have last : [hours, minutes, seconds ++ code '.' :: fraction].getLast?.getD [] = seconds ++ code '.' :: fraction := rfl
  have front : [hours, minutes, seconds ++ code '.' :: fraction].dropLast.reverse = [minutes, hours] := rfl
  unfold readTimecode
  rw [splitOn_written hours_some.2 minutes_some.2 seconds_some.2 fraction_all]
  dsimp only
  rw [if_neg (not_or.mpr ⟨some_text, by simp⟩), wholeComponents, last, front, wholePart_written seconds_some.2,
    fractionDigits_written seconds_some.2 fraction_all, thousandths_three three]
  simp only [units, added, hours_some, minutes_some, seconds_some, if_true, writtenValue, Option.some.injEq]
  ring

/-- Every step fits where the whole does. -/
theorem fits_written {bound : Nat} (hours_some : Numeral hours) (minutes_some : Numeral minutes) (seconds_some : Numeral seconds)
    (fraction_all : fraction.all isDigit = true) (three : fraction.length = 3)
    (small : writtenValue hours minutes seconds fraction < bound) : FitsTimecode bound (written hours minutes seconds fraction) := by
  have last : [hours, minutes, seconds ++ code '.' :: fraction].getLast?.getD [] = seconds ++ code '.' :: fraction := rfl
  have front : [hours, minutes, seconds ++ code '.' :: fraction].dropLast.reverse = [minutes, hours] := rfl
  refine Or.inr (Or.inr ?_)
  rw [splitOn_written hours_some.2 minutes_some.2 seconds_some.2 fraction_all, wholeComponents, last, front,
    wholePart_written seconds_some.2, fractionDigits_written seconds_some.2 fraction_all, thousandths_three three]
  simp only [units, Fits, hours_some, minutes_some, seconds_some, if_true, and_true]
  unfold writtenValue at small
  omega

theorem written_read (hours_some : Numeral hours) (minutes_some : Numeral minutes) (seconds_some : Numeral seconds)
    (fraction_all : fraction.all isDigit = true) (three : fraction.length = 3)
    (small : writtenValue hours minutes seconds fraction < 2 ^ 63) :
    parseTimecode (written hours minutes seconds fraction) =
        .ok (some (Int64.ofNat (writtenValue hours minutes seconds fraction))) ∧
      (timecodeSteps (written hours minutes seconds fraction)).Within (-2 ^ 63) (2 ^ 63 - 1) := by
  have whole := trimmed_written hours_some.2 minutes_some.2 seconds_some.2 fraction_all
  have fits := fits_written hours_some minutes_some seconds_some fraction_all three small
  have within := timecodeSteps_within (2 ^ 63) (by decide) (written hours minutes seconds fraction)
  have value := Int64.toInt_ofNat_of_lt small
  have positive : 0 ≤ Int64.ofNat (writtenValue hours minutes seconds fraction) :=
    Int64.le_iff_toInt_le.mpr (by rw [value]; exact Int.natCast_nonneg _)
  have largest : max 0 (Int64.ofNat (writtenValue hours minutes seconds fraction)) = Int64.ofNat _ := if_pos positive
  rw [whole] at within
  refine ⟨?_, within.mpr fits⟩
  rw [parseTimecode_eq, whole, readTimecode_written hours_some minutes_some seconds_some fraction_all three, Option.map_some, largest]

theorem formatTimecode_eq {milliseconds : Nat} (small : milliseconds < 2 ^ 63) :
    formatTimecode (Int64.ofNat milliseconds) =
      written (padded 2 (milliseconds / 3600000 : Nat)) (padded 2 (milliseconds % 3600000 / 60000 : Nat))
        (padded 2 (milliseconds % 60000 / 1000 : Nat)) (padded 3 (milliseconds % 1000 : Nat)) := by
  have value : max 0 (Int64.ofNat milliseconds).toInt = milliseconds := by
    rw [Int64.toInt_ofNat_of_lt small]
    exact max_eq_right (Int.natCast_nonneg _)
  unfold formatTimecode written
  rw [value]
  push_cast
  simp only [List.append_assoc, List.cons_append]

theorem length_thousandths (milliseconds : Nat) : (padded 3 (milliseconds % 1000 : Nat)).length = 3 := by
  rw [length_padded]
  exact max_eq_left (length_printNat_le (Nat.mod_lt _ (by decide)) (by decide))

/-- The parts of a position make it up again. -/
theorem writtenValue_parts (milliseconds : Nat) :
    writtenValue (padded 2 (milliseconds / 3600000 : Nat)) (padded 2 (milliseconds % 3600000 / 60000 : Nat))
        (padded 2 (milliseconds % 60000 / 1000 : Nat)) (padded 3 (milliseconds % 1000 : Nat)) = milliseconds := by
  simp only [writtenValue, digitsValue_padded]
  omega

theorem read_formatted (milliseconds : Nat) (small : milliseconds < 2 ^ 63) :
    parseTimecode (formatTimecode (Int64.ofNat milliseconds)) = .ok (some (Int64.ofNat milliseconds)) ∧
      (timecodeSteps (formatTimecode (Int64.ofNat milliseconds))).Within (-2 ^ 63) (2 ^ 63 - 1) := by
  have value := writtenValue_parts milliseconds
  have read := written_read (numeral_padded 2 (milliseconds / 3600000)) (numeral_padded 2 (milliseconds % 3600000 / 60000))
    (numeral_padded 2 (milliseconds % 60000 / 1000)) (all_padded 3 (milliseconds % 1000)) (length_thousandths milliseconds)
    (by rw [value]; exact small)
  rwa [value, ← formatTimecode_eq small] at read

/-- A text as timecodes are written, and the milliseconds that it says. Two digits at
least for the hours, and no zero in front of more than two. -/
inductive Timecode : Bytes → Nat → Prop
  | written {hours minutes seconds fraction : Bytes} (hours_all : hours.all isDigit = true) (hours_long : 2 ≤ hours.length)
      (leading : hours.length = 2 ∨ hours.head? ≠ some (code '0'))
      (minutes_all : minutes.all isDigit = true) (minutes_long : minutes.length = 2) (minutes_small : digitsValue minutes < 60)
      (seconds_all : seconds.all isDigit = true) (seconds_long : seconds.length = 2) (seconds_small : digitsValue seconds < 60)
      (fraction_all : fraction.all isDigit = true) (fraction_long : fraction.length = 3) :
      Timecode (written hours minutes seconds fraction) (writtenValue hours minutes seconds fraction)

theorem numeral_long {digits : Bytes} (all : digits.all isDigit = true) (long : 2 ≤ digits.length) : Numeral digits :=
  ⟨List.length_pos_iff.mp (Nat.lt_of_lt_of_le (by decide) long), all⟩

theorem formatted_read {text : Bytes} {milliseconds : Nat} (timecode : Timecode text milliseconds) (small : milliseconds < 2 ^ 63) :
    parseTimecode text = .ok (some (Int64.ofNat milliseconds)) ∧ formatTimecode (Int64.ofNat milliseconds) = text := by
  cases timecode with
  | @written hours minutes seconds fraction hours_all hours_long leading minutes_all minutes_long minutes_small seconds_all
      seconds_long seconds_small fraction_all fraction_long =>
    have thousandths := digitsValue_lt fraction_all
    rw [fraction_long] at thousandths
    have parts : writtenValue hours minutes seconds fraction / 3600000 = digitsValue hours ∧
        writtenValue hours minutes seconds fraction % 3600000 / 60000 = digitsValue minutes ∧
        writtenValue hours minutes seconds fraction % 60000 / 1000 = digitsValue seconds ∧
        writtenValue hours minutes seconds fraction % 1000 = digitsValue fraction := by
      unfold writtenValue
      omega
    refine ⟨(written_read (numeral_long hours_all hours_long) (numeral_long minutes_all (by omega))
      (numeral_long seconds_all (by omega)) fraction_all fraction_long small).1, ?_⟩
    rw [formatTimecode_eq small, parts.1, parts.2.1, parts.2.2.1, parts.2.2.2,
      padded_digitsValue hours_all (by decide) hours_long leading,
      padded_digitsValue minutes_all (by decide) (by omega) (Or.inl minutes_long),
      padded_digitsValue seconds_all (by decide) (by omega) (Or.inl seconds_long),
      padded_digitsValue fraction_all (by decide) (by omega) (Or.inl fraction_long)]

end ApiServer

/-- A position is read as it was written, without an overflow, and a written
timecode is one that is written of the position that was read. -/
theorem timecode_round_trip :
    (∀ position : Int64, 0 ≤ position →
      ApiServer.parseTimecode (ApiServer.formatTimecode position) = .ok (some position) ∧
        (ApiServer.timecodeSteps (ApiServer.formatTimecode position)).Within (-2 ^ 63) (2 ^ 63 - 1)) ∧
    ∀ text milliseconds, ApiServer.Timecode text milliseconds → milliseconds < 2 ^ 63 →
      ∃ position, ApiServer.parseTimecode text = .ok (some position) ∧ position.toInt = milliseconds ∧
        ApiServer.formatTimecode position = text := by
  refine ⟨fun position positive => ?_, fun text milliseconds timecode small => ?_⟩
  · have least : 0 ≤ position.toInt := Int64.le_iff_toInt_le.mp positive
    have most := position.toInt_lt
    have same : Int64.ofNat position.toInt.toNat = position := by
      apply Int64.toInt_inj.mp
      rw [Int64.toInt_ofNat_of_lt (by omega)]
      omega
    have read := ApiServer.read_formatted position.toInt.toNat (by omega)
    rwa [same] at read
  · obtain ⟨read, formatted⟩ := ApiServer.formatted_read timecode small
    exact ⟨_, read, Int64.toInt_ofNat_of_lt small, formatted⟩

/-- The last position, and a day. -/
theorem timecode_of_a_day :
    ApiServer.parseTimecode (ApiServer.formatTimecode Int64.maxValue) = .ok (some Int64.maxValue) ∧
      ∃ position, ApiServer.parseTimecode (bytes "24:00:00.000") = .ok (some position) ∧ position.toInt = 86400000 ∧
        ApiServer.formatTimecode position = bytes "24:00:00.000" :=
  ⟨(timecode_round_trip.1 Int64.maxValue (by decide)).1,
    timecode_round_trip.2 (bytes "24:00:00.000") 86400000
      (@ApiServer.Timecode.written (bytes "24") (bytes "00") (bytes "00") (bytes "000")
        rfl (by decide) (Or.inl rfl) rfl rfl (by decide) rfl rfl (by decide) rfl rfl) (by decide)⟩

end WhRepeater
