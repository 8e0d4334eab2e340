import WhRepeater.MemberValues
import Mathlib.Data.List.TakeWhile

/-! What the PC takes out of the status text of the Pi (`daemon.cpp`). The object of
the active receiver is looked for in the text, and its members in the object. -/
namespace WhRepeater

open TextScan
open JsonParser (digitsValue_printNat isDigit_printNat not_space_of_digit printNat_ne_nil)

namespace RemoteReceiver

/-- The characters of a string. Behind a backslash, each but two stands for itself. -/
def unescaped (escaped : Bool) : Bytes → Bytes
  | [] => []
  | ch :: rest =>
    if escaped then (if ch = code 'n' then 10 else if ch = code 't' then 9 else ch) :: unescaped false rest
    else if ch = code '\\' then unescaped true rest
    else ch :: unescaped false rest

def jsonStringValue (value : Bytes) : Option Bytes :=
  if value.length < 2 ∨ value.head? ≠ some (code '"') ∨ value.getLast? ≠ some (code '"') then none
  else some (unescaped false value.tail.dropLast)

/-- `std::stoi`, with `none` for its exceptions. -/
def jsonIntValue (value : Bytes) : Option Int32 :=
  let text := value.dropWhile isSpace
  let signed := if text.head? = some (code '-') ∨ text.head? = some (code '+') then text.tail else text
  let digits := signed.takeWhile isDigit
  let number : Int := if text.head? = some (code '-') then -digitsValue digits else digitsValue digits
  if digits = [] ∨ number < -2 ^ 31 ∨ 2 ^ 31 ≤ number then none else some (Int32.ofInt number)

def jsonObjectAt (text : Bytes) (start : Nat) : Except String (Option Bytes) :=
  if (text.drop start).head? ≠ some (code '{') then return none
  else
    match enclosed (code '{') (code '}') 0 false false (text.drop start) with
    | none => return none
    | some count => return some (← substr text start count)

/-- From a position on, the object around the identifier of the receiver. -/
def findReceiver (receivers : Bytes) (activeId : Int32) (start : Nat) : Except String (Option Bytes) :=
  match _found : find receivers (bytes "\"id\":") start with
  | none => return none
  | some pos =>
    match rfind receivers (code '{') pos with
    | none => return none
    | some objectStart => do
      match ← jsonObjectAt receivers objectStart with
      | none => return none
      | some object => do
        let id := (← jsonMember object (bytes "id")).bind jsonIntValue
        if id = some activeId then return some object else findReceiver receivers activeId (pos + 5)
termination_by receivers.length - start
decreasing_by
  have bounds := find_bounds _found
  have five : (bytes "\"id\":").length = 5 := rfl
  omega

def activeRemoteReceiverObject (remoteStatus : Bytes) : Except String (Option Bytes) := do
  match (← jsonMember remoteStatus (bytes "activeReceiver")).filter (· ≠ bytes "null") with
  | none => return none
  | some activeValue => do
    match jsonIntValue activeValue, ← jsonMember remoteStatus (bytes "receivers") with
    | some activeId, some receivers => findReceiver receivers activeId 0
    | _, _ => return none

/-- A member, if it can be read. -/
def readMember (read : Bytes → Option α) (object : Bytes) (name : String) : Except String (Option α) := do
  return (← jsonMember object (bytes name)).bind read

/-- The target, with the members that were found. -/
def applyTarget (target : ScanTarget) (object : Bytes) : Except String ScanTarget := do
  let label ← readMember jsonStringValue object "label"
  let frequencyKhz ← readMember jsonIntValue object "frequencyKhz"
  let symbolRateKs ← readMember jsonIntValue object "symbolRateKs"
  return { target with
    label := label.getD target.label
    frequencyKhz := (frequencyKhz.map Int32.toUInt32).getD target.frequencyKhz
    symbolRateKs := (symbolRateKs.map Int32.toUInt32).getD target.symbolRateKs }

/-- The active input, with the members that were found. -/
def applyObject (stod : Bytes → Option DoubleBits) (active : ActiveInput) (object : Bytes) : Except String ActiveInput := do
  let id ← readMember jsonIntValue object "id"
  let targetObject := (← jsonMember object (bytes "target")).filter (· ≠ bytes "null")
  let target ← match targetObject with
    | none => pure active.target
    | some targetObject => applyTarget active.target targetObject
  -- A string that cannot be read is reset, which is how `null` is read.
  let serviceName := (← jsonMember object (bytes "serviceName")).map jsonStringValue
  let modulation := (← jsonMember object (bytes "modulation")).map jsonStringValue
  let merDb := (← jsonMember object (bytes "merDb")).filter (· ≠ bytes "null")
  return {
    receiver := (id.map ReceiverId.mk).getD active.receiver
    target
    status := { active.status with
      receiver := (id.map ReceiverId.mk).getD active.status.receiver
      serviceName := serviceName.getD active.status.serviceName
      modulation := modulation.getD active.status.modulation
      merDb := (merDb.bind stod).or active.status.merDb } }

/-- `stod` is the number a text begins with, if there is one. -/
def applyRemoteReceiverDetails (stod : Bytes → Option DoubleBits) (active : ActiveInput) (remoteStatus : Bytes) :
    Except String ActiveInput := do
  if remoteStatus = [] then return active
  else
    match ← activeRemoteReceiverObject remoteStatus with
    | none => return active
    | some object => applyObject stod active object

/-! ## Strings -/

variable {text rest : Bytes} {ch : UInt8}

/-- A byte that comes out of its escape. -/
def restorable (ch : UInt8) : Bool := 0x20 ≤ ch || ch == 9 || ch == 10

def Restorable (text : Bytes) : Prop := text.all restorable = true

instance : Decidable (Restorable text) := inferInstanceAs (Decidable (_ = true))

theorem unescaped_plain (plain : code '\\' ∉ text) : unescaped false (text ++ rest) = text ++ unescaped false rest := by
  induction text with
  | nil => rfl
  | cons ch text ih =>
    have other : ch ≠ code '\\' := (List.ne_of_not_mem_cons plain).symm
    rw [List.cons_append, unescaped, if_neg Bool.false_ne_true, if_neg other, ih (List.not_mem_of_not_mem_cons plain)]
    rfl

/-- What comes out of the escape of a byte is the byte, or has no control character. -/
theorem unescaped_escape (ch : UInt8) (rest : Bytes) :
    ∃ out, unescaped false (escape ch ++ rest) = out ++ unescaped false rest ∧
      ((restorable ch = true ∧ out = [ch]) ∨ (restorable ch = false ∧ out.all restorable = true)) := by
  obtain ⟨written, printable, -, backslash⟩ | ⟨rfl, written⟩ | ⟨letter, among, written⟩ |
    ⟨control, tab, line, digits, written, spelled⟩ := escape_forms ch
  · refine ⟨[ch], ?_, .inl ⟨by simp [restorable, printable], rfl⟩⟩
    rw [written]
    exact unescaped_plain (by simpa using backslash.symm)
  · rw [written]
    exact ⟨[code '"'], rfl, .inl ⟨rfl, rfl⟩⟩
  · rw [written]
    refine ⟨unescaped false [code '\\', letter], by simp [unescaped], ?_⟩
    have each : (lettered.all fun pair => decide (
        (restorable pair.1 = true ∧ unescaped false [code '\\', pair.2] = [pair.1]) ∨
          (restorable pair.1 = false ∧ (unescaped false [code '\\', pair.2]).all restorable = true))) = true := rfl
    exact of_decide_eq_true (List.all_eq_true.mp each _ among)
  · have hidden : restorable ch = false := by simpa [restorable, tab, line] using control
    have backslash : code '\\' ∉ digits := fun mem => (spelled _ mem).not_backslash rfl
    refine ⟨code 'u' :: digits, ?_, .inr ⟨hidden, ?_⟩⟩
    · rw [written, List.cons_append, List.cons_append, unescaped, if_neg Bool.false_ne_true, if_pos rfl, unescaped,
        if_pos rfl, unescaped_plain backslash]
      rfl
    · refine List.all_eq_true.mpr fun digit mem => ?_
      rcases List.mem_cons.mp mem with rfl | mem
      · rfl
      · have low := (spelled digit mem).1
        have printable : 0x20 ≤ digit := UInt8.le_iff_toNat_le.mpr (Nat.le_trans (by decide) low)
        simp [restorable, printable]

/-- What the PC makes of a string of the Pi. -/
def restored (text : Bytes) : Bytes := unescaped false (text.flatMap escape)

theorem restored_cons (ch : UInt8) (text : Bytes) :
    ∃ out, restored (ch :: text) = out ++ restored text ∧
      ((restorable ch = true ∧ out = [ch]) ∨ (restorable ch = false ∧ out.all restorable = true)) :=
  unescaped_escape ch (text.flatMap escape)

theorem restored_restorable (text : Bytes) : Restorable (restored text) := by
  induction text with
  | nil => rfl
  | cons ch text ih =>
    obtain ⟨out, split, ⟨plain, rfl⟩ | ⟨-, all⟩⟩ := restored_cons ch text
    · simpa [split, Restorable, plain] using ih
    · simpa [split, Restorable, all] using ih

/-- A string comes back exactly if each of its bytes comes out of its escape. -/
theorem restored_iff (text : Bytes) : restored text = text ↔ Restorable text := by
  constructor
  · intro same
    rw [← same]
    exact restored_restorable text
  · intro all
    induction text with
    | nil => rfl
    | cons ch text ih =>
      obtain ⟨plain, all⟩ : restorable ch = true ∧ Restorable text := by simpa [Restorable] using all
      obtain ⟨out, split, ⟨-, rfl⟩ | ⟨hidden, -⟩⟩ := restored_cons ch text
      · rw [split, ih all]
        rfl
      · rw [plain] at hidden
        cases hidden

theorem jsonStringValue_written (text : Bytes) : jsonStringValue (jsonString text) = some (restored text) := by
  have inside : (jsonString text).tail.dropLast = text.flatMap escape := by
    rw [jsonString, List.tail_cons, List.dropLast_concat]
  have last : (jsonString text).getLast? = some (code '"') := by
    rw [jsonString, ← List.cons_append, List.getLast?_concat]
  have whole : ¬ ((jsonString text).length < 2 ∨ (jsonString text).head? ≠ some (code '"') ∨
      some (code '"') ≠ some (code '"')) := by
    simp [jsonString]
  rw [jsonStringValue, inside, last, if_neg whole]
  rfl

theorem jsonStringValue_scalar (scalar : text.all isScalar = true) : jsonStringValue text = none := by
  rw [jsonStringValue, if_pos]
  cases text with
  | nil => exact .inl (by decide)
  | cons first text =>
    refine .inr (.inl fun same => ?_)
    cases same
    cases scalar

/-! ## Numbers -/

theorem takeWhile_digits (value : Nat) : (printNat value).takeWhile isDigit = printNat value :=
  List.takeWhile_eq_self_iff.mpr (List.all_eq_true.mp (isDigit_printNat value))

theorem jsonIntValue_printInt (value : Int) :
    jsonIntValue (printInt value) = if value < -2 ^ 31 ∨ 2 ^ 31 ≤ value then none else some (Int32.ofInt value) := by
  have digits := takeWhile_digits value.natAbs
  have some := printNat_ne_nil value.natAbs
  by_cases negative : value < 0
  · have minus : isSpace (code '-') = false := rfl
    have same : -((value.natAbs : Nat) : Int) = value := by omega
    have kept : (printInt value).dropWhile isSpace = code '-' :: printNat value.natAbs := by simp [printInt, negative, minus]
    simp only [jsonIntValue, kept, List.head?_cons, true_or, if_true, List.tail_cons, digits, some, false_or,
      digitsValue_printNat, same]
  · obtain ⟨first, rest, split⟩ := List.exists_cons_of_ne_nil some
    have number : isDigit first = true := List.all_eq_true.mp (isDigit_printNat value.natAbs) first (by simp [split])
    have minus : first ≠ code '-' := by rintro rfl; cases number
    have plus : first ≠ code '+' := by rintro rfl; cases number
    have same : ((value.natAbs : Nat) : Int) = value := by omega
    have kept : (printInt value).dropWhile isSpace = printNat value.natAbs := by
      simp [printInt, negative, split, not_space_of_digit number]
    have head : (printNat value.natAbs).head? = Option.some first := by rw [split]; rfl
    simp [jsonIntValue, kept, head, minus, plus, digits, some, digitsValue_printNat, same]

theorem jsonIntValue_receiver (id : Int32) : jsonIntValue (printInt id.toInt) = some id := by
  have low := id.le_toInt
  have high := id.toInt_lt
  rw [jsonIntValue_printInt, if_neg (by omega), Int32.ofInt_toInt]

/-- A frequency is read as a signed number. -/
theorem jsonIntValue_printNat (value : UInt32) :
    (jsonIntValue (printNat value.toNat)).map Int32.toUInt32 = if value.toNat < 2 ^ 31 then some value else none := by
  have written : printNat value.toNat = printInt value.toNat := by simp [printInt]
  rw [written, jsonIntValue_printInt]
  by_cases small : value.toNat < 2 ^ 31
  · rw [if_neg (by omega), if_pos small, Option.map_some, Int32.ofInt_eq_ofNat, Int32.toUInt32_ofNat', UInt32.ofNat_toNat]
  · rw [if_pos (by omega), if_neg small]
    rfl

end RemoteReceiver
end WhRepeater
