import WhRepeater.ApiSurvival
import WhRepeater.PiPttReloads
import WhRepeater.ReceiverMembers

/-! A line of the Pi that the PC asks for (`GatewayStatusClient::writeGpio`), and
what the Pi reads of it (`POST /api/gpio/write`). The chip is put between quotes
as it is, the members are searched by their quoted names, and the line is read as
an `int`. -/
namespace WhRepeater

open TextScan
open RemoteReceiver (passes_scalar)
open ApiServer (member object boolean memberValue jsonIntValue jsonBoolValue unquotedJsonString unescaped trimJson)

/-- The chip as it is written. -/
def quoted (chip : Bytes) : Bytes := code '"' :: (chip ++ [code '"'])

/-- The body of the request. -/
def GatewayStatusClient.writeGpioBody (write : PiGpioWrite) : Bytes := object [
  member "chip" (quoted write.line.chip),
  member "line" (printNat write.line.offset.toNat),
  member "activeHigh" (boolean write.activeHigh),
  member "active" (boolean write.active)]

/-- What `POST /api/gpio/write` takes from a body, unless a field is missing or
invalid. -/
def ApiServer.gpioWrite (body : Bytes) : Except String (Option PiGpioWrite) := do
  let chipValue ← jsonMember body (bytes "chip")
  let line ← memberValue body "line" jsonIntValue
  let activeHigh := (← memberValue body "activeHigh" jsonBoolValue).getD true
  let active ← memberValue body "active" jsonBoolValue
  match line, active with
  | some line, some active =>
    if line < 0 then return none
    else do
      let chip ← match chipValue with
        | none => pure (bytes "/dev/gpiochip0")
        | some value => unquotedJsonString value
      return some ⟨⟨chip, line.toInt.toNat.toUInt32⟩, activeHigh, active⟩
  | _, _ => return none

/-- How the server answers what it has read. -/
def ApiServer.answerWrite (machine : Machine) : Option PiGpioWrite → Response
  | none => badRequest "missing or invalid GPIO write fields"
  | some write =>
    match machine.gpioWriteLine write.line.chip write.line.offset write.activeHigh write.active with
    | some error => failure error
    | none => accepted [
        member "chip" (jsonString write.line.chip),
        member "line" (printNat write.line.offset.toNat),
        member "activeHigh" (boolean write.activeHigh),
        member "active" (boolean write.active)]

variable {body request chip text rest : Bytes} {write : PiGpioWrite} {machine : ApiServer.Machine}

theorem printInt_line {line : Int32} (positive : ¬ line < 0) :
    printInt line.toInt = printNat line.toInt.toNat.toUInt32.toNat := by
  have low : 0 ≤ line.toInt := by
    have := Int32.lt_iff_toInt_lt.not.mp positive
    simpa using this
  have high := line.toInt_lt
  have same : line.toInt.toNat.toUInt32.toNat = line.toInt.toNat := by
    rw [Nat.toUInt32, UInt32.toNat_ofNat', Nat.mod_eq_of_lt (by omega)]
  rw [same, printInt, if_neg (by omega)]
  congr 1
  omega

/-- The line that is driven is the one that is read from the body. -/
theorem writeGpio_reads (read : ApiServer.requestBody request = .ok (some body)) :
    ApiServer.writeGpio machine request = (ApiServer.gpioWrite body).map (ApiServer.answerWrite machine) := by
  unfold ApiServer.writeGpio ApiServer.gpioWrite
  rw [read]
  simp only [bind, Except.bind]
  rcases jsonMember body (bytes "chip") with _ | chipValue
  · rfl
  rcases memberValue body "line" jsonIntValue with _ | line
  · rfl
  rcases memberValue body "activeHigh" jsonBoolValue with _ | activeHigh
  · rfl
  rcases memberValue body "active" jsonBoolValue with _ | active
  · rfl
  dsimp only
  rcases line with _ | line <;> rcases active with _ | active
  · rfl
  · rfl
  · rfl
  dsimp only
  split
  · rfl
  · rename_i positive
    have same := printInt_line positive
    cases chipValue with
    | none =>
      simp only [pure, Except.pure, Except.map, ApiServer.answerWrite, same]
      rcases machine.gpioWriteLine (bytes "/dev/gpiochip0") line.toInt.toNat.toUInt32 (activeHigh.getD true) active with
        _ | error
      · rfl
      · rfl
    | some value =>
      simp only
      rcases unquotedJsonString value with _ | chip
      · rfl
      · simp only [pure, Except.pure, Except.map, ApiServer.answerWrite, same]
        rcases machine.gpioWriteLine chip line.toInt.toNat.toUInt32 (activeHigh.getD true) active with _ | error
        · rfl
        · rfl

/-! ## The chip between its quotes -/

/-- Neither a quote nor a backslash. -/
def PlainText (text : Bytes) : Prop := ∀ ch ∈ text, ch ≠ code '"' ∧ ch ≠ code '\\'

/-- What the text is up to its closing quote, the characters behind backslashes
standing for themselves. -/
def inner (text : Bytes) : Option Bytes := (stringEnd false text).map fun count => unescaped (text.take (count - 1))

theorem stringEnd_pos {escaped : Bool} {count : Nat} (closed : stringEnd escaped text = some count) : 0 < count := by
  cases text with
  | nil => cases closed
  | cons ch text =>
    unfold stringEnd at closed
    repeat' split at closed
    all_goals first
      | exact pos_of_further closed
      | (cases closed; exact Nat.one_pos)

theorem unescaped_cons {ch : UInt8} (plain : ch ≠ code '\\') (rest : Bytes) : unescaped (ch :: rest) = ch :: unescaped rest := by
  cases rest with
  | nil => rfl
  | cons next rest => rw [unescaped, if_neg plain]

theorem unescaped_pair (ch : UInt8) (rest : Bytes) : unescaped (code '\\' :: ch :: rest) = ch :: unescaped rest := by
  rw [unescaped, if_pos rfl]

theorem inner_quote (rest : Bytes) : inner (code '"' :: rest) = some [] := rfl

theorem inner_cons {ch : UInt8} (quote : ch ≠ code '"') (backslash : ch ≠ code '\\') (rest : Bytes) :
    inner (ch :: rest) = (inner rest).map (ch :: ·) := by
  unfold inner
  rw [stringEnd, if_neg Bool.false_ne_true, if_neg backslash, if_neg quote]
  cases closed : stringEnd false rest with
  | none => rfl
  | some count =>
    obtain ⟨count, rfl⟩ := Nat.exists_eq_succ_of_ne_zero (stringEnd_pos closed).ne'
    exact congrArg some (unescaped_cons backslash _)

theorem inner_pair (ch : UInt8) (rest : Bytes) : inner (code '\\' :: ch :: rest) = (inner rest).map (ch :: ·) := by
  unfold inner
  rw [stringEnd, if_neg Bool.false_ne_true, if_pos rfl, stringEnd, if_pos rfl]
  cases closed : stringEnd false rest with
  | none => rfl
  | some count =>
    obtain ⟨count, rfl⟩ := Nat.exists_eq_succ_of_ne_zero (stringEnd_pos closed).ne'
    exact congrArg some (unescaped_pair ch _)

/-- The quote that closes a string, and the member behind it. -/
def closed (rest : Bytes) : Bytes := code '"' :: code ',' :: code '"' :: rest

theorem inner_plain (plain : PlainText chip) (rest : Bytes) : inner (chip ++ closed rest) = some chip := by
  induction chip with
  | nil => rfl
  | cons ch chip ih =>
    obtain ⟨⟨quote, backslash⟩, plain⟩ := List.forall_mem_cons.mp plain
    rw [List.cons_append, inner_cons quote backslash, ih plain]
    rfl

/-- What is found with one more character is no longer than what it is found in. -/
theorem front_of_inner {later front : Bytes} {first : UInt8}
    (ih : ∀ before, inner (later ++ closed rest) = some (before ++ later) → before = [] ∧ PlainText later)
    (found : (inner (later ++ closed rest)).map (first :: ·) = some (front ++ later)) (longer : front ≠ []) :
    front = [first] ∧ PlainText later := by
  obtain ⟨inside, within, same⟩ := Option.map_eq_some_iff.mp found
  obtain ⟨head, tail, rfl⟩ := List.exists_cons_of_ne_nil longer
  obtain ⟨rfl, rfl⟩ := List.cons.inj same
  obtain ⟨rfl, plain⟩ := ih tail within
  exact ⟨rfl, plain⟩

/-- Only a plain text comes back from between its quotes: any other ends too
early, or loses a backslash. -/
theorem plain_of_inner (rest : Bytes) :
    ∀ chip before : Bytes, inner (chip ++ closed rest) = some (before ++ chip) → before = [] ∧ PlainText chip
  | [], before, found => by
    have same : [] = before ++ [] := Option.some.inj found
    exact ⟨by simpa using same.symm, fun _ among => absurd among List.not_mem_nil⟩
  | [ch], before, found => by
    by_cases quote : ch = code '"'
    · subst quote
      have same : [] = before ++ [code '"'] := Option.some.inj found
      exact absurd same.symm (by simp)
    · by_cases backslash : ch = code '\\'
      · subst backslash
        -- The closing quote stands for itself, and the comma is the last of the text.
        have same : [code '"', code ','] = before ++ [code '\\'] := by
          rw [List.singleton_append, closed, inner_pair, inner_cons (by decide) (by decide), inner_quote] at found
          exact Option.some.inj found
        have last := congrArg List.getLast? same
        rw [List.getLast?_concat] at last
        exact absurd last (by decide)
      · rw [List.singleton_append, inner_cons quote backslash] at found
        obtain ⟨front, -⟩ := @front_of_inner _ [] (before ++ [ch]) _ (plain_of_inner rest [])
          (by simpa using found) (by simp)
        refine ⟨by simpa using front, fun _ among => ?_⟩
        obtain rfl := List.mem_singleton.mp among
        exact ⟨quote, backslash⟩
  | ch :: next :: chip, before, found => by
    by_cases quote : ch = code '"'
    · subst quote
      have same : [] = before ++ code '"' :: next :: chip := Option.some.inj found
      exact absurd same.symm (by simp)
    · by_cases backslash : ch = code '\\'
      · subst backslash
        rw [List.cons_append, List.cons_append, inner_pair] at found
        obtain ⟨front, -⟩ := @front_of_inner _ _ (before ++ [code '\\', next]) _ (plain_of_inner rest chip)
          (by simpa using found) (by simp)
        have lengths := congrArg List.length front
        simp at lengths
      · rw [List.cons_append, inner_cons quote backslash] at found
        obtain ⟨front, plain⟩ := @front_of_inner _ _ (before ++ [ch]) _ (plain_of_inner rest (next :: chip))
          (by simpa using found) (by simp)
        exact ⟨by simpa using front, List.forall_mem_cons.mpr ⟨⟨quote, backslash⟩, plain⟩⟩

theorem stringEnd_last {count : Nat} {escaped : Bool} (ends : stringEnd escaped text = some count) :
    text.take count = text.take (count - 1) ++ [code '"'] := by
  induction text generalizing count escaped with
  | nil => cases ends
  | cons ch text ih =>
    have further : ∀ {state : Bool}, (stringEnd state text).map (· + 1) = some count →
        (ch :: text).take count = (ch :: text).take (count - 1) ++ [code '"'] := by
      intro state reached
      obtain ⟨shorter, found, rfl⟩ := Option.map_eq_some_iff.mp reached
      obtain ⟨before, rfl⟩ := Nat.exists_eq_succ_of_ne_zero (stringEnd_pos found).ne'
      exact congrArg (ch :: ·) (ih found)
    rw [stringEnd] at ends
    split at ends
    · exact further ends
    · split at ends
      · exact further ends
      · split at ends
        · rename_i quote
          obtain rfl := Option.some.inj ends
          rw [quote]
          rfl
        · exact further ends

theorem trimJson_whole {value : Bytes} (some : value ≠ []) (first : ∀ ch ∈ value.head?, ApiServer.isBlank ch = false)
    (last : ∀ ch ∈ value.getLast?, ApiServer.isBlank ch = false) : trimJson value = .ok value := by
  have front : value.takeWhile ApiServer.isBlank = [] := by
    cases value with
    | nil => rfl
    | cons ch value => rw [List.takeWhile_cons_of_neg (by simp [first ch rfl])]
  have back : value.reverse.takeWhile ApiServer.isBlank = [] := by
    cases reversed : value.reverse with
    | nil => rfl
    | cons ch rest =>
      have ends : value.getLast? = Option.some ch := by
        rw [← List.head?_reverse, reversed]
        rfl
      rw [List.takeWhile_cons_of_neg (by simp [last ch ends])]
  have length : 0 < value.length := List.length_pos_iff.mpr some
  unfold trimJson
  dsimp only
  rw [front, back, List.length_nil, if_neg (by omega), substr_ok (Nat.zero_le _), List.drop_zero, List.take_of_length_le (by omega)]

/-- The value of a string, and what is read of it. -/
theorem unquoted_value {value : Bytes} (found : valueOf (code '"' :: text) = some value) :
    ∃ inside, inner text = some inside ∧ unquotedJsonString value = .ok inside := by
  have quote : isSpace (code '"') = false := rfl
  have kept : (code '"' :: text).dropWhile isSpace = code '"' :: text := List.dropWhile_cons_of_neg (by simp [quote])
  rw [valueOf, kept, valueLength, if_neg (by decide), if_pos rfl] at found
  obtain ⟨whole, length, rfl⟩ := Option.map_eq_some_iff.mp found
  obtain ⟨count, ends, rfl⟩ := Option.map_eq_some_iff.mp length
  have written : (code '"' :: text).take (count + 1) = code '"' :: (text.take (count - 1) ++ [code '"']) :=
    congrArg (code '"' :: ·) (stringEnd_last ends)
  have blank : ApiServer.isBlank (code '"') = false := rfl
  have last : (code '"' :: (text.take (count - 1) ++ [code '"'])).getLast? = some (code '"') := by
    rw [← List.cons_append, List.getLast?_concat]
  refine ⟨_, by rw [inner, ends]; rfl, ?_⟩
  rw [written, unquotedJsonString, trimJson_whole (List.cons_ne_nil _ _) (by rintro ch ⟨⟩; exact blank)
    (by rw [last]; rintro ch ⟨⟩; exact blank)]
  simp only [bind, Except.bind, last, List.head?_cons, ne_eq, not_true, or_false, List.tail_cons, List.dropLast_concat]
  rw [if_neg (by simp)]
  rfl

/-! ## Members behind the chip -/

/-- Before the first quotes of two texts the texts are the same. -/
theorem before_quote {first second more : Bytes} (plain : code '"' ∉ first) (other : code '"' ∉ second)
    (front : first ++ [code '"'] <+: second ++ code '"' :: more) : first = second := by
  obtain ⟨behind, same⟩ := front
  have taken := congrArg (List.takeWhile (· ≠ code '"')) same
  have whole : ∀ {text : Bytes}, code '"' ∉ text → ∀ rest : Bytes,
      (text ++ code '"' :: rest).takeWhile (· ≠ code '"') = text := by
    intro text absent rest
    have kept : ∀ ch ∈ text, decide (ch ≠ code '"') = true := fun ch among =>
      decide_eq_true fun same => absent (same ▸ among)
    rw [List.takeWhile_append_of_pos kept]
    simp
  rwa [List.append_assoc, List.singleton_append, whole plain, whole other] at taken

variable {name : Bytes} {ch : UInt8}

/-- A text without quotes is found between its quotes only as a whole. -/
theorem behind_quoted (word : Word name) (plain : code '"' ∉ chip) (other : isLetter ch = false) (rest : Bytes) :
    behind (key name []) (quoted chip ++ ch :: rest) =
      if chip = name then some (ch :: rest) else behind (key name []) (ch :: rest) := by
  have written : quoted chip ++ ch :: rest = code '"' :: (chip ++ code '"' :: ch :: rest) := by simp [quoted]
  by_cases same : chip = name
  · have found : code '"' :: (chip ++ code '"' :: ch :: rest) = key name [] ++ ch :: rest := by simp [key, same]
    rw [if_pos same, written, found, behind_front key_ne_nil]
  · have opening : ¬ key name [] <+: code '"' :: (chip ++ code '"' :: ch :: rest) := fun there =>
      same (before_quote (not_quote_of_letters word.2) plain (List.cons_prefix_cons.mp there).2).symm
    have closing : ¬ key name [] <+: code '"' :: ch :: rest := by
      intro there
      obtain ⟨first, name, rfl⟩ := List.exists_cons_of_ne_nil word.1
      have letter := List.all_eq_true.mp word.2 first List.mem_cons_self
      rw [(List.cons_prefix_cons.mp (List.cons_prefix_cons.mp there).2).1, other] at letter
      cases letter
    rw [if_neg same, written, behind_cons opening, behind_key_append plain, behind_cons closing]

theorem passes_chip (word : Word name) (letters : bytes "chip" ≠ name) (plain : code '"' ∉ chip) (other : chip ≠ name) :
    Passes name [] (member "chip" (quoted chip)) := by
  refine passes_member word rfl letters fun ch rest ends => ?_
  rw [behind_quoted word plain ends.not_letter, if_neg other, behind_key_cons ends.not_quote]

theorem stops_chip (word : Word name) (letters : bytes "chip" ≠ name) (plain : code '"' ∉ name) :
    Stops name (member "chip" (quoted name)) [] := by
  refine stops_member word rfl letters fun ch rest ends => ?_
  rw [behind_quoted word plain ends.not_letter, if_pos rfl]
  rfl

/-- The members behind the chip, as they are written. -/
def driven (write : PiGpioWrite) : List Bytes := [
  member "line" (printNat write.line.offset.toNat),
  member "activeHigh" (boolean write.activeHigh),
  member "active" (boolean write.active)]

theorem scalar_boolean (flag : Bool) : Scalar (boolean flag) := by cases flag <;> decide

theorem chip_found (write : PiGpioWrite) :
    ∃ rest, jsonMember (GatewayStatusClient.writeGpioBody write) (bytes "chip") =
      .ok (valueOf (code '"' :: (write.line.chip ++ closed rest))) := by
  have stops := stops_key (by decide : Word (bytes "chip")) (quoted write.line.chip)
  have found := @jsonMember_stops _ _ _ [] (fun _ among => absurd among List.not_mem_nil) stops (driven write) []
  rw [List.append_nil, List.nil_append, List.cons_append, List.cons_append, behind_colon, Option.bind_some] at found
  refine ⟨bytes "line" ++ code '"' :: code ':' :: printNat write.line.offset.toNat ++ others (driven write).tail ++ [code '}'],
    found.trans (congrArg (fun text => Except.ok (valueOf text)) ?_)⟩
  simp [quoted, closed, driven, others, member]

/-- A chip that is named like a member gives it the value of the line. -/
theorem named_found {write : PiGpioWrite} (word : Word name) (letters : bytes "chip" ≠ name) (same : write.line.chip = name) :
    jsonMember (GatewayStatusClient.writeGpioBody write) name = .ok (some (printNat write.line.offset.toNat)) := by
  have stops := stops_chip word letters (not_quote_of_letters word.2)
  have found := @jsonMember_stops _ _ _ [] (fun _ among => absurd among List.not_mem_nil) stops (driven write) []
  have follows : ([] : Bytes) ++ others (driven write) ++ code '}' :: [] =
      [code ','] ++ (member "line" (printNat write.line.offset.toNat) ++ (others (driven write).tail ++ [code '}'])) := by
    simp [driven, others]
  obtain ⟨next, more, split, closes⟩ := others_next (driven write).tail (code '}') []
  rw [follows, behind_colon_member (by decide) rfl, Option.bind_some, split,
    read_scalar (scalar_printNat _) next more closes, List.append_nil] at found
  rw [← found, ← same]
  rfl

theorem line_found {write : PiGpioWrite} (plain : code '"' ∉ write.line.chip) :
    jsonMember (GatewayStatusClient.writeGpioBody write) (bytes "line") = .ok (some (printNat write.line.offset.toNat)) := by
  have word : Word (bytes "line") := by decide
  by_cases named : write.line.chip = bytes "line"
  · exact named_found word (by decide) named
  · have passes : ∀ before ∈ [member "chip" (quoted write.line.chip)], Passes (bytes "line") [] before := by
      intro before among
      rw [List.mem_singleton.mp among]
      exact passes_chip word (by decide) plain named
    have found := jsonMember_found word passes (read_scalar (scalar_printNat write.line.offset.toNat)) (driven write).tail []
    rwa [List.append_nil] at found

theorem activeHigh_found {write : PiGpioWrite} (plain : code '"' ∉ write.line.chip)
    (other : write.line.chip ≠ bytes "activeHigh") :
    jsonMember (GatewayStatusClient.writeGpioBody write) (bytes "activeHigh") = .ok (some (boolean write.activeHigh)) := by
  have word : Word (bytes "activeHigh") := by decide
  have passes : ∀ before ∈ [member "chip" (quoted write.line.chip), member "line" (printNat write.line.offset.toNat)],
      Passes (bytes "activeHigh") [] before := by
    intro before among
    rcases List.mem_cons.mp among with rfl | later
    · exact passes_chip word (by decide) plain other
    · rw [List.mem_singleton.mp later]
      exact passes_member word rfl (by decide) (passes_scalar (scalar_printNat _))
  have found := jsonMember_found word passes (read_scalar (scalar_boolean write.activeHigh))
    [member "active" (boolean write.active)] []
  rwa [List.append_nil] at found

theorem active_found {write : PiGpioWrite} (plain : code '"' ∉ write.line.chip) (other : write.line.chip ≠ bytes "active") :
    jsonMember (GatewayStatusClient.writeGpioBody write) (bytes "active") = .ok (some (boolean write.active)) := by
  have word : Word (bytes "active") := by decide
  have passes : ∀ before ∈ [member "chip" (quoted write.line.chip), member "line" (printNat write.line.offset.toNat),
      member "activeHigh" (boolean write.activeHigh)], Passes (bytes "active") [] before := by
    intro before among
    rcases List.mem_cons.mp among with rfl | later
    · exact passes_chip word (by decide) plain other
    · rcases List.mem_cons.mp later with rfl | last
      · exact passes_member word rfl (by decide) (passes_scalar (scalar_printNat _))
      · rw [List.mem_singleton.mp last]
        exact passes_member word rfl (by decide) (passes_scalar (scalar_boolean _))
  have found := jsonMember_found word passes (read_scalar (scalar_boolean write.active)) [] []
  rwa [List.append_nil] at found

/-! ## What is read -/

theorem trimJson_digits {digits : Bytes} (some : digits ≠ []) (all : digits.all isDigit = true) : trimJson digits = .ok digits := by
  have blank : ∀ ch ∈ digits, ApiServer.isBlank ch = false := fun ch among =>
    ApiServer.isBlank_digit (List.all_eq_true.mp all ch among)
  exact trimJson_whole some (fun ch head => blank ch (List.mem_of_mem_head? head)) fun ch last =>
    blank ch (List.mem_of_mem_getLast? last)

theorem trimJson_printNat (value : Nat) : trimJson (printNat value) = .ok (printNat value) :=
  trimJson_digits (JsonParser.printNat_ne_nil value) (JsonParser.isDigit_printNat value)

theorem jsonIntValue_line (value : Nat) : jsonIntValue (printNat value) = .ok (some (Int32.ofInt value)) := by
  have digits := JsonParser.isDigit_printNat value
  have unsigned : (printNat value).head? ≠ some (code '-') := by
    intro head
    have digit := List.all_eq_true.mp digits _ (List.mem_of_mem_head? head)
    cases digit
  unfold ApiServer.jsonIntValue ApiServer.jsonInteger
  rw [trimJson_printNat]
  simp only [bind, Except.bind, unsigned, if_false, JsonParser.printNat_ne_nil, digits, Bool.true_eq_false, or_self,
    pure, Except.pure, Option.map_some, JsonParser.digitsValue_printNat]

theorem jsonBoolValue_boolean (flag : Bool) : jsonBoolValue (boolean flag) = .ok (some flag) := by cases flag <;> rfl

/-- A number is no boolean. -/
theorem jsonBoolValue_printNat (value : Nat) : jsonBoolValue (printNat value) = .ok none := by
  have other : ∀ literal : Bytes, literal.all isDigit = false → printNat value ≠ literal := by
    rintro literal never rfl
    rw [JsonParser.isDigit_printNat] at never
    cases never
  unfold ApiServer.jsonBoolValue
  rw [trimJson_printNat]
  simp only [bind, Except.bind, other (bytes "true") rfl, other (bytes "false") rfl, if_false]
  rfl

theorem memberValue_found {object value : Bytes} {label : String} (found : jsonMember object (bytes label) = .ok (some value))
    (read : Bytes → Except String (Option α)) : memberValue object label read = read value := by
  rw [ApiServer.memberValue, found]
  rfl

theorem line_negative {line : UInt32} : Int32.ofInt line.toNat < 0 ↔ 2 ^ 31 ≤ line.toNat := by
  have bound := line.toNat_lt
  have size : Int32.size = 2 ^ 32 := rfl
  rw [Int32.lt_iff_toInt_lt, Int32.toInt_ofInt, size]
  simp only [Int.bmod, Int32.toInt_zero]
  split <;> omega

theorem line_kept {line : UInt32} (small : ¬ 2 ^ 31 ≤ line.toNat) : (Int32.ofInt line.toNat).toInt.toNat.toUInt32 = line := by
  have same : (Int32.ofInt line.toNat).toInt = line.toNat := Int32.toInt_ofInt_of_le (by omega) (by omega)
  rw [same, Int.toNat_natCast]
  exact UInt32.ofNat_toNat

/-- The flag as it is read: that of a chip with its name is missing. -/
def readActiveHigh (write : PiGpioWrite) : Bool :=
  if write.line.chip = bytes "activeHigh" then true else write.activeHigh

theorem activeHigh_read {write : PiGpioWrite} (plain : code '"' ∉ write.line.chip) :
    ∃ flag, memberValue (GatewayStatusClient.writeGpioBody write) "activeHigh" jsonBoolValue = .ok flag ∧
      flag.getD true = readActiveHigh write := by
  unfold readActiveHigh
  by_cases named : write.line.chip = bytes "activeHigh"
  · refine ⟨none, ?_, by rw [if_pos named]; rfl⟩
    rw [memberValue_found (named_found (by decide) (by decide) named), jsonBoolValue_printNat]
  · refine ⟨some write.activeHigh, ?_, by rw [if_neg named]; rfl⟩
    rw [memberValue_found (activeHigh_found plain named), jsonBoolValue_boolean]

theorem chip_read {write : PiGpioWrite} (plain : PlainText write.line.chip) :
    ∃ value, jsonMember (GatewayStatusClient.writeGpioBody write) (bytes "chip") = .ok (some value) ∧
      unquotedJsonString value = .ok write.line.chip := by
  obtain ⟨rest, found⟩ := chip_found write
  have within := inner_plain plain rest
  cases value : valueOf (code '"' :: (write.line.chip ++ closed rest)) with
  | none =>
    have quote : isSpace (code '"') = false := rfl
    have kept : ∀ text, (code '"' :: text).dropWhile isSpace = code '"' :: text :=
      fun text => List.dropWhile_cons_of_neg (by simp [quote])
    obtain ⟨count, ends, -⟩ := Option.map_eq_some_iff.mp within
    rw [valueOf, kept, valueLength, if_neg (by decide), if_pos rfl, ends] at value
    cases value
  | some value =>
    obtain ⟨inside, same, read⟩ := unquoted_value value
    rw [within] at same
    obtain rfl := Option.some.inj same
    exact ⟨_, by rw [found, value], read⟩

/-- What the Pi takes from the body, of a plain chip. -/
theorem gpioWrite_plain {write : PiGpioWrite} (plain : PlainText write.line.chip) :
    ApiServer.gpioWrite (GatewayStatusClient.writeGpioBody write) =
      .ok (if write.line.chip = bytes "active" ∨ 2 ^ 31 ≤ write.line.offset.toNat then none
        else some { write with activeHigh := readActiveHigh write }) := by
  have unquoted : code '"' ∉ write.line.chip := fun among => (plain _ among).1 rfl
  obtain ⟨value, chip, chip_kept⟩ := chip_read plain
  obtain ⟨flag, activeHigh, same⟩ := activeHigh_read unquoted
  have line := memberValue_found (line_found unquoted) jsonIntValue
  unfold ApiServer.gpioWrite
  rw [chip, line, jsonIntValue_line, activeHigh]
  by_cases named : write.line.chip = bytes "active"
  · rw [memberValue_found (named_found (by decide) (by decide) named), jsonBoolValue_printNat, if_pos (.inl named)]
    rfl
  · rw [memberValue_found (active_found unquoted named), jsonBoolValue_boolean]
    simp only [bind, Except.bind, same, chip_kept]
    by_cases large : 2 ^ 31 ≤ write.line.offset.toNat
    · rw [if_pos (line_negative.mpr large), if_pos (.inr large)]
      rfl
    · rw [if_neg (line_negative.not.mpr large), if_neg (not_or.mpr ⟨named, large⟩), line_kept large]
      rfl

/-- A chip that comes back is plain. -/
theorem plain_of_gpioWrite {write read : PiGpioWrite}
    (decoded : ApiServer.gpioWrite (GatewayStatusClient.writeGpioBody write) = .ok (some read))
    (same : read.line.chip = write.line.chip) : PlainText write.line.chip := by
  obtain ⟨rest, found⟩ := chip_found write
  unfold ApiServer.gpioWrite at decoded
  rw [found] at decoded
  simp only [bind_eq_ok] at decoded
  obtain ⟨_, chipValue, line, -, flag, -, active, -, decoded⟩ := decoded
  obtain rfl := Except.ok.inj chipValue
  rcases line with _ | line
  · cases decoded
  rcases active with _ | active
  · cases decoded
  dsimp only at decoded
  split at decoded
  · cases decoded
  · cases found : valueOf (code '"' :: (write.line.chip ++ closed rest)) with
    | none =>
      -- The chip of the defaults, which is plain itself.
      rw [found] at decoded
      obtain rfl := Option.some.inj (Except.ok.inj decoded)
      have default : bytes "/dev/gpiochip0" = write.line.chip := same
      rw [← default]
      unfold PlainText
      decide +kernel
    | some value =>
      obtain ⟨inside, within, read⟩ := unquoted_value found
      rw [found] at decoded
      dsimp only at decoded
      rw [read] at decoded
      obtain rfl := Option.some.inj (Except.ok.inj decoded)
      obtain rfl : inside = write.line.chip := same
      exact (plain_of_inner rest write.line.chip [] within).2

/-- The condition under which the Pi takes what the PC asks for. -/
structure Carried (write : PiGpioWrite) : Prop where
  chip : PlainText write.line.chip
  line : write.line.offset.toNat < 2 ^ 31
  active : write.line.chip ≠ bytes "active"
  activeHigh : write.line.chip = bytes "activeHigh" → write.activeHigh = true

/-- The same chip, line, polarity and level arrive exactly if the chip is written
without quotes and backslashes, its name is not that of a member that follows,
and the line is an `int`. -/
theorem gpio_write_carried_iff (write : PiGpioWrite) :
    ApiServer.gpioWrite (GatewayStatusClient.writeGpioBody write) = .ok (some write) ↔ Carried write := by
  constructor
  · intro decoded
    have plain := plain_of_gpioWrite decoded rfl
    rw [gpioWrite_plain plain] at decoded
    split at decoded
    · cases decoded
    · rename_i kept
      obtain ⟨active, line⟩ := not_or.mp kept
      refine ⟨plain, Nat.lt_of_not_le line, active, fun named => ?_⟩
      have same := congrArg PiGpioWrite.activeHigh (Option.some.inj (Except.ok.inj decoded))
      rw [← same, readActiveHigh, if_pos named]
  · rintro ⟨plain, line, active, activeHigh⟩
    rw [gpioWrite_plain plain, if_neg (not_or.mpr ⟨active, Nat.not_le.mpr line⟩)]
    have same : readActiveHigh write = write.activeHigh := by
      unfold readActiveHigh
      split
      · rename_i named
        exact (activeHigh named).symm
      · rfl
    rw [same]

/-- A quote ends the chip for the Pi. -/
theorem quoted_chip_not_carried :
    ¬ ∀ write : PiGpioWrite, ApiServer.gpioWrite (GatewayStatusClient.writeGpioBody write) = .ok (some write) := by
  intro always
  have plain := plain_of_gpioWrite (always ⟨⟨bytes "/dev/gpio\"chip", 17⟩, true, true⟩) rfl
  exact absurd rfl (plain (code '"') (by decide)).1

end WhRepeater
