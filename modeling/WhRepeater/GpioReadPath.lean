import WhRepeater.ApiSurvival

/-! A line of the Pi that the PC asks for the level of
(`GatewayStatusClient::readGpio`), and what the Pi reads of the path
(`GET /api/gpio/read`). Every reserved byte of the chip is written as two digits,
so that none of them can be taken for a separator. -/
namespace WhRepeater

open TextScan
open ApiServer (boolean hexValue urlDecode queryItem queryFrom queryParameter queryBool queryUint32 strtoul)

namespace GatewayStatusClient

/-- A byte that is written as it is. -/
def unreserved (byte : UInt8) : Bool :=
  (code 'A' ≤ byte && byte ≤ code 'Z') || (code 'a' ≤ byte && byte ≤ code 'z') || (code '0' ≤ byte && byte ≤ code '9') ||
    byte == code '-' || byte == code '_' || byte == code '.' || byte == code '~'

/-- A digit of `std::uppercase << std::hex`. -/
def upperDigit (value : UInt8) : UInt8 := if value < 10 then 48 + value else 55 + value

def encodeByte (byte : UInt8) : Bytes :=
  if unreserved byte then [byte] else [code '%', upperDigit (byte >>> 4), upperDigit (byte &&& 0x0f)]

def urlEncode (value : Bytes) : Bytes := value.flatMap encodeByte

/-- The path of the request. -/
def readGpioPath (chip : Bytes) (line : UInt32) (activeHigh : Bool) : Bytes :=
  bytes "/api/gpio/read?chip=" ++ urlEncode chip ++ bytes "&line=" ++ printNat line.toNat ++ bytes "&activeHigh=" ++
    boolean activeHigh

end GatewayStatusClient

open GatewayStatusClient (unreserved upperDigit encodeByte urlEncode readGpioPath)

variable {byte ch : UInt8} {key value text front rest : Bytes} {name : String}

/-! ## Bytes -/

theorem hexValue_upperDigit (small : byte < 16) : hexValue (upperDigit byte) = some byte := by
  have all : ∀ digit : Fin 16, hexValue (upperDigit (UInt8.ofNat digit)) = some (UInt8.ofNat digit) := by decide
  have bound : byte.toNat < 16 := UInt8.lt_iff_toNat_lt.mp small
  have found := all ⟨byte.toNat, bound⟩
  rwa [UInt8.ofNat_toNat] at found

theorem nibbles (byte : UInt8) : byte >>> 4 < 16 ∧ byte &&& 0x0f < 16 ∧ ((byte >>> 4) <<< 4) ||| (byte &&& 0x0f) = byte := by
  have all : ∀ number : Fin 256, UInt8.ofNat number >>> 4 < 16 ∧ UInt8.ofNat number &&& 0x0f < 16 ∧
      ((UInt8.ofNat number >>> 4) <<< 4) ||| (UInt8.ofNat number &&& 0x0f) = UInt8.ofNat number := by decide +kernel
  have found := all ⟨byte.toNat, byte.toNat_lt⟩
  rwa [UInt8.ofNat_toNat] at found

theorem upperDigit_plain (small : byte < 16) : isDigit (upperDigit byte) = true ∨ (65 ≤ upperDigit byte ∧ upperDigit byte ≤ 70) := by
  have all : ∀ digit : Fin 16, isDigit (upperDigit (UInt8.ofNat digit)) = true ∨
      (65 ≤ upperDigit (UInt8.ofNat digit) ∧ upperDigit (UInt8.ofNat digit) ≤ 70) := by decide
  have bound : byte.toNat < 16 := UInt8.lt_iff_toNat_lt.mp small
  have found := all ⟨byte.toNat, bound⟩
  rwa [UInt8.ofNat_toNat] at found

/-- What separates the parts of a path, and the plus sign. -/
def Separator (ch : UInt8) : Prop := ch = code '?' ∨ ch = code '&' ∨ ch = code '=' ∨ ch = code '+'

theorem not_separator_of_digit (small : byte < 16) : ¬ Separator (upperDigit byte) := by
  rintro (same | same | same | same)
  all_goals
    have plain := upperDigit_plain small
    rw [same] at plain
    exact absurd plain (by decide)

theorem not_separator_of_unreserved (plain : unreserved byte = true) : ¬ Separator byte := by
  rintro (rfl | rfl | rfl | rfl) <;> cases plain

/-- No separator is left in what is encoded. -/
theorem separator_encoded (separator : Separator ch) (value : Bytes) : ch ∉ urlEncode value := by
  intro among
  obtain ⟨byte, -, written⟩ := List.mem_flatMap.mp among
  obtain ⟨high, low, -⟩ := nibbles byte
  unfold encodeByte at written
  split at written
  · rename_i plain
    exact not_separator_of_unreserved plain (List.mem_singleton.mp written ▸ separator)
  · simp only [List.mem_cons, List.not_mem_nil, or_false] at written
    rcases written with rfl | rfl | rfl
    · exact absurd separator (by unfold Separator; decide)
    · exact not_separator_of_digit high separator
    · exact not_separator_of_digit low separator

theorem urlDecode_cons (plus : ch ≠ code '+') (percent : ch ≠ code '%') (rest : Bytes) :
    urlDecode (ch :: rest) = ch :: urlDecode rest := by
  match rest with
  | [] => simp [urlDecode, plus]
  | [_] => simp [urlDecode, plus]
  | _ :: _ :: _ => rw [urlDecode, if_neg plus, if_neg percent]

theorem urlDecode_encodeByte (byte : UInt8) (rest : Bytes) : urlDecode (encodeByte byte ++ rest) = byte :: urlDecode rest := by
  obtain ⟨high, low, whole⟩ := nibbles byte
  unfold encodeByte
  split
  · rename_i plain
    refine urlDecode_cons (fun same => not_separator_of_unreserved plain (.inr (.inr (.inr same)))) ?_ rest
    rintro rfl
    cases plain
  · rw [List.cons_append, List.cons_append, List.cons_append, List.nil_append, urlDecode, if_neg (by decide), if_pos rfl,
      hexValue_upperDigit high, hexValue_upperDigit low]
    exact congrArg (· :: urlDecode rest) whole

theorem urlDecode_urlEncode (value : Bytes) : urlDecode (urlEncode value) = value := by
  induction value with
  | nil => rfl
  | cons byte value ih =>
    rw [urlEncode, List.flatMap_cons, urlDecode_encodeByte]
    exact congrArg (byte :: ·) ih

/-- What has no escapes and no plus signs stands for itself. -/
theorem urlDecode_plain (plain : ∀ ch ∈ text, ch ≠ code '+' ∧ ch ≠ code '%') : urlDecode text = text := by
  induction text with
  | nil => rfl
  | cons ch text ih =>
    obtain ⟨⟨plus, percent⟩, plain⟩ := List.forall_mem_cons.mp plain
    rw [urlDecode_cons plus percent, ih plain]

/-! ## Parameters -/

theorem queryItem_written (plain : code '=' ∉ key) (value : Bytes) :
    queryItem (key ++ code '=' :: value) = .ok (key, value) := by
  have equals := @find_separator key [] value (code '=') plain
  rw [List.nil_append, List.length_nil, Nat.zero_add] at equals
  have within : key.length + 1 ≤ (key ++ code '=' :: value).length := by simp
  have behind : (key ++ code '=' :: value).drop (key.length + 1) = value := by
    rw [← List.drop_drop, List.drop_left]
    rfl
  rw [queryItem, equals]
  simp only [substr_ok (Nat.zero_le _), substrFrom_ok within, List.drop_zero, behind, List.take_left]
  rfl

/-- An item of a query, which has no ampersand in it. -/
def queryPair (key value : Bytes) : Bytes := key ++ code '=' :: value

theorem queryPair_plain (plain : code '&' ∉ key) (other : code '&' ∉ value) : code '&' ∉ queryPair key value := by
  have equals : code '&' ≠ code '=' := by decide
  simp [queryPair, plain, other, equals]

/-- The item at the cursor is the one that is asked for, or it is passed over. -/
theorem queryFrom_item (name : Bytes) (plain : code '=' ∉ key) (item : code '&' ∉ queryPair key value) (rest : Bytes) :
    queryFrom (front ++ (queryPair key value ++ code '&' :: rest)) name front.length =
      if key = name then .ok (some (urlDecode value))
      else queryFrom (front ++ (queryPair key value ++ code '&' :: rest)) name (front.length + (queryPair key value).length + 1) := by
  have inside : front.length ≤ (front ++ (queryPair key value ++ code '&' :: rest)).length := by simp
  have next := @find_separator (queryPair key value) front rest (code '&') item
  have taken : ((front ++ (queryPair key value ++ code '&' :: rest)).drop front.length).take
      (front.length + (queryPair key value).length - front.length) = queryPair key value := by
    rw [List.drop_left, Nat.add_sub_cancel_left, List.take_left]
  have read : queryItem (queryPair key value) = .ok (key, value) := queryItem_written plain value
  rw [queryFrom, dif_pos inside]
  split
  · rename_i absent
    rw [next] at absent
    cases absent
  · rename_i position found
    obtain rfl := Option.some.inj (next.symm.trans found)
    simp only [substr_ok inside, taken, bind, Except.bind, read]
    rfl

theorem queryFrom_last (plain : code '=' ∉ key) (item : code '&' ∉ queryPair key value) :
    queryFrom (front ++ queryPair key value) key front.length = .ok (some (urlDecode value)) := by
  have inside : front.length ≤ (front ++ queryPair key value).length := by simp
  have read : queryItem (queryPair key value) = .ok (key, value) := queryItem_written plain value
  rw [queryFrom, dif_pos inside]
  split
  · simp only [substrFrom_ok inside, List.drop_left, bind, Except.bind, read, if_true]
    rfl
  · rename_i position found
    rw [find_absent item] at found
    cases found

/-! ## The path -/

/-- The three items of the query. -/
theorem readGpioPath_items (chip : Bytes) (line : UInt32) (activeHigh : Bool) :
    readGpioPath chip line activeHigh = bytes "/api/gpio/read" ++ code '?' ::
      (queryPair (bytes "chip") (urlEncode chip) ++ code '&' ::
        (queryPair (bytes "line") (printNat line.toNat) ++ code '&' ::
          queryPair (bytes "activeHigh") (boolean activeHigh))) := by
  have start : bytes "/api/gpio/read?chip=" = bytes "/api/gpio/read" ++ code '?' :: (bytes "chip" ++ [code '=']) := by decide
  have line_start : bytes "&line=" = code '&' :: (bytes "line" ++ [code '=']) := by decide
  have last_start : bytes "&activeHigh=" = code '&' :: (bytes "activeHigh" ++ [code '=']) := by decide
  rw [readGpioPath, start, line_start, last_start]
  simp [queryPair]

theorem queryParameter_query {route : Bytes} (plain : code '?' ∉ route) (query : Bytes) (name : String) :
    queryParameter (route ++ code '?' :: query) name =
      queryFrom (route ++ [code '?'] ++ query) (bytes name) (route ++ [code '?']).length := by
  have start := @find_separator route [] query (code '?') plain
  rw [List.nil_append, List.length_nil, Nat.zero_add] at start
  rw [queryParameter, start, List.append_assoc, List.length_append]
  rfl

/-- The items in front are passed over with their ampersands. -/
theorem queryFrom_pass (name : Bytes) (plain : code '=' ∉ key) (item : code '&' ∉ queryPair key value) (other : key ≠ name)
    (rest : Bytes) :
    queryFrom (front ++ (queryPair key value ++ code '&' :: rest)) name front.length =
      queryFrom (front ++ queryPair key value ++ [code '&'] ++ rest) name (front ++ queryPair key value ++ [code '&']).length := by
  rw [queryFrom_item name plain item, if_neg other]
  simp [Nat.add_assoc]

variable {chip : Bytes} {line : UInt32} {activeHigh : Bool}

theorem chip_item (chip : Bytes) : code '&' ∉ queryPair (bytes "chip") (urlEncode chip) :=
  queryPair_plain (by decide) (separator_encoded (.inr (.inl rfl)) chip)

theorem line_item (line : UInt32) : code '&' ∉ queryPair (bytes "line") (printNat line.toNat) :=
  queryPair_plain (by decide) (not_mem_digits (JsonParser.isDigit_printNat _) rfl)

theorem activeHigh_item (activeHigh : Bool) : code '&' ∉ queryPair (bytes "activeHigh") (boolean activeHigh) := by
  cases activeHigh <;> decide

theorem chip_parameter : queryParameter (readGpioPath chip line activeHigh) "chip" = .ok (some chip) := by
  rw [readGpioPath_items, queryParameter_query (by decide), queryFrom_item _ (by decide) (chip_item chip), if_pos rfl,
    urlDecode_urlEncode]

theorem line_parameter : queryParameter (readGpioPath chip line activeHigh) "line" = .ok (some (printNat line.toNat)) := by
  rw [readGpioPath_items, queryParameter_query (by decide), queryFrom_pass _ (by decide) (chip_item chip) (by decide),
    queryFrom_item _ (by decide) (line_item line), if_pos rfl]
  have digits := JsonParser.isDigit_printNat line.toNat
  rw [urlDecode_plain fun ch among => ⟨fun same => not_mem_digits digits rfl (same ▸ among), fun same =>
    not_mem_digits digits rfl (same ▸ among)⟩]

theorem activeHigh_parameter :
    queryParameter (readGpioPath chip line activeHigh) "activeHigh" = .ok (some (boolean activeHigh)) := by
  rw [readGpioPath_items, queryParameter_query (by decide), queryFrom_pass _ (by decide) (chip_item chip) (by decide),
    queryFrom_pass _ (by decide) (line_item line) (by decide), queryFrom_last (by decide) (activeHigh_item activeHigh)]
  cases activeHigh <;> rfl

/-! ## Numbers -/

/-- A number of 32 bits is read whole. -/
theorem strtoul_printNat (line : UInt32) : strtoul (printNat line.toNat) = some line.toNat := by
  have digits := JsonParser.isDigit_printNat line.toNat
  have bound := line.toNat_lt
  have absent := fun {ch : UInt8} (other : isDigit ch = false) => not_mem_digits digits other
  have kept : (printNat line.toNat).takeWhile (· ≠ 0) = printNat line.toNat :=
    List.takeWhile_eq_self_iff.mpr fun ch among => decide_eq_true fun same => absent rfl (same ▸ among)
  have whole : (printNat line.toNat).takeWhile isDigit = printNat line.toNat :=
    List.takeWhile_eq_self_iff.mpr (List.all_eq_true.mp digits)
  have nothing : (printNat line.toNat).dropWhile isDigit = [] :=
    List.dropWhile_eq_nil_iff.mpr (List.all_eq_true.mp digits)
  have unspaced : (printNat line.toNat).dropWhile isSpace = printNat line.toNat := by
    obtain ⟨first, rest, split⟩ := List.exists_cons_of_ne_nil (JsonParser.printNat_ne_nil line.toNat)
    have digit := List.all_eq_true.mp digits first (by rw [split]; exact List.mem_cons_self)
    rw [split, List.dropWhile_cons_of_neg (by rw [JsonParser.not_space_of_digit digit]; exact Bool.false_ne_true)]
  have unsigned : ∀ ch, isDigit ch = false → (printNat line.toNat).head? ≠ some ch := fun ch other head =>
    absent other (List.mem_of_mem_head? head)
  have minus := unsigned (code '-') rfl
  have plus := unsigned (code '+') rfl
  unfold strtoul
  simp only [kept, unspaced, minus, plus, whole, nothing, JsonParser.printNat_ne_nil, ne_eq, not_true, or_self, if_false,
    JsonParser.digitsValue_printNat]
  rw [if_neg (by omega)]

/-- The Pi asks its own line for the level: chip, line and polarity arrive as
they were sent, whatever the bytes of the chip are. -/
theorem gpio_read_round_trip (chip : Bytes) (line : UInt32) (activeHigh : Bool) :
    queryParameter (readGpioPath chip line activeHigh) "chip" = .ok (some chip) ∧
      queryUint32 (readGpioPath chip line activeHigh) "line" = .ok (some line) ∧
      queryBool (readGpioPath chip line activeHigh) "activeHigh" = .ok (some activeHigh) := by
  refine ⟨chip_parameter, ?_, ?_⟩
  · have bound := line.toNat_lt
    rw [queryUint32, line_parameter]
    simp only [bind, Except.bind, strtoul_printNat, if_neg (by omega : ¬ 2 ^ 32 ≤ line.toNat), UInt32.ofNat_toNat]
    rfl
  · rw [queryBool, activeHigh_parameter]
    cases activeHigh <;> rfl

end WhRepeater
