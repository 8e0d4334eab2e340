import Mathlib.Data.Nat.Digits.Lemmas
import WhRepeater.JsonGrammar
import WhRepeater.ReceiverFiltering
import WhRepeater.RemoteControl

/-! Every response of the API is JSON. The status of a PC has parts of the status of its
Pi in it, which are searched for by hand and put in as they are found. -/
namespace WhRepeater

open TextScan Outcomes
open JsonGrammar (Value Content Blank Bare)

namespace ApiServer

variable {ch : UInt8} {text value : Bytes} {items members : List Bytes}

/-! ## Texts and numbers -/

theorem hexadecimal_hexDigit {value : UInt8} (small : value < 16) : JsonGrammar.hexadecimal (hexDigit value) = true := by
  have all : ∀ digit : Fin 16, JsonGrammar.hexadecimal (hexDigit (UInt8.ofNat digit)) = true := by decide
  have found := all ⟨value.toNat, UInt8.lt_iff_toNat_lt.mp small⟩
  rwa [UInt8.ofNat_toNat] at found

theorem content_escape (ch : UInt8) : Content (escape ch) := by
  have letter : ∀ {letter : UInt8}, letter ∈ [34, 92, 47, 98, 102, 110, 114, 116] → Content [code '\\', letter] :=
    fun known => .escape _ [] known .nil
  unfold escape
  split_ifs with quote backslash _ _ _ _ _ control
  · exact letter (by decide)
  · exact letter (by decide)
  · exact letter (by decide)
  · exact letter (by decide)
  · exact letter (by decide)
  · exact letter (by decide)
  · exact letter (by decide)
  · refine .unit [code '0', code '0', hexDigit ((ch >>> 4) &&& 0x0f), hexDigit (ch &&& 0x0f)] [] rfl ?_ .nil
    simp only [List.forall_mem_cons]
    exact ⟨by decide, by decide, hexadecimal_hexDigit (nibbles (ch >>> 4)).2.1, hexadecimal_hexDigit (nibbles ch).2.1,
      List.forall_mem_nil _⟩
  · exact .plain ch [] (UInt8.not_lt.mp control) quote backslash .nil

theorem quoted_string (text : Bytes) : JsonGrammar.Quoted (jsonString text) :=
  ⟨text.flatMap escape, JsonGrammar.content_flatMap content_escape text, rfl⟩

theorem value_string (text : Bytes) : Value (jsonString text) := .string _ (quoted_string text)

theorem value_word (known : text ∈ JsonGrammar.words) : Value text := .word text known

theorem value_boolean (flag : Bool) : Value (boolean flag) := by cases flag <;> exact value_word (by decide)

/-- A number is written without zeros in front. -/
theorem whole_printNat (number : Nat) : JsonGrammar.Whole (printNat number) := by
  have digits : JsonGrammar.Digits (printNat number) :=
    ⟨JsonParser.printNat_ne_nil number, List.all_eq_true.mp (JsonParser.isDigit_printNat number)⟩
  refine ⟨digits, fun zero => ?_⟩
  unfold printNat at zero ⊢
  split
  · rfl
  · rename_i some
    rw [if_neg some] at zero
    have last := Nat.getLast_digit_ne_zero 10 some
    have shape : (Nat.digits 10 number).reverse.head? = Option.some ((Nat.digits 10 number).getLast (Nat.digits_ne_nil_iff_ne_zero.mpr some)) := by
      rw [List.head?_reverse, List.getLast?_eq_some_getLast]
    rw [List.head?_map, shape, Option.map_some] at zero
    have small := Nat.digits_lt_base (by decide : 1 < 10) (List.getLast_mem (Nat.digits_ne_nil_iff_ne_zero.mpr some))
    have byte := congrArg UInt8.toNat (Option.some.inj zero)
    rw [UInt8.toNat_ofNat'] at byte
    simp only [UInt8.reduceToNat] at byte
    omega

theorem value_printNat (number : Nat) : Value (printNat number) := by
  have value := Value.number [] (printNat number) [] [] ⟨.inl rfl, whole_printNat number, .inl rfl, .inl rfl⟩
  rwa [List.append_nil, List.append_nil, List.nil_append] at value

theorem value_printInt (number : Int) : Value (printInt number) := by
  unfold printInt
  split
  · have value := Value.number [45] (printNat number.natAbs) [] [] ⟨.inr rfl, whole_printNat _, .inl rfl, .inl rfl⟩
    rwa [List.append_nil, List.append_nil] at value
  · exact value_printNat _

theorem value_orNull {α : Type} {write : α → Bytes} {found : Option α} (written : ∀ item, found = some item → Value (write item)) :
    Value (orNull write found) := by
  cases found with
  | none => exact value_word (List.mem_cons_self)
  | some item => exact written item rfl

/-! ## Arrays and objects -/

theorem separated_joined (items : List Bytes) : separated [code ','] items = JsonGrammar.joined items := by
  induction items with
  | nil => rfl
  | cons first items ih =>
    cases items with
    | nil => rw [separated, JsonGrammar.joined_singleton]
    | cons second items =>
      rw [Document.separated_cons_cons, JsonGrammar.joined_cons, ih]
      rfl

theorem value_array (each : ∀ item ∈ items, Value item) : Value (array items) := by
  have written := Value.array items each
  rwa [JsonGrammar.array, ← separated_joined] at written

/-- No byte of a name needs an escape. -/
def plainName (name : String) : Bool := (bytes name).all fun ch => 32 ≤ ch && ch != code '"' && ch != code '\\'

theorem quoted_name {name : String} (plain : plainName name = true) : JsonGrammar.Quoted (code '"' :: bytes name ++ [code '"']) := by
  refine ⟨bytes name, ?_, rfl⟩
  unfold plainName at plain
  generalize bytes name = text at plain
  induction text with
  | nil => exact .nil
  | cons ch rest ih =>
    simp only [List.all_cons, Bool.and_eq_true, decide_eq_true_eq, bne_iff_ne] at plain
    exact .plain ch rest plain.1.1.1 plain.1.1.2 plain.1.2 (ih plain.2)

/-- A name and a value. -/
def Member (text : Bytes) : Prop := ∃ named, JsonGrammar.Name named.1 ∧ Value named.2 ∧ text = JsonGrammar.member named

theorem value_object (each : ∀ text ∈ members, Member text) : Value (object members) := by
  have written : ∃ pairs : List (Bytes × Bytes), (∀ named ∈ pairs, JsonGrammar.Name named.1) ∧ (∀ named ∈ pairs, Value named.2) ∧
      members = pairs.map JsonGrammar.member := by
    induction members with
    | nil => exact ⟨[], List.forall_mem_nil _, List.forall_mem_nil _, rfl⟩
    | cons first members ih =>
      obtain ⟨⟨named, name, value, rfl⟩, later⟩ := List.forall_mem_cons.mp each
      obtain ⟨pairs, names, values, rfl⟩ := ih later
      exact ⟨named :: pairs, List.forall_mem_cons.mpr ⟨name, names⟩, List.forall_mem_cons.mpr ⟨value, values⟩, rfl⟩
  obtain ⟨pairs, names, values, rfl⟩ := written
  have object := Value.object pairs names values
  rwa [JsonGrammar.object, ← separated_joined] at object

theorem name_quoted {quoted : Bytes} (string : JsonGrammar.Quoted quoted) : JsonGrammar.Name quoted :=
  ⟨[], quoted, [], List.forall_mem_nil _, string, List.forall_mem_nil _, by simp⟩

theorem member_pair (key : Bytes) (written : Value value) : Member (jsonString key ++ code ':' :: value) :=
  ⟨(jsonString key, value), name_quoted (quoted_string key), written, rfl⟩

theorem member_value {label : String} (plain : plainName label = true) (written : Value value) : Member (member label value) := by
  refine ⟨(code '"' :: bytes label ++ [code '"'], value), name_quoted (quoted_name plain), written, ?_⟩
  simp only [member, JsonGrammar.member, List.cons_append, List.append_assoc, List.nil_append]
  rfl

theorem members_cons {label : String} (plain : plainName label = true) (written : Value value)
    (each : ∀ text ∈ members, Member text) : ∀ text ∈ member label value :: members, Member text :=
  List.forall_mem_cons.mpr ⟨member_value plain written, each⟩

end ApiServer

/-! ## Brackets of values -/

theorem quoted_content {content : Bytes} (written : Content content) : Quoted content := by
  induction written with
  | nil => exact .nil
  | plain ch rest _ quote backslash _ ih => exact .plain quote backslash ih
  | escape letter rest _ _ ih => exact .escaped letter ih
  | unit digits rest _ each _ ih =>
    refine .escaped 117 ?_
    clear * - each ih
    induction digits with
    | nil => exact ih
    | cons digit digits further =>
      obtain ⟨here, each⟩ := List.forall_mem_cons.mp each
      have other : ∀ special, JsonGrammar.hexadecimal special = false → digit ≠ special := by
        rintro special never rfl
        rw [here] at never
        cases never
      exact .plain (other _ rfl) (other _ rfl) (further each)

theorem isSpace_blank {text : Bytes} (blank : Blank text) : JsonParser.Blank text := by
  refine List.all_eq_true.mpr fun ch among => ?_
  have kind := blank ch among
  simp only [JsonGrammar.blank, Bool.or_eq_true, beq_iff_eq] at kind
  rcases kind with ((rfl | rfl) | rfl) | rfl <;> rfl

theorem isBlank_blank {text : Bytes} (blank : Blank text) : text.all ApiServer.isBlank = true := by
  refine List.all_eq_true.mpr fun ch among => ?_
  have kind := blank ch among
  simp only [JsonGrammar.blank, Bool.or_eq_true, beq_iff_eq] at kind
  rcases kind with ((rfl | rfl) | rfl) | rfl <;> rfl

theorem scalar_number {sign whole fraction exponent : Bytes} (number : JsonGrammar.Number sign whole fraction exponent) :
    Scalar (sign ++ whole ++ fraction ++ exponent) := by
  refine ⟨by simp [number.whole.1.1], List.all_eq_true.mpr fun ch among => ?_⟩
  rcases JsonGrammar.number_bytes number ch among with digit | other
  · have same : isDigit ch = true := digit
    rw [isScalar, same]
    rfl
  · simp only [List.mem_cons, List.not_mem_nil, or_false] at other
    rcases other with rfl | rfl | rfl | rfl | rfl <;> rfl

theorem scalar_word {text : Bytes} (known : text ∈ JsonGrammar.words) : Scalar text := by
  simp only [JsonGrammar.words, List.mem_cons, List.not_mem_nil, or_false] at known
  rcases known with rfl | rfl | rfl <;> decide

section

variable {opening closing : UInt8} {text : Bytes}

theorem pair_of_mem (pair : (opening, closing) ∈ [((91 : UInt8), (93 : UInt8)), (123, 125)]) : Pair opening closing := by
  simp only [List.mem_cons, Prod.mk.injEq, List.not_mem_nil, or_false] at pair
  exact pair.symm

theorem balanced_joined {items : List Bytes} (pair : Pair opening closing) (each : ∀ item ∈ items, Balanced opening closing item) :
    Balanced opening closing (JsonGrammar.joined items) := by
  rw [← ApiServer.separated_joined]
  exact balanced_separated pair each

theorem balanced_members {members : List (Bytes × Bytes)} (pair : Pair opening closing)
    (names : ∀ named ∈ members, JsonGrammar.Name named.1) (each : ∀ named ∈ members, Balanced opening closing named.2) :
    Balanced opening closing (JsonGrammar.joined (members.map JsonGrammar.member)) := by
  refine balanced_joined pair (List.forall_mem_map.mpr fun named among => ?_)
  obtain ⟨before, quoted, after, front, ⟨content, written, rfl⟩, back, split⟩ := names named among
  rw [JsonGrammar.member, split]
  exact balanced_append (balanced_append (balanced_append (balanced_blank pair (isSpace_blank front))
    (balanced_quoted (quoted_content written))) (balanced_blank pair (isSpace_blank back))) (balanced_colon pair (each named among))

/-- The brackets of a value are closed in it. -/
theorem balanced_value (pair : Pair opening closing) (value : Value text) : Balanced opening closing text := by
  induction value with
  | word text known => exact balanced_scalar pair (scalar_word known)
  | number sign whole fraction exponent number => exact balanced_scalar pair (scalar_number number)
  | string text quoted =>
    obtain ⟨content, written, rfl⟩ := quoted
    exact balanced_quoted (quoted_content written)
  | array items _ ih => exact balanced_bracketed pair (.inr ⟨rfl, rfl⟩) (balanced_joined pair ih)
  | object members names _ ih => exact balanced_bracketed pair (.inl ⟨rfl, rfl⟩) (balanced_members pair names ih)
  | empty opening closing inside known blank => exact balanced_bracketed pair (pair_of_mem known) (balanced_blank pair (isSpace_blank blank))
  | spaced before text after front back _ ih =>
    exact balanced_append (balanced_append (balanced_blank pair (isSpace_blank front)) ih) (balanced_blank pair (isSpace_blank back))

/-- An object is closed by its own brace. -/
theorem enclosed_value (value : Value text) (bare : Bare text) (opens : text.head? = some (code '{')) (rest : Bytes) :
    enclosed (code '{') (code '}') 0 false false (text ++ rest) = some text.length := by
  have braces : Pair (code '{') (code '}') := .inl ⟨rfl, rfl⟩
  revert opens
  refine JsonGrammar.bare_induction value bare ?_ ?_ ?_ ?_ ?_ ?_
  · intro text known opens
    simp only [JsonGrammar.words, List.mem_cons, List.not_mem_nil, or_false] at known
    rcases known with rfl | rfl | rfl <;> cases opens
  · intro sign whole fraction exponent number opens
    obtain ⟨first, rest, split, kind⟩ := JsonGrammar.number_starts number
    rw [split] at opens
    obtain rfl := Option.some.inj opens
    rcases kind with kind | kind <;> cases kind
  · rintro text ⟨content, -, rfl⟩ opens
    cases opens
  · intro items _ opens
    cases opens
  · intro members names each _
    exact enclosed_whole braces (balanced_members braces names fun named among => balanced_value braces (each named among)) rest
  · intro opening closing inside pair blank opens
    obtain rfl := Option.some.inj opens
    obtain rfl : closing = code '}' := by
      simp only [List.mem_cons, Prod.mk.injEq, List.not_mem_nil, or_false] at pair
      exact pair.elim (fun square => absurd square.1 (by decide)) And.right
    exact enclosed_whole braces (balanced_blank braces (isSpace_blank blank)) rest

end

namespace ApiServer

/-! ## Filtered receivers -/

variable (config : RepeaterConfig) {lead object filtered : Bytes}

/-- Where an object begins, it is kept or left out, and the search goes on behind it. -/
theorem filterReceivers_braced (separators : lead.all isSeparator = true) (opens : object.head? = some (code '{'))
    (closed : ∀ rest, enclosed (code '{') (code '}') 0 false false (object ++ rest) = some object.length) (front rest : Bytes)
    (wrote : Bool) (further : rest ≠ []) :
    ∃ enabled, filterReceivers config (front ++ (lead ++ (object ++ rest))) front.length wrote =
      (do
        let others ← filterReceivers config (front ++ (lead ++ (object ++ rest))) (front ++ lead ++ object).length
          (wrote || enabled)
        return others.map ((if enabled = false then [] else if wrote then code ',' :: object else object) ++ ·)) := by
  obtain ⟨inside, spelled⟩ : ∃ inside, object = code '{' :: inside := by
    cases object with
    | nil => cases opens
    | cons ch inside => exact ⟨inside, by rw [Option.some.inj opens]⟩
  have within : front.length + 1 < (front ++ (lead ++ (object ++ rest))).length := by
    have some := List.length_pos_iff.mpr further
    simp only [List.length_append, spelled, List.length_cons]
    omega
  have start := takeWhile_separators separators (rfl : isSeparator (code '{') = false) (inside ++ rest)
  rw [← List.cons_append, ← spelled] at start
  have behind : (front ++ (lead ++ (object ++ rest))).drop (front.length + lead.length) = object ++ rest := by
    rw [← List.drop_drop, List.drop_left, List.drop_left]
  have taken : substr (front ++ (lead ++ (object ++ rest))) (front.length + lead.length) object.length = .ok object := by
    rw [substr_ok (by simp only [List.length_append]; omega), behind, List.take_left]
  have next : front.length + lead.length + object.length = (front ++ lead ++ object).length := by simp [Nat.add_assoc]
  obtain ⟨found, member⟩ := completes_jsonMember object (bytes "id")
  obtain ⟨id, unread, read⟩ : ∃ id : Option Int32, (found = none → id = none) ∧ ∀ value, found = some value →
      jsonIntValue value = .ok id := by
    cases found with
    | none => exact ⟨none, fun _ => rfl, nofun⟩
    | some value =>
      obtain ⟨id, read⟩ := completes_jsonIntValue value
      exact ⟨id, nofun, fun _ same => Option.some.inj same ▸ read⟩
  refine ⟨id.elim true fun id => receiverEnabled config ⟨id⟩, ?_⟩
  have ends := closed rest
  unfold isSeparator at start
  conv_lhs => unfold filterReceivers
  rw [dif_pos within]
  dsimp only
  rw [List.drop_left, start, behind]
  split
  · rename_i nothing
    rw [spelled] at nothing
    cases nothing
  · rename_i ch others first
    rw [first] at ends
    obtain rfl : ch = code '{' := by
      rw [spelled] at first
      exact (List.cons.inj first).1.symm
    rw [if_neg (by decide), if_neg (by simp)]
    split
    · rename_i never
      rw [ends] at never
      cases never
    · rename_i count here
      rw [ends] at here
      cases here
      rw [taken, next]
      dsimp only [bind, Except.bind]
      rw [member]
      cases found with
      | none =>
        rw [unread rfl]
        rfl
      | some value =>
        dsimp only
        rw [read value rfl]
        cases id <;> rfl

/-- What is neither an object nor the end of the array is no array of objects. -/
theorem filterReceivers_other {ch : UInt8} (separators : lead.all isSeparator = true) (other : isSeparator ch = false)
    (closes : ch ≠ code ']') (opens : ch ≠ code '{') (front rest : Bytes) (wrote : Bool) (further : rest ≠ []) :
    filterReceivers config (front ++ (lead ++ ch :: rest)) front.length wrote = .ok none := by
  have within : front.length + 1 < (front ++ (lead ++ ch :: rest)).length := by
    have some := List.length_pos_iff.mpr further
    simp only [List.length_append, List.length_cons]
    omega
  have start := takeWhile_separators separators other rest
  have behind : (front ++ (lead ++ ch :: rest)).drop (front.length + lead.length) = ch :: rest := by
    rw [← List.drop_drop, List.drop_left, List.drop_left]
  unfold isSeparator at start
  unfold filterReceivers
  rw [dif_pos within]
  dsimp only
  rw [List.drop_left, start, behind]
  dsimp only
  rw [if_neg closes, if_pos opens]
  rfl

theorem writtenObjects_next (wrote enabled : Bool) (object : Bytes) (kept : List Bytes) :
    writtenObjects wrote (if enabled then object :: kept else kept) =
      (if enabled = false then [] else if wrote then code ',' :: object else object) ++ writtenObjects (wrote || enabled) kept := by
  cases enabled with
  | false => simp
  | true =>
    cases wrote with
    | false => exact separated_eq object kept
    | true => rfl

/-- Behind separators, some values are left of a text, or it is no array of objects. -/
def Filters (text : Bytes) : Prop := ∀ lead front wrote, lead.all isSeparator = true →
  ∃ result, filterReceivers config (front ++ (lead ++ text)) front.length wrote = .ok result ∧
    ∀ filtered ∈ result, ∃ kept, (∀ value ∈ kept, Value value) ∧ filtered = writtenObjects wrote kept ++ [code ']']

variable {config}

theorem filters_end : Filters config [code ']'] := by
  intro lead front wrote separators
  refine ⟨_, filterReceivers_end config separators front wrote, fun filtered same => ⟨[], List.forall_mem_nil _, ?_⟩⟩
  obtain rfl := Option.some.inj same
  cases wrote <;> rfl

theorem filters_separated {front rest : Bytes} (separators : front.all isSeparator = true) (filters : Filters config rest) :
    Filters config (front ++ rest) := by
  intro lead before wrote leading
  have both : (lead ++ front).all isSeparator = true := by
    rw [List.all_append, leading, separators]
    rfl
  have later := filters (lead ++ front) before wrote both
  rwa [List.append_assoc] at later

theorem separator_above (above : 32 < ch) (comma : ch ≠ 44) : isSeparator ch = false := by
  have large : 32 < ch.toNat := UInt8.lt_iff_toNat_lt.mp above
  have space : ch ≠ 32 := by
    rintro rfl
    exact absurd large (by decide)
  have control : ¬ ch ≤ 13 := fun low => by
    have small : ch.toNat ≤ 13 := UInt8.le_iff_toNat_le.mp low
    omega
  have other : ch ≠ code ',' := comma
  simp [isSeparator, isSpace, space, control, other]

theorem filters_core {core rest : Bytes} (value : Value core) (bare : Bare core) (filters : Filters config rest)
    (further : rest ≠ []) : Filters config (core ++ rest) := by
  intro lead front wrote separators
  obtain ⟨first, inside, split, solid, comma, closes⟩ := value.starts bare
  by_cases opens : first = code '{'
  · have starts : core.head? = some (code '{') := by rw [split, opens]; rfl
    obtain ⟨enabled, here⟩ :=
      filterReceivers_braced config separators starts (enclosed_value value bare starts) front rest wrote further
    obtain ⟨result, goes, values⟩ := filters [] (front ++ lead ++ core) (wrote || enabled) rfl
    simp only [List.append_assoc, List.nil_append] at here goes
    rw [here, goes]
    refine ⟨_, rfl, fun filtered written => ?_⟩
    obtain ⟨later, found, rfl⟩ := Option.map_eq_some_iff.mp written
    obtain ⟨kept, each, rfl⟩ := values later found
    refine ⟨if enabled then core :: kept else kept, ?_, ?_⟩
    · cases enabled with
      | false => exact each
      | true => exact List.forall_mem_cons.mpr ⟨value, each⟩
    · rw [writtenObjects_next, List.append_assoc]
  · have other := separator_above solid comma
    have none := filterReceivers_other config separators other closes opens front (inside ++ rest) wrote (by simp [further])
    rw [split]
    exact ⟨_, none, nofun⟩

theorem separators_gap {gap : Bytes} (blank : Blank gap) : gap.all isSeparator = true := separators_blank (isSpace_blank blank)

theorem filters_value {rest : Bytes} (value : Value text) (filters : Filters config rest) (further : rest ≠ []) :
    Filters config (text ++ rest) := by
  obtain ⟨before, core, after, rfl, front, back, value, bare⟩ := value.core
  have behind := filters_core value bare (filters_separated (separators_gap back) filters) (by simp [further])
  rw [List.append_assoc, List.append_assoc]
  exact filters_separated (separators_gap front) behind

theorem filters_others (each : ∀ item ∈ items, Value item) : Filters config (others items ++ [code ']']) := by
  induction items with
  | nil => exact filters_end
  | cons item items ih =>
    obtain ⟨here, each⟩ := List.forall_mem_cons.mp each
    have behind := filters_value here (ih each) (by simp)
    have comma : others (item :: items) ++ [code ']'] = [code ','] ++ (item ++ (others items ++ [code ']'])) := by
      simp [others]
    rw [comma]
    exact filters_separated rfl behind

theorem filters_joined (each : ∀ item ∈ items, Value item) : Filters config (JsonGrammar.joined items ++ [code ']']) := by
  cases items with
  | nil => exact filters_end
  | cons item items =>
    obtain ⟨here, each⟩ := List.forall_mem_cons.mp each
    rw [← separated_joined, separated_eq, List.append_assoc]
    exact filters_value here (filters_others each) (by simp)

theorem blank_same (ch : UInt8) : isBlank ch = JsonGrammar.blank ch := by
  simp only [isBlank, JsonGrammar.blank, Bool.beq_eq_decide_eq, Bool.or_assoc, Bool.or_comm (decide (ch = 13))]

/-- The white space around a text is taken away. -/
theorem trimmed_core {before core after : Bytes} (front : Blank before) (back : Blank after) (bare : Bare core) :
    trimmed (before ++ core ++ after) = core := by
  obtain ⟨first, starts, solid⟩ := bare.first
  obtain ⟨last, ends, firm⟩ := bare.last
  have kept : (core ++ after).dropWhile isBlank = core ++ after := by
    cases core with
    | nil => cases starts
    | cons ch core =>
      obtain rfl := Option.some.inj starts
      exact List.dropWhile_cons_of_neg (by simp [blank_same, solid])
  obtain ⟨core, rfl⟩ : ∃ rest, core = rest ++ [last] := ⟨core.dropLast, (List.dropLast_append_getLast? last ends).symm⟩
  rw [trimmed, List.append_assoc, List.dropWhile_append_of_pos (List.all_eq_true.mp (isBlank_blank front)), kept, List.rdropWhile,
    List.reverse_append, List.dropWhile_append_of_pos fun ch among => List.all_eq_true.mp (isBlank_blank back) ch (List.mem_reverse.mp among)]
  exact List.rdropWhile_concat_neg isBlank core last (by simp [blank_same, firm])

/-- What is filtered of a value is a value. -/
theorem value_filtered (value : Value text) :
    ∃ filtered, filterReceiverArrayByConfig text config = .ok filtered ∧ Value filtered := by
  obtain ⟨before, core, after, rfl, front, back, inner, bare⟩ := value.core
  unfold filterReceiverArrayByConfig
  rw [trimJson_eq, trimmed_core front back bare]
  dsimp only [bind, Except.bind]
  split
  · exact ⟨_, rfl, value⟩
  · rename_i bracketed
    have opens : core.head? = some 91 := by
      by_contra other
      exact bracketed (.inr (.inl other))
    obtain ⟨items, inside, each, rfl, shape⟩ := inner.bracketed bare opens
    have filters : Filters config (inside ++ [93]) := by
      rcases shape with ⟨rfl, -⟩ | ⟨blank, -⟩
      · exact filters_joined each
      · exact filters_separated (separators_gap blank) filters_end
    obtain ⟨result, found, kept⟩ := filters [] [91] false rfl
    have here : filterReceivers config (91 :: (inside ++ [93])) 1 false = .ok result := found
    rw [here]
    cases result with
    | none => exact ⟨_, rfl, value⟩
    | some filtered =>
      obtain ⟨kept, values, rfl⟩ := kept filtered rfl
      exact ⟨_, rfl, value_array values⟩

end ApiServer

end WhRepeater
