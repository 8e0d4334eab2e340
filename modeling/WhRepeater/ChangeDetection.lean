import WhRepeater.DelimitedTexts
import WhRepeater.MemberValues
import WhRepeater.PiConvergence

/-! Whether the part of a configuration that the Pi has was changed
(`piManagedConfigChanged` of `daemon.cpp`). The texts of two configurations are
compared, so that every value has to be known by its text, whatever strings are in
it. -/
namespace WhRepeater

open TextScan DelimitedTexts Document

/-! ## Strings -/

/-- The bytes with an escape. -/
def escaped : Bytes := (List.range 32).map UInt8.ofNat ++ [code '"', code '\\']

theorem escape_plain {ch : UInt8} (plain : ch ∉ escaped) :
    escape ch = [ch] ∧ ch ≠ code '"' ∧ ch ≠ code '\\' := by
  have other : ∀ special ∈ escaped, ch ≠ special := fun special among same => plain (same ▸ among)
  have printable : ¬ ch < 0x20 := by
    intro control
    have small : ch.toNat < 32 := control
    exact plain (List.mem_append_left _ (List.mem_map.mpr ⟨ch.toNat, List.mem_range.mpr small, UInt8.ofNat_toNat⟩))
  have quote := other (code '"') (by decide)
  have backslash := other (code '\\') (by decide)
  rw [escape, if_neg quote, if_neg backslash, if_neg (other 8 (by decide)), if_neg (other 12 (by decide)), if_neg (other 10 (by decide)),
    if_neg (other 13 (by decide)), if_neg (other 9 (by decide)), if_neg printable]
  exact ⟨rfl, quote, backslash⟩

/-- No escape begins another one, and all begin with a backslash. -/
theorem escape_table : (escaped.all fun ch => decide ((escape ch).head? = some (code '\\')) &&
    escaped.all fun next => !(escape ch).isPrefixOf (escape next) || decide (ch = next)) = true := by decide +kernel

theorem escape_apart {ch next : UInt8} (special : ch ∈ escaped) (special' : next ∈ escaped) (begins : escape ch <+: escape next) :
    ch = next := by
  have row := (Bool.and_eq_true_iff.mp (List.all_eq_true.mp escape_table ch special)).2
  have entry := List.all_eq_true.mp row next special'
  rw [List.isPrefixOf_iff_prefix.mpr begins] at entry
  exact of_decide_eq_true entry

theorem escape_head {ch : UInt8} (special : ch ∈ escaped) : (escape ch).head? = some (code '\\') :=
  of_decide_eq_true (Bool.and_eq_true_iff.mp (List.all_eq_true.mp escape_table ch special)).1

/-- A byte is known by its escape, whatever follows. -/
theorem tells_escape : Tells (fun _ => True) escape (· = ·) := by
  intro ch next rest rest' _ _ alike
  have backslash : ∀ {ch : UInt8} {rest : Bytes}, ch ∈ escaped → (escape ch ++ rest).head? = some (code '\\') := by
    intro ch rest special
    rw [List.head?_append, escape_head special]
    rfl
  by_cases special : ch ∈ escaped <;> by_cases special' : next ∈ escaped
  · have same : ch = next := by
      have first := List.prefix_append (escape ch) rest
      rw [alike] at first
      rcases List.prefix_or_prefix_of_prefix first (List.prefix_append (escape next) rest') with begins | begins
      · exact escape_apart special special' begins
      · exact (escape_apart special' special begins).symm
    subst same
    exact ⟨rfl, List.append_cancel_left alike⟩
  · obtain ⟨plain, -, other⟩ := escape_plain special'
    have head := congrArg List.head? alike
    rw [backslash special, plain] at head
    exact absurd (Option.some.inj head).symm other
  · obtain ⟨plain, -, other⟩ := escape_plain special
    have head := congrArg List.head? alike
    rw [backslash special', plain] at head
    exact absurd (Option.some.inj head) other
  · rw [(escape_plain special).1, (escape_plain special').1] at alike
    exact List.cons.inj alike

theorem escape_no_quote (ch : UInt8) (rest rest' : Bytes) : escape ch ++ rest ≠ code '"' :: rest' := by
  intro alike
  have head := congrArg List.head? alike
  by_cases special : ch ∈ escaped
  · rw [List.head?_append, escape_head special] at head
    exact absurd (Option.some.inj head) (by decide)
  · obtain ⟨plain, quote, -⟩ := escape_plain special
    rw [plain] at head
    exact quote (Option.some.inj head)

/-- A string ends at its own quote. -/
theorem tells_jsonString : Tells (fun _ => True) jsonString (· = ·) := by
  intro first second rest rest' _ _ alike
  simp only [jsonString, List.cons_append, List.append_assoc, List.cons.injEq, true_and, List.nil_append] at alike
  induction first generalizing second with
  | nil =>
    cases second with
    | nil => exact ⟨rfl, (List.cons.inj alike).2⟩
    | cons next second =>
      rw [List.flatMap_cons, List.append_assoc] at alike
      exact absurd alike.symm (escape_no_quote next _ _)
  | cons ch first ih =>
    cases second with
    | nil =>
      rw [List.flatMap_cons, List.append_assoc] at alike
      exact absurd alike (escape_no_quote ch _ _)
    | cons next second =>
      rw [List.flatMap_cons, List.append_assoc, List.flatMap_cons, List.append_assoc] at alike
      obtain ⟨rfl, others⟩ := tells_escape ch next _ _ trivial trivial alike
      obtain ⟨rfl, rests⟩ := ih second others
      exact ⟨rfl, rests⟩

/-! ## Documents -/

/-- What follows a number: a byte that is in none. -/
def EndsNumber (rest : Bytes) : Prop := ∃ ch tail, rest = ch :: tail ∧ isScalar ch = false

variable {α β : Type} {printDouble : Rat → Bytes}

/-- The document of a value tells of it. -/
def Writes (printDouble : Rat → Bytes) (document : α → Document) (same : α → α → Prop) : Prop :=
  Tells EndsNumber (fun value => (document value).print printDouble) same

theorem printInt_inj {value other : Int} (alike : printInt value = printInt other) : value = other := by
  have magnitude : ∀ {value other : Nat}, printNat value = printNat other → value = other := by
    intro value other alike
    rw [← JsonParser.digitsValue_printNat value, alike, JsonParser.digitsValue_printNat]
  have unsigned : ∀ (value : Nat) (text : Bytes), printNat value ≠ code '-' :: text := by
    intro value text signed
    have digits := JsonParser.isDigit_printNat value
    rw [signed] at digits
    cases digits
  unfold printInt at alike
  split at alike <;> split at alike
  · have same := magnitude (List.cons.inj alike).2
    omega
  · exact absurd alike.symm (unsigned _ _)
  · exact absurd alike (unsigned _ _)
  · have same := magnitude alike
    omega

theorem writes_text (part : α → Bytes) :
    Writes printDouble (fun value => .text (part value)) fun first second => part first = part second :=
  (tells_jsonString.comap part).imp (fun _ _ same => same) fun _ _ => trivial

theorem writes_decimal (part : α → Int) :
    Writes printDouble (fun value => .decimal (part value)) fun first second => part first = part second :=
  ((tells_while fun value => List.all_eq_true.mp (scalar_printInt value).2).comap part).imp
    (fun _ _ same => printInt_inj same) fun _ ends => ends

theorem writes_flag (part : α → Bool) :
    Writes printDouble (fun value => .flag (part value)) fun first second => part first = part second := by
  have words : ∀ value : Bool, ∀ ch ∈ if value then bytes "true" else bytes "false", isScalar ch = true := by
    intro value
    cases value <;> exact List.all_eq_true.mp rfl
  have apart : ∀ value other : Bool,
      (if value then bytes "true" else bytes "false") = (if other then bytes "true" else bytes "false") → value = other := by
    intro value other
    cases value <;> cases other <;> simp
  exact ((tells_while words).comap part).imp (fun _ _ same => apart _ _ same) fun _ ends => ends

theorem writes_double (scalar : ∀ number, Scalar (printDouble number)) (part : α → Rat) :
    Writes printDouble (fun value => .double (part value)) fun first second =>
      printDouble (part first) = printDouble (part second) :=
  (tells_while fun value => List.all_eq_true.mp (scalar value).2).comap part

theorem writes_constant (document : Document) : Writes printDouble (fun _ : α => document) fun _ _ => True :=
  tells_constant _

/-- A member, and what its value tells. -/
structure Field (printDouble : Rat → Bytes) (α : Type) where
  name : String
  value : α → Document
  same : α → α → Prop
  writes : Writes printDouble value same

/-- The document of members that are written of a value. -/
def objectOf (layout : Layout) (fields : List (Field printDouble α)) (value : α) : Document :=
  .object layout (fields.map fun field => (field.name, field.value value))

theorem separated_flatMap (separator first : Bytes) (items : List Bytes) :
    separated separator (first :: items) = first ++ items.flatMap (separator ++ ·) := by
  induction items generalizing first with
  | nil => simp [separated]
  | cons second items ih => rw [separated_cons_cons, ih, List.flatMap_cons, List.append_assoc]

theorem ends_bracket {closing : Bytes} (blank : closing.all isSpace = true) {ch : UInt8} (bracket : isScalar ch = false)
    (rest : Bytes) : EndsNumber (closing ++ [ch] ++ rest) := by
  cases closing with
  | nil => exact ⟨ch, rest, rfl, bracket⟩
  | cons space closing =>
    refine ⟨space, closing ++ [ch] ++ rest, rfl, Bool.eq_false_of_not_eq_true fun scalar => ?_⟩
    have first := (Bool.and_eq_true_iff.mp blank).1
    rw [not_space_of_scalar scalar] at first
    cases first

theorem layout_blank (layout : Layout) :
    layout.opening.all isSpace = true ∧ layout.comma.all isSpace = true ∧
      layout.closing.all isSpace = true := by
  have blank := layout.blank
  simp only [List.all_append, Bool.and_eq_true] at blank
  exact ⟨blank.1.1.1, blank.1.1.2, blank.2⟩

theorem ends_comma (rest : Bytes) : EndsNumber (code ',' :: rest) := ⟨code ',', rest, rfl, rfl⟩

/-- The text of a member, up to its value. -/
def label (layout : Layout) (name : String) : Bytes := code '"' :: bytes name ++ code '"' :: code ':' :: layout.colon

theorem printMembers_fields (layout : Layout) (fields : List (Field printDouble α)) (value : α) :
    printMembers printDouble layout.colon (fields.map fun field => (field.name, field.value value)) =
      fields.map fun field => label layout field.name ++ (field.value value).print printDouble := by
  induction fields with
  | nil => rfl
  | cons field fields ih =>
    rw [List.map_cons, printMembers, ih, List.map_cons, label]

theorem print_objectOf (layout : Layout) (first : Field printDouble α) (fields : List (Field printDouble α)) (value : α) :
    (objectOf layout (first :: fields) value).print printDouble =
      (code '{' :: layout.opening) ++ (label layout first.name ++ (first.value value).print printDouble ++
        (fields.flatMap (fun field => code ',' :: layout.comma ++ (label layout field.name ++ (field.value value).print printDouble)) ++
          (layout.closing ++ [code '}']))) := by
  rw [objectOf, print, printMembers_fields, List.map_cons, separated_flatMap, List.flatMap_map]
  simp only [List.append_assoc, List.cons_append]

/-- An object tells what its members tell. -/
theorem writes_object (layout : Layout) {fields : List (Field printDouble α)} (some : fields ≠ []) :
    Writes printDouble (objectOf layout fields) fun value other => ∀ field ∈ fields, field.same value other := by
  obtain ⟨first, fields, rfl⟩ := List.exists_cons_of_ne_nil some
  have brace := fun rest => ends_bracket (layout_blank layout).2.2 (rfl : isScalar (code '}') = false) rest
  have member := fun field : Field printDouble α => field.writes.behind (label layout field.name)
  have others := tells_flatMap (fun field (_ : field ∈ fields) => (member field).behind (code ',' :: layout.comma))
    fun field _ value rest => ends_comma _
  have closing : Tells (fun _ => True) (fun _ : α => layout.closing ++ [code '}']) fun _ _ => True := tells_constant _
  have closed := others.append closing fun _ rest _ => brace rest
  have whole := ((member first).append closed fun value rest _ => by
    cases fields with
    | nil => exact brace rest
    | cons field fields => exact ends_comma _).behind (code '{' :: layout.opening)
  unfold Writes
  simp only [print_objectOf]
  exact whole.imp (fun _ _ same => List.forall_mem_cons.mpr ⟨same.1, same.2.1⟩) fun _ _ => trivial

theorem printItems_map (item : β → Document) (values : List β) :
    printItems printDouble (values.map item) = values.map fun value => (item value).print printDouble := by
  induction values with
  | nil => rfl
  | cons value values ih => rw [List.map_cons, printItems, ih, List.map_cons]

/-- The text of an array with items. -/
def itemsText (printDouble : Rat → Bytes) (layout : Layout) (item : β → Document) (values : β × List β) : Bytes :=
  (code '[' :: layout.opening) ++ ((item values.1).print printDouble ++
    (values.2.flatMap (fun value => code ',' :: layout.comma ++ (item value).print printDouble) ++ (layout.closing ++ [code ']'])))

theorem print_items (layout : Layout) (item : β → Document) (value : β) (values : List β) :
    (Document.array layout ((value :: values).map item)).print printDouble = itemsText printDouble layout item (value, values) := by
  rw [print, printItems_map, List.map_cons, separated_flatMap, List.flatMap_map, itemsText]
  simp only [List.append_assoc, List.cons_append]

theorem tells_itemsText {item : β → Document} {same : β → β → Prop} (each : Writes printDouble item same) (layout : Layout) :
    Tells (fun _ => True) (itemsText printDouble layout item) fun values others =>
      same values.1 others.1 ∧ List.Forall₂ same values.2 others.2 := by
  have blank := (layout_blank layout).2.2
  have bracket := fun rest => ends_bracket blank (rfl : isScalar (code ']') = false) rest
  have apart : ∀ rest rest', code ',' :: layout.comma ++ rest ≠ layout.closing ++ [code ']'] ++ rest' := by
    intro rest rest' alike
    cases closing : layout.closing with
    | nil =>
      rw [closing] at alike
      exact absurd (List.cons.inj alike).1 (by decide)
    | cons space closing' =>
      rw [closing] at alike blank
      have comma := (Bool.and_eq_true_iff.mp blank).1
      rw [← (List.cons.inj alike).1] at comma
      cases comma
  have others := tells_items each (fun rest => ends_comma (layout.comma ++ rest)) bracket apart
  exact (Tells.append (each.comap Prod.fst) (others.comap Prod.snd) fun values rest _ => by
    cases values.2 with
    | nil => exact bracket rest
    | cons value values => exact ends_comma _).behind (code '[' :: layout.opening)

/-- An array of objects tells what its items tell, and how many they are. -/
theorem writes_array {item : β → Document} {same : β → β → Prop} (each : Writes printDouble item same)
    {layout : List β → Layout} {lines : Layout} (lined : ∀ value values, layout (value :: values) = lines)
    (braced : ∀ value, ∃ inside, (item value).print printDouble = code '{' :: inside) :
    Writes printDouble (fun values => .array (layout values) (values.map item)) (List.Forall₂ same) := by
  have passes : ∀ {blank : Bytes}, blank.all isSpace = true → ∀ {ch : UInt8} (rest : Bytes), isSpace ch = false →
      (blank ++ ch :: rest).dropWhile isSpace = ch :: rest := by
    intro blank spaces ch rest visible
    rw [JsonParser.dropWhile_blank spaces, List.dropWhile_cons_of_neg (by simp [visible])]
  have empty : ∀ value values rest rest', (Document.array (layout []) []).print printDouble ++ rest ≠
      itemsText printDouble lines item (value, values) ++ rest' := by
    intro value values rest rest' alike
    obtain ⟨inside, brace⟩ := braced value
    have blank : ((layout []).opening ++ (layout []).closing).all isSpace = true := by
      rw [List.all_append, (layout_blank _).1, (layout_blank _).2.2]
      rfl
    rw [itemsText, brace, print, printItems, separated] at alike
    simp only [List.append_assoc, List.cons_append, List.nil_append, List.cons.injEq, true_and] at alike
    have visible := congrArg (List.dropWhile isSpace) alike
    rw [← List.append_assoc, passes blank rest (rfl : isSpace (code ']') = false),
      passes (layout_blank lines).1 _ (rfl : isSpace (code '{') = false)] at visible
    exact absurd (List.cons.inj visible).1 (by decide)
  intro first second rest rest' _ _ alike
  cases first with
  | nil =>
    cases second with
    | nil => exact ⟨.nil, List.append_cancel_left alike⟩
    | cons value second =>
      simp only [lined, print_items] at alike
      exact absurd alike (empty value second rest rest')
  | cons value first =>
    cases second with
    | nil =>
      simp only [lined, print_items] at alike
      exact absurd alike.symm (empty value first rest' rest)
    | cons other second =>
      simp only [lined, print_items] at alike
      obtain ⟨values, rests⟩ := tells_itemsText each lines (value, first) (other, second) rest rest' trivial trivial alike
      exact ⟨.cons values.1 values.2, rests⟩

/-! ## The configuration -/

/-- A member for a part that is known by its number. -/
def numberField {γ : Type} (name : String) {number : γ → Int} (injective : Function.Injective number) (part : α → γ) :
    Field printDouble α where
  name := name
  value := fun value => .decimal (number (part value))
  same := fun first second => part first = part second
  writes := (writes_decimal (number ∘ part)).imp (fun _ _ same => injective same) fun _ ends => ends

/-- A member for a part that is known by its text. -/
def textField {γ : Type} (name : String) {word : γ → Bytes} (injective : Function.Injective word) (part : α → γ) :
    Field printDouble α where
  name := name
  value := fun value => .text (word (part value))
  same := fun first second => part first = part second
  writes := (writes_text (word ∘ part)).imp (fun _ _ same => injective same) fun _ ends => ends

def flagField (name : String) (part : α → Bool) : Field printDouble α := ⟨name, _, _, writes_flag part⟩

def constantField (name : String) (document : Document) : Field printDouble α := ⟨name, _, _, writes_constant document⟩

theorem uint32_injective : Function.Injective fun value : UInt32 => (value.toNat : Int) :=
  fun _ _ same => UInt32.toNat_inj.mp (Int.ofNat.inj same)

theorem uint16_injective : Function.Injective fun value : UInt16 => (value.toNat : Int) :=
  fun _ _ same => UInt16.toNat_inj.mp (Int.ofNat.inj same)

theorem receiver_injective : Function.Injective fun receiver : ReceiverId => receiver.value.toInt := by
  rintro ⟨value⟩ ⟨other⟩ same
  exact congrArg ReceiverId.mk (Int32.toInt_inj.mp same)

theorem antennaName_injective : Function.Injective antennaName := by
  intro antenna other
  cases antenna <;> cases other <;> decide

theorem systemName_injective : Function.Injective systemName := by
  intro system other
  cases system <;> cases other <;> decide

def targetParts (printDouble : Rat → Bytes) : List (Field printDouble ScanTarget) := [
  numberField "frequencyKhz" uint32_injective (·.frequencyKhz),
  numberField "symbolRateKs" uint32_injective (·.symbolRateKs),
  numberField "localOscillatorKhz" uint32_injective (·.localOscillatorKhz),
  textField "antenna" antennaName_injective (·.antenna),
  textField "system" systemName_injective (·.system),
  textField "fec" Function.injective_id (·.fec),
  textField "label" Function.injective_id (·.label)]

theorem targetJson_eq : targetJson = objectOf .compact (targetParts printDouble) := rfl

theorem writes_target : Writes printDouble targetJson fun target other => target = other := by
  rw [@targetJson_eq printDouble]
  refine (writes_object .compact (List.cons_ne_nil _ _)).imp (fun target other same => ?_) fun _ ends => ends
  simp only [List.forall_mem_cons] at same
  obtain ⟨frequency, rate, oscillator, antenna, system, fec, label, -⟩ := same
  exact (ScanTarget.mk.injEq ..).mpr ⟨frequency, rate, oscillator, antenna, system, fec, label⟩

/-- The targets, each on its own line. -/
def targetsField (printDouble : Rat → Bytes) : Field printDouble ReceiverConfig where
  name := "targets"
  value := fun receiver => .array (targetsLayout receiver.targets) (receiver.targets.map targetJson)
  same := fun receiver other => receiver.targets = other.targets
  writes := by
    have list : Writes printDouble (fun targets => .array (targetsLayout targets) (targets.map targetJson))
        (List.Forall₂ fun target other => target = other) :=
      writes_array writes_target (fun _ _ => rfl) fun target => ⟨_, rfl⟩
    rw [List.forall₂_eq_eq_eq] at list
    exact list.comap ReceiverConfig.targets

def receiverParts (printDouble : Rat → Bytes) : List (Field printDouble ReceiverConfig) := [
  numberField "id" receiver_injective (·.receiver),
  flagField "enabled" (·.enabled),
  numberField "dwellMs" Function.injective_id (·.dwellTime),
  numberField "hangMs" Function.injective_id (·.hangTime),
  targetsField printDouble]

theorem receiverJson_eq : receiverJson = objectOf (.lines 6) (receiverParts printDouble) := rfl

theorem writes_receiver : Writes printDouble receiverJson fun receiver other => receiver = other := by
  rw [@receiverJson_eq printDouble]
  refine (writes_object (.lines 6) (List.cons_ne_nil _ _)).imp (fun receiver other same => ?_) fun _ ends => ends
  simp only [List.forall_mem_cons] at same
  obtain ⟨id, enabled, dwell, hang, targets, -⟩ := same
  exact (ReceiverConfig.mk.injEq ..).mpr ⟨id, enabled, targets, dwell, hang⟩

/-- The receivers, one after the other. -/
def receiversField (printDouble : Rat → Bytes) : Field printDouble RepeaterConfig where
  name := "receivers"
  value := fun config => .array (receiversLayout config.receivers) (config.receivers.map receiverJson)
  same := fun config other => config.receivers = other.receivers
  writes := by
    have list : Writes printDouble (fun receivers => .array (receiversLayout receivers) (receivers.map receiverJson))
        (List.Forall₂ fun receiver other => receiver = other) :=
      writes_array writes_receiver (fun _ _ => rfl) fun receiver => ⟨_, rfl⟩
    rw [List.forall₂_eq_eq_eq] at list
    exact list.comap RepeaterConfig.receivers

/-- A member for a threshold, as it is written. -/
def doubleField (scalar : ∀ number, Scalar (printDouble number)) (name : String) (part : α → Rat) : Field printDouble α :=
  ⟨name, _, _, writes_double scalar part⟩

/-- A member with members of its own. -/
def objectField (name : String) (layout : Layout) (fields : List (Field printDouble α)) (some : fields ≠ []) : Field printDouble α :=
  ⟨name, _, _, writes_object layout some⟩

/-- The members of the Pi's part. All that the Pi does not take is at its default. -/
def managedParts (scalar : ∀ number, Scalar (printDouble number)) : List (Field printDouble RepeaterConfig) := [
  constantField "mode" (.text (bytes "ts-gateway")),
  numberField "statusIntervalMs" Function.injective_id (·.statusInterval),
  objectField "selection" (.lines 4) [
    doubleField scalar "minimumMerDb" (·.minimumMerDb),
    doubleField scalar "minimumDNumberDb" (·.minimumDNumberDb)] (List.cons_ne_nil _ _),
  constantField "pluto" (plutoJson 333 237 defaultConfig.pluto),
  constantField "fallback" (fallbackJson defaultConfig.fallback),
  constantField "streaming" (streamingJson defaultConfig.streaming),
  constantField "media" (mediaJson defaultConfig.media),
  objectField "tsGateway" (.lines 4) [
    textField "address" Function.injective_id (·.tsGateway.address),
    numberField "port" uint16_injective (·.tsGateway.port)] (List.cons_ne_nil _ _),
  constantField "gatewayInput" (gatewayInputJson defaultConfig.gatewayInput),
  constantField "piStatus" (piStatusJson defaultConfig.piStatus),
  constantField "hardwarePtt" (hardwarePttJson defaultConfig.hardwarePtt),
  constantField "beaconSchedule" (beaconScheduleJson defaultConfig.beaconSchedule),
  constantField "ident" (identJson defaultConfig.ident),
  constantField "analogue" (analogueJson defaultConfig.analogue),
  receiversField printDouble]

theorem projectionJson_eq (scalar : ∀ number, Scalar (printDouble number)) (config : RepeaterConfig) :
    configJson 333 237 (piManagedProjection config) = objectOf (.lines 2) (managedParts scalar) config := rfl

theorem writes_projection (scalar : ∀ number, Scalar (printDouble number)) :
    Writes printDouble (fun config => configJson 333 237 (piManagedProjection config)) (ManagedAgree printDouble) := by
  have written : (fun config => configJson 333 237 (piManagedProjection config)) = objectOf (.lines 2) (managedParts scalar) :=
    funext (projectionJson_eq scalar)
  rw [written]
  refine (writes_object (.lines 2) (List.cons_ne_nil _ _)).imp (fun config other same => ?_) fun _ ends => ends
  simp only [List.forall_mem_cons] at same
  obtain ⟨-, statusInterval, selection, -, -, -, -, tsGateway, -, -, -, -, -, -, receivers, -⟩ := same
  simp only [objectField, List.forall_mem_cons] at selection tsGateway
  obtain ⟨minimumMerDb, minimumDNumberDb, -⟩ := selection
  obtain ⟨address, port, -⟩ := tsGateway
  exact ⟨statusInterval, minimumMerDb, minimumDNumberDb, (TsGatewayConfig.mk.injEq ..).mpr ⟨address, port⟩, receivers⟩

/-! ## Changes -/

variable {before after : RepeaterConfig}

theorem projection_written (config : RepeaterConfig) : configToJson printDouble (piManagedProjection config) =
    .ok ((configJson 333 237 (piManagedProjection config)).print printDouble ++ bytes "\n") := by
  have mux : calculatePlutoMuxRateKbps (piManagedProjection config).pluto = .ok 333 := default_rates.1
  have video : calculatePlutoVideoBitrateKbps (piManagedProjection config).pluto = .ok 237 := default_rates.2
  rw [configToJson, mux, video]
  rfl

/-- The texts are the same for the same fields only, with the thresholds as they are
written. -/
theorem sameText_iff (scalar : ∀ number, Scalar (printDouble number)) :
    SameText printDouble before after ↔ ManagedAgree printDouble before after := by
  refine ⟨fun same => ?_, ManagedAgree.sameText⟩
  unfold SameText at same
  rw [projection_written, projection_written] at same
  have ends : EndsNumber (bytes "\n") := ⟨10, [], rfl, rfl⟩
  exact (writes_projection scalar before after _ _ ends ends (Except.ok.inj same)).1

/-- Every field that the Pi takes from the PC is the same. -/
structure SameManaged (before after : RepeaterConfig) : Prop where
  statusInterval : before.statusInterval = after.statusInterval
  minimumMerDb : before.minimumMerDb = after.minimumMerDb
  minimumDNumberDb : before.minimumDNumberDb = after.minimumDNumberDb
  tsGateway : before.tsGateway = after.tsGateway
  receivers : before.receivers = after.receivers

theorem projection_eq_iff : piManagedProjection before = piManagedProjection after ↔ SameManaged before after := by
  constructor
  · intro same
    exact ⟨congrArg (·.statusInterval) same, congrArg (·.minimumMerDb) same, congrArg (·.minimumDNumberDb) same,
      congrArg (·.tsGateway) same, congrArg (·.receivers) same⟩
  · rintro ⟨statusInterval, minimumMerDb, minimumDNumberDb, tsGateway, receivers⟩
    simp only [piManagedProjection, statusInterval, minimumMerDb, minimumDNumberDb, tsGateway, receivers]

/-- Where the thresholds are told apart by how they are written, a change is seen
exactly when there is one. -/
theorem change_seen_iff (scalar : ∀ number, Scalar (printDouble number))
    (mer_told : printDouble before.minimumMerDb = printDouble after.minimumMerDb → before.minimumMerDb = after.minimumMerDb)
    (dNumber_told : printDouble before.minimumDNumberDb = printDouble after.minimumDNumberDb →
      before.minimumDNumberDb = after.minimumDNumberDb) :
    (piManagedConfigChanged printDouble before after = true ↔ ¬ SameManaged before after) ∧
      (configToJson printDouble (piManagedProjection before) = configToJson printDouble (piManagedProjection after) →
        piManagedProjection before = piManagedProjection after) := by
  have fields : SameText printDouble before after ↔ SameManaged before after := by
    rw [sameText_iff scalar]
    constructor
    · intro agree
      exact ⟨agree.statusInterval, mer_told agree.minimumMerDb, dNumber_told agree.minimumDNumberDb, agree.tsGateway,
        agree.receivers⟩
    · intro same
      exact ⟨same.statusInterval, congrArg printDouble same.minimumMerDb, congrArg printDouble same.minimumDNumberDb,
        same.tsGateway, same.receivers⟩
  refine ⟨?_, fun same => projection_eq_iff.mpr (fields.mp same)⟩
  rw [← fields, ← unchanged_iff, Bool.not_eq_false]

theorem scalar_printShort (number : Rat) : Scalar (printShort number) := by
  unfold printShort
  split
  · exact scalar_printInt _
  · decide

/-- A label that ends as another receiver would begin, and the receiver. -/
theorem label_not_a_receiver :
    piManagedConfigChanged printShort
      { receivers := [{ targets := [{ label := bytes "\"\x7d]\x7d, \x7b\"id\": 2" }] }] }
      { receivers := [{ targets := [{ label := [] }] }, { receiver := ⟨2⟩ }] } = true := by
  refine (change_seen_iff scalar_printShort ?_ ?_).1.mpr ?_
  · intro
    rfl
  · intro
    rfl
  · intro same
    have lengths := congrArg List.length same.receivers
    exact absurd lengths (by decide)

end WhRepeater
