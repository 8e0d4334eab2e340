import WhRepeater.ConfigMerges
import WhRepeater.ConfigNumbers

/-! When the integers of an accepted configuration are those of its text. -/
namespace WhRepeater

open Binary64 (truncate)
open Spelling (Means EachMeans MembersMean)

/-! ## Literals -/

theorem eachMeans_getElem {spellings : List Spelling} {items : List Json} (each : EachMeans spellings items) {index : Nat}
    {spelling : Spelling} (there : spellings[index]? = some spelling) :
    ∃ item, items[index]? = some item ∧ Means spelling item := by
  induction index generalizing spellings items with
  | zero =>
    cases each with
    | nil => cases there
    | cons first value spellings values means others =>
      cases there
      exact ⟨value, rfl, means⟩
  | succ index ih =>
    cases each with
    | nil => cases there
    | cons first value spellings values means others => exact ih others there

theorem membersMean_lookup {spellings : List (Bytes × Spelling)} {members : List (Bytes × Json)}
    (each : MembersMean spellings members) {key : Bytes} {spelling : Spelling} (there : spellings.lookup key = some spelling) :
    ∃ item, members.lookup key = some item ∧ Means spelling item := by
  induction spellings generalizing members with
  | nil => cases there
  | cons head spellings ih =>
    cases each with
    | cons name first value _ members means others =>
      rw [List.lookup_cons] at there ⊢
      cases same : key == name with
      | true =>
        simp only [same] at there
        cases there
        exact ⟨value, rfl, means⟩
      | false =>
        simp only [same] at there
        exact ih others there

theorem means_step {spelling found : Spelling} {json : Json} (means : Means spelling json) {step : PathStep}
    (there : spelling.step step = some found) : ∃ item, json.step step = some item ∧ Means found item := by
  cases means with
  | object spellings members each =>
    cases step with
    | member name => exact membersMean_lookup each there
    | item index => cases there
  | array spellings items each =>
    cases step with
    | member name => cases there
    | item index => exact eachMeans_getElem each there
  | _ => cases step <;> cases there

theorem follow_append {json found : Json} {front back : List PathStep} :
    json.follow (front ++ back) = some found ↔ ∃ next, json.follow front = some next ∧ next.follow back = some found := by
  simp only [Json.follow, List.foldlM_append, Option.bind_eq_bind, Option.bind_eq_some_iff]

theorem follow_cons {json found : Json} {step : PathStep} {path : List PathStep} :
    json.follow (step :: path) = some found ↔ ∃ next, json.step step = some next ∧ next.follow path = some found := by
  simp only [Json.follow, List.foldlM_cons, Option.bind_eq_bind, Option.bind_eq_some_iff]

theorem follow_single {json found : Json} {step : PathStep} : json.follow [step] = some found ↔ json.step step = some found := by
  rw [follow_cons]
  exact ⟨fun ⟨next, stepped, last⟩ => by cases last; exact stepped, fun stepped => ⟨found, stepped, rfl⟩⟩

theorem means_follow {path : List PathStep} {spelling found : Spelling} {json : Json} (means : Means spelling json)
    (there : spelling.follow path = some found) : ∃ item, json.follow path = some item ∧ Means found item := by
  induction path generalizing spelling json with
  | nil =>
    cases there
    exact ⟨json, rfl, means⟩
  | cons step path ih =>
    simp only [Spelling.follow, List.foldlM_cons, Option.bind_eq_bind, Option.bind_eq_some_iff] at there
    obtain ⟨next, taken, there⟩ := there
    obtain ⟨item, stepped, means⟩ := means_step means taken
    obtain ⟨last, followed, means⟩ := ih means there
    exact ⟨last, follow_cons.mpr ⟨item, stepped, followed⟩, means⟩

/-- What `std::stod` gives is the nearest double. -/
theorem stod_value {negative : Bool} {whole fraction : Bytes} {value : Rat} (converted : stod negative whole fraction = .ok value) :
    value = Binary64.round (JsonParser.decimalValue negative whole fraction) := by
  unfold stod at converted
  dsimp only at converted
  split_ifs at converted
  all_goals
    cases converted
    simp [JsonParser.decimalValue, *]

theorem follow_literal {spelling : Spelling} {json : Json} (means : Means spelling json) {path : List PathStep} {literal : Rat}
    (given : spelling.literal path = some literal) : json.follow path = some (.number (Binary64.round literal)) := by
  unfold Spelling.literal at given
  split at given
  · rename_i negative whole fraction there
    cases given
    obtain ⟨item, followed, means⟩ := means_follow means there
    cases means with
    | number _ _ _ value converted => rw [followed, stod_value converted]
  · cases given

/-! ## Members -/

variable {arithmetic : Arithmetic} {json section_ : Json} {name path : String} {number : Rat} {σ α γ : Type}

/-- What is stored is made of the integer that the number is without its fraction,
where no step is out of range. -/
def IntegerMember.Reads (member : IntegerMember σ) (json : Json) (value : σ) : Prop :=
  ∀ number, optionalMember json member.name = some (.number number) → member.rule.InRange number →
    member.stored value = member.rule.result (truncate number)

/-- The member is read where there is one. -/
def ReadFrom (json : Json) (name : String) (read : Json → Except String α) (value : α) : Prop :=
  ∀ item, optionalMember json name = some item → read item = .ok value

theorem optional_read {standing value : α} {read : Json → Except String α}
    (found : optional json name standing read = .ok value) : ReadFrom json name read value := by
  intro item member
  simpa only [optional, member] using found

theorem required_read {value : α} {read : Json → Except String α} (found : required json name read = .ok value) :
    ReadFrom json name read value := by
  intro item member
  rwa [required_of_member member] at found

theorem toUint32_truncate (takes : IntegerType.uint32.Takes number) :
    ((arithmetic.toUint32 number).toNat : Int) = truncate number := by
  obtain ⟨above, below⟩ := takes.holds
  simp only [IntegerType.least, IntegerType.greatest] at above below
  obtain ⟨value, same⟩ := Int.eq_ofNat_of_zero_le above
  have fits : (UInt32.ofNat value).toNat = value := UInt32.toNat_ofNat_of_lt' (by change value < 4294967296; omega)
  rw [arithmetic.toUint32_truncates (UInt32.ofNat value) number (by rw [fits, same]), fits, same]

theorem toInt_truncate (takes : IntegerType.int.Takes number) : (arithmetic.toInt number).toInt = truncate number := by
  obtain ⟨above, below⟩ := takes.holds
  simp only [IntegerType.least, IntegerType.greatest] at above below
  have fits : (Int32.ofInt (truncate number)).toInt = truncate number := Int32.toInt_ofInt_of_le above (by omega)
  rw [arithmetic.toInt_truncates (Int32.ofInt (truncate number)) number fits.symm, fits]

variable {value : σ} {rule : Rule} {stored : σ → Int}

/-- The integer of an unsigned number goes through the rest of the reader. -/
theorem reads_unsigned {finish : UInt32 → Except String γ} {field : γ}
    (found : ReadFrom json name (fun item => jsonUint32 arithmetic item path >>= finish) field)
    (range : ∀ number, rule.InRange number → IntegerType.uint32.Takes number)
    (finished : ∀ number integer, rule.InRange number → (integer.toNat : Int) = truncate number → finish integer = .ok field →
      stored value = rule.result (truncate number)) : IntegerMember.Reads ⟨name, rule, stored⟩ json value := by
  intro number given inRange
  have read := found (.number number) given
  simp only [jsonUint32] at read
  split at read
  · cases read
  · exact finished number (arithmetic.toUint32 number) inRange (toUint32_truncate (range number inRange)) read

theorem reads_signed {finish : Int32 → Except String γ} {field : γ}
    (found : ReadFrom json name (fun item => jsonInt arithmetic item path >>= finish) field)
    (range : ∀ number, rule.InRange number → IntegerType.int.Takes number)
    (finished : ∀ number integer, rule.InRange number → integer.toInt = truncate number → finish integer = .ok field →
      stored value = rule.result (truncate number)) : IntegerMember.Reads ⟨name, rule, stored⟩ json value := by
  intro number given inRange
  exact finished number (arithmetic.toInt number) inRange (toInt_truncate (range number inRange)) (found (.number number) given)

/-! ## Kinds of members -/

theorem reads_uint32 {field : UInt32} (found : ReadFrom json name (jsonUint32 arithmetic · path) field)
    (same : stored value = field.toNat) : IntegerMember.Reads ⟨name, .whole .uint32, stored⟩ json value := by
  have passed : ReadFrom json name (fun item => jsonUint32 arithmetic item path >>= pure) field := by simpa only [bind_pure] using found
  refine reads_unsigned passed (fun _ => id) fun number integer _ truncated finished => ?_
  rw [pure_eq_ok] at finished
  rw [same, ← finished]
  exact truncated

theorem reads_uint64 {field : UInt64}
    (found : ReadFrom json name (fun item => do return (← jsonUint32 arithmetic item path).toUInt64) field)
    (same : stored value = field.toNat) : IntegerMember.Reads ⟨name, .whole .uint32, stored⟩ json value := by
  refine reads_unsigned found (fun _ => id) fun number integer _ truncated finished => ?_
  rw [pure_eq_ok] at finished
  rw [same, ← finished, UInt32.toNat_toUInt64]
  exact truncated

theorem uint16_takes (takes : IntegerType.uint16.Takes number) : IntegerType.uint32.Takes number :=
  ⟨takes.1, takes.2.trans (by norm_num [IntegerType.greatest])⟩

/-- A port is an integer of 32 bits before it is one of 16. -/
theorem narrowed {integer : UInt32} (takes : IntegerType.uint16.Takes number) (truncated : (integer.toNat : Int) = truncate number) :
    (integer.toUInt16.toNat : Int) = truncate number := by
  have small := takes.holds.2
  simp only [IntegerType.greatest] at small
  rw [UInt32.toNat_toUInt16]
  omega

theorem reads_uint16 {field : UInt16}
    (found : ReadFrom json name (fun item => do return (← jsonUint32 arithmetic item path).toUInt16) field)
    (same : stored value = field.toNat) : IntegerMember.Reads ⟨name, .whole .uint16, stored⟩ json value := by
  refine reads_unsigned found (fun _ => uint16_takes) fun number integer takes truncated finished => ?_
  rw [pure_eq_ok] at finished
  rw [same, ← finished]
  exact narrowed takes truncated

theorem reads_port {field : UInt16} (found : ReadFrom json name (jsonPort arithmetic · path) field)
    (same : stored value = field.toNat) : IntegerMember.Reads ⟨name, .whole .uint16, stored⟩ json value := by
  refine reads_unsigned found (fun _ => uint16_takes) fun number integer takes truncated finished => ?_
  split at finished
  · cases finished
  · rw [pure_eq_ok] at finished
    rw [same, ← finished]
    exact narrowed takes truncated

theorem reads_packetSize {field : UInt64}
    (found : ReadFrom json name (fun item => do
      let integer ← jsonUint32 arithmetic item path
      if integer = 0 ∨ integer % 188 ≠ 0 then throw "gatewayInput.packetSize must be a positive multiple of 188"
      else return integer.toUInt64) field)
    (same : stored value = field.toNat) : IntegerMember.Reads ⟨name, .whole .uint32, stored⟩ json value := by
  refine reads_unsigned found (fun _ => id) fun number integer _ truncated finished => ?_
  split at finished
  · cases finished
  · rw [pure_eq_ok] at finished
    rw [same, ← finished, UInt32.toNat_toUInt64]
    exact truncated

theorem toNat_clamp (integer low high : UInt32) :
    ((clamp integer low high).toNat : Int) = clamp (integer.toNat : Int) low.toNat high.toNat := by
  simp only [clamp, UInt32.lt_iff_toNat_lt, Int.ofNat_lt]
  split_ifs <;> rfl

theorem toInt_clamp (integer low high : Int32) : (clamp integer low high).toInt = clamp integer.toInt low.toInt high.toInt := by
  simp only [clamp, Int32.lt_iff_toInt_lt]
  split_ifs <;> rfl

theorem reads_clamped {field low high : UInt32} {least greatest : Int}
    (found : ReadFrom json name (fun item => do return clamp (← jsonUint32 arithmetic item path) low high) field)
    (same : stored value = field.toNat) (low_same : (low.toNat : Int) = least) (high_same : (high.toNat : Int) = greatest) :
    IntegerMember.Reads ⟨name, .clamped .uint32 least greatest, stored⟩ json value := by
  refine reads_unsigned found (fun _ => id) fun number integer _ truncated finished => ?_
  rw [pure_eq_ok] at finished
  rw [same, ← finished, toNat_clamp, truncated, low_same, high_same]
  rfl

theorem reads_even {field low high : UInt32} {least greatest : Int}
    (found : ReadFrom json name (fun item => do return clamp (← jsonUint32 arithmetic item path) low high &&& ~~~1) field)
    (same : stored value = field.toNat) (low_same : (low.toNat : Int) = least) (high_same : (high.toNat : Int) = greatest) :
    IntegerMember.Reads ⟨name, .even least greatest, stored⟩ json value := by
  refine reads_unsigned found (fun _ => id) fun number integer _ truncated finished => ?_
  rw [pure_eq_ok] at finished
  rw [same, ← finished, toNat_and_not_one, Int.natCast_mul, Int.natCast_ediv, toNat_clamp, truncated, low_same, high_same,
    Int.mul_comm]
  rfl

theorem reads_int {field : Int32} (found : ReadFrom json name (jsonInt arithmetic · path) field)
    (same : stored value = field.toInt) : IntegerMember.Reads ⟨name, .whole .int, stored⟩ json value := by
  have passed : ReadFrom json name (fun item => jsonInt arithmetic item path >>= pure) field := by simpa only [bind_pure] using found
  refine reads_signed passed (fun _ => id) fun number integer _ truncated finished => ?_
  rw [pure_eq_ok] at finished
  rw [same, ← finished]
  exact truncated

theorem reads_clamped_int {field low high : Int32} {least greatest : Int}
    (found : ReadFrom json name (fun item => do return clamp (← jsonInt arithmetic item path) low high) field)
    (same : stored value = field.toInt) (low_same : low.toInt = least) (high_same : high.toInt = greatest) :
    IntegerMember.Reads ⟨name, .clamped .int least greatest, stored⟩ json value := by
  refine reads_signed found (fun _ => id) fun number integer _ truncated finished => ?_
  rw [pure_eq_ok] at finished
  rw [same, ← finished, toInt_clamp, truncated, low_same, high_same]
  rfl

theorem reads_duration {field : Int} (found : ReadFrom json name (fun item => do return (← jsonInt arithmetic item path).toInt) field)
    (same : stored value = field) : IntegerMember.Reads ⟨name, .whole .int, stored⟩ json value := by
  refine reads_signed found (fun _ => id) fun number integer _ truncated finished => ?_
  rw [pure_eq_ok] at finished
  rw [same, ← finished]
  exact truncated

theorem reads_atLeast {field : Int} {low : Int32} {least : Int}
    (found : ReadFrom json name (fun item => do return (max low (← jsonInt arithmetic item path)).toInt) field)
    (same : stored value = field) (low_same : low.toInt = least) : IntegerMember.Reads ⟨name, .atLeast least, stored⟩ json value := by
  refine reads_signed found (fun _ => id) fun number integer _ truncated finished => ?_
  rw [pure_eq_ok] at finished
  rw [same, ← finished, toInt_max, truncated, low_same]
  rfl

theorem reads_seconds {field : Int}
    (found : ReadFrom json name (fun item => do
      return slideMilliseconds arithmetic (← jsonInt arithmetic item "fallback.slideDurationSeconds")) field)
    (same : stored value = field) : IntegerMember.Reads ⟨name, .seconds, stored⟩ json value := by
  refine reads_signed found (fun _ => And.left) fun number integer inRange truncated finished => ?_
  have short := inRange.2.2
  simp only [IntegerType.greatest, ← truncated] at short
  rw [pure_eq_ok] at finished
  rw [same, ← finished, slideMilliseconds_max integer (by omega), truncated]
  rfl

/-- A receiver number, which is checked behind the conversion. -/
theorem reads_receiver {field : ReceiverId} {refused : Int32 → Prop} [DecidablePred refused] {message : String}
    (found : ReadFrom json name (fun item => do
      let integer ← jsonInt arithmetic item path
      if refused integer then throw message else return ⟨integer⟩) field)
    (same : stored value = field.value.toInt) : IntegerMember.Reads ⟨name, .whole .int, stored⟩ json value := by
  refine reads_signed found (fun _ => id) fun number integer _ truncated finished => ?_
  split at finished
  · cases finished
  · rw [pure_eq_ok] at finished
    rw [same, ← finished]
    exact truncated

/-! ## Sections -/

/-- Every member of the section is read by its rule. -/
def AllRead (members : List (IntegerMember σ)) (json : Json) (value : σ) : Prop := ∀ member ∈ members, member.Reads json value

variable {members : List (IntegerMember σ)} {member : IntegerMember σ}

theorem AllRead.nil : AllRead [] json value := by
  rintro member ⟨⟩

theorem AllRead.cons (first : member.Reads json value) (others : AllRead members json value) :
    AllRead (member :: members) json value := List.forall_mem_cons.mpr ⟨first, others⟩

theorem config_reads {config : RepeaterConfig} (read : readConfig arithmetic json = .ok config) :
    AllRead rootMembers json config := by
  unfold readConfig at read
  obtain ⟨statusInterval, statusInterval_read, read⟩ := bind_eq_ok.mp read
  iterate 14 obtain ⟨_, -, read⟩ := bind_eq_ok.mp read
  cases read
  refine .cons (reads_duration (optional_read statusInterval_read) rfl) ?_
  exact .nil

theorem pluto_reads {pluto : PlutoConfig} (read : readPluto arithmetic json = .ok pluto) :
    AllRead plutoMembers json pluto := by
  unfold readPluto at read
  obtain ⟨_, -, read⟩ := bind_eq_ok.mp read
  obtain ⟨port, port_read, read⟩ := bind_eq_ok.mp read
  iterate 2 obtain ⟨_, -, read⟩ := bind_eq_ok.mp read
  obtain ⟨mqttPort, mqttPort_read, read⟩ := bind_eq_ok.mp read
  iterate 4 obtain ⟨_, -, read⟩ := bind_eq_ok.mp read
  obtain ⟨txFrequencyHz, txFrequencyHz_read, read⟩ := bind_eq_ok.mp read
  obtain ⟨symbolRateS, symbolRateS_read, read⟩ := bind_eq_ok.mp read
  obtain ⟨txGainDb, txGainDb_read, read⟩ := bind_eq_ok.mp read
  obtain ⟨ncoHz, ncoHz_read, read⟩ := bind_eq_ok.mp read
  obtain ⟨digitalGainDb, digitalGainDb_read, read⟩ := bind_eq_ok.mp read
  -- The two rates are among the next seven.
  iterate 7 obtain ⟨_, -, read⟩ := bind_eq_ok.mp read
  obtain ⟨audioBitrateKbps, audioBitrateKbps_read, read⟩ := bind_eq_ok.mp read
  obtain ⟨outputAudioChannels, outputAudioChannels_read, read⟩ := bind_eq_ok.mp read
  obtain ⟨outputWidth, outputWidth_read, read⟩ := bind_eq_ok.mp read
  obtain ⟨outputHeight, outputHeight_read, read⟩ := bind_eq_ok.mp read
  obtain ⟨outputFrameRate, outputFrameRate_read, read⟩ := bind_eq_ok.mp read
  iterate 6 obtain ⟨_, -, read⟩ := bind_eq_ok.mp read
  cases read
  refine .cons (reads_uint16 (optional_read port_read) rfl) ?_
  refine .cons (reads_uint16 (optional_read mqttPort_read) rfl) ?_
  refine .cons (reads_uint64 (optional_read txFrequencyHz_read) rfl) ?_
  refine .cons (reads_uint32 (optional_read symbolRateS_read) rfl) ?_
  refine .cons (reads_int (optional_read txGainDb_read) rfl) ?_
  refine .cons (reads_int (optional_read ncoHz_read) rfl) ?_
  refine .cons (reads_clamped_int (optional_read digitalGainDb_read) rfl rfl rfl) ?_
  refine .cons (reads_uint32 (optional_read audioBitrateKbps_read) rfl) ?_
  refine .cons (reads_clamped (optional_read outputAudioChannels_read) rfl rfl rfl) ?_
  refine .cons (reads_even (optional_read outputWidth_read) rfl rfl rfl) ?_
  refine .cons (reads_even (optional_read outputHeight_read) rfl rfl rfl) ?_
  refine .cons (reads_clamped (optional_read outputFrameRate_read) rfl rfl rfl) ?_
  exact .nil

theorem fallback_reads {fallback : FallbackConfig} (read : readFallback arithmetic json = .ok fallback) :
    AllRead fallbackMembers json fallback := by
  simp only [readFallback, bind_eq_ok, pure_eq_ok] at read
  obtain ⟨_, -, _, -, _, -, _, -, slideDuration, slideDuration_read, inputTimeout, inputTimeout_read, staticFrameRate,
    staticFrameRate_read, _, -, _, -, rfl⟩ := read
  refine .cons (reads_seconds (optional_read slideDuration_read) rfl) ?_
  refine .cons (reads_duration (optional_read inputTimeout_read) rfl) ?_
  refine .cons (reads_clamped (optional_read staticFrameRate_read) rfl rfl rfl) ?_
  exact .nil

theorem tsGateway_reads {tsGateway : TsGatewayConfig} (read : readTsGateway arithmetic json = .ok tsGateway) :
    AllRead tsGatewayMembers json tsGateway := by
  simp only [readTsGateway, bind_eq_ok, pure_eq_ok] at read
  obtain ⟨_, -, port, port_read, rfl⟩ := read
  refine .cons (reads_port (optional_read port_read) rfl) ?_
  exact .nil

theorem gatewayInput_reads {gatewayInput : GatewayInputConfig} (read : readGatewayInput arithmetic json = .ok gatewayInput) :
    AllRead gatewayInputMembers json gatewayInput := by
  simp only [readGatewayInput, bind_eq_ok, pure_eq_ok] at read
  obtain ⟨_, -, listenPort, listenPort_read, packetSize, packetSize_read, rfl⟩ := read
  refine .cons (reads_port (optional_read listenPort_read) rfl) ?_
  refine .cons (reads_packetSize (optional_read packetSize_read) rfl) ?_
  exact .nil

theorem piStatus_reads {piStatus : PiStatusConfig} (read : readPiStatus arithmetic json = .ok piStatus) :
    AllRead piStatusMembers json piStatus := by
  simp only [readPiStatus, bind_eq_ok, pure_eq_ok] at read
  obtain ⟨_, -, _, -, port, port_read, pollInterval, pollInterval_read, rfl⟩ := read
  refine .cons (reads_port (optional_read port_read) rfl) ?_
  refine .cons (reads_atLeast (optional_read pollInterval_read) rfl rfl) ?_
  exact .nil

theorem hardwarePtt_reads {hardwarePtt : HardwarePttConfig} (read : readHardwarePtt arithmetic json = .ok hardwarePtt) :
    AllRead hardwarePttMembers json hardwarePtt := by
  simp only [readHardwarePtt, bind_eq_ok, pure_eq_ok] at read
  obtain ⟨_, -, _, -, _, -, line, line_read, _, -, rfl⟩ := read
  refine .cons (reads_uint32 (optional_read line_read) rfl) ?_
  exact .nil

theorem ident_reads {ident : IdentConfig} (read : readIdent arithmetic json = .ok ident) : AllRead identMembers json ident := by
  simp only [readIdent, bind_eq_ok, pure_eq_ok] at read
  obtain ⟨_, -, _, -, interval, interval_read, morseToneHz, morseToneHz_read, morseWpm, morseWpm_read, rfl⟩ := read
  refine .cons (reads_duration (optional_read interval_read) rfl) ?_
  refine .cons (reads_clamped (optional_read morseToneHz_read) rfl rfl rfl) ?_
  refine .cons (reads_clamped (optional_read morseWpm_read) rfl rfl rfl) ?_
  exact .nil

theorem capture_reads {capture : AnalogueCaptureConfig} (read : readCapture arithmetic json = .ok capture) :
    AllRead captureMembers json capture := by
  simp only [readCapture, bind_eq_ok, pure_eq_ok] at read
  obtain ⟨_, -, receiver, receiver_read, _, -, _, -, _, -, _, -, _, -, captureWidth, captureWidth_read, captureHeight,
    captureHeight_read, captureFrameRate, captureFrameRate_read, numerator, numerator_read, denominator, denominator_read,
    _, -, _, -, audioSampleRate, audioSampleRate_read, audioChannels, audioChannels_read, audioDelayMs, audioDelayMs_read,
    _, -, _, -, gpioLine, gpioLine_read, _, -, rfl⟩ := read
  refine .cons (reads_receiver (optional_read receiver_read) rfl) ?_
  refine .cons (reads_clamped (optional_read captureWidth_read) rfl rfl rfl) ?_
  refine .cons (reads_clamped (optional_read captureHeight_read) rfl rfl rfl) ?_
  refine .cons (reads_clamped (optional_read captureFrameRate_read) rfl rfl rfl) ?_
  refine .cons (reads_clamped (optional_read numerator_read) rfl rfl rfl) ?_
  refine .cons (reads_clamped (optional_read denominator_read) rfl rfl rfl) ?_
  refine .cons (reads_clamped (optional_read audioSampleRate_read) rfl rfl rfl) ?_
  refine .cons (reads_clamped (optional_read audioChannels_read) rfl rfl rfl) ?_
  refine .cons (reads_clamped (optional_read audioDelayMs_read) rfl rfl rfl) ?_
  refine .cons (reads_uint32 (optional_read gpioLine_read) rfl) ?_
  exact .nil

theorem target_reads {receiver : ReceiverId} {target : ScanTarget} (read : readTarget arithmetic receiver json = .ok target) :
    AllRead targetMembers json target := by
  simp only [readTarget, parseTarget, bind_assoc, pure_bind, bind_eq_ok, pure_eq_ok] at read
  obtain ⟨frequencyKhz, frequencyKhz_read, symbolRateKs, symbolRateKs_read, localOscillatorKhz, localOscillatorKhz_read,
    _, -, _, -, _, -, _, -, rfl⟩ := read
  refine .cons (reads_uint32 (required_read frequencyKhz_read) rfl) ?_
  refine .cons (reads_uint32 (required_read symbolRateKs_read) rfl) ?_
  refine .cons (reads_uint32 (required_read localOscillatorKhz_read) rfl) ?_
  exact .nil

theorem receiver_reads {receiver : ReceiverConfig} (read : readReceiver arithmetic json = .ok receiver) :
    AllRead receiverMembers json receiver := by
  simp only [readReceiver, bind_eq_ok] at read
  obtain ⟨id, id_read, read⟩ := read
  split at read
  · cases read
  simp only [bind_eq_ok, pure_eq_ok] at read
  obtain ⟨_, -, dwellTime, dwellTime_read, hangTime, hangTime_read, _, -, rfl⟩ := read
  refine .cons (reads_int (required_read id_read) rfl) ?_
  refine .cons (reads_duration (optional_read dwellTime_read) rfl) ?_
  refine .cons (reads_duration (optional_read hangTime_read) rfl) ?_
  exact .nil

/-! ## The configuration -/

/-- The field is read by its rule from what is under its path. -/
def IntegerField.Reads (field : IntegerField) (json : Json) (config : RepeaterConfig) : Prop :=
  ∀ number, json.follow field.path = some (.number number) → field.rule.InRange number →
    field.stored config = some (field.rule.result (truncate number))

variable {config : RepeaterConfig} {get : RepeaterConfig → Option σ} {steps : List PathStep}

theorem fieldsOf_reads
    (sections : ∀ found, json.follow steps = some found → ∃ value, get config = some value ∧ AllRead members found value) :
    ∀ field ∈ fieldsOf steps get members, field.Reads json config := by
  intro field among number given inRange
  obtain ⟨member, inside, rfl⟩ := List.mem_map.mp among
  obtain ⟨found, followed, last⟩ := follow_append.mp given
  obtain ⟨value, got, read⟩ := sections found followed
  simp only [got, Option.map_some, read member inside number (follow_single.mp last) inRange]

/-- A section of the configuration that may be absent. -/
theorem section_reads {standing value : σ} {read : Json → Except String σ} (found : optional json name standing read = .ok value)
    (reads : ∀ item, read item = .ok value → AllRead members item value) (get_same : get config = some value) :
    ∀ field ∈ fieldsOf [.member name] get members, field.Reads json config := by
  refine fieldsOf_reads fun item followed => ⟨value, get_same, ?_⟩
  exact reads item (optional_read found item (follow_single.mp followed))

theorem forall₂_getElem {relation : α → γ → Prop} {items : List α} {values : List γ} (each : List.Forall₂ relation items values)
    {index : Nat} {item : α} (there : items[index]? = some item) : ∃ value, values[index]? = some value ∧ relation item value := by
  induction each generalizing index with
  | nil => cases there
  | cons related _ ih =>
    cases index with
    | zero =>
      cases there
      exact ⟨_, rfl, related⟩
    | succ index => exact ih there

/-- An item of an array of which every item is read. -/
theorem item_read {message : String} {read : Json → Except String α} {values : List α}
    (found : ReadFrom json name (jsonArray message read) values) {index : Nat} {item : Json}
    (followed : json.follow [.member name, .item index] = some item) :
    ∃ value, values[index]? = some value ∧ read item = .ok value := by
  obtain ⟨array, stepped, there⟩ := follow_cons.mp followed
  have item_there := follow_single.mp there
  have read := found array stepped
  cases array with
  | array items =>
    simp only [jsonArray, mapM_ok] at read
    exact forall₂_getElem read item_there
  | _ => cases item_there

theorem targets_of_receiver {receiver : ReceiverConfig} (read : readReceiver arithmetic json = .ok receiver) :
    ReadFrom json "targets" (jsonArray "receiver targets must be an array" (readTarget arithmetic receiver.receiver))
      receiver.targets := by
  simp only [readReceiver, bind_eq_ok] at read
  obtain ⟨id, -, read⟩ := read
  split at read
  · cases read
  simp only [bind_eq_ok, pure_eq_ok] at read
  obtain ⟨_, -, _, -, _, -, targets, targets_read, rfl⟩ := read
  exact required_read targets_read

theorem capture_of_analogue {analogue : AnalogueConfig} (read : readAnalogue arithmetic json = .ok analogue) :
    ∀ found, optionalMember json "capture" = some found → AllRead captureMembers found analogue.capture := by
  simp only [readAnalogue, bind_eq_ok, pure_eq_ok] at read
  obtain ⟨capture, capture_read, rfl⟩ := read
  exact fun found member => capture_reads (optional_read capture_read found member)

/-- Every integer is read by its rule. -/
theorem fields_read (read : readConfig arithmetic json = .ok config) {field : IntegerField} (known : field.InConfig) :
    field.Reads json config := by
  have root := config_reads read
  unfold readConfig at read
  iterate 3 obtain ⟨_, -, read⟩ := bind_eq_ok.mp read
  obtain ⟨pluto, pluto_read, read⟩ := bind_eq_ok.mp read
  obtain ⟨fallback, fallback_read, read⟩ := bind_eq_ok.mp read
  iterate 2 obtain ⟨_, -, read⟩ := bind_eq_ok.mp read
  obtain ⟨tsGateway, tsGateway_read, read⟩ := bind_eq_ok.mp read
  obtain ⟨gatewayInput, gatewayInput_read, read⟩ := bind_eq_ok.mp read
  obtain ⟨piStatus, piStatus_read, read⟩ := bind_eq_ok.mp read
  obtain ⟨hardwarePtt, hardwarePtt_read, read⟩ := bind_eq_ok.mp read
  obtain ⟨_, -, read⟩ := bind_eq_ok.mp read
  obtain ⟨ident, ident_read, read⟩ := bind_eq_ok.mp read
  obtain ⟨analogue, analogue_read, read⟩ := bind_eq_ok.mp read
  obtain ⟨receivers, receivers_read, read⟩ := bind_eq_ok.mp read
  cases read
  rcases known with among | ⟨index, among⟩ | ⟨index, position, among⟩
  · simp only [sectionFields, List.mem_append, or_assoc] at among
    rcases among with among | among | among | among | among | among | among | among | among
    · refine fieldsOf_reads ?_ field among
      rintro found ⟨⟩
      exact ⟨_, rfl, root⟩
    · exact section_reads pluto_read (fun _ => pluto_reads) rfl field among
    · exact section_reads fallback_read (fun _ => fallback_reads) rfl field among
    · exact section_reads tsGateway_read (fun _ => tsGateway_reads) rfl field among
    · exact section_reads gatewayInput_read (fun _ => gatewayInput_reads) rfl field among
    · exact section_reads piStatus_read (fun _ => piStatus_reads) rfl field among
    · exact section_reads hardwarePtt_read (fun _ => hardwarePtt_reads) rfl field among
    · exact section_reads ident_read (fun _ => ident_reads) rfl field among
    · refine fieldsOf_reads (fun capture followed => ⟨analogue.capture, rfl, ?_⟩) field among
      obtain ⟨found, stepped, last⟩ := follow_cons.mp followed
      exact capture_of_analogue (optional_read analogue_read found stepped) capture (follow_single.mp last)
  · refine fieldsOf_reads (fun item followed => ?_) field among
    obtain ⟨receiver, there, read⟩ := item_read (required_read receivers_read) followed
    exact ⟨receiver, there, receiver_reads read⟩
  · refine fieldsOf_reads (fun item followed => ?_) field among
    obtain ⟨found, front, back⟩ := (@follow_append json item [.member "receivers", .item index] _).mp followed
    obtain ⟨receiver, there, read⟩ := item_read (required_read receivers_read) front
    obtain ⟨target, within, target_read⟩ := item_read (targets_of_receiver read) back
    refine ⟨target, ?_, target_reads target_read⟩
    simp only [there, Option.bind_eq_bind, Option.bind_some, within]

theorem fieldsOf_bounded (bounded : members.all (fun member => decide member.rule.Bounded) = true) :
    ∀ field ∈ fieldsOf steps get members, field.rule.Bounded := by
  intro field among
  obtain ⟨member, inside, rfl⟩ := List.mem_map.mp among
  exact of_decide_eq_true (List.all_eq_true.mp bounded member inside)

theorem rule_bounded {field : IntegerField} (known : field.InConfig) : field.rule.Bounded := by
  rcases known with among | ⟨index, among⟩ | ⟨index, position, among⟩
  · simp only [sectionFields, List.mem_append, or_assoc] at among
    rcases among with among | among | among | among | among | among | among | among | among
    all_goals exact fieldsOf_bounded (by decide) field among
  · exact fieldsOf_bounded (by decide) field among
  · exact fieldsOf_bounded (by decide) field among

/-- The integers of an accepted configuration are those that were given exactly
when each literal is one that the rule of its field keeps. -/
theorem numbers_unaltered_iff {text : Bytes} (accepted : configFromJson arithmetic text = some (.ok config)) :
    ∃ spelling, JsonParser.spell text = some (.ok spelling) ∧ (NumbersUnaltered spelling config ↔ NumbersSound spelling) := by
  obtain ⟨root, parsed, read⟩ := read_of_accepted accepted
  obtain ⟨spelling, spelled, means⟩ := JsonParser.spelled_of_parsed parsed
  refine ⟨spelling, spelled, forall_congr' fun field => forall_congr' fun known => forall_congr' fun literal =>
    forall_congr' fun given => ?_⟩
  have reads := fields_read read known _ (follow_literal means given)
  rw [← Rule.unaltered_iff (rule_bounded known) literal]
  refine and_congr_right fun inRange => ?_
  rw [reads inRange]
  constructor
  · rintro ⟨stored, same, meant⟩
    cases same
    exact meant
  · intro meant
    exact ⟨_, rfl, meant⟩

/-- A port of 17 bits. -/
def widePortText : Bytes := bytes "\x7b\"pluto\":\x7b\"port\":70000\x7d,\"receivers\":[]\x7d"

def widePort : RepeaterConfig := { pluto := { port := 4464, muxRateKbps := 333, videoBitrateKbps := 237 } }

theorem widePort_accepted : configFromJson wrapping widePortText = some (.ok widePort) := by
  have printed : (Document.object .compact [("pluto", .object .compact [("port", .decimal 70000)]),
      ("receivers", .array .compact [])]).print (fun _ => []) ++ [] = widePortText := by decide
  have parsed : JsonParser.parse widePortText =
      some (.ok (.object [(bytes "pluto", .object [(bytes "port", .number 70000)]), (bytes "receivers", .array [])])) := by
    rw [← printed, Document.parse_print _ rfl, if_pos (by decide)]
    · rfl
    · simp only [Document.Proper, Document.ProperMembers, Document.ProperItems, and_true]
      exact ⟨by decide, ⟨by decide, by decide⟩, by decide⟩
  rw [configFromJson_of_parse parsed]
  rfl

theorem widePort_iff :
    ∃ spelling, JsonParser.spell widePortText = some (.ok spelling) ∧
      (NumbersUnaltered spelling widePort ↔ NumbersSound spelling) := numbers_unaltered_iff widePort_accepted

def widePortSpelling : Spelling :=
  .object [(bytes "pluto", .object [(bytes "port", .number false (bytes "70000") [])]), (bytes "receivers", .array [])]

theorem widePort_literal : widePortSpelling.literal [.member "pluto", .member "port"] = some 70000 := by
  have digits : digitsValue (bytes "70000") = 70000 := by decide
  have value : JsonParser.decimalValue false (bytes "70000") [] = 70000 := by
    simp [JsonParser.decimalValue, digits]
  exact congrArg some value

/-- The port is accepted, and another one is stored. -/
theorem widePort_altered :
    configFromJson wrapping widePortText = some (.ok widePort) ∧ widePort.pluto.port = 4464 ∧
      JsonParser.spell widePortText = some (.ok widePortSpelling) ∧ ¬ NumbersUnaltered widePortSpelling widePort := by
  refine ⟨widePort_accepted, rfl, rfl, fun unaltered => ?_⟩
  have known : IntegerField.InConfig ⟨[.member "pluto", .member "port"], .whole .uint16,
      fun config => some (config.pluto.port.toNat : Int)⟩ := .inl (by simp [sectionFields, fieldsOf, plutoMembers])
  obtain ⟨-, stored, same, meant⟩ := unaltered _ known 70000 widePort_literal
  have narrow : stored = 4464 := (Option.some.inj same).symm
  rw [narrow] at meant
  exact absurd meant (by norm_num [Rule.meaning])

end WhRepeater
