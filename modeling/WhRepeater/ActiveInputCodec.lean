import WhRepeater.MediaMessages

/-! A selection on its way to the media child. Every reader is laid against what
is written for it: it takes exactly those bytes, and it throws when they end
early. Both compose, so the codec is proved in the order of the fields. -/
namespace WhRepeater

open PayloadReader

/-- The reader takes exactly what was written of the value. -/
def Reads (reader : PayloadReader α) (value : α) (written : Bytes) : Prop :=
  ∀ rest, reader (written ++ rest) = some (value, rest)

/-- It takes what was written, and throws on anything that ends before it. -/
structure ReadsWhole (reader : PayloadReader α) (value : α) (written : Bytes) : Prop where
  reads : Reads reader value written
  throws : ∀ front, front <+: written → front ≠ written → reader front = none

theorem prefix_append_cases {front first second : Bytes} (early : front <+: first ++ second) :
    (front <+: first ∧ front ≠ first) ∨ ∃ rest, front = first ++ rest ∧ rest <+: second := by
  obtain ⟨missing, same⟩ := early
  obtain ⟨rest, rfl, back⟩ | ⟨rest, rfl, back⟩ := List.append_eq_append_iff.mp same
  · by_cases none_missing : rest = []
    · subst none_missing
      exact .inr ⟨[], by simp, List.nil_prefix⟩
    · exact .inl ⟨List.prefix_append _ _, by simp [none_missing]⟩
  · exact .inr ⟨rest, rfl, missing, back.symm⟩

theorem Reads.bind {reader : PayloadReader α} {next : α → PayloadReader γ} {value : α} {other : γ}
    {front back : Bytes} (first : Reads reader value front) (second : Reads (next value) other back) :
    Reads (reader >>= next) other (front ++ back) := by
  intro rest
  have read := first (back ++ rest)
  simp only [Bind.bind, StateT.bind, List.append_assoc, read, Option.bind_some]
  exact second rest

theorem ReadsWhole.bind {reader : PayloadReader α} {next : α → PayloadReader γ} {value : α} {other : γ}
    {front back : Bytes} (first : ReadsWhole reader value front) (second : ReadsWhole (next value) other back) :
    ReadsWhole (reader >>= next) other (front ++ back) := by
  refine ⟨first.reads.bind second.reads, ?_⟩
  intro short early strict
  simp only [Bind.bind, StateT.bind]
  obtain ⟨sooner, less⟩ | ⟨rest, rfl, later⟩ := prefix_append_cases early
  · rw [first.throws short sooner less]
    rfl
  · rw [first.reads rest]
    exact second.throws rest later fun same => strict (by rw [same])

theorem whole_pure (value : α) : ReadsWhole (pure value) value [] :=
  ⟨fun _ => rfl, fun _ early strict => absurd (List.prefix_nil.mp early) strict⟩

theorem ReadsWhole.map {reader : PayloadReader α} {value : α} {written : Bytes}
    (whole : ReadsWhole reader value written) (make : α → γ) :
    ReadsWhole (make <$> reader) (make value) written := by
  have chain : ReadsWhole (reader >>= fun value => pure (make value)) (make value) (written ++ []) :=
    whole.bind (whole_pure (make value))
  rwa [List.append_nil, ← map_eq_pure_bind] at chain

/-! ## The kinds of fields -/

theorem whole_pod (width value : Nat) (small : value < 256 ^ width) :
    ReadsWhole (readPod width) value (littleEndian width value) := by
  constructor
  · intro rest
    rw [readPod_append, Nat.mod_eq_of_lt small]
  · intro front early strict
    have shorter : front.length < width := by
      have length := early.length_le
      rw [littleEndian_length] at length
      refine lt_of_le_of_ne length fun same => strict (early.eq_of_length ?_)
      rw [same, littleEndian_length]
    simp [readPod, shorter]

theorem whole_bool (value : Bool) : ReadsWhole readBool value (appendBool value) := by
  have small : (if value then 1 else 0) < 256 ^ 1 := by split <;> decide
  have whole := (whole_pod 1 (if value then 1 else 0) small).map (· != 0)
  have same : ((if value then 1 else 0) != 0) = value := by cases value <;> rfl
  rwa [same] at whole

theorem whole_string (value : Bytes) (short : value.length < 2 ^ 32) :
    ReadsWhole readString value (appendString value) := by
  refine (whole_pod 4 value.length (by simpa using short)).bind ⟨fun rest => ?_, fun front early strict => ?_⟩
  · simp
  · have shorter : front.length < value.length :=
      lt_of_le_of_ne early.length_le fun same => strict (early.eq_of_length same)
    simp [shorter]

theorem whole_optional {reader : PayloadReader α} (append : α → Bytes) (value : Option α)
    (whole : ∀ present ∈ value, ReadsWhole reader present (append present)) :
    ReadsWhole (readOptional reader) value (appendBool value.isSome ++ value.elim [] append) := by
  cases value with
  | none => exact (whole_bool false).bind (whole_pure none)
  | some present => exact (whole_bool true).bind ((whole present rfl).map some)

theorem whole_code {named : Nat → Option α} {value : α} (code : Nat) (small : code < 256 ^ 4)
    (names : named code = some value) : ReadsWhole (readCode named) value (littleEndian 4 code) := by
  rw [← List.append_nil (littleEndian 4 code)]
  refine (whole_pod 4 code small).bind ⟨fun rest => ?_, fun front early strict => ?_⟩
  · simp [StateT.lift, names]
  · exact absurd (List.prefix_nil.mp early) strict

theorem whole_uint32 (value : UInt32) :
    ReadsWhole (UInt32.ofNat <$> readPod 4) value (littleEndian 4 value.toNat) := by
  have whole := (whole_pod 4 value.toNat value.toNat_lt).map UInt32.ofNat
  rwa [UInt32.ofNat_toNat] at whole

theorem whole_uint64 (value : UInt64) :
    ReadsWhole (UInt64.ofNat <$> readPod 8) value (littleEndian 8 value.toNat) := by
  have whole := (whole_pod 8 value.toNat value.toNat_lt).map UInt64.ofNat
  rwa [UInt64.ofNat_toNat] at whole

theorem whole_receiver (receiver : ReceiverId) :
    ReadsWhole readReceiverId receiver (littleEndian 4 receiver.value.toUInt32.toNat) := by
  have whole := (whole_uint32 receiver.value.toUInt32).map fun word => (⟨word.toInt32⟩ : ReceiverId)
  simpa [readReceiverId, Functor.map_map] using whole

theorem whole_optionalDouble (value : Option DoubleBits) :
    ReadsWhole (readOptional (UInt64.ofNat <$> readPod 8)) value (appendOptionalDouble value) :=
  whole_optional _ value fun bits _ => whole_uint64 bits

theorem whole_optionalString (value : Option Bytes) (short : ∀ text ∈ value, text.length < 2 ^ 32) :
    ReadsWhole (readOptional readString) value (appendOptionalString value) :=
  whole_optional _ value fun text present => whole_string text (short text present)

/-! ## The records -/

/-- The strings fit their length fields. -/
structure ScanTarget.StringsFit (target : ScanTarget) : Prop where
  fec : target.fec.length < 2 ^ 32
  label : target.label.length < 2 ^ 32

structure ReceiverStatus.StringsFit (status : ReceiverStatus) : Prop where
  target : ∀ target ∈ status.target, target.StringsFit
  serviceName : ∀ serviceName ∈ status.serviceName, serviceName.length < 2 ^ 32
  modulation : ∀ modulation ∈ status.modulation, modulation.length < 2 ^ 32

structure ActiveInput.StringsFit (input : ActiveInput) : Prop where
  target : input.target.StringsFit
  status : input.status.StringsFit

theorem whole_target {target : ScanTarget} (fits : target.StringsFit) :
    ReadsWhole readScanTarget target (appendScanTarget target) := by
  have small := fun value : UInt32 => (value.toNat_lt : value.toNat < 256 ^ 4)
  have antenna : Antenna.ofCode target.antenna.code = some target.antenna := by cases target.antenna <;> rfl
  have system : DvbSystem.ofCode target.system.code = some target.system := by cases target.system <;> rfl
  unfold readScanTarget appendScanTarget
  simp only [List.append_assoc]
  apply (whole_pod 4 _ (small target.frequencyKhz)).bind
  apply (whole_pod 4 _ (small target.symbolRateKs)).bind
  apply (whole_pod 4 _ (small target.localOscillatorKhz)).bind
  apply (whole_code _ (by cases target.antenna <;> decide) antenna).bind
  apply (whole_code _ (by cases target.system <;> decide) system).bind
  apply (whole_string _ fits.fec).bind
  rw [← List.append_nil (appendString target.label)]
  apply (whole_string _ fits.label).bind
  simpa using whole_pure target

theorem whole_status (now : Time) {status : ReceiverStatus} (fits : status.StringsFit) :
    ReadsWhole (readReceiverStatus now) { status with updatedAt := now } (appendReceiverStatus status) := by
  have small := fun value : UInt64 => (value.toNat_lt : value.toNat < 256 ^ 8)
  have state : ReceiverState.ofCode status.state.code = some status.state := by cases status.state <;> rfl
  unfold readReceiverStatus appendReceiverStatus
  simp only [List.append_assoc]
  apply (whole_receiver status.receiver).bind
  apply (whole_code _ (by cases status.state <;> decide) state).bind
  rw [← List.append_assoc (appendBool status.target.isSome)]
  apply (whole_optional _ _ fun target present => whole_target (fits.target target present)).bind
  apply (whole_optionalDouble status.merDb).bind
  apply (whole_optionalDouble status.dNumberDb).bind
  apply (whole_optionalString _ fits.serviceName).bind
  apply (whole_optionalString _ fits.modulation).bind
  apply (whole_pod 8 _ (small status.transportPackets)).bind
  rw [← List.append_nil (littleEndian 8 status.continuityErrors.toNat)]
  apply (whole_pod 8 _ (small status.continuityErrors)).bind
  simpa using whole_pure { status with updatedAt := now }

/-- What is told of an input: not its measurements, and the status is as new as
the reading. -/
def ActiveInput.told (now : Time) (input : ActiveInput) : ActiveInput :=
  { input with
    status := { input.status with
      merDb := none, dNumberDb := none, transportPackets := 0, continuityErrors := 0, updatedAt := now } }

theorem whole_activeInput (now : Time) {input : ActiveInput} (fits : input.StringsFit) :
    ReadsWhole (readActiveInput now) (input.told now) (appendActiveInput input) := by
  have status : ReceiverStatus.StringsFit { input.status with
      merDb := none, dNumberDb := none, transportPackets := 0, continuityErrors := 0 } :=
    ⟨fits.status.target, fits.status.serviceName, fits.status.modulation⟩
  unfold readActiveInput appendActiveInput
  simp only [List.append_assoc]
  apply (whole_receiver input.receiver).bind
  apply (whole_target fits.target).bind
  rw [← List.append_nil (appendReceiverStatus _)]
  exact (whole_status now status).bind (whole_pure _)

theorem whole_active (now : Time) {input : Option ActiveInput} (fits : ∀ selected ∈ input, selected.StringsFit) :
    ReadsWhole (readOptional (readActiveInput now)) (input.map (ActiveInput.told now)) (activePayload input) := by
  cases input with
  | none => exact (whole_bool false).bind (whole_pure none)
  | some selected => exact (whole_bool true).bind ((whole_activeInput now (fits selected rfl)).map some)

/-- A selection is told as it was made, and no part of the message passes for
the whole: all its codes are named, so it is the missing bytes that throw. -/
theorem active_codec (now : Time) (input : Option ActiveInput) (fits : ∀ selected ∈ input, selected.StringsFit) :
    readActive now (activePayload input) = some (input.map (ActiveInput.told now)) ∧
      ∀ front, front <+: activePayload input → front ≠ activePayload input → readActive now front = none := by
  have whole := whole_active now fits
  constructor
  · have read := whole.reads []
    rw [List.append_nil] at read
    simp [readActive, StateT.run', read]
  · intro front early strict
    simp [readActive, StateT.run', whole.throws front early strict]

/-- A target with both strings, and a status with one. -/
def codecInput : ActiveInput where
  receiver := ⟨2⟩
  target := { frequencyKhz := 1249000, symbolRateKs := 333, system := .dvbs2, label := bytes "A" }
  status := { receiver := ⟨2⟩, state := .lockedDvbs2, serviceName := some (bytes "B"), merDb := some 7 }

theorem codecInput_fits : codecInput.StringsFit :=
  ⟨⟨by decide, by decide⟩, ⟨nofun, by rintro _ ⟨⟩; decide, nofun⟩⟩

theorem active_codec_input :
    readActive 5 (activePayload (some codecInput)) = some (some (codecInput.told 5)) ∧
      ∀ front, front <+: activePayload (some codecInput) → front ≠ activePayload (some codecInput) →
        readActive 5 front = none :=
  active_codec 5 (some codecInput) (by rintro _ ⟨⟩; exact codecInput_fits)

/-- The strings of a selection that fits a message fit their length fields. -/
theorem stringsFit_of_payload {input : Option ActiveInput} (short : (activePayload input).length < 2 ^ 32) :
    ∀ selected ∈ input, selected.StringsFit := by
  rintro selected ⟨⟩
  simp only [activePayload, appendActiveInput, appendReceiverStatus, Option.isSome_some, Option.elim_some,
    List.length_append] at short
  constructor
  · simp only [appendScanTarget, appendString, List.length_append] at short
    exact ⟨by omega, by omega⟩
  · refine ⟨?_, ?_, ?_⟩
    · intro target present
      simp only [Option.mem_def.mp present, Option.elim_some, appendScanTarget, appendString, List.length_append] at short
      exact ⟨by omega, by omega⟩
    · intro serviceName present
      simp only [Option.mem_def.mp present, appendOptionalString, Option.elim_some, appendString,
        List.length_append] at short
      omega
    · intro modulation present
      simp only [Option.mem_def.mp present, appendOptionalString, Option.elim_some, appendString,
        List.length_append] at short
      omega

theorem readActive_activePayload (now : Time) (input : Option ActiveInput)
    (short : (activePayload input).length < 2 ^ 32) :
    readActive now (activePayload input) = some (input.map (ActiveInput.told now)) := by
  have read := (whole_active now (stringsFit_of_payload short)).reads []
  rw [List.append_nil] at read
  simp [readActive, StateT.run', read]

end WhRepeater
