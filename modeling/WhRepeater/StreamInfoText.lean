import WhRepeater.AccessMessages

/-! The text about a received stream (`media_pipeline.cpp`), and what the gateway
reads of it again (`daemon.cpp`). The lines are known by their place alone, so that
what stands on the third line is taken for the service. -/
namespace WhRepeater.StreamInfo

open TextScan JsonParser

/-- What `av_dict_get` finds of a key. -/
abbrev Dictionary := Bytes → Option Bytes

structure AVProgram where
  streamIndexes : List UInt32
  metadata : Option Dictionary

structure AVFormatContext where
  programs : List (Option AVProgram)
  metadata : Option Dictionary

/-- A text that is there, and is not empty. -/
def present (text : Option Bytes) : Option Bytes := text.filter (· ≠ [])

def appendInputTitle (input : ActiveInput) : Bytes :=
  if input.receiver.value > 0 then
    bytes "RX" ++ printInt input.receiver.value.toInt ++ (if input.target.label ≠ [] then bytes " " ++ input.target.label else [])
  else if input.target.label ≠ [] then input.target.label
  else bytes "Received stream"

/-- Codec, size and frame rate. -/
def videoText (codec : Bytes) (width height frameRate : Int32) : Bytes :=
  codec ++ bytes " " ++ printInt width.toInt ++ bytes "x" ++ printInt height.toInt ++ bytes " " ++ printInt frameRate.toInt ++
    bytes " fps"

def carrierText (input : ActiveInput) : Bytes :=
  printNat input.target.frequencyKhz.toNat ++ bytes " kHz / " ++ printNat input.target.symbolRateKs.toNat ++ bytes " kS"

def streamInfoText (input : ActiveInput) (codec : Bytes) (width height frameRate : Int32) : Bytes :=
  appendInputTitle input ++ bytes "\n" ++ carrierText input ++ bytes " | " ++ videoText codec width height frameRate ++
    match present input.status.serviceName with
    | some serviceName => bytes "\n" ++ serviceName ++
      match present input.status.modulation with
      | some modulation => bytes " | " ++ modulation
      | none => []
    | none =>
      match present input.status.modulation with
      | some modulation => bytes "\n" ++ modulation
      | none => []

/-- The first of the keys that has a text. -/
def dictionaryText (metadata : Option Dictionary) (keys : List Bytes) : Option Bytes :=
  metadata.bind fun metadata => keys.findSome? fun key => present (metadata key)

/-- The text of the first program with the stream that has one. -/
def programMetadataText (inputFormat : AVFormatContext) (stream : Int32) (keys : List Bytes) : Option Bytes :=
  (inputFormat.programs.filterMap id).findSome? fun program =>
    program.streamIndexes.findSome? fun index =>
      if index.toInt32 = stream then dictionaryText program.metadata keys else none

/-- What the metadata has, of the program or else of the whole. -/
def metadataText (inputFormat : AVFormatContext) (stream : Int32) (keys : List Bytes) : Option Bytes :=
  (programMetadataText inputFormat stream keys).or (dictionaryText inputFormat.metadata keys)

def serviceName (input : ActiveInput) (inputFormat : AVFormatContext) (stream : Int32) : Option Bytes :=
  present ((metadataText inputFormat stream [bytes "service_name", bytes "title"]).or input.status.serviceName)

def providerName (inputFormat : AVFormatContext) (stream : Int32) : Option Bytes :=
  present (metadataText inputFormat stream [bytes "service_provider", bytes "provider_name"])

def networkName (inputFormat : AVFormatContext) (stream : Int32) : Option Bytes :=
  present (metadataText inputFormat stream [bytes "network_name"])

def streamInfoTextOf (input : ActiveInput) (codec : Bytes) (width height frameRate : Int32) (inputFormat : AVFormatContext)
    (stream : Int32) : Bytes :=
  let service :=
    match serviceName input inputFormat stream with
    | some serviceName => bytes "\n" ++ serviceName ++
      match providerName inputFormat stream with
      | some providerName => bytes " | " ++ providerName
      | none => []
    | none => []
  let network :=
    match networkName inputFormat stream with
    | some networkName => bytes "\nNetwork: " ++ networkName
    | none =>
      match present input.status.modulation with
      | some modulation => bytes "\n" ++ modulation
      | none => []
  appendInputTitle input ++ bytes "\n" ++ carrierText input ++ bytes " | " ++ videoText codec width height frameRate ++
    service ++ network

/-! ## Lines -/

/-- A text of one line. -/
def OneLine (text : Bytes) : Prop := (10 : UInt8) ∉ text

/-- A text without line breaks and separators. -/
def Plain (text : Bytes) : Prop := OneLine text ∧ ¬ bytes " | " <:+: text

instance (text : Bytes) : Decidable (OneLine text) := inferInstanceAs (Decidable (¬ _))

instance (text : Bytes) : Decidable (Plain text) := inferInstanceAs (Decidable (¬ _ ∧ ¬ _))

/-- The lines of a text that is put together of lines. -/
theorem streamInfoLines_lines {first : Bytes} {lines : List Bytes} (single : ∀ line ∈ first :: lines, OneLine line)
    (some : ∀ line ∈ first :: lines, line ≠ []) :
    streamInfoLines (first ++ lines.flatMap (bytes "\n" ++ ·)) = first :: lines := by
  have joined : first ++ lines.flatMap (bytes "\n" ++ ·) = [10].intercalate (first :: lines) := by
    induction lines generalizing first with
    | nil => simp
    | cons second lines ih =>
      rw [List.intercalate_cons_cons, ← ih (fun line among => single line (List.mem_cons_of_mem first among))
        fun line among => some line (List.mem_cons_of_mem first among), List.flatMap_cons, List.append_assoc, List.append_assoc]
      rfl
  rw [joined, streamInfoLines, List.splitOn_intercalate 10 single (List.cons_ne_nil _ _), List.filter_eq_self]
  exact fun line among => decide_eq_true (some line among)

/-! ## The service on a line -/

/-- What is read of a line as the service. -/
def serviceOf (line : Bytes) : Option Bytes :=
  match find line (bytes " | ") 0 with
  | some separator => nonempty (line.take separator)
  | none => nonempty line

/-- What a line has behind the first part. -/
def behindSeparator (part : Option Bytes) : Bytes :=
  match part with
  | some part => bytes " | " ++ part
  | none => []

theorem indexOf_absent {pattern text : Bytes} (absent : ¬ pattern <:+: text) : indexOf pattern text = none := by
  cases found : indexOf pattern text with
  | none => rfl
  | some position =>
    obtain ⟨front, behind, split, -⟩ := indexOf_split found
    exact absurd ⟨front, behind, split.symm⟩ absent

theorem serviceOf_plain {line : Bytes} (plain : ¬ bytes " | " <:+: line) : serviceOf line = nonempty line := by
  unfold serviceOf
  rw [find_zero, indexOf_absent plain]

/-- A line has a service, unless it begins with the separator. -/
theorem serviceOf_some {line : Bytes} (some : line ≠ []) (front : ¬ bytes " | " <+: line) : serviceOf line ≠ none := by
  unfold serviceOf
  rw [find_zero]
  cases found : indexOf (bytes " | ") line with
  | none => simp [nonempty, some]
  | some position =>
    obtain ⟨before, behind, split, length⟩ := indexOf_split found
    have positive : before ≠ [] := by
      rintro rfl
      exact front ⟨behind, split.symm⟩
    have taken : line.take position = before := by
      rw [← length, split, List.append_assoc, List.take_left]
    simp [nonempty, taken, positive]

/-- The first separator behind a text is the one that follows it, unless the text ends with
the beginning of one. -/
theorem separator_first {text other later : Bytes} (plain : ¬ bytes " | " <:+: text) (ending : ¬ bytes " |" <:+ text)
    (same : text ++ bytes " | " = other ++ bytes " | " ++ later) : other = text := by
  have separator : bytes " | " = [32, 124, 32] := by decide
  have beginning : bytes " |" = [32, 124] := by decide
  rw [List.append_assoc] at same
  rw [separator] at plain same
  rw [beginning] at ending
  rcases List.append_eq_append_iff.mp same with ⟨more, rfl, rest⟩ | ⟨more, rfl, rest⟩
  · have lengths := congrArg List.length rest
    simp only [List.length_append, List.length_cons, List.length_nil] at lengths
    rw [List.eq_nil_of_length_eq_zero (by omega : more.length = 0), List.append_nil]
  · rcases more with _ | ⟨first, _ | ⟨second, _ | ⟨third, more⟩⟩⟩
    · exact (List.append_nil other).symm
    · simp at rest
    · simp only [List.cons_append, List.nil_append, List.cons.injEq] at rest
      rw [← rest.1, ← rest.2.1] at ending
      exact absurd (List.suffix_append other [32, 124]) ending
    · simp only [List.cons_append, List.nil_append, List.cons.injEq] at rest
      rw [← rest.1, ← rest.2.1, ← rest.2.2.1] at plain
      exact absurd ⟨other, more, by simp⟩ plain

/-- The part in front of the first separator is taken. -/
theorem serviceOf_separated (service part : Bytes) :
    ∃ front later, service ++ bytes " | " = front ++ bytes " | " ++ later ∧
      indexOf (bytes " | ") (service ++ bytes " | ") = some front.length ∧
        serviceOf (service ++ (bytes " | " ++ part)) = nonempty front := by
  obtain ⟨position, found⟩ := indexOf_there service (bytes " | ") []
  rw [List.append_nil] at found
  obtain ⟨front, later, split, rfl⟩ := indexOf_split found
  refine ⟨front, later, split, found, ?_⟩
  have longer := indexOf_append found part
  rw [List.append_assoc] at longer
  have taken : (service ++ (bytes " | " ++ part)).take front.length = front := by
    rw [← List.append_assoc, split, List.append_assoc, List.append_assoc, List.take_left]
  unfold serviceOf
  rw [find_zero, longer]
  dsimp only
  rw [taken]

theorem serviceOf_parts {service : Bytes} (plain : ¬ bytes " | " <:+: service) (some : service ≠ []) (part : Option Bytes) :
    serviceOf (service ++ behindSeparator part) = Option.some service ↔ (part.isSome → ¬ bytes " |" <:+ service) := by
  have whole : nonempty service = Option.some service := if_neg some
  cases part with
  | none =>
    rw [behindSeparator, List.append_nil, serviceOf_plain plain, whole]
    exact iff_of_true rfl fun never => nomatch never
  | some part =>
    obtain ⟨front, later, split, found, read⟩ := serviceOf_separated service part
    rw [behindSeparator, read]
    constructor
    · rintro kept - ⟨shorter, rfl⟩
      have same : front = shorter ++ bytes " |" := by
        unfold nonempty at kept
        split at kept
        · cases kept
        · exact Option.some.inj kept
      obtain ⟨position, earlier⟩ := indexOf_there shorter (bytes " | ") []
      rw [List.append_nil] at earlier
      have overlap : bytes " | " ++ bytes "| " = bytes " |" ++ bytes " | " := by decide
      have longer := indexOf_append earlier (bytes "| ")
      rw [List.append_assoc, overlap, ← List.append_assoc, found, Option.some.injEq, same] at longer
      obtain ⟨before, behind, early, length⟩ := indexOf_split earlier
      have lengths := congrArg List.length early
      have two : (bytes " |").length = 2 := by decide
      rw [List.length_append, two] at longer
      simp only [List.length_append] at lengths
      omega
    · intro ending
      rw [separator_first plain (ending rfl) split, whole]

/-! ## What is read of the text -/

/-- The service that is there is alone on its line, or does not end with the beginning of a separator; where
there is none, there is no further line. -/
def Told (service part further : Option Bytes) : Prop :=
  match service with
  | some service => part.isSome → ¬ bytes " |" <:+ service
  | none => further = none

/-- The lines behind that of the carrier. -/
def furtherLines (service part : Option Bytes) (further : Option Bytes) : List Bytes :=
  match service with
  | some service => (service ++ behindSeparator part) :: further.toList
  | none => further.toList

theorem oneLine_append {front back : Bytes} (first : OneLine front) (second : OneLine back) : OneLine (front ++ back) :=
  fun among => (List.mem_append.mp among).elim first second

theorem oneLine_scalar {text : Bytes} (scalar : Scalar text) : OneLine text := scalar.not_mem rfl

variable {input : ActiveInput} {codec : Bytes} {width height frameRate : Int32}

theorem title_ne_nil (input : ActiveInput) : appendInputTitle input ≠ [] := by
  have receiver : bytes "RX" ≠ [] := by decide
  have stream : bytes "Received stream" ≠ [] := by decide
  unfold appendInputTitle
  split
  · simp [receiver]
  · split
    · assumption
    · exact stream

theorem title_oneLine (label : OneLine input.target.label) : OneLine (appendInputTitle input) := by
  unfold appendInputTitle
  split
  · refine oneLine_append (oneLine_append (by decide) (oneLine_scalar (scalar_printInt _))) ?_
    split
    · exact oneLine_append (by decide) label
    · decide
  · split
    · exact label
    · decide

theorem carrier_without {ch : UInt8} (input : ActiveInput) (other : isScalar ch = false)
    (words : ch ∉ bytes " kHz / " ∧ ch ∉ bytes " kS") : ch ∉ carrierText input := by
  simp only [carrierText, List.mem_append, not_or]
  exact ⟨⟨⟨(scalar_printNat _).not_mem other, words.1⟩, (scalar_printNat _).not_mem other⟩, words.2⟩

theorem video_oneLine (codec_plain : OneLine codec) (width height frameRate : Int32) :
    OneLine (videoText codec width height frameRate) := by
  have number := fun value : Int32 => oneLine_scalar (scalar_printInt value.toInt)
  have word : ∀ {text : Bytes}, OneLine text → ∀ {front : Bytes}, OneLine front → OneLine (front ++ text) :=
    fun back _ front => oneLine_append front back
  refine word (by decide) (word (number _) (word (by decide) (word (number _) (word (by decide) (word (number _) ?_)))))
  exact word (by decide) codec_plain

/-- What is read of a text by its lines. -/
theorem read_lines (label : OneLine input.target.label) (codec_plain : OneLine codec) (width height frameRate : Int32)
    {lines : List Bytes} (single : ∀ line ∈ lines, OneLine line) (some : ∀ line ∈ lines, line ≠ []) :
    let text := appendInputTitle input ++ bytes "\n" ++ carrierText input ++ bytes " | " ++
      videoText codec width height frameRate ++ lines.flatMap (bytes "\n" ++ ·)
    serviceFromStreamInfo text = lines.head?.bind serviceOf ∧
      videoFormatFromStreamInfo text = Option.some (videoText codec width height frameRate) := by
  intro text
  have bar : code '|' ∉ carrierText input := carrier_without input rfl (by decide)
  have carrier : ∀ {pattern : Bytes}, code '|' ∈ pattern → ¬ pattern <:+: carrierText input := fun among inside =>
    bar (inside.subset among)
  obtain ⟨front, later, split, found, -⟩ := serviceOf_separated (carrierText input) []
  have place := separator_first (carrier (by decide)) (fun ends => carrier (by decide) ends.isInfix) split
  rw [place] at found
  have separator : find (carrierText input ++ bytes " | " ++ videoText codec width height frameRate) (bytes " | ") 0 =
      Option.some (carrierText input).length := by
    rw [find_zero]
    exact indexOf_append found _
  have title := title_ne_nil input
  have line : carrierText input ++ bytes " | " ++ videoText codec width height frameRate ≠ [] := by
    have bar : bytes " | " ≠ [] := by decide
    simp [bar]
  have carrier_line : OneLine (carrierText input) := carrier_without input rfl (by decide)
  have lines_eq : streamInfoLines text = appendInputTitle input ::
      (carrierText input ++ bytes " | " ++ videoText codec width height frameRate) :: lines := by
    have read := @streamInfoLines_lines (appendInputTitle input)
      ((carrierText input ++ bytes " | " ++ videoText codec width height frameRate) :: lines)
      (List.forall_mem_cons.mpr ⟨title_oneLine label, List.forall_mem_cons.mpr
        ⟨oneLine_append (oneLine_append carrier_line (by decide)) (video_oneLine codec_plain width height frameRate), single⟩⟩)
      (List.forall_mem_cons.mpr ⟨title, List.forall_mem_cons.mpr ⟨line, some⟩⟩)
    rw [← read, List.flatMap_cons]
    simp only [text, List.append_assoc]
  constructor
  · unfold serviceFromStreamInfo
    rw [lines_eq]
    cases lines with
    | nil => rfl
    | cons third lines => rfl
  · unfold videoFormatFromStreamInfo
    rw [lines_eq]
    dsimp only
    have three : (bytes " | ").length = 3 := by decide
    have video : videoText codec width height frameRate ≠ [] := by
      have fps : bytes " fps" ≠ [] := by decide
      simp [videoText, fps]
    rw [separator, Option.bind_some, ← three, ← List.length_append, List.drop_left, nonempty, if_neg video]

/-! ## Texts without metadata and with it -/

structure PlainInput (input : ActiveInput) : Prop where
  label : Plain input.target.label
  serviceName : ∀ text ∈ input.status.serviceName, Plain text
  modulation : ∀ text ∈ input.status.modulation, Plain text

def PlainDictionary (metadata : Option Dictionary) : Prop := ∀ found ∈ metadata, ∀ key, ∀ text ∈ found key, Plain text

structure PlainFormat (inputFormat : AVFormatContext) : Prop where
  metadata : PlainDictionary inputFormat.metadata
  programs : ∀ program, some program ∈ inputFormat.programs → PlainDictionary program.metadata

theorem present_some {text : Option Bytes} {value : Bytes} (some : present text = Option.some value) :
    text = Option.some value ∧ value ≠ [] := by
  obtain ⟨there, kept⟩ := Option.filter_eq_some_iff.mp some
  exact ⟨there, of_decide_eq_true kept⟩

theorem plain_dictionaryText {metadata : Option Dictionary} (plain : PlainDictionary metadata) (keys : List Bytes) :
    ∀ text ∈ dictionaryText metadata keys, Plain text := by
  intro text among
  obtain ⟨found, there, first⟩ := Option.bind_eq_some_iff.mp among
  obtain ⟨key, -, value⟩ := List.exists_of_findSome?_eq_some first
  exact plain found there key text (present_some value).1

theorem plain_metadataText {inputFormat : AVFormatContext} (plain : PlainFormat inputFormat) (stream : Int32) (keys : List Bytes) :
    ∀ text ∈ metadataText inputFormat stream keys, Plain text := by
  intro text among
  rcases Option.or_eq_some_iff.mp among with program | ⟨-, whole⟩
  · obtain ⟨program, listed, first⟩ := List.exists_of_findSome?_eq_some program
    obtain ⟨index, -, value⟩ := List.exists_of_findSome?_eq_some first
    obtain ⟨_, listed, rfl⟩ := List.mem_filterMap.mp listed
    split at value
    · exact plain_dictionaryText (plain.programs program listed) keys text value
    · cases value
  · exact plain_dictionaryText plain.metadata keys text whole

/-- A further line is no service line: it does not begin with a separator. -/
def Further (line : Bytes) : Prop := line ≠ [] ∧ OneLine line ∧ ¬ bytes " | " <+: line

/-- The service is read if and only if it is told. -/
theorem read_service_iff {service part further : Option Bytes} (service_some : ∀ text ∈ service, text ≠ [] ∧ Plain text)
    (further_line : ∀ line ∈ further, Further line) :
    (furtherLines service part further).head?.bind serviceOf = service ↔ Told service part further := by
  cases service with
  | some service =>
    obtain ⟨some, plain⟩ := service_some service rfl
    exact serviceOf_parts plain.2 some part
  | none =>
    cases further with
    | none => exact iff_of_true rfl rfl
    | some line =>
      obtain ⟨some, -, front⟩ := further_line line rfl
      exact iff_of_false (serviceOf_some some front) (Option.some_ne_none line)

theorem furtherLines_fit {service part further : Option Bytes} (service_some : ∀ text ∈ service, text ≠ [] ∧ Plain text)
    (part_line : ∀ text ∈ part, OneLine text) (further_line : ∀ line ∈ further, Further line) :
    ∀ line ∈ furtherLines service part further, OneLine line ∧ line ≠ [] := by
  have rest : ∀ line ∈ further.toList, OneLine line ∧ line ≠ [] := fun line among =>
    have fits := further_line line (Option.mem_toList.mp among)
    ⟨fits.2.1, fits.1⟩
  cases service with
  | none => exact rest
  | some service =>
    obtain ⟨some, plain⟩ := service_some service rfl
    have behind : OneLine (behindSeparator part) := by
      cases part with
      | none => decide
      | some part => exact oneLine_append (by decide) (part_line part rfl)
    refine List.forall_mem_cons.mpr ⟨⟨oneLine_append plain.1 behind, ?_⟩, rest⟩
    simp [some]

/-- The modulation, and the name of the network, are further lines. -/
theorem further_plain {line : Bytes} (some : line ≠ []) (plain : Plain line) : Further line :=
  ⟨some, plain.1, fun front => plain.2 front.isInfix⟩

theorem further_network {network : Bytes} (plain : OneLine network) : Further (bytes "Network: " ++ network) := by
  have label : bytes "Network: " = code 'N' :: bytes "etwork: " := by decide
  have bar : bytes " | " = code ' ' :: bytes "| " := by decide
  refine ⟨by simp [label], oneLine_append (by decide) plain, fun front => ?_⟩
  rw [label, bar, List.cons_append] at front
  exact absurd (List.cons_prefix_cons.mp front).1 (by decide)

/-- The line behind that of the service. -/
def networkLine (network modulation : Option Bytes) : Option Bytes := (network.map (bytes "Network: " ++ ·)).or modulation

theorem streamInfoText_eq (input : ActiveInput) (codec : Bytes) (width height frameRate : Int32) :
    streamInfoText input codec width height frameRate =
      appendInputTitle input ++ bytes "\n" ++ carrierText input ++ bytes " | " ++ videoText codec width height frameRate ++
        (furtherLines (present input.status.serviceName) (present input.status.modulation)
          (if (present input.status.serviceName).isSome then none else present input.status.modulation)).flatMap
            (bytes "\n" ++ ·) := by
  unfold streamInfoText
  cases present input.status.serviceName <;> cases present input.status.modulation <;> simp [furtherLines, behindSeparator]

theorem streamInfoTextOf_eq (input : ActiveInput) (codec : Bytes) (width height frameRate : Int32) (inputFormat : AVFormatContext)
    (stream : Int32) :
    streamInfoTextOf input codec width height frameRate inputFormat stream =
      appendInputTitle input ++ bytes "\n" ++ carrierText input ++ bytes " | " ++ videoText codec width height frameRate ++
        (furtherLines (serviceName input inputFormat stream) (providerName inputFormat stream)
          (networkLine (networkName inputFormat stream) (present input.status.modulation))).flatMap (bytes "\n" ++ ·) := by
  have network : bytes "\nNetwork: " = bytes "\n" ++ bytes "Network: " := by decide
  unfold streamInfoTextOf
  cases serviceName input inputFormat stream <;> cases providerName inputFormat stream <;>
    cases networkName inputFormat stream <;> cases present input.status.modulation <;>
    simp [furtherLines, behindSeparator, networkLine, network]

/-- The service and the video format that were put in are read of a text. -/
def Decoded (text : Bytes) (service : Option Bytes) (video : Bytes) : Prop :=
  serviceFromStreamInfo text = service ∧ videoFormatFromStreamInfo text = some video

section

variable {input : ActiveInput} {codec : Bytes}

/-- The lines of either text are decoded if and only if the service is told. -/
theorem lines_decoded_iff (plain : PlainInput input) (codec_plain : Plain codec) (width height frameRate : Int32)
    {service part further : Option Bytes} (service_some : ∀ text ∈ service, text ≠ [] ∧ Plain text)
    (part_line : ∀ text ∈ part, OneLine text) (further_line : ∀ line ∈ further, Further line) :
    Decoded (appendInputTitle input ++ bytes "\n" ++ carrierText input ++ bytes " | " ++
      videoText codec width height frameRate ++ (furtherLines service part further).flatMap (bytes "\n" ++ ·)) service
        (videoText codec width height frameRate) ↔ Told service part further := by
  have fit := furtherLines_fit service_some part_line further_line
  obtain ⟨read, video⟩ := read_lines plain.label.1 codec_plain.1 width height frameRate (fun line among => (fit line among).1)
    fun line among => (fit line among).2
  rw [Decoded, read, and_iff_left video]
  exact read_service_iff service_some further_line

theorem modulation_further (plain : PlainInput input) {line : Bytes} (among : line ∈ present input.status.modulation) : Further line :=
  have there := present_some among
  further_plain there.2 (plain.modulation line there.1)

theorem plain_present (plain : PlainInput input) {text : Bytes} (among : text ∈ present input.status.serviceName) :
    text ≠ [] ∧ Plain text :=
  have there := present_some among
  ⟨there.2, plain.serviceName text there.1⟩

/-- The service is that of the metadata, or that of the receiver. -/
theorem plain_serviceName (plain : PlainInput input) {inputFormat : AVFormatContext} (format : PlainFormat inputFormat) (stream : Int32)
    {text : Bytes} (among : text ∈ serviceName input inputFormat stream) : text ≠ [] ∧ Plain text := by
  obtain ⟨there, some⟩ := present_some among
  refine ⟨some, ?_⟩
  rcases Option.or_eq_some_iff.mp there with metadata | ⟨-, status⟩
  · exact plain_metadataText format stream _ text metadata
  · exact plain.serviceName text status

theorem networkLine_further (plain : PlainInput input) {inputFormat : AVFormatContext} (format : PlainFormat inputFormat) (stream : Int32)
    {line : Bytes} (among : line ∈ networkLine (networkName inputFormat stream) (present input.status.modulation)) : Further line := by
  rcases Option.or_eq_some_iff.mp among with network | ⟨-, other⟩
  · obtain ⟨name, there, rfl⟩ := Option.map_eq_some_iff.mp network
    exact further_network (plain_metadataText format stream _ name (present_some there).1).1
  · exact modulation_further plain other

end

/-- The text about a stream is decoded if and only if its service is told: with the modulation as the
part behind it, or with the provider and then the name of the network or the modulation. -/
theorem stream_info_decoded_iff {input : ActiveInput} (plain : PlainInput input) {codec : Bytes} (codec_plain : Plain codec)
    (width height frameRate : Int32) :
    (Decoded (streamInfoText input codec width height frameRate) (present input.status.serviceName)
        (videoText codec width height frameRate) ↔
      Told (present input.status.serviceName) (present input.status.modulation) (present input.status.modulation)) ∧
    ∀ inputFormat, PlainFormat inputFormat → ∀ stream,
      (Decoded (streamInfoTextOf input codec width height frameRate inputFormat stream) (serviceName input inputFormat stream)
          (videoText codec width height frameRate) ↔
        Told (serviceName input inputFormat stream) (providerName inputFormat stream)
          ((networkName inputFormat stream).or (present input.status.modulation))) := by
  have modulation_line : ∀ line ∈ present input.status.modulation, OneLine line := fun _ among =>
    (modulation_further plain among).2.1
  constructor
  · rw [streamInfoText_eq, lines_decoded_iff plain codec_plain _ _ _ (fun _ => plain_present plain) modulation_line]
    · cases present input.status.serviceName <;> rfl
    · intro line among
      split at among
      · cases among
      · exact modulation_further plain among
  · intro inputFormat format stream
    have provider : ∀ text ∈ providerName inputFormat stream, OneLine text := fun text among =>
      (plain_metadataText format stream _ text (present_some among).1).1
    rw [streamInfoTextOf_eq, lines_decoded_iff plain codec_plain _ _ _ (fun _ => plain_serviceName plain format stream) provider
      fun _ => networkLine_further plain format stream]
    cases serviceName input inputFormat stream <;> cases networkName inputFormat stream <;> simp [Told, networkLine]

/-- A receiver without a service, and the metadata of a network. -/
def quietInput : ActiveInput := ⟨⟨1⟩, {}, { receiver := ⟨1⟩ }⟩

def networkFormat : AVFormatContext :=
  ⟨[], some fun key => if key = bytes "network_name" then some (bytes "BATC") else none⟩

theorem plain_networkFormat : PlainFormat networkFormat := by
  refine ⟨?_, fun program listed => nomatch listed⟩
  rintro _ ⟨⟩ key text found
  dsimp only at found
  split at found
  · cases found
    decide
  · cases found

/-- The line of the network is read as the service of a stream without one. -/
theorem network_read_as_service :
    ¬ ∀ input, PlainInput input → ∀ codec, Plain codec → ∀ width height frameRate inputFormat, PlainFormat inputFormat →
      ∀ stream, Decoded (streamInfoTextOf input codec width height frameRate inputFormat stream)
        (serviceName input inputFormat stream) (videoText codec width height frameRate) := by
  intro every
  have plain : PlainInput quietInput := ⟨by decide, (fun _ never => nomatch never), fun _ never => nomatch never⟩
  have wrong := (every quietInput plain (bytes "h264") (by decide) 1920 1080 25 networkFormat plain_networkFormat 0).1
  revert wrong
  decide

theorem service_decoded :
    let input : ActiveInput :=
      ⟨⟨1⟩, {}, { receiver := ⟨1⟩, serviceName := some (bytes "GB3HV"), modulation := some (bytes "QPSK") }⟩
    Decoded (streamInfoText input (bytes "h264") 1920 1080 25) (some (bytes "GB3HV")) (videoText (bytes "h264") 1920 1080 25) ∧
      Decoded (streamInfoTextOf input (bytes "h264") 1920 1080 25 networkFormat 0) (some (bytes "GB3HV"))
        (videoText (bytes "h264") 1920 1080 25) := by
  intro input
  have plain : PlainInput input :=
    ⟨by decide, fun text among => by cases among; decide, fun text among => by cases among; decide⟩
  have decoded := stream_info_decoded_iff plain (by decide : Plain (bytes "h264")) 1920 1080 25
  exact ⟨decoded.1.mpr fun _ => by decide, (decoded.2 networkFormat plain_networkFormat 0).mpr fun never => by
    revert never
    decide⟩

end WhRepeater.StreamInfo
