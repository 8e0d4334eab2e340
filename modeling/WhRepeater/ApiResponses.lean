import WhRepeater.ApiDocuments

/-! Whatever a client asks, the body of the response is one JSON value. The configuration is
laid out in lines, and of the status of the Pi only parts are written. -/
namespace WhRepeater

open TextScan Outcomes
open JsonGrammar (Value Content Blank Bare)

/-! ## The configuration -/

namespace Document

/-- The white space is that of JSON, without tabs to the side of it. -/
def plainLayout (layout : Layout) : Bool := (layout.opening ++ layout.comma ++ layout.colon ++ layout.closing).all JsonGrammar.blank

mutual
def plain : Document → Bool
  | .text _ => true
  | .decimal _ => true
  | .double _ => true
  | .flag _ => true
  | .array layout items => plainLayout layout && plainItems items
  | .object layout members => plainLayout layout && plainMembers members

def plainItems : List Document → Bool
  | [] => true
  | item :: items => plain item && plainItems items

def plainMembers : List (String × Document) → Bool
  | [] => true
  | (name, value) :: members => ApiServer.plainName name && (plain value && plainMembers members)
end

theorem plainItems_mapped {α : Type} {write : α → Document} (each : ∀ item, (write item).plain = true) (items : List α) :
    plainItems (items.map write) = true := by
  induction items with
  | nil => rfl
  | cons item items ih => rw [List.map_cons, plainItems, each, ih]; rfl

theorem plain_configJson (muxRateKbps videoBitrateKbps : UInt32) (config : RepeaterConfig) :
    (configJson muxRateKbps videoBitrateKbps config).plain = true := by
  have fallback : (fallbackJson config.fallback).plain = true := by
    have paths := plainItems_mapped (fun path => (rfl : (text path).plain = true)) config.fallback.videoPaths
    simp only [fallbackJson, plain, plainMembers, paths, Bool.and_true]
    rfl
  have receiver : ∀ receiver, (receiverJson receiver).plain = true := fun receiver => by
    have targets := plainItems_mapped (fun target => (rfl : (targetJson target).plain = true)) receiver.targets
    have layout : plainLayout (targetsLayout receiver.targets) = true := by unfold targetsLayout; split <;> rfl
    simp only [receiverJson, plain, plainMembers, targets, layout, Bool.and_true]
    rfl
  have receivers := plainItems_mapped receiver config.receivers
  have layout : plainLayout (receiversLayout config.receivers) = true := by unfold receiversLayout; split <;> rfl
  simp only [configJson, plain, plainMembers, fallback, receivers, layout, Bool.and_true]
  rfl

/-! What is written of a plain document. -/

variable {printDouble : Rat → Bytes} {layout : Layout} {name : String} {inside : List Bytes}

theorem gaps (layouts : plainLayout layout = true) :
    Blank layout.opening ∧ Blank layout.comma ∧ Blank layout.colon ∧ Blank layout.closing := by
  simp only [plainLayout, List.all_append, Bool.and_eq_true, List.all_eq_true] at layouts
  exact ⟨layouts.1.1.1, layouts.1.1.2, layouts.1.2, layouts.2⟩

theorem separated_intercalate (separator : Bytes) (items : List Bytes) : separated separator items = separator.intercalate items := by
  induction items with
  | nil => rfl
  | cons first items ih =>
    cases items with
    | nil => simp [separated]
    | cons second items =>
      rw [separated_cons_cons, ih]
      simp [List.intercalate]

theorem value_laid_array (layouts : plainLayout layout = true) (each : ∀ item ∈ inside, Value item) :
    Value (code '[' :: layout.opening ++ separated (code ',' :: layout.comma) inside ++ layout.closing ++ [code ']']) := by
  obtain ⟨opening, comma, -, closing⟩ := gaps layouts
  by_cases none : inside = []
  · rw [none]
    have empty : Value (code '[' :: (layout.opening ++ layout.closing ++ [code ']'])) :=
      .empty 91 93 _ (by simp) (JsonGrammar.blank_append opening closing)
    simpa [separated] using empty
  · obtain ⟨others, values, -, split⟩ := JsonGrammar.joined_spread opening comma closing Value.spaced none each
    have array := Value.array others values
    rw [JsonGrammar.array, ← split, ← separated_intercalate] at array
    exact array

theorem value_laid_object (layouts : plainLayout layout = true) (each : ∀ text ∈ inside, ApiServer.Member text) :
    Value (code '{' :: layout.opening ++ separated (code ',' :: layout.comma) inside ++ layout.closing ++ [code '}']) := by
  obtain ⟨opening, comma, -, closing⟩ := gaps layouts
  by_cases none : inside = []
  · rw [none]
    have empty : Value (code '{' :: (layout.opening ++ layout.closing ++ [code '}'])) :=
      .empty 123 125 _ (by simp) (JsonGrammar.blank_append opening closing)
    simpa [separated] using empty
  · have padded : ∀ before text after, Blank before → Blank after → ApiServer.Member text →
        ApiServer.Member (before ++ text ++ after) := by
      rintro before text after front back ⟨⟨name, value⟩, ⟨first, quoted, second, blank, string, gap, rfl⟩, written, rfl⟩
      refine ⟨(before ++ first ++ quoted ++ second, value ++ after), ⟨before ++ first, quoted, second,
        JsonGrammar.blank_append front blank, string, gap, rfl⟩, ?_, by simp [JsonGrammar.member]⟩
      exact Value.spaced [] value after (List.forall_mem_nil _) back written
    obtain ⟨others, members, -, split⟩ := JsonGrammar.joined_spread opening comma closing padded none each
    have object := ApiServer.value_object members
    rw [ApiServer.object, ApiServer.separated_joined, ← split, ← separated_intercalate] at object
    exact object

mutual
/-- A plain document is written as a value. -/
theorem value_print (numbers : ∀ number, Value (printDouble number)) (document : Document) (names : document.plain = true) :
    Value (document.print printDouble) := by
  match document with
  | .text value => exact ApiServer.value_string value
  | .decimal value => exact ApiServer.value_printInt value
  | .double value => exact numbers value
  | .flag value => exact ApiServer.value_boolean value
  | .array layout items =>
    rw [plain, Bool.and_eq_true] at names
    exact value_laid_array names.1 (values_printItems numbers items names.2)
  | .object layout members =>
    rw [plain, Bool.and_eq_true] at names
    exact value_laid_object names.1 (members_printMembers numbers (gaps names.1).2.2.1 members names.2)

theorem values_printItems (numbers : ∀ number, Value (printDouble number)) (items : List Document) (names : plainItems items = true) :
    ∀ item ∈ printItems printDouble items, Value item := by
  match items with
  | [] => exact List.forall_mem_nil _
  | item :: items =>
    rw [plainItems, Bool.and_eq_true] at names
    exact List.forall_mem_cons.mpr ⟨value_print numbers item names.1, values_printItems numbers items names.2⟩

theorem members_printMembers (numbers : ∀ number, Value (printDouble number)) {colon : Bytes} (gap : Blank colon)
    (members : List (String × Document)) (names : plainMembers members = true) :
    ∀ text ∈ printMembers printDouble colon members, ApiServer.Member text := by
  match members with
  | [] => exact List.forall_mem_nil _
  | (name, value) :: members =>
    rw [plainMembers, Bool.and_eq_true, Bool.and_eq_true] at names
    refine List.forall_mem_cons.mpr ⟨?_, members_printMembers numbers gap members names.2.2⟩
    have spaced := Value.spaced colon (value.print printDouble) [] gap (List.forall_mem_nil _) (value_print numbers value names.2.1)
    refine ⟨(_, _), ApiServer.name_quoted (ApiServer.quoted_name names.1), spaced, ?_⟩
    rw [JsonGrammar.member, List.append_nil]
    simp only [List.cons_append, List.append_assoc, List.nil_append]
    rfl
end

end Document

/-- A response ends with a line break. -/
theorem value_ended {text : Bytes} (value : Value text) : Value (text ++ bytes "\n") :=
  Value.spaced [] text [10] (List.forall_mem_nil _) (List.forall_mem_singleton.mpr rfl) value

/-- The configuration as the API writes it. -/
theorem value_configToJson {printRational : Rat → Bytes} (numbers : ∀ number, Value (printRational number)) {config : RepeaterConfig}
    {written : Bytes} (completed : configToJson printRational config = .ok written) : Value written := by
  simp only [configToJson, bind_eq_ok, pure_eq_ok] at completed
  obtain ⟨mux, -, video, -, rfl⟩ := completed
  have value := Document.value_print numbers _ (Document.plain_configJson mux video config)
  exact value_ended value

namespace ApiServer

/-! ## What this process tells -/

variable {printDouble : DoubleBits → Bytes} {systemStats : Bytes → Bytes} (now : Time) (config : RepeaterConfig) {text : Bytes}
variable {members : List Bytes}

theorem value_optionalTargetJson (target : Option ScanTarget) : Value (optionalTargetJson target) := by
  refine value_orNull fun target _ => value_object ?_
  simp only [List.forall_mem_cons]
  exact ⟨member_value rfl (value_printNat _), member_value rfl (value_printNat _), member_value rfl (value_printNat _),
    member_value rfl (value_string _), member_value rfl (value_string _), member_value rfl (value_string _),
    member_value rfl (value_string _), List.forall_mem_nil _⟩

theorem value_analogueReceiverJson (analogue : AnalogueStatus) : Value (analogueReceiverJson now config analogue) := by
  have null : Value (bytes "null") := value_word (by decide)
  have zero : Value (bytes "0") := value_printNat 0
  refine value_object ?_
  simp only [List.forall_mem_cons]
  exact ⟨member_value rfl (value_printInt _), member_value rfl (value_string _), member_value rfl (value_string _),
    member_value rfl (value_string _), member_value rfl (value_string _), member_value rfl null, member_value rfl null,
    member_value rfl null, member_value rfl (value_string _), member_value rfl (value_string _), member_value rfl zero,
    member_value rfl zero, member_value rfl (value_printNat _), member_value rfl (value_boolean _), member_value rfl (value_boolean _),
    member_value rfl (value_boolean _), member_value rfl (value_boolean _), member_value rfl (value_printNat _),
    member_value rfl (value_boolean _), member_value rfl (value_string _), member_value rfl (value_string _),
    member_value rfl (value_string _), member_value rfl (value_orNull fun _ _ => value_string _), List.forall_mem_nil _⟩

/-- The levels of the receiver are written as numbers. -/
def Printed (printDouble : DoubleBits → Bytes) (status : ReceiverStatus) : Prop :=
  (∀ level ∈ status.merDb, Value (printDouble level)) ∧ ∀ level ∈ status.dNumberDb, Value (printDouble level)

theorem value_receiverStatusJson (mode : Bytes) {status : ReceiverStatus} (printed : Printed printDouble status) :
    Value (receiverStatusJson printDouble now mode status) := by
  have either : ∀ {gateway : Prop} [Decidable gateway] {ours : Bytes}, Value ours → Value (if gateway then bytes "null" else ours) := by
    intro gateway _ ours value
    split
    · exact value_word (by decide)
    · exact value
  refine value_object ?_
  simp only [List.forall_mem_cons]
  exact ⟨member_value rfl (value_printInt _), member_value rfl (value_string _), member_value rfl (value_string _),
    member_value rfl (value_string _), member_value rfl (either (value_string _)), member_value rfl (either (value_printInt _)),
    member_value rfl (either (value_string _)), member_value rfl (value_string _), member_value rfl (value_optionalTargetJson _),
    member_value rfl (value_orNull printed.1), member_value rfl (value_orNull printed.2),
    member_value rfl (value_orNull fun _ _ => value_string _), member_value rfl (value_orNull fun _ _ => value_string _),
    member_value rfl (value_printNat _), member_value rfl (value_printNat _), member_value rfl (value_printNat _),
    List.forall_mem_nil _⟩

theorem value_tsGatewayStatusJson (status : Option TsGatewayStatus) : Value (tsGatewayStatusJson now config status) := by
  have null : Value (bytes "null") := value_word (by decide)
  have zero : Value (bytes "0") := value_printNat 0
  cases status with
  | some status =>
    refine value_object ?_
    simp only [List.forall_mem_cons]
    exact ⟨member_value rfl (value_boolean _), member_value rfl (value_string _), member_value rfl (value_printNat _),
      member_value rfl (value_orNull fun _ _ => value_printInt _), member_value rfl (value_printNat _), member_value rfl (value_printNat _),
      member_value rfl (value_printNat _), member_value rfl (value_printNat _), member_value rfl (value_printNat _),
      member_value rfl (value_orNull fun _ _ => value_string _), List.forall_mem_nil _⟩
  | none =>
    refine value_object ?_
    simp only [List.forall_mem_cons]
    exact ⟨member_value rfl (value_word (by decide)), member_value rfl (value_string _), member_value rfl (value_printNat _),
      member_value rfl null, member_value rfl zero, member_value rfl zero, member_value rfl zero, member_value rfl zero,
      member_value rfl null, member_value rfl null, List.forall_mem_nil _⟩

theorem value_transitionJson (transition : ReceiverTransition) : Value (transitionJson now transition) := by
  refine value_object ?_
  simp only [List.forall_mem_cons]
  exact ⟨member_value rfl (value_orNull fun _ _ => value_printInt _), member_value rfl (value_string _), member_value rfl (value_string _),
    member_value rfl (value_string _), member_value rfl (value_printNat _), List.forall_mem_nil _⟩

theorem value_analogueStatusJson (analogue : AnalogueStatus) : Value (analogueStatusJson now analogue) := by
  refine value_object ?_
  simp only [List.forall_mem_cons]
  exact ⟨member_value rfl (value_boolean _), member_value rfl (value_boolean _), member_value rfl (value_boolean _),
    member_value rfl (value_boolean _), member_value rfl (value_boolean _), member_value rfl (value_string _),
    member_value rfl (value_string _), member_value rfl (value_string _), member_value rfl (value_string _),
    member_value rfl (value_string _), member_value rfl (value_string _), member_value rfl (value_printNat _),
    member_value rfl (value_printNat _), member_value rfl (value_orNull fun _ _ => value_string _), List.forall_mem_nil _⟩

theorem value_plutoStatusJson (pluto : PlutoMqttStatus) : Value (plutoStatusJson now pluto) := by
  refine value_object ?_
  simp only [List.forall_mem_cons]
  exact ⟨member_value rfl (value_boolean _), member_value rfl (value_boolean _), member_value rfl (value_string _),
    member_value rfl (value_printNat _), member_value rfl (value_string _), member_value rfl (value_string _),
    member_value rfl (value_string _), member_value rfl (value_printNat _), member_value rfl (value_orNull fun _ _ => value_string _),
    member_value rfl (value_object (List.forall_mem_map.mpr fun named _ => member_pair named.1 (value_string named.2))),
    List.forall_mem_nil _⟩

theorem value_receiversJson (analogue : Option AnalogueStatus) {statuses : List ReceiverStatus}
    (printed : ∀ status ∈ statuses, Printed printDouble status) :
    Value (receiversJson printDouble now config analogue statuses) := by
  refine value_array (List.forall_mem_append.mpr ⟨?_, ?_⟩)
  · refine List.forall_mem_map.mpr fun status among => ?_
    exact value_receiverStatusJson now config.mode (printed status (List.mem_of_mem_filter among))
  · intro written among
    obtain ⟨analogue, -, rfl⟩ := Option.map_eq_some_iff.mp (Option.mem_toList.mp among)
    exact value_analogueReceiverJson now config analogue

/-! ## What the Pi tells -/

theorem trimmed_blank {gap : Bytes} (blank : Blank gap) : trimmed gap = [] := by
  rw [trimmed, List.dropWhile_eq_nil_iff.mpr (List.all_eq_true.mp (isBlank_blank blank))]
  rfl

/-- The receiver behind the ones of the Pi is one more value of the array. -/
theorem value_remoteReceiversJson {receivers : Bytes} (value : Value receivers) (analogue : Option AnalogueStatus) :
    ∃ written, remoteReceiversJson now config analogue receivers = .ok written ∧ Value written := by
  obtain ⟨filtered, found, kept⟩ := @value_filtered config _ value
  unfold remoteReceiversJson
  rw [found]
  cases analogue with
  | none => exact ⟨filtered, rfl, kept⟩
  | some analogue =>
    obtain ⟨before, core, after, rfl, front, back, inner, bare⟩ := kept.core
    have ours := value_analogueReceiverJson now config analogue
    dsimp only [bind, Except.bind]
    rw [trimJson_eq, trimmed_core front back bare]
    dsimp only
    split
    · rename_i bracketed
      obtain ⟨items, inside, each, rfl, shape⟩ := inner.bracketed bare bracketed.2.1
      have contents : substr (91 :: (inside ++ [93])) 1 ((91 :: (inside ++ [93])).length - 2) = .ok inside := by
        rw [substr_ok (by simp)]
        simp
      rw [contents]
      dsimp only
      rw [trimJson_eq]
      dsimp only
      rcases shape with ⟨rfl, some⟩ | ⟨blank, -⟩
      · obtain ⟨first, others, last, split, leading, trailing, nonempty, values, bare⟩ := JsonGrammar.joined_core some each
        rw [split, trimmed_core leading trailing bare, if_neg bare.ne_nil]
        refine ⟨_, rfl, ?_⟩
        have array := Value.array (others ++ [analogueReceiverJson now config analogue])
          (List.forall_mem_append.mpr ⟨values, List.forall_mem_singleton.mpr ours⟩)
        rw [JsonGrammar.array, JsonGrammar.joined_concat nonempty] at array
        simp only [List.append_assoc, List.cons_append, List.nil_append] at array ⊢
        exact array
      · rw [trimmed_blank blank, if_pos rfl]
        exact ⟨_, rfl, value_array (List.forall_mem_singleton.mpr ours)⟩
    · exact ⟨_, rfl, kept⟩

/-- The members that are searched for in the status of the Pi are values where they are found. -/
structure Searchable (status : Bytes) : Prop where
  member : ∀ name ∈ ["activeReceiver", "receivers", "receiverTransitions", "systemStats"], ∀ value,
    jsonMember status (bytes name) = .ok (some value) → Value value
  system : ∀ stats, jsonMember status (bytes "systemStats") = .ok (some stats) → ∀ name ∈ ["local", "pi"], ∀ value,
    jsonMember stats (bytes name) = .ok (some value) → Value value

/-! ## What the machine tells -/

structure ProcessMeasures where
  cpuPercent : Option DoubleBits := none
  usageUsec : Option UInt64 := none
  memoryKb : Option UInt64 := none
  tasks : Option UInt64 := none

/-- The percentages are those of two samples, calculated with doubles. -/
structure SystemMeasures where
  hostname : Bytes := []
  cpuPercent : Option DoubleBits := none
  load1 : Option DoubleBits := none
  memTotal : Option UInt64 := none
  memAvailable : Option UInt64 := none
  memPercent : Option DoubleBits := none
  swapTotal : Option UInt64 := none
  swapFree : Option UInt64 := none
  process : ProcessMeasures := {}
  temperatureC : Option DoubleBits := none
  uptimeSeconds : Option DoubleBits := none

/-- What is used of a memory, if no more is free than there is. -/
def usedKb (total free : Option UInt64) : Option UInt64 := do
  let total ← total
  let free ← free
  if free ≤ total then some (total - free) else none

def processStatsJson (printDouble : DoubleBits → Bytes) (printSeconds : UInt64 → Bytes) (process : ProcessMeasures) : Bytes := object [
  member "cpuPercent" (orNull printDouble process.cpuPercent),
  member "cpuSeconds" (orNull printSeconds process.usageUsec),
  member "memoryKb" (orNull (fun count : UInt64 => printNat count.toNat) process.memoryKb),
  member "tasks" (orNull (fun count : UInt64 => printNat count.toNat) process.tasks)]

def localSystemStatsJson (printDouble : DoubleBits → Bytes) (printSeconds : UInt64 → Bytes) (role : Bytes) (measures : SystemMeasures) :
    Bytes :=
  let count := orNull fun count : UInt64 => printNat count.toNat
  object [
    member "role" (jsonString role),
    member "hostname" (jsonString measures.hostname),
    member "cpuPercent" (orNull printDouble measures.cpuPercent),
    member "load1" (orNull printDouble measures.load1),
    member "memoryTotalKb" (count measures.memTotal),
    member "memoryUsedKb" (count (usedKb measures.memTotal measures.memAvailable)),
    member "memoryAvailableKb" (count measures.memAvailable),
    member "memoryUsedPercent" (orNull printDouble measures.memPercent),
    member "swapTotalKb" (count measures.swapTotal),
    member "swapUsedKb" (count (usedKb measures.swapTotal measures.swapFree)),
    member "process" (processStatsJson printDouble printSeconds measures.process),
    member "temperatureC" (orNull printDouble measures.temperatureC),
    member "uptimeSeconds" (orNull printDouble measures.uptimeSeconds)]

def finiteLevel (level : DoubleBits) : Prop := ∃ number, Binary64.Value.ofBits level = .finite number

/-- No measure is infinite. -/
def SystemMeasures.Finite (measures : SystemMeasures) : Prop :=
  ∀ measure ∈ [measures.cpuPercent, measures.load1, measures.memPercent, measures.temperatureC, measures.uptimeSeconds,
    measures.process.cpuPercent], ∀ level ∈ measure, finiteLevel level

/-- How numbers are written, and that the statistics are written of measures. -/
structure Machine.Writes (machine : Machine) : Prop where
  numbers : ∀ level, finiteLevel level → Value (machine.printDouble level)
  statistics : ∃ printSeconds : UInt64 → Bytes, (∀ microseconds, Value (printSeconds microseconds)) ∧ ∀ role, ∃ measures,
    measures.Finite ∧ machine.systemStats role = localSystemStatsJson machine.printDouble printSeconds role measures

variable {machine : Machine} {server after : ApiServer}

theorem value_systemStats (writes : machine.Writes) (role : Bytes) : Value (machine.systemStats role) := by
  obtain ⟨printSeconds, times, each⟩ := writes.statistics
  obtain ⟨measures, finite, same⟩ := each role
  simp only [SystemMeasures.Finite, List.forall_mem_cons] at finite
  obtain ⟨cpu, load, memory, temperature, uptime, process, -⟩ := finite
  have number : ∀ {measure : Option DoubleBits}, (∀ level ∈ measure, finiteLevel level) →
      Value (orNull machine.printDouble measure) := fun finite => value_orNull fun level found => writes.numbers level (finite level found)
  have count : ∀ {measure : Option UInt64}, Value (orNull (fun count : UInt64 => printNat count.toNat) measure) :=
    value_orNull fun _ _ => value_printNat _
  have inner : Value (processStatsJson machine.printDouble printSeconds measures.process) := by
    refine value_object ?_
    simp only [List.forall_mem_cons]
    exact ⟨member_value rfl (number process), member_value rfl (value_orNull fun _ _ => times _), member_value rfl count,
      member_value rfl count, List.forall_mem_nil _⟩
  rw [same]
  refine value_object ?_
  simp only [List.forall_mem_cons]
  exact ⟨member_value rfl (value_string _), member_value rfl (value_string _), member_value rfl (number cpu),
    member_value rfl (number load), member_value rfl count, member_value rfl count, member_value rfl count,
    member_value rfl (number memory), member_value rfl count, member_value rfl count, member_value rfl inner,
    member_value rfl (number temperature), member_value rfl (number uptime), List.forall_mem_nil _⟩

/-! ## The status -/

/-- The levels of the receivers are finite, the player tells a value, and the status of the Pi can be searched. -/
structure Tells (server : ApiServer) : Prop where
  levels : ∀ status ∈ server.statuses, (∀ level ∈ status.merDb, finiteLevel level) ∧ ∀ level ∈ status.dNumberDb, finiteLevel level
  player : ∀ status ∈ server.fallbackVideoStatusJson, Value status
  remote : ∀ status ∈ server.remoteGatewayStatusJson, Searchable status

/-- What is found is a member of the status of the Pi. -/
theorem remoteMember_found {name : String} {value : Bytes} (searched : remoteMember server name = .ok (some value)) :
    ∃ status, server.remoteGatewayStatusJson = some status ∧ jsonMember status (bytes name) = .ok (some value) := by
  unfold remoteMember at searched
  repeat' split at searched
  · cases searched
  · cases searched
  · rename_i status stored _
    exact ⟨status, stored, searched⟩
  · cases searched

theorem value_remoteMember (tells : Tells server) {name : String}
    (named : name ∈ ["activeReceiver", "receivers", "receiverTransitions", "systemStats"]) {found : Option Bytes}
    (searched : remoteMember server name = .ok found) : ∀ value ∈ found, Value value := by
  rintro value rfl
  obtain ⟨status, stored, member⟩ := remoteMember_found searched
  exact (tells.remote status stored).member name named value member

theorem value_activeReceiverJson {remoteActive : Option Bytes} (values : ∀ value ∈ remoteActive, Value value) :
    Yields (activeReceiverJson server remoteActive) Value := by
  have ours : Value (orNull (fun active : ActiveInput => printInt active.receiver.value.toInt) server.active) :=
    value_orNull fun _ _ => value_printInt _
  unfold activeReceiverJson
  refine yields_ite (fun _ => yields_pure ours) fun _ => ?_
  cases remoteActive with
  | none => exact yields_pure ours
  | some remoteActive =>
    have theirs := values remoteActive rfl
    refine yields_bind fun id _ => ?_
    cases id with
    | none => exact yields_pure theirs
    | some id =>
      refine yields_pure ?_
      split
      · exact theirs
      · exact ours

theorem value_transitions (now : Time) (transitions : List ReceiverTransition) {remoteTransitions : Option Bytes} :
    (∀ value ∈ remoteTransitions, Value value) → Value (match remoteTransitions with
      | some remoteTransitions => remoteTransitions
      | none => array (transitions.map (transitionJson now))) := by
  intro values
  cases remoteTransitions with
  | some remoteTransitions => exact values remoteTransitions rfl
  | none => exact value_array (List.forall_mem_map.mpr fun transition _ => value_transitionJson now transition)

theorem value_systemStatsJson (writes : machine.Writes) (tells : Tells server) {remoteSystem remoteSystemLocal remoteSystemPi : Option Bytes}
    (searched : remoteMember server "systemStats" = .ok remoteSystem) (here : memberOf remoteSystem "local" = .ok remoteSystemLocal)
    (there : memberOf remoteSystem "pi" = .ok remoteSystemPi) :
    Value (systemStatsJson machine.systemStats server.repeaterConfig.mode remoteSystem remoteSystemLocal remoteSystemPi) := by
  have stats := value_remoteMember tells (by simp) searched
  have inner : ∀ {name : String} {found : Option Bytes}, name ∈ ["local", "pi"] → memberOf remoteSystem name = .ok found →
      ∀ value ∈ found, Value value := by
    intro name found named looked value same
    cases remoteSystem with
    | none =>
      cases looked
      cases same
    | some stats =>
      rw [same] at looked
      obtain ⟨status, stored, member⟩ := remoteMember_found searched
      exact (tells.remote status stored).system _ member name named value looked
  have theirs : Value (orNull id (remoteSystemPi.or (remoteSystemLocal.or remoteSystem))) := by
    refine value_orNull fun value found => ?_
    rcases Option.or_eq_some_iff.mp found with pi | ⟨-, found⟩
    · exact inner (by simp) there value pi
    · rcases Option.or_eq_some_iff.mp found with near | ⟨-, found⟩
      · exact inner (by simp) here value near
      · exact stats value found
  have ours := value_systemStats writes server.repeaterConfig.mode
  unfold systemStatsJson
  repeat' split
  · exact value_object (members_cons rfl ours (members_cons rfl theirs (List.forall_mem_nil _)))
  · exact value_object (members_cons rfl (value_word (by decide)) (members_cons rfl ours (List.forall_mem_nil _)))
  · exact value_object (members_cons rfl ours (List.forall_mem_nil _))

theorem value_statusJson (writes : machine.Writes) (tells : Tells server) :
    Yields (statusJson machine.printDouble machine.systemStats machine.now server) Value := by
  refine yields_bind fun remoteActive active_found => yields_bind fun remoteReceivers receivers_found => ?_
  refine yields_bind fun remoteTransitions transitions_found => yields_bind fun remoteSystem system_found => ?_
  refine yields_bind fun remoteSystemLocal local_found => yields_bind fun remoteSystemPi pi_found => ?_
  refine yields_bind fun activeReceiver active => ?_
  have ours := value_activeReceiverJson (value_remoteMember tells (by simp) active_found) activeReceiver active
  have theirs := value_remoteMember tells (by simp) receivers_found
  have transitions := value_transitions machine.now server.receiverTransitions (value_remoteMember tells (by simp) transitions_found)
  have stats := value_systemStatsJson writes tells system_found local_found pi_found
  have schedule : Value (object [
      member "enabled" (boolean server.repeaterConfig.beaconSchedule.enabled),
      member "active" (boolean server.beaconScheduleActive),
      member "startTime" (jsonString server.repeaterConfig.beaconSchedule.startTime),
      member "endTime" (jsonString server.repeaterConfig.beaconSchedule.endTime)]) := by
    refine value_object ?_
    simp only [List.forall_mem_cons]
    exact ⟨member_value rfl (value_boolean _), member_value rfl (value_boolean _), member_value rfl (value_string _),
      member_value rfl (value_string _), List.forall_mem_nil _⟩
  have preview : Value (object [
      member "requested" (boolean server.previewRequested),
      member "active" (boolean server.previewActive)]) := by
    refine value_object ?_
    simp only [List.forall_mem_cons]
    exact ⟨member_value rfl (value_boolean _), member_value rfl (value_boolean _), List.forall_mem_nil _⟩
  have analogue : Value (orNull (analogueStatusJson machine.now) server.analogueStatus) :=
    value_orNull fun analogue _ => value_analogueStatusJson machine.now analogue
  have player : Value (orNull id server.fallbackVideoStatusJson) := value_orNull tells.player
  have pluto : Value (orNull (plutoStatusJson machine.now) server.plutoStatus) :=
    value_orNull fun pluto _ => value_plutoStatusJson machine.now pluto
  have whole := fun (receivers : Bytes) (value : Value receivers) => value_ended <| value_object <|
    @members_cons _ _ "mode" rfl (value_string server.repeaterConfig.mode) <| @members_cons _ _ "activeReceiver" rfl ours <|
    @members_cons _ _ "receivers" rfl value <|
    @members_cons _ _ "tsGateway" rfl (value_tsGatewayStatusJson machine.now server.repeaterConfig server.tsGatewayStatus) <|
    @members_cons _ _ "receiverTransitions" rfl transitions <| @members_cons _ _ "analogue" rfl analogue <|
    @members_cons _ _ "beaconSchedule" rfl schedule <| @members_cons _ _ "preview" rfl preview <|
    @members_cons _ _ "fallbackVideo" rfl player <| @members_cons _ _ "systemStats" rfl stats <|
    @members_cons _ _ "pluto" rfl pluto <| List.forall_mem_nil _
  cases remoteReceivers with
  | some remoteReceivers =>
    obtain ⟨receivers, written, value⟩ := value_remoteReceiversJson machine.now server.repeaterConfig (theirs remoteReceivers rfl)
      (server.analogueStatus.filter (·.enabled))
    refine yields_bind fun found here => yields_pure ?_
    rw [written] at here
    cases here
    exact whole receivers value
  | none =>
    refine yields_bind fun receivers here => yields_pure (whole receivers ?_)
    cases here
    refine value_receiversJson machine.now server.repeaterConfig _ fun status among => ?_
    obtain ⟨mer, dNumber⟩ := tells.levels status among
    exact ⟨fun level found => writes.numbers level (mer level found), fun level found => writes.numbers level (dNumber level found)⟩

/-! ## The requests -/

/-- The body of the response is one value, and what the server tells of stays as it is. -/
def Documents (server : ApiServer) (answered : ApiServer × Response) : Prop :=
  Value answered.2.body ∧ (Tells server → Tells answered.1)

variable {outcome : Except String (ApiServer × Response)}

theorem value_errorBody (message : Bytes) : Value (errorBody message) :=
  value_ended (value_object (List.forall_mem_singleton.mpr (member_value rfl (value_string message))))

theorem value_accepted (each : ∀ text ∈ members, Member text) : Value (accepted members).body :=
  value_ended (value_object (members_cons rfl (value_word (by decide)) each))

theorem value_readGpio (path : Bytes) : Yields (readGpio machine path) fun response => Value response.body := by
  refine yields_bind fun chip _ => yields_bind fun line _ => yields_bind fun activeHigh _ => ?_
  cases line with
  | none => exact yields_pure (value_errorBody _)
  | some line =>
    dsimp only
    split
    · exact yields_pure (value_errorBody _)
    · refine yields_pure (value_ended (value_object ?_))
      simp only [List.forall_mem_cons]
      exact ⟨member_value rfl (value_string _), member_value rfl (value_printNat _), member_value rfl (value_boolean _),
        member_value rfl (value_boolean _), List.forall_mem_nil _⟩

theorem value_writeGpio (request : Bytes) : Yields (writeGpio machine request) fun response => Value response.body := by
  refine yields_bind fun body _ => ?_
  cases body with
  | none => exact yields_pure (value_errorBody _)
  | some body =>
    refine yields_bind fun chipValue _ => yields_bind fun line _ => yields_bind fun activeHigh _ => yields_bind fun active _ => ?_
    cases line with
    | none => exact yields_pure (value_errorBody _)
    | some line =>
      cases active with
      | none => exact yields_pure (value_errorBody _)
      | some active =>
        refine yields_ite (fun _ => yields_pure (value_errorBody _)) fun _ => ?_
        cases chipValue
        all_goals
          refine yields_bind fun chip _ => ?_
          dsimp only
          split
          · exact yields_pure (value_errorBody _)
          · refine yields_pure (value_accepted ?_)
            simp only [List.forall_mem_cons]
            exact ⟨member_value rfl (value_string _), member_value rfl (value_printInt _), member_value rfl (value_boolean _),
              member_value rfl (value_boolean _), List.forall_mem_nil _⟩

theorem value_fallbackVideos (path : Bytes) : Yields (fallbackVideos machine server path) fun response => Value response.body := by
  refine yields_bind fun requested _ => yields_bind fun directory _ => yields_pure (value_ended (value_object ?_))
  refine members_cons rfl (value_string _) (members_cons rfl (value_array (List.forall_mem_map.mpr fun file _ => ?_)) ?_)
  · exact value_object (members_cons rfl (value_string file.1) (members_cons rfl (value_string file.2) (List.forall_mem_nil _)))
  · intro text among
    obtain ⟨error, -, rfl⟩ := Option.map_eq_some_iff.mp (Option.mem_toList.mp among)
    exact member_value rfl (value_string error)

theorem value_previewStatus : Value (previewStatus machine server).body := by
  refine value_ended (value_object ?_)
  simp only [List.forall_mem_cons]
  exact ⟨member_value rfl (value_boolean _), member_value rfl (value_boolean _), member_value rfl (value_boolean _), List.forall_mem_nil _⟩

theorem value_state (name : String) : Value (accepted [state name]).body :=
  value_accepted (List.forall_mem_singleton.mpr (member_value rfl (value_string _)))

theorem value_startService (service failed : Bytes) : Value (startService machine service failed).body := by
  unfold startService
  split
  · exact value_state _
  · exact value_errorBody _

theorem value_restartPi : Value (restartPi machine server).body := by
  unfold restartPi
  repeat' split
  · exact value_errorBody _
  · exact value_errorBody _
  · exact value_state _

/-! ## Routes -/

theorem documents_same {response : Response} (value : Value response.body) :
    Yields (pure (server, response) : Except String _) (Documents server) := yields_pure ⟨value, id⟩

theorem documents_accepted {after : ApiServer} (keeps : Tells server → Tells after) (each : ∀ text ∈ members, Member text) :
    Yields (pure (after, accepted members) : Except String _) (Documents server) := yields_pure ⟨value_accepted each, keeps⟩

theorem documents_putConfig (arithmetic : Arithmetic) (request : Bytes) :
    Yields (putConfig arithmetic server request) (Documents server) := by
  refine yields_bind fun body _ => ?_
  cases body with
  | none => exact documents_same (value_errorBody _)
  | some body =>
    dsimp only
    split
    · exact documents_accepted (fun tells => ⟨tells.levels, tells.player, tells.remote⟩) (List.forall_mem_nil _)
    · exact documents_same (value_errorBody _)
    · exact documents_same (value_errorBody _)

theorem documents_playFallback (request : Bytes) : Yields (playFallback server request) (Documents server) := by
  refine yields_bind fun body _ => ?_
  have last : ∀ videoPath : Bytes, Yields (pure ({ server with pendingFallbackVideo := some videoPath }, accepted []) : Except String _)
      (Documents server) := fun _ =>
    documents_accepted (fun tells => ⟨tells.levels, tells.player, tells.remote⟩) (List.forall_mem_nil _)
  dsimp only
  repeat' split
  all_goals exact yields_bind fun videoPath _ => last videoPath

theorem documents_seekFallback (request : Bytes) : Yields (seekFallback server request) (Documents server) := by
  refine yields_bind fun body _ => ?_
  cases body with
  | none => exact documents_same (value_errorBody _)
  | some body =>
    refine yields_bind fun milliseconds _ => ?_
    dsimp only
    split
    all_goals
      refine yields_bind fun position _ => ?_
      cases position with
      | none => exact documents_same (value_errorBody _)
      | some position =>
        refine documents_accepted (fun tells => ⟨tells.levels, tells.player, tells.remote⟩) ?_
        simp only [List.forall_mem_cons]
        exact ⟨member_value rfl (value_printInt _), member_value rfl (value_string _), List.forall_mem_nil _⟩

variable {arithmetic : Arithmetic} {printRational : Rat → Bytes}

/-- Every route documents itself. -/
theorem documents_route (numbers : ∀ number, Value (printRational number)) (writes : machine.Writes) (tells : Tells server)
    (request method path : Bytes) :
    Yields (route arithmetic printRational machine server request method path) (Documents server) := by
  unfold route
  refine yields_ite (fun _ => documents_same (value_errorBody _)) fun _ => ?_
  refine yields_ite (fun _ => yields_bind fun status found => ?_) fun _ => ?_
  · exact documents_same (value_statusJson writes tells status found)
  refine yields_ite (fun _ => documents_same (value_ended (value_systemStats writes _))) fun _ => ?_
  refine yields_ite (fun _ => yields_bind fun written found => ?_) fun _ => ?_
  · exact documents_same (value_configToJson numbers found)
  refine yields_ite (fun _ => yields_bind fun response found => ?_) fun _ => ?_
  · exact documents_same (value_readGpio path response found)
  refine yields_ite (fun _ => yields_bind fun response found => ?_) fun _ => ?_
  · exact documents_same (value_writeGpio request response found)
  refine yields_ite (fun _ => documents_same value_previewStatus) fun _ => ?_
  refine yields_ite (fun _ => yields_bind fun response found => ?_) fun _ => ?_
  · exact documents_same (value_fallbackVideos path response found)
  refine yields_ite (fun _ => documents_putConfig arithmetic request) fun _ => ?_
  refine yields_ite (fun _ => documents_playFallback request) fun _ => ?_
  refine yields_ite (fun _ => ?_) fun _ => ?_
  · exact documents_accepted (fun tells => ⟨tells.levels, tells.player, tells.remote⟩) (List.forall_mem_nil _)
  refine yields_ite (fun _ => documents_seekFallback request) fun _ => ?_
  have preview : ∀ {flag : String}, bytes flag ∈ JsonGrammar.words → ∀ text ∈ [member "preview" (bytes flag)], Member text :=
    fun known => List.forall_mem_singleton.mpr (member_value rfl (value_word known))
  refine yields_ite (fun _ => ?_) fun _ => ?_
  · exact documents_accepted (fun tells => ⟨tells.levels, tells.player, tells.remote⟩) (preview (by decide))
  refine yields_ite (fun _ => ?_) fun _ => ?_
  · exact documents_accepted (fun tells => ⟨tells.levels, tells.player, tells.remote⟩) (preview (by decide))
  refine yields_ite (fun _ => documents_same (value_startService _ _)) fun _ => ?_
  refine yields_ite (fun _ => documents_same (value_state _)) fun _ => ?_
  refine yields_ite (fun _ => documents_same (value_startService _ _)) fun _ => ?_
  refine yields_ite (fun _ => documents_same (value_state _)) fun _ => ?_
  refine yields_ite (fun _ => documents_same (value_state _)) fun _ => ?_
  refine yields_ite (fun _ => documents_same value_restartPi) fun _ => ?_
  refine yields_ite (fun _ => ?_) fun _ => documents_same (value_errorBody _)
  exact documents_same (value_ended (value_object (List.forall_mem_singleton.mpr (member_value rfl (value_word (by decide))))))

theorem documents_handleClient (numbers : ∀ number, Value (printRational number)) (writes : machine.Writes) (tells : Tells server)
    (chunks : List Bytes) :
    Yields (handleClient arithmetic printRational machine server chunks) fun handled =>
      (∀ response ∈ handled.2, Value response.body) ∧ Tells handled.1 := by
  refine yields_bind fun request _ => yields_ite (fun _ => yields_pure ⟨nofun, tells⟩) fun _ => ?_
  refine yields_bind fun answered found => ?_
  have documented : Yields (answer arithmetic printRational machine server request) (Documents server) := by
    unfold answer
    dsimp only
    split
    all_goals
      refine yields_bind fun requestLine _ => ?_
      split
      · exact documents_same (value_errorBody _)
      · split
        · exact documents_same (value_errorBody _)
        · exact yields_bind fun method _ => yields_bind fun path _ => documents_route numbers writes tells request method path
  obtain ⟨value, keeps⟩ := documented answered found
  exact yields_pure ⟨fun response same => Option.some.inj same ▸ value, keeps tells⟩

/-- A machine that measures nothing. -/
def unmeasured : Machine := { bare with systemStats := fun role => localSystemStatsJson (fun _ => bytes "0") (fun _ => bytes "0") role {} }

/-- A PC with an analogue receiver of its own. -/
def beside (status : Bytes) : ApiServer where
  repeaterConfig := { defaultConfig with mode := bytes "pc-gateway" }
  analogueStatus := some { enabled := true }
  remoteGatewayStatusJson := some status

/-- The numbers of two receivers, of which the second is on air. -/
def piStatus : Bytes := bytes "\x7b\"activeReceiver\":2,\"receivers\":[\x7b\"id\":1\x7d,\x7b\"id\":2\x7d],\"systemStats\":\x7b\"pi\":null\x7d\x7d"

theorem searchable_piStatus : Searchable piStatus := by
  have active : jsonMember piStatus (bytes "activeReceiver") = .ok (some (printNat 2)) := by decide +kernel
  have receivers : jsonMember piStatus (bytes "receivers") =
      .ok (some (array [object [member "id" (printNat 1)], object [member "id" (printNat 2)]])) := by decide +kernel
  have transitions : jsonMember piStatus (bytes "receiverTransitions") = .ok none := by decide +kernel
  have stats : jsonMember piStatus (bytes "systemStats") = .ok (some (object [member "pi" (bytes "null")])) := by decide +kernel
  have near : jsonMember (object [member "pi" (bytes "null")]) (bytes "local") = .ok none := by decide +kernel
  have theirs : jsonMember (object [member "pi" (bytes "null")]) (bytes "pi") = .ok (some (bytes "null")) := by decide +kernel
  have null : Value (bytes "null") := value_word List.mem_cons_self
  have receiver : ∀ id, Value (object [member "id" (printNat id)]) := fun id =>
    value_object (List.forall_mem_singleton.mpr (member_value rfl (value_printNat id)))
  have only : ∀ {object name : Bytes} {text : Option Bytes}, jsonMember object name = .ok text → (∀ written ∈ text, Value written) →
      ∀ value, jsonMember object name = .ok (some value) → Value value := by
    intro object name text found values value same
    exact values value (Except.ok.inj (found.symm.trans same))
  constructor
  · simp only [List.forall_mem_cons]
    refine ⟨only active ?_, only receivers ?_, only transitions nofun, only stats ?_, List.forall_mem_nil _⟩
    · rintro _ ⟨⟩
      exact value_printNat 2
    · rintro _ ⟨⟩
      exact value_array (List.forall_mem_cons.mpr ⟨receiver 1, List.forall_mem_singleton.mpr (receiver 2)⟩)
    · rintro _ ⟨⟩
      exact value_object (List.forall_mem_singleton.mpr (member_value rfl null))
  · intro found same
    cases stats.symm.trans same
    simp only [List.forall_mem_cons]
    refine ⟨only near nofun, only theirs ?_, List.forall_mem_nil _⟩
    rintro _ ⟨⟩
    exact null

end ApiServer
end WhRepeater
