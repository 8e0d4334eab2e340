import WhRepeater.InspectorBounds

/-! The sections of PAT, PMT and SDT as a multiplexer writes them, and what the parsers
of `ts_gateway_inspect.cpp` read from them. -/
namespace WhRepeater.TsGatewayInspect

open CheckedSpans

/-! ## Sections -/

/-- Two bytes with the reserved bits in front of a value. -/
def field (reserved value : Nat) : Bytes := [UInt8.ofNat (reserved + value / 256), UInt8.ofNat value]

def wordField (value : UInt16) : Bytes := field 0 value.toNat

def pidField (pid : UInt16) : Bytes := field 0xe0 pid.toNat

def lengthField (length : Nat) : Bytes := field 0xf0 length

/-- What a section has besides its table, and the inspector leaves alone. -/
structure Framing where
  version : UInt8 := 0xc1
  number : UInt8 := 0
  last : UInt8 := 0
  crc : Bytes := [0, 0, 0, 0]
  sized : crc.length = 4 := by decide

def sectionBytes (table : UInt8) (extension : UInt16) (framing : Framing) (body : Bytes) : Bytes :=
  table :: (lengthField (body.length + 9) ++ (wordField extension ++ (framing.version :: framing.number :: framing.last ::
    (body ++ framing.crc))))

/-- The length of the section has 12 bits. -/
def Fits (body : Bytes) : Prop := body.length + 9 < 4096

instance (body : Bytes) : Decidable (Fits body) := inferInstanceAs (Decidable (_ < _))

structure ElementaryStream where
  streamType : UInt8
  pid : UInt16 := 0
  descriptors : Bytes := []

def ElementaryStream.bytes (stream : ElementaryStream) : Bytes :=
  stream.streamType :: (pidField stream.pid ++ (lengthField stream.descriptors.length ++ stream.descriptors))

/-- A descriptor that does not name a service. -/
structure OtherDescriptor where
  tag : UInt8
  body : Bytes
  other : tag ≠ 0x48
  sized : body.length < 256

def OtherDescriptor.bytes (descriptor : OtherDescriptor) : Bytes :=
  descriptor.tag :: UInt8.ofNat descriptor.body.length :: descriptor.body

/-- A service of the multiplex, with what its PMT and its entry in the SDT say of it. -/
structure Service where
  serviceId : UInt16
  pmtPid : UInt16
  pcrPid : UInt16
  streams : List ElementaryStream := []
  programDescriptors : Bytes := []
  serviceType : UInt8 := 1
  provider : Bytes := []
  serviceName : Bytes := []
  before : List OtherDescriptor := []
  after : List OtherDescriptor := []

namespace Service

def names (service : Service) : Bytes :=
  service.serviceType :: UInt8.ofNat service.provider.length ::
    (service.provider ++ UInt8.ofNat service.serviceName.length :: service.serviceName)

/-- The service descriptor, between others. -/
def descriptors (service : Service) : Bytes :=
  service.before.flatMap OtherDescriptor.bytes ++ (0x48 :: UInt8.ofNat service.names.length :: service.names ++
    service.after.flatMap OtherDescriptor.bytes)

def pmtBody (service : Service) : Bytes :=
  pidField service.pcrPid ++ (lengthField service.programDescriptors.length ++
    (service.programDescriptors ++ service.streams.flatMap ElementaryStream.bytes))

/-- The entry of the SDT. -/
def sdtEntry (service : Service) : Bytes :=
  wordField service.serviceId ++ 0xfc :: (lengthField service.descriptors.length ++ service.descriptors)

/-- The service as the inspector prints it. -/
def program (service : Service) : ProgramInfo where
  serviceId := service.serviceId
  pmtPid := service.pmtPid
  pcrPid := service.pcrPid
  provider := dvbString service.provider
  serviceName := dvbString service.serviceName
  streamTypes := service.streams.map ElementaryStream.streamType

/-- PIDs have 13 bits, and the names are in one descriptor. -/
structure Valid (service : Service) : Prop where
  numbered : service.serviceId ≠ 0
  apart : service.pmtPid ≠ 0x0000 ∧ service.pmtPid ≠ 0x0011
  pmtPid : service.pmtPid < 0x2000
  pcrPid : service.pcrPid < 0x2000
  names : service.provider.length + service.serviceName.length + 3 < 256

end Service

/-- A section of a table, and the PID it is sent on. -/
inductive Table where
  | pat (transportStream : UInt16) (framing : Framing) (entries : List (UInt16 × UInt16))
  | pmt (framing : Framing) (service : Service)
  | sdt (transportStream originalNetwork : UInt16) (framing : Framing) (listed : List Service)

namespace Table

def pid : Table → UInt16
  | .pat .. => 0x0000
  | .pmt _ service => service.pmtPid
  | .sdt .. => 0x0011

def patBody (entries : List (UInt16 × UInt16)) : Bytes :=
  entries.flatMap fun entry => wordField entry.1 ++ pidField entry.2

def sdtBody (originalNetwork : UInt16) (listed : List Service) : Bytes :=
  wordField originalNetwork ++ 0xff :: listed.flatMap Service.sdtEntry

def body : Table → Bytes
  | .pat _ _ entries => patBody entries
  | .pmt _ service => service.pmtBody
  | .sdt _ originalNetwork _ listed => sdtBody originalNetwork listed

def bytes : Table → Bytes
  | .pat transportStream framing entries => sectionBytes 0x00 transportStream framing (patBody entries)
  | .pmt framing service => sectionBytes 0x02 service.serviceId framing service.pmtBody
  | .sdt transportStream originalNetwork framing listed =>
    sectionBytes 0x42 transportStream framing (sdtBody originalNetwork listed)

end Table

/-! ## Fields -/

variable {section_ rest : Bytes} {offset : Nat} {high low : UInt8}

theorem masked_toNat (bits : Nat) (few : bits ≤ 8) {mask : UInt8} (ones : mask.toNat = 2 ^ bits - 1) (high low : UInt8) :
    (masked mask high low).toNat = high.toNat % 2 ^ bits * 256 + low.toNat := by
  have short : high.toNat % 2 ^ bits < 2 ^ 8 := Nat.lt_of_lt_of_le (Nat.mod_lt _ (Nat.two_pow_pos _)) (Nat.pow_le_pow_right (by decide) few)
  have byte : low.toNat < 2 ^ 8 := low.toNat_lt
  have shifted : ((high &&& mask).toUInt16 <<< 8).toNat = (high.toNat % 2 ^ bits) <<< 8 := by
    rw [UInt16.toNat_shiftLeft, UInt8.toNat_toUInt16, UInt8.toNat_and, ones, Nat.and_two_pow_sub_one_eq_mod]
    refine Nat.mod_eq_of_lt ?_
    rw [Nat.shiftLeft_eq]
    exact Nat.mul_lt_mul_of_pos_right short (by decide)
  rw [masked, UInt16.toNat_or, shifted, UInt8.toNat_toUInt16, ← Nat.shiftLeft_add_eq_or_of_lt byte, Nat.shiftLeft_eq]

theorem readMasked_field (bits : Nat) (few : bits ≤ 8) {mask : UInt8} (ones : mask.toNat = 2 ^ bits - 1) {reserved value : Nat}
    (clear : reserved % 2 ^ bits = 0) (inside : reserved + value / 256 < 256) (small : value / 256 < 2 ^ bits)
    (behind : section_.drop offset = field reserved value ++ rest) :
    readMasked mask section_ offset = .ok (UInt16.ofNat value) := by
  have first : read section_ offset = .ok (UInt8.ofNat (reserved + value / 256)) := read_behind behind 0
  have second : read section_ (offset + 1) = .ok (UInt8.ofNat value) := read_behind behind 1
  have word : masked mask (UInt8.ofNat (reserved + value / 256)) (UInt8.ofNat value) = UInt16.ofNat value := by
    rw [← UInt16.toNat_inj, masked_toNat bits few ones, UInt8.toNat_ofNat', UInt8.toNat_ofNat', UInt16.toNat_ofNat',
      Nat.mod_eq_of_lt inside, Nat.add_mod, clear, Nat.zero_add, Nat.mod_mod, Nat.mod_eq_of_lt small]
    omega
  rw [readMasked, first, second, ← word]
  rfl

theorem read16_wordField {value : UInt16} (behind : section_.drop offset = wordField value ++ rest) :
    read16 section_ offset = .ok value := by
  have size : value.toNat < 65536 := value.toNat_lt
  have found := readMasked_field 8 (by decide) (show (0xff : UInt8).toNat = 2 ^ 8 - 1 from rfl) rfl (by omega) (by omega) behind
  rwa [UInt16.ofNat_toNat] at found

theorem readMasked_pidField {pid : UInt16} (small : pid < 0x2000) (behind : section_.drop offset = pidField pid ++ rest) :
    readMasked 0x1f section_ offset = .ok pid := by
  have size : pid.toNat < 0x2000 := UInt16.lt_iff_toNat_lt.mp small
  have found := readMasked_field 5 (by decide) (show (0x1f : UInt8).toNat = 2 ^ 5 - 1 from rfl) rfl (by omega) (by omega) behind
  rwa [UInt16.ofNat_toNat] at found

theorem readLength_lengthField {length : Nat} (short : length < 4096)
    (behind : section_.drop offset = lengthField length ++ rest) : readLength section_ offset = .ok length := by
  have found := readMasked_field 4 (by decide) (show (0x0f : UInt8).toNat = 2 ^ 4 - 1 from rfl) rfl (by omega) (by omega) behind
  cases first : read section_ offset with
  | error fault =>
    rw [readMasked, first] at found
    cases found
  | ok high =>
    cases second : read section_ (offset + 1) with
    | error fault =>
      rw [readMasked, first, second] at found
      cases found
    | ok low =>
      rw [readMasked, first, second] at found
      rw [readLength, first, second]
      have same : (masked 0x0f high low).toNat = length := by
        rw [Except.ok.inj found, UInt16.toNat_ofNat']
        exact Nat.mod_eq_of_lt (by omega)
      exact congrArg Except.ok same

theorem read_front {first : UInt8} (behind : section_.drop offset = first :: rest) : read section_ offset = .ok first :=
  read_behind behind 0

/-- What is behind an item that begins at an offset. -/
theorem drop_behind {item : Bytes} (behind : section_.drop offset = item ++ rest) :
    section_.drop (offset + item.length) = rest := by
  rw [← List.drop_drop, behind, List.drop_left]

theorem fits_ok {size : Nat} (small : size < 2 ^ 64) : fits size = .ok () := if_pos small

/-! ## Loops -/

/-- An entry of a PAT, for a service or, without a number, for the network. -/
def locate (programs : Programs) (entry : UInt16 × UInt16) : Programs :=
  if entry.1 = 0 then programs
  else programs.insert entry.1 { programs.getD entry.1 {} with serviceId := entry.1, pmtPid := entry.2 }

theorem parsePrograms_entries {entries : List (UInt16 × UInt16)} (pids : ∀ entry ∈ entries, entry.2 < 0x2000)
    (near : offset + (Table.patBody entries).length < 2 ^ 14) (behind : section_.drop offset = Table.patBody entries ++ rest)
    (programs : Programs) :
    parsePrograms section_ (offset + (Table.patBody entries).length) offset programs = .ok (entries.foldl locate programs) := by
  induction entries generalizing offset programs with
  | nil =>
    rw [parsePrograms, fits_ok (by omega)]
    exact if_neg (by simp [Table.patBody])
  | cons entry entries ih =>
    obtain ⟨small, others⟩ := List.forall_mem_cons.mp pids
    have size : (Table.patBody (entry :: entries)).length = 4 + (Table.patBody entries).length := by
      simp [Table.patBody, wordField, pidField, field]
      omega
    have here : section_.drop offset = wordField entry.1 ++ (pidField entry.2 ++ (Table.patBody entries ++ rest)) := by
      rw [behind, Table.patBody, List.flatMap_cons, List.append_assoc, List.append_assoc]
      rfl
    have pid : section_.drop (offset + 2) = pidField entry.2 ++ (Table.patBody entries ++ rest) := drop_behind here
    have next : section_.drop (offset + 4) = Table.patBody entries ++ rest := drop_behind pid
    rw [size, ← Nat.add_assoc] at near ⊢
    rw [parsePrograms, fits_ok (by omega), List.foldl_cons, locate]
    dsimp only [bind, Except.bind]
    rw [if_pos (by omega), read16_wordField here, readMasked_pidField small pid]
    dsimp only
    split <;> exact ih others (by omega) next _

theorem parseStreams_streams {streams : List ElementaryStream} (near : offset + (streams.flatMap ElementaryStream.bytes).length < 2 ^ 14)
    (short : (streams.flatMap ElementaryStream.bytes).length < 4096)
    (behind : section_.drop offset = streams.flatMap ElementaryStream.bytes ++ rest) (streamTypes : List UInt8) :
    parseStreams section_ (offset + (streams.flatMap ElementaryStream.bytes).length) offset streamTypes =
      .ok (streamTypes ++ streams.map ElementaryStream.streamType) := by
  induction streams generalizing offset streamTypes with
  | nil =>
    rw [parseStreams, fits_ok (by omega), List.map_nil, List.append_nil]
    exact if_neg (by simp)
  | cons stream streams ih =>
    have size : ((stream :: streams).flatMap ElementaryStream.bytes).length =
        5 + stream.descriptors.length + (streams.flatMap ElementaryStream.bytes).length := by
      simp [ElementaryStream.bytes, pidField, lengthField, field]
      omega
    have here : section_.drop offset = stream.streamType :: (pidField stream.pid ++ (lengthField stream.descriptors.length ++
        (stream.descriptors ++ (streams.flatMap ElementaryStream.bytes ++ rest)))) := by
      rw [behind, List.flatMap_cons, ElementaryStream.bytes]
      simp only [List.cons_append, List.append_assoc]
    have pid : section_.drop (offset + 1) = pidField stream.pid ++ _ := @drop_behind _ _ _ [stream.streamType] here
    have length : section_.drop (offset + 3) = lengthField stream.descriptors.length ++ (stream.descriptors ++
      (streams.flatMap ElementaryStream.bytes ++ rest)) := drop_behind pid
    have descriptors : section_.drop (offset + 5) = stream.descriptors ++ (streams.flatMap ElementaryStream.bytes ++ rest) :=
      drop_behind length
    have next := drop_behind descriptors
    rw [size] at near short ⊢
    rw [parseStreams, fits_ok (by omega)]
    dsimp only [bind, Except.bind]
    rw [if_pos (by omega), read_front here, readLength_lengthField (by omega) length]
    dsimp only
    rw [Nat.add_assoc offset 5] at next
    rw [← Nat.add_assoc offset] at near ⊢
    rw [ih near (by omega) next, List.map_cons, List.append_assoc]
    rfl

/-- The names that an entry of an SDT gives a service. -/
def rename (programs : Programs) (service : Service) : Programs :=
  programs.insert service.serviceId { programs.getD service.serviceId {} with
    serviceId := service.serviceId, provider := dvbString service.provider, serviceName := dvbString service.serviceName }

theorem inside_of_behind {first : UInt8} (behind : section_.drop offset = first :: rest) : offset < section_.length := by
  have some : section_.drop offset ≠ [] := by simp [behind]
  simpa using some

theorem parseService_names {service : Service} (valid : service.Valid) (near : offset < 2 ^ 14)
    (behind : section_.drop offset = service.names ++ rest) (programs : Programs) :
    parseService section_ service.serviceId offset service.names.length programs = .ok (rename programs service) := by
  have small := valid.names
  have size : service.names.length = 3 + service.provider.length + service.serviceName.length := by
    simp [Service.names]
    omega
  have here : section_.drop offset = service.serviceType :: UInt8.ofNat service.provider.length ::
      (service.provider ++ (UInt8.ofNat service.serviceName.length :: (service.serviceName ++ rest))) := by
    simpa [Service.names] using behind
  have providerLength : section_.drop (offset + 1) = UInt8.ofNat service.provider.length :: _ :=
    @drop_behind _ _ _ [service.serviceType] here
  have provider : section_.drop (offset + 2) =
      service.provider ++ (UInt8.ofNat service.serviceName.length :: (service.serviceName ++ rest)) :=
    @drop_behind _ _ _ [UInt8.ofNat service.provider.length] providerLength
  have serviceLength := drop_behind provider
  have serviceName : section_.drop (offset + 2 + service.provider.length + 1) = service.serviceName ++ rest :=
    @drop_behind _ _ _ [UInt8.ofNat service.serviceName.length] serviceLength
  have within := inside_of_behind serviceLength
  have short : (UInt8.ofNat service.provider.length).toNat = service.provider.length := by
    rw [UInt8.toNat_ofNat']
    exact Nat.mod_eq_of_lt (by omega)
  have short' : (UInt8.ofNat service.serviceName.length).toNat = service.serviceName.length := by
    rw [UInt8.toNat_ofNat']
    exact Nat.mod_eq_of_lt (by omega)
  rw [parseService, read_front providerLength]
  dsimp only [bind, Except.bind]
  rw [short, fits_ok (by omega)]
  dsimp only
  rw [if_pos (by omega), read_front serviceLength, subspan_behind provider (by omega)]
  dsimp only
  rw [short', fits_ok (by omega)]
  dsimp only
  rw [if_pos (by omega), subspan_behind serviceName (by omega)]
  rfl

variable {last descEnd : Nat} {serviceId : UInt16}

/-- Other descriptors are passed over. -/
theorem parseDescriptors_others {others : List OtherDescriptor} (inside : offset + (others.flatMap OtherDescriptor.bytes).length ≤ descEnd)
    (bounded : descEnd ≤ last) (near : last < 2 ^ 14)
    (behind : section_.drop offset = others.flatMap OtherDescriptor.bytes ++ rest) (programs : Programs) :
    parseDescriptors section_ serviceId last descEnd offset programs =
      parseDescriptors section_ serviceId last descEnd (offset + (others.flatMap OtherDescriptor.bytes).length) programs := by
  induction others generalizing offset with
  | nil => rfl
  | cons other others ih =>
    have size : ((other :: others).flatMap OtherDescriptor.bytes).length =
        2 + other.body.length + (others.flatMap OtherDescriptor.bytes).length := by
      simp [OtherDescriptor.bytes]
      omega
    have here : section_.drop offset = other.tag :: UInt8.ofNat other.body.length ::
        (other.body ++ (others.flatMap OtherDescriptor.bytes ++ rest)) := by
      rw [behind, List.flatMap_cons, OtherDescriptor.bytes]
      simp only [List.cons_append, List.append_assoc]
    have length : section_.drop (offset + 1) = UInt8.ofNat other.body.length :: _ := @drop_behind _ _ _ [other.tag] here
    have body : section_.drop (offset + 2) = other.body ++ (others.flatMap OtherDescriptor.bytes ++ rest) :=
      @drop_behind _ _ _ [UInt8.ofNat other.body.length] length
    have next := drop_behind body
    have short : (UInt8.ofNat other.body.length).toNat = other.body.length := by
      rw [UInt8.toNat_ofNat']
      exact Nat.mod_eq_of_lt other.sized
    rw [size] at inside ⊢
    rw [parseDescriptors, fits_ok (by omega)]
    dsimp only [bind, Except.bind]
    rw [if_pos (by omega), read_front here, read_front length]
    dsimp only
    rw [short, fits_ok (by omega)]
    dsimp only
    rw [if_neg fun service => other.other service.1]
    rw [Nat.add_assoc offset 2] at next
    rw [← Nat.add_assoc offset (2 + other.body.length)] at inside ⊢
    exact ih inside next

theorem parseDescriptors_end (near : descEnd < 2 ^ 14) (programs : Programs) :
    parseDescriptors section_ serviceId last descEnd descEnd programs = .ok programs := by
  rw [parseDescriptors, fits_ok (by omega)]
  exact if_neg (by omega)

theorem parseDescriptors_service {service : Service} (valid : service.Valid) (bounded : offset + service.descriptors.length ≤ last)
    (near : last < 2 ^ 14) (behind : section_.drop offset = service.descriptors ++ rest) (programs : Programs) :
    parseDescriptors section_ service.serviceId last (offset + service.descriptors.length) offset programs =
      .ok (rename programs service) := by
  have small := valid.names
  have names : service.names.length = 3 + service.provider.length + service.serviceName.length := by
    simp [Service.names]
    omega
  have size : service.descriptors.length = (service.before.flatMap OtherDescriptor.bytes).length +
      (2 + service.names.length + (service.after.flatMap OtherDescriptor.bytes).length) := by
    simp only [Service.descriptors, List.length_append, List.length_cons]
    omega
  have here : section_.drop offset = service.before.flatMap OtherDescriptor.bytes ++ (0x48 :: UInt8.ofNat service.names.length ::
      (service.names ++ (service.after.flatMap OtherDescriptor.bytes ++ rest))) := by
    rw [behind, Service.descriptors]
    simp only [List.cons_append, List.append_assoc]
  have tag := drop_behind here
  have length : section_.drop (offset + (service.before.flatMap OtherDescriptor.bytes).length + 1) = _ :: _ :=
    @drop_behind _ _ _ [0x48] tag
  have body : section_.drop (offset + (service.before.flatMap OtherDescriptor.bytes).length + 2) =
      service.names ++ (service.after.flatMap OtherDescriptor.bytes ++ rest) :=
    @drop_behind _ _ _ [UInt8.ofNat service.names.length] length
  have next := drop_behind body
  have short : (UInt8.ofNat service.names.length).toNat = service.names.length := by
    rw [UInt8.toNat_ofNat']
    exact Nat.mod_eq_of_lt (by omega)
  rw [size] at bounded ⊢
  rw [parseDescriptors_others (by omega) bounded near here, parseDescriptors, fits_ok (by omega)]
  dsimp only [bind, Except.bind]
  rw [if_pos (by omega), read_front tag, read_front length]
  dsimp only
  rw [short, fits_ok (by omega)]
  dsimp only
  rw [if_pos ⟨rfl, by omega, by omega⟩, parseService_names valid (by omega) body]
  dsimp only
  rw [← Nat.add_assoc _ 2 service.names.length, parseDescriptors_others (by omega) bounded near next]
  have ends : offset + (service.before.flatMap OtherDescriptor.bytes).length + 2 + service.names.length +
      (service.after.flatMap OtherDescriptor.bytes).length = offset + ((service.before.flatMap OtherDescriptor.bytes).length +
        (2 + service.names.length + (service.after.flatMap OtherDescriptor.bytes).length)) := by omega
  rw [ends]
  exact parseDescriptors_end (by omega) _

theorem parseServices_listed {listed : List Service} (valid : ∀ service ∈ listed, service.Valid)
    (near : offset + (listed.flatMap Service.sdtEntry).length < 2 ^ 14)
    (short : (listed.flatMap Service.sdtEntry).length < 4096)
    (behind : section_.drop offset = listed.flatMap Service.sdtEntry ++ rest) (programs : Programs) :
    parseServices section_ (offset + (listed.flatMap Service.sdtEntry).length) offset programs = .ok (listed.foldl rename programs) := by
  induction listed generalizing offset programs with
  | nil =>
    rw [parseServices, fits_ok (by omega)]
    exact if_neg (by simp)
  | cons service listed ih =>
    obtain ⟨here, others⟩ := List.forall_mem_cons.mp valid
    have size : ((service :: listed).flatMap Service.sdtEntry).length =
        5 + service.descriptors.length + (listed.flatMap Service.sdtEntry).length := by
      simp [Service.sdtEntry, wordField, lengthField, field]
      omega
    have number : section_.drop offset = wordField service.serviceId ++ (0xfc :: (lengthField service.descriptors.length ++
        (service.descriptors ++ (listed.flatMap Service.sdtEntry ++ rest)))) := by
      rw [behind, List.flatMap_cons, Service.sdtEntry]
      simp only [List.cons_append, List.append_assoc]
    have flags : section_.drop (offset + 2) = 0xfc :: _ := drop_behind number
    have length : section_.drop (offset + 3) = lengthField service.descriptors.length ++ (service.descriptors ++
      (listed.flatMap Service.sdtEntry ++ rest)) := @drop_behind _ _ _ [0xfc] flags
    have descriptors : section_.drop (offset + 5) = service.descriptors ++ (listed.flatMap Service.sdtEntry ++ rest) :=
      drop_behind length
    have next := drop_behind descriptors
    rw [size] at near short ⊢
    rw [parseServices, fits_ok (by omega)]
    dsimp only [bind, Except.bind]
    rw [if_pos (by omega), read16_wordField number, readLength_lengthField (by omega) length]
    dsimp only
    rw [parseDescriptors_service here (by omega) (by omega) descriptors]
    dsimp only
    rw [← Nat.add_assoc offset, ← Nat.add_assoc offset] at near ⊢
    rw [ih others near (by omega) next, List.foldl_cons]

/-! ## Tables -/

variable {table : UInt8} {extension : UInt16} {framing : Framing} {body : Bytes}

theorem sectionBytes_length : (sectionBytes table extension framing body).length = body.length + 12 := by
  simp [sectionBytes, lengthField, wordField, field, framing.sized]

theorem sectionBytes_read : read (sectionBytes table extension framing body) 0 = .ok table := rfl

theorem sectionBytes_readLength (fits : Fits body) :
    readLength (sectionBytes table extension framing body) 1 = .ok (body.length + 9) := readLength_lengthField fits rfl

theorem sectionBytes_extension : read16 (sectionBytes table extension framing body) 3 = .ok extension := read16_wordField rfl

theorem sectionBytes_body : (sectionBytes table extension framing body).drop 8 = body ++ framing.crc := rfl

/-- The body ends in front of the CRC. -/
theorem sectionBytes_last : difference (3 + (body.length + 9)) 4 = .ok (8 + body.length) := by
  rw [difference_ok (by omega)]
  exact congrArg Except.ok (by omega)

theorem parsePat_pat {entries : List (UInt16 × UInt16)} (pids : ∀ entry ∈ entries, entry.2 < 0x2000)
    (fits : Fits (Table.patBody entries)) (transportStream : UInt16) (framing : Framing) (programs : Programs) :
    parsePat (Table.pat transportStream framing entries).bytes programs = .ok (entries.foldl locate programs) := by
  have short : (Table.patBody entries).length + 9 < 4096 := fits
  rw [Table.bytes, parsePat, if_neg (by rw [sectionBytes_length]; omega), sectionBytes_read]
  dsimp only [bind, Except.bind]
  rw [if_neg (not_not.mpr rfl), sectionBytes_readLength fits]
  dsimp only
  rw [if_neg (by rw [sectionBytes_length]; omega), sectionBytes_last]
  exact parsePrograms_entries pids (by omega) sectionBytes_body programs

/-- What a PMT says of its service. -/
def describe (programs : Programs) (service : Service) : Programs :=
  programs.insert service.serviceId { programs.getD service.serviceId {} with
    serviceId := service.serviceId, pmtPid := service.pmtPid, pcrPid := service.pcrPid,
    streamTypes := service.streams.map ElementaryStream.streamType }

theorem parsePmt_pmt {service : Service} (valid : service.Valid) (fits : Fits service.pmtBody) (framing : Framing)
    (programs : Programs) :
    parsePmt service.pmtPid (Table.pmt framing service).bytes programs = .ok (describe programs service) := by
  have short : service.pmtBody.length + 9 < 4096 := fits
  have size : service.pmtBody.length =
      4 + service.programDescriptors.length + (service.streams.flatMap ElementaryStream.bytes).length := by
    simp [Service.pmtBody, pidField, lengthField, field]
    omega
  have pcrPid : (Table.pmt framing service).bytes.drop 8 = pidField service.pcrPid ++
      (lengthField service.programDescriptors.length ++
        (service.programDescriptors ++ (service.streams.flatMap ElementaryStream.bytes ++ framing.crc))) := by
    rw [Table.bytes, sectionBytes_body, Service.pmtBody]
    simp only [List.append_assoc]
  have length : (Table.pmt framing service).bytes.drop 10 = lengthField service.programDescriptors.length ++
      (service.programDescriptors ++ (service.streams.flatMap ElementaryStream.bytes ++ framing.crc)) := drop_behind pcrPid
  have descriptors : (Table.pmt framing service).bytes.drop 12 =
      service.programDescriptors ++ (service.streams.flatMap ElementaryStream.bytes ++ framing.crc) := drop_behind length
  have streams := drop_behind descriptors
  rw [parsePmt, readMasked_pidField valid.pcrPid pcrPid, readLength_lengthField (by omega) length, Table.bytes,
    if_neg (by rw [sectionBytes_length]; omega), sectionBytes_read, sectionBytes_extension, sectionBytes_readLength fits]
  dsimp only [bind, Except.bind]
  rw [if_neg (not_not.mpr rfl)]
  rw [if_neg (by rw [sectionBytes_length]; omega), sectionBytes_last]
  dsimp only
  rw [show 8 + service.pmtBody.length =
    12 + service.programDescriptors.length + (service.streams.flatMap ElementaryStream.bytes).length by omega]
  have types := parseStreams_streams (by omega) (by omega) streams []
  rw [Table.bytes] at types
  rw [types]
  rfl

theorem parseSdt_sdt {listed : List Service} (valid : ∀ service ∈ listed, service.Valid) {originalNetwork : UInt16}
    (fits : Fits (Table.sdtBody originalNetwork listed)) (transportStream : UInt16) (framing : Framing) (programs : Programs) :
    parseSdt (Table.sdt transportStream originalNetwork framing listed).bytes programs = .ok (listed.foldl rename programs) := by
  have short : (Table.sdtBody originalNetwork listed).length + 9 < 4096 := fits
  have size : (Table.sdtBody originalNetwork listed).length = 3 + (listed.flatMap Service.sdtEntry).length := by
    simp [Table.sdtBody, wordField, field]
    omega
  have services : (Table.sdt transportStream originalNetwork framing listed).bytes.drop 11 =
      listed.flatMap Service.sdtEntry ++ framing.crc := by
    rw [Table.bytes, sectionBytes, Table.sdtBody]
    rfl
  rw [Table.bytes] at services ⊢
  rw [parseSdt, if_neg (by rw [sectionBytes_length]; omega), sectionBytes_read]
  dsimp only [bind, Except.bind]
  rw [if_neg (not_not.mpr rfl), sectionBytes_readLength fits]
  dsimp only
  rw [if_neg (by rw [sectionBytes_length]; omega), sectionBytes_last]
  dsimp only
  rw [size, show 8 + (3 + (listed.flatMap Service.sdtEntry).length) = 11 + (listed.flatMap Service.sdtEntry).length by omega]
  exact parseServices_listed valid (by omega) (by omega) services programs

end WhRepeater.TsGatewayInspect
