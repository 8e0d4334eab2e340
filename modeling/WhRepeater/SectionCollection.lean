import WhRepeater.InspectorBounds

/-! What the packets of a stream do to the section buffer of one PID, and which
sections they have parsed. Packets of other PIDs leave both alone. -/
namespace WhRepeater.TsGatewayInspect

open CheckedSpans

/-! ## The buffer alone -/

/-- The size of a section, by its first bytes. -/
def announced : Bytes → Option Nat
  | _ :: high :: low :: _ => some (3 + length12 high low)
  | _ => none

/-- What `appendSection` keeps, and the section it has parsed. -/
def SectionBuffer.collect (buffer : SectionBuffer) (payload : Bytes) : SectionBuffer × Option Bytes :=
  if payload = [] ∨ payload.head? = some 0xff then (buffer, none)
  else
    let bytes := buffer.bytes ++ payload
    let expectedSize := buffer.expectedSize.or (announced bytes)
    match expectedSize with
    | none => ({ bytes }, none)
    | some size => if size ≤ bytes.length then ({}, some (bytes.take size)) else ({ bytes, expectedSize }, none)

/-- The payload of a packet. -/
structure Payload where
  start : Bool
  bytes : Bytes
  deriving DecidableEq

/-- What `appendPayloadSection` keeps, and the section it has parsed. -/
def SectionBuffer.accept (buffer : SectionBuffer) (payload : Payload) : SectionBuffer × Option Bytes :=
  match payload.start, payload.bytes with
  | true, pointer :: bytes => if bytes.length < pointer.toNat then (buffer, none) else SectionBuffer.collect {} (bytes.drop pointer.toNat)
  | _, bytes => buffer.collect bytes

/-- The sections that payloads have parsed. -/
def collected : SectionBuffer → List Payload → List Bytes
  | _, [] => []
  | buffer, payload :: payloads => (buffer.accept payload).2.toList ++ collected (buffer.accept payload).1 payloads

theorem expected_eq (buffer : SectionBuffer) : buffer.expected = .ok (buffer.expectedSize.or (announced buffer.bytes)) := by
  obtain ⟨bytes, expectedSize⟩ := buffer
  unfold SectionBuffer.expected
  cases expectedSize with
  | some size => rfl
  | none =>
    match bytes with
    | [] => rfl
    | [_] => rfl
    | [_, _] => rfl
    | _ :: high :: low :: _ =>
      rw [if_pos ⟨rfl, by simp⟩]
      rfl

/-- The parsers change the programs only. -/
theorem parseSection_eq (stats : Stats) (pid : UInt16) (section_ : Bytes) : ∃ programs,
    parseSection stats pid section_ = .ok { stats with programs, parsed := stats.parsed ++ [(pid, section_)] } := by
  unfold parseSection
  dsimp only
  split
  · obtain ⟨programs, parsed⟩ := faultless_parsePat section_ stats.programs
    exact ⟨programs, by rw [parsed]; rfl⟩
  split
  · obtain ⟨programs, parsed⟩ := faultless_parseSdt section_ stats.programs
    exact ⟨programs, by rw [parsed]; rfl⟩
  split
  · obtain ⟨programs, parsed⟩ := faultless_parsePmt pid section_ stats.programs
    exact ⟨programs, by rw [parsed]; rfl⟩
  · exact ⟨stats.programs, rfl⟩

/-- The counters with another buffer for a PID, and a section parsed. -/
def Stats.Collects (stats : Stats) (pid : UInt16) (outcome : SectionBuffer × Option Bytes) (after : Stats) : Prop :=
  after.sections = stats.sections.insert pid outcome.1 ∧ after.parsed = stats.parsed ++ (outcome.2.map (pid, ·)).toList

theorem appendSection_collects (stats : Stats) (pid : UInt16) (buffer : SectionBuffer) (payload : Bytes) :
    ∃ after, appendSection stats pid buffer payload = .ok after ∧ stats.Collects pid (buffer.collect payload) after := by
  have unchanged : ∀ buffer : SectionBuffer, stats.Collects pid (buffer, none) (stats.setSection pid buffer) :=
    fun buffer => ⟨rfl, (List.append_nil _).symm⟩
  unfold appendSection
  cases payload with
  | nil => exact ⟨_, rfl, unchanged buffer⟩
  | cons first payload =>
    by_cases stuffing : first = 0xff
    · subst stuffing
      refine ⟨_, rfl, ?_⟩
      rw [SectionBuffer.collect, if_pos (.inr rfl)]
      exact unchanged buffer
    · have some : ¬ (first :: payload = [] ∨ (first :: payload).head? = some 0xff) := by simp [stuffing]
      have head : read (first :: payload) 0 = .ok first := rfl
      rw [if_neg (by simp), head]
      dsimp only [bind, Except.bind]
      rw [if_neg stuffing, expected_eq, SectionBuffer.collect, if_neg some]
      dsimp only
      cases buffer.expectedSize.or (announced (buffer.bytes ++ first :: payload)) with
      | none => exact ⟨_, rfl, unchanged _⟩
      | some size =>
        dsimp only
        split
        case isTrue whole =>
          obtain ⟨programs, parsed⟩ := parseSection_eq stats pid ((buffer.bytes ++ first :: payload).take size)
          rw [subspan_ok (by omega), List.drop_zero]
          dsimp only
          rw [parsed]
          exact ⟨_, rfl, rfl, rfl⟩
        case isFalse => exact ⟨_, rfl, unchanged _⟩

theorem appendPayloadSection_collects (stats : Stats) (pid : UInt16) (start : Bool) {bytes : Bytes} (some : bytes ≠ []) :
    ∃ after, appendPayloadSection stats pid start bytes = .ok after ∧
      stats.Collects pid ((stats.sections.getD pid {}).accept ⟨start, bytes⟩) after := by
  obtain ⟨first, bytes, rfl⟩ := List.exists_cons_of_ne_nil some
  unfold appendPayloadSection SectionBuffer.accept
  dsimp only
  rw [if_neg (by simp)]
  cases start with
  | false =>
    rw [if_neg Bool.false_ne_true]
    exact appendSection_collects ..
  | true =>
    have head : read (first :: bytes) 0 = .ok first := rfl
    rw [if_pos rfl, head]
    dsimp only [bind, Except.bind]
    by_cases short : bytes.length < first.toNat
    · rw [if_pos (by simpa using short), if_pos short]
      exact ⟨_, rfl, rfl, (List.append_nil _).symm⟩
    · rw [if_neg (by simpa using short), if_neg short, subspanFrom_ok (by simpa using short)]
      exact appendSection_collects ..

/-! ## Packets -/

/-- The payload of a packet that has one, and its PID: behind the sync byte the flags
with the start indicator, the PID in 13 bits, and whether there are an adaptation field
and a payload. -/
def packetPayload : Bytes → Option (UInt16 × Payload)
  | sync :: flags :: low :: control :: body =>
    let bytes := if control &&& 0x20 = 0 then body else body.drop (1 + (body.headD 0).toNat)
    if body.length = 184 ∧ sync = 0x47 ∧ control &&& 0x10 ≠ 0 ∧ bytes ≠ [] then
      some (masked 0x1f flags low, ⟨flags &&& 0x40 ≠ 0, bytes⟩)
    else none
  | _ => none

theorem adaptation_table (control : UInt8) : (control >>> 4 &&& 0x03 = 1 ∨ control >>> 4 &&& 0x03 = 3 ↔ control &&& 0x10 ≠ 0) ∧
    (control >>> 4 &&& 0x03 = 2 ∨ control >>> 4 &&& 0x03 = 3 ↔ control &&& 0x20 ≠ 0) := by
  have all : ∀ number : Fin 256, let control := UInt8.ofNat number
      (control >>> 4 &&& 0x03 = 1 ∨ control >>> 4 &&& 0x03 = 3 ↔ control &&& 0x10 ≠ 0) ∧
        (control >>> 4 &&& 0x03 = 2 ∨ control >>> 4 &&& 0x03 = 3 ↔ control &&& 0x20 ≠ 0) := by decide +kernel
  have here := all ⟨control.toNat, control.toNat_lt⟩
  rwa [UInt8.ofNat_toNat] at here

theorem payloadOffset_drop (sync flags low control next : UInt8) (body : Bytes) : ∃ offset,
    payloadOffset (sync :: flags :: low :: control :: next :: body) (control >>> 4 &&& 0x03) = .ok offset ∧
      (sync :: flags :: low :: control :: next :: body).drop offset =
        if control &&& 0x20 = 0 then next :: body else (next :: body).drop (1 + next.toNat) := by
  unfold payloadOffset
  by_cases adaptation : control &&& 0x20 = 0
  · have none : ¬ (control >>> 4 &&& 0x03 = 2 ∨ control >>> 4 &&& 0x03 = 3) := fun field =>
      (adaptation_table control).2.mp field adaptation
    rw [if_neg none, if_pos adaptation]
    exact ⟨4, rfl, rfl⟩
  · rw [if_pos ((adaptation_table control).2.mpr adaptation), if_neg adaptation]
    refine ⟨4 + (1 + next.toNat), rfl, ?_⟩
    rw [← List.drop_drop]
    rfl

/-- A packet of another size, or without its sync byte, has no payload. -/
theorem packetPayload_synced {packet : Bytes} {entry : UInt16 × Payload} (found : packetPayload packet = some entry) :
    packet.length = kTsPacketSize ∧ packet.head? = some 0x47 := by
  unfold packetPayload at found
  split at found
  case h_2 => cases found
  case h_1 sync flags low control body =>
    obtain ⟨⟨size, rfl, -⟩, -⟩ := Option.ite_none_right_eq_some.mp found
    exact ⟨by simp [size, kTsPacketSize], rfl⟩

theorem inspectPacket_refused (stats : Stats) {packet : Bytes} (wrong : ¬ (packet.length = kTsPacketSize ∧ packet.head? = some 0x47)) :
    inspectPacket stats packet = .ok { stats with syncErrors := stats.syncErrors + 1 } := by
  unfold inspectPacket
  by_cases whole : packet.length = kTsPacketSize
  · match packet, whole with
    | sync :: others, whole =>
      have head : read (sync :: others) 0 = .ok sync := rfl
      have other : sync ≠ 0x47 := fun same => wrong ⟨whole, congrArg some same⟩
      rw [if_neg (not_not.mpr whole), head]
      exact if_pos other
  · exact if_pos whole

/-- What is done with a packet of the right size and sync byte. -/
theorem inspectPacket_synced (stats : Stats) {flags low control next : UInt8} {body packet : Bytes}
    (parts : packet = 0x47 :: flags :: low :: control :: next :: body) (whole : packet.length = kTsPacketSize) :
    ∃ pids, inspectPacket stats packet = payloadOffset packet (control >>> 4 &&& 0x03) >>= fun offset =>
      if (control >>> 4 &&& 0x03 = 1 ∨ control >>> 4 &&& 0x03 = 3) ∧ offset < packet.length then
        subspanFrom packet offset >>= appendPayloadSection { stats with pids } (masked 0x1f flags low) (flags &&& 0x40 ≠ 0)
      else pure { stats with pids } := by
  rw [inspectPacket, if_neg (not_not.mpr whole)]
  subst parts
  exact ⟨_, rfl⟩

/-- What a packet does to the section buffers and the sections parsed. -/
def Stats.Inspects (stats : Stats) (packet : Bytes) (after : Stats) : Prop :=
  match packetPayload packet with
  | none => after.sections = stats.sections ∧ after.parsed = stats.parsed
  | some (pid, payload) => stats.Collects pid ((stats.sections.getD pid {}).accept payload) after

theorem inspectPacket_parts (stats : Stats) {flags low control next : UInt8} {body packet : Bytes}
    (parts : packet = 0x47 :: flags :: low :: control :: next :: body) (whole : packet.length = kTsPacketSize) :
    ∃ after, inspectPacket stats packet = .ok after ∧ stats.Inspects packet after := by
  obtain ⟨pids, inspected⟩ := inspectPacket_synced stats parts whole
  subst parts
  have size : (next :: body).length = 184 := by simpa [kTsPacketSize] using whole
  obtain ⟨offset, begins, behind⟩ := payloadOffset_drop 0x47 flags low control next body
  unfold Stats.Inspects packetPayload
  dsimp only [List.headD]
  rw [← behind, inspected, begins]
  dsimp only [bind, Except.bind]
  by_cases carried : control &&& 0x10 ≠ 0 ∧ (0x47 :: flags :: low :: control :: next :: body).drop offset ≠ []
  · have inside : offset < (0x47 :: flags :: low :: control :: next :: body).length := by
      simpa using carried.2
    rw [if_pos ⟨(adaptation_table control).1.mpr carried.1, inside⟩, if_pos ⟨size, rfl, carried⟩,
      subspanFrom_ok (Nat.le_of_lt inside)]
    exact appendPayloadSection_collects { stats with pids } (masked 0x1f flags low) _ carried.2
  · have nothing : ¬ ((control >>> 4 &&& 0x03 = 1 ∨ control >>> 4 &&& 0x03 = 3) ∧
        offset < (0x47 :: flags :: low :: control :: next :: body).length) := by
      rintro ⟨payload, inside⟩
      exact carried ⟨(adaptation_table control).1.mp payload, by simpa using inside⟩
    rw [if_neg nothing, if_neg fun complete => carried complete.2.2]
    exact ⟨_, rfl, rfl, rfl⟩

/-- A packet leaves the sections alone, or adds its payload to those of its PID. -/
theorem inspectPacket_collects (stats : Stats) (packet : Bytes) :
    ∃ after, inspectPacket stats packet = .ok after ∧ stats.Inspects packet after := by
  by_cases synced : packet.length = kTsPacketSize ∧ packet.head? = some 0x47
  · match packet, synced with
    | sync :: flags :: low :: control :: next :: body, ⟨whole, head⟩ =>
      obtain rfl : sync = 0x47 := Option.some.inj head
      exact inspectPacket_parts stats rfl whole
  · have refused : packetPayload packet = none :=
      Option.eq_none_iff_forall_not_mem.mpr fun entry found => synced (packetPayload_synced found)
    refine ⟨_, inspectPacket_refused stats synced, ?_⟩
    rw [Stats.Inspects, refused]
    exact ⟨rfl, rfl⟩

/-! ## Streams -/

/-- The sections parsed of a PID. -/
def Stats.parsedOn (stats : Stats) (pid : UInt16) : List Bytes := (stats.parsed.filter fun entry => entry.1 = pid).map Prod.snd

/-- The payload of a packet, when it is of the PID. -/
def payloadOn (pid : UInt16) (packet : Bytes) : Option Payload :=
  (packetPayload packet).bind fun (other, payload) => if other = pid then some payload else none

theorem parsedOn_append {stats after : Stats} {pid other : UInt16} {found : Option Bytes}
    (parsed : after.parsed = stats.parsed ++ (found.map (other, ·)).toList) :
    after.parsedOn pid = stats.parsedOn pid ++ if other = pid then found.toList else [] := by
  unfold Stats.parsedOn
  rw [parsed, List.filter_append, List.map_append]
  cases found with
  | none => simp
  | some section_ => by_cases same : other = pid <;> simp [same]

/-- A stream parses of a PID what its payloads on the PID complete. -/
theorem inspectPackets_collects (stats : Stats) (pid : UInt16) (packets : List Bytes) : ∃ after,
    inspectPackets stats packets = .ok after ∧
      after.parsedOn pid = stats.parsedOn pid ++ collected (stats.sections.getD pid {}) (packets.filterMap (payloadOn pid)) := by
  unfold inspectPackets
  induction packets generalizing stats with
  | nil => exact ⟨stats, rfl, (List.append_nil _).symm⟩
  | cons packet packets ih =>
    obtain ⟨next, inspected, collects⟩ := inspectPacket_collects stats packet
    obtain ⟨after, ends, parsed⟩ := ih next
    refine ⟨after, by rw [List.foldlM_cons, inspected]; exact ends, ?_⟩
    rw [parsed, List.filterMap_cons, payloadOn]
    unfold Stats.Inspects at collects
    cases found : packetPayload packet with
    | none =>
      rw [found] at collects
      rw [Stats.parsedOn, Stats.parsedOn, collects.1, collects.2]
      rfl
    | some entry =>
      obtain ⟨other, payload⟩ := entry
      rw [found] at collects
      rw [parsedOn_append collects.2, collects.1, List.append_assoc]
      dsimp only [Option.bind]
      by_cases same : other = pid
      · subst same
        rw [if_pos rfl, if_pos rfl, Std.TreeMap.getD_insert_self]
        rfl
      · have apart : compare other pid ≠ .eq := fun equal => same (Std.LawfulEqCmp.eq_of_compare equal)
        rw [if_neg same, if_neg same, Std.TreeMap.getD_insert, if_neg apart]
        rfl

end WhRepeater.TsGatewayInspect
