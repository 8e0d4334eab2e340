import WhRepeater.Outcomes
import WhRepeater.SectionReassembly
import WhRepeater.ServiceTables

/-! What `ts-gateway-inspect` prints of the services of a multiplex. The tables come in
any order and are repeated, and each says a part of what there is to know. -/
namespace WhRepeater.TsGatewayInspect

open CheckedSpans Outcomes

/-- Services with numbers of their own. -/
structure Multiplex where
  services : List Service
  valid : ∀ service ∈ services, service.Valid
  distinct : services.Pairwise fun service other => service.serviceId ≠ other.serviceId

namespace Multiplex

/-- The PIDs of its tables. -/
def TablePid (multiplex : Multiplex) (pid : UInt16) : Prop :=
  pid = 0x0000 ∨ pid = 0x0011 ∨ ∃ service ∈ multiplex.services, pid = service.pmtPid

/-- The entry of a PAT, for the network or for a service. -/
def Entry (multiplex : Multiplex) (entry : UInt16 × UInt16) : Prop :=
  entry.2 < 0x2000 ∧ (entry.1 = 0 ∨ ∃ service ∈ multiplex.services, entry = (service.serviceId, service.pmtPid))

end Multiplex

namespace Table

/-- A table of the multiplex, in one section. PAT and SDT list some of the services. -/
def Of (multiplex : Multiplex) : Table → Prop
  | .pat _ _ entries => (∀ entry ∈ entries, multiplex.Entry entry) ∧ Fits (patBody entries)
  | .pmt _ service => service ∈ multiplex.services ∧ Fits service.pmtBody
  | .sdt _ originalNetwork _ listed => (∀ service ∈ listed, service ∈ multiplex.services) ∧ Fits (sdtBody originalNetwork listed)

def Locates (service : Service) : Table → Prop
  | .pat _ _ entries => (service.serviceId, service.pmtPid) ∈ entries
  | _ => False

def Describes (service : Service) : Table → Prop
  | .pmt _ described => described = service
  | _ => False

def Names (service : Service) : Table → Prop
  | .sdt _ _ _ listed => service ∈ listed
  | _ => False

end Table

/-! ## What the tables have said -/

/-- The services of which the tables so far have given the PMT PID, the streams and the
names. -/
structure Said where
  located : List UInt16 := []
  described : List UInt16 := []
  named : List UInt16 := []

namespace Said

/-- A PMT is waited for on the PIDs of the PAT. -/
def awaits (multiplex : Multiplex) (said : Said) (pid : UInt16) : Bool :=
  multiplex.services.any fun service => service.pmtPid = pid ∧ service.serviceId ∈ said.located

def hear (multiplex : Multiplex) (said : Said) : Table → Said
  | .pat _ _ entries => { said with located := said.located ++ entries.map Prod.fst }
  | .pmt _ service =>
    if said.awaits multiplex service.pmtPid then
      { said with located := said.located ++ [service.serviceId], described := said.described ++ [service.serviceId] }
    else said
  | .sdt _ _ _ listed => { said with named := said.named ++ listed.map Service.serviceId }

/-- What is printed of a service. -/
def program (said : Said) (service : Service) : Option ProgramInfo :=
  if service.serviceId ∈ said.located ∨ service.serviceId ∈ said.described ∨ service.serviceId ∈ said.named then
    some {
      serviceId := service.serviceId
      pmtPid := if service.serviceId ∈ said.located then service.pmtPid else 0
      pcrPid := if service.serviceId ∈ said.described then service.pcrPid else 0
      provider := if service.serviceId ∈ said.named then dvbString service.provider else []
      serviceName := if service.serviceId ∈ said.named then dvbString service.serviceName else []
      streamTypes := if service.serviceId ∈ said.described then service.streams.map ElementaryStream.streamType else [] }
  else none

end Said

/-- The programs are what has been said. -/
structure Reports (multiplex : Multiplex) (said : Said) (programs : Programs) : Prop where
  listed : ∀ service ∈ multiplex.services, programs[service.serviceId]? = said.program service
  others : ∀ serviceId, (∀ service ∈ multiplex.services, service.serviceId ≠ serviceId) → programs[serviceId]? = none

variable {multiplex : Multiplex} {said next : Said} {programs after : Programs} {service other : Service}

theorem reports_start : Reports multiplex {} {} := by
  refine ⟨fun service _ => ?_, fun serviceId _ => Std.TreeMap.getElem?_emptyc⟩
  rw [Std.TreeMap.getElem?_emptyc]
  rfl

theorem Multiplex.same_service (mine : service ∈ multiplex.services) (its : other ∈ multiplex.services)
    (same : service.serviceId = other.serviceId) : service = other := by
  have apart := multiplex.distinct
  generalize multiplex.services = services at mine its apart
  induction apart with
  | nil => cases mine
  | cons first _ ih =>
    rcases List.mem_cons.mp mine with rfl | behind
    · rcases List.mem_cons.mp its with rfl | later
      · rfl
      · exact absurd same (first _ later)
    · rcases List.mem_cons.mp its with rfl | later
      · exact absurd same.symm (first _ behind)
      · exact ih behind later

/-- Of a service that nothing was said of, nothing is filled in. -/
theorem Said.program_getD (said : Said) (service : Service) : (said.program service).getD {} = {
    serviceId := if service.serviceId ∈ said.located ∨ service.serviceId ∈ said.described ∨ service.serviceId ∈ said.named
      then service.serviceId else 0
    pmtPid := if service.serviceId ∈ said.located then service.pmtPid else 0
    pcrPid := if service.serviceId ∈ said.described then service.pcrPid else 0
    provider := if service.serviceId ∈ said.named then dvbString service.provider else []
    serviceName := if service.serviceId ∈ said.named then dvbString service.serviceName else []
    streamTypes := if service.serviceId ∈ said.described then service.streams.map ElementaryStream.streamType else [] } := by
  unfold Said.program
  split
  case isTrue heard => rfl
  case isFalse unheard =>
    rw [not_or, not_or] at unheard
    simp [unheard]

/-- Something more is said of one service, and written to its program. -/
theorem Reports.change (reports : Reports multiplex said programs) (mine : service ∈ multiplex.services)
    (change : ProgramInfo → ProgramInfo) (known : next.program service = some (change ((said.program service).getD {})))
    (silent : ∀ other ∈ multiplex.services, other.serviceId ≠ service.serviceId → next.program other = said.program other) :
    Reports multiplex next (programs.insert service.serviceId (change (programs.getD service.serviceId {}))) := by
  refine ⟨fun other its => ?_, fun serviceId foreign => ?_⟩
  · rw [Std.TreeMap.getElem?_insert, Std.TreeMap.getD_eq_getD_getElem?, reports.listed service mine]
    by_cases same : service.serviceId = other.serviceId
    · obtain rfl := Multiplex.same_service mine its same
      rw [if_pos (Std.ReflCmp.compare_self), known]
    · rw [if_neg fun equal => same (Std.LawfulEqCmp.eq_of_compare equal), reports.listed other its]
      exact (silent other its fun equal => same equal.symm).symm
  · rw [Std.TreeMap.getElem?_insert, if_neg fun equal => foreign service mine (Std.LawfulEqCmp.eq_of_compare equal)]
    exact reports.others serviceId foreign

theorem Reports.locate (reports : Reports multiplex said programs) {entry : UInt16 × UInt16} (mine : multiplex.Entry entry) :
    Reports multiplex { said with located := said.located ++ [entry.1] } (locate programs entry) := by
  unfold TsGatewayInspect.locate
  rcases mine.2 with network | ⟨service, listed, rfl⟩
  · rw [if_pos network]
    refine ⟨fun service listed => ?_, reports.others⟩
    have apart : service.serviceId ≠ entry.1 := by
      rw [network]
      exact (multiplex.valid service listed).numbered
    simp [Said.program, reports.listed service listed, apart]
  · have numbered := (multiplex.valid service listed).numbered
    rw [if_neg numbered]
    refine reports.change listed (fun program => { program with serviceId := service.serviceId, pmtPid := service.pmtPid }) ?_ ?_
    · rw [Said.program_getD]
      simp [Said.program]
    · intro other its apart
      simp [Said.program, apart]

theorem Reports.describe (reports : Reports multiplex said programs) (mine : service ∈ multiplex.services) :
    Reports multiplex { said with
        located := said.located ++ [service.serviceId], described := said.described ++ [service.serviceId] }
      (describe programs service) := by
  refine reports.change mine (fun program => { program with
    serviceId := service.serviceId, pmtPid := service.pmtPid, pcrPid := service.pcrPid,
    streamTypes := service.streams.map ElementaryStream.streamType }) ?_ ?_
  · rw [Said.program_getD]
    simp [Said.program]
  · intro other its apart
    simp [Said.program, apart]

theorem Reports.rename (reports : Reports multiplex said programs) (mine : service ∈ multiplex.services) :
    Reports multiplex { said with named := said.named ++ [service.serviceId] } (rename programs service) := by
  refine reports.change mine (fun program => { program with
    serviceId := service.serviceId, provider := dvbString service.provider, serviceName := dvbString service.serviceName }) ?_ ?_
  · rw [Said.program_getD]
    simp [Said.program]
  · intro other its apart
    simp [Said.program, apart]

theorem Reports.locates (reports : Reports multiplex said programs) {entries : List (UInt16 × UInt16)}
    (mine : ∀ entry ∈ entries, multiplex.Entry entry) :
    Reports multiplex { said with located := said.located ++ entries.map Prod.fst }
      (entries.foldl TsGatewayInspect.locate programs) := by
  induction entries generalizing said programs with
  | nil => simpa using reports
  | cons entry entries ih =>
    obtain ⟨here, others⟩ := List.forall_mem_cons.mp mine
    simpa using ih (reports.locate here) others

theorem Reports.renames (reports : Reports multiplex said programs) {listed : List Service}
    (mine : ∀ service ∈ listed, service ∈ multiplex.services) :
    Reports multiplex { said with named := said.named ++ listed.map Service.serviceId }
      (listed.foldl TsGatewayInspect.rename programs) := by
  induction listed generalizing said programs with
  | nil => simpa using reports
  | cons service listed ih =>
    obtain ⟨here, others⟩ := List.forall_mem_cons.mp mine
    simpa using ih (reports.rename here) others

/-- A section is taken for a PMT where one is waited for. -/
theorem Reports.awaits (reports : Reports multiplex said programs) {pid : UInt16} (apart : pid ≠ 0) :
    (programs.toList.any fun (_, program) => program.pmtPid == pid) = said.awaits multiplex pid := by
  rw [Bool.eq_iff_iff, List.any_eq_true, Said.awaits, List.any_eq_true]
  constructor
  · rintro ⟨⟨serviceId, program⟩, among, same⟩
    have found := Std.TreeMap.mem_toList_iff_getElem?_eq_some.mp among
    by_cases foreign : ∀ service ∈ multiplex.services, service.serviceId ≠ serviceId
    · rw [reports.others serviceId foreign] at found
      cases found
    · push Not at foreign
      obtain ⟨service, listed, rfl⟩ := foreign
      refine ⟨service, listed, ?_⟩
      have printed := Said.program_getD said service
      rw [← reports.listed service listed, found] at printed
      have pmtPid := congrArg ProgramInfo.pmtPid printed
      dsimp only [Option.getD_some] at pmtPid
      rw [beq_iff_eq.mp same] at pmtPid
      split at pmtPid
      case isTrue located => simp [pmtPid, located]
      case isFalse => exact absurd pmtPid apart
  · rintro ⟨service, listed, waits⟩
    obtain ⟨rfl, located⟩ := of_decide_eq_true waits
    have printed : programs[service.serviceId]? = some ((said.program service).getD {}) := by
      rw [reports.listed service listed]
      simp [Said.program, located]
    refine ⟨(service.serviceId, (said.program service).getD {}), Std.TreeMap.mem_toList_iff_getElem?_eq_some.mpr printed, ?_⟩
    rw [Said.program_getD]
    simp [located]

/-! ## Sections parsed -/

/-- What `parseSection` does to the programs. -/
def parseTable (programs : Programs) (entry : UInt16 × Bytes) : Except Fault Programs :=
  if entry.1 = 0x0000 then parsePat entry.2 programs
  else if entry.1 = 0x0011 then parseSdt entry.2 programs
  else if programs.toList.any fun (_, program) => program.pmtPid == entry.1 then parsePmt entry.1 entry.2 programs
  else .ok programs

theorem parseSection_eq_parseTable (stats : Stats) (entry : UInt16 × Bytes) :
    parseSection stats entry.1 entry.2 = (parseTable stats.programs entry).map fun programs =>
      { stats with programs, parsed := stats.parsed ++ [entry] } := by
  have through : ∀ outcome : Except Fault Programs,
      (do return { stats with programs := ← outcome, parsed := stats.parsed ++ [entry] }) = outcome.map fun programs =>
        { stats with programs, parsed := stats.parsed ++ [entry] } := by
    intro outcome
    cases outcome <;> rfl
  unfold parseSection parseTable
  dsimp only
  split
  · exact through _
  split
  · exact through _
  split
  · exact through _
  · rfl

theorem parseTable_awaited (reports : Reports multiplex said programs) {pid : UInt16} (apart : pid ≠ 0x0000 ∧ pid ≠ 0x0011)
    (section_ : Bytes) : parseTable programs (pid, section_) =
      if said.awaits multiplex pid then parsePmt pid section_ programs else .ok programs := by
  rw [parseTable, if_neg apart.1, if_neg apart.2, reports.awaits apart.1]

/-- Each table that a multiplex sends is taken for what it is. -/
theorem parseTable_table {table : Table} (mine : table.Of multiplex) (reports : Reports multiplex said programs) :
    ∃ after, parseTable programs (table.pid, table.bytes) = .ok after ∧ Reports multiplex (said.hear multiplex table) after := by
  cases table with
  | pat transportStream framing entries =>
    obtain ⟨entered, fits⟩ := mine
    have parsed := parsePat_pat (fun entry among => (entered entry among).1) fits transportStream framing programs
    exact ⟨_, parsed, reports.locates entered⟩
  | pmt framing service =>
    obtain ⟨listed, fits⟩ := mine
    have valid := multiplex.valid service listed
    dsimp only [Table.pid, Said.hear]
    rw [parseTable_awaited reports valid.apart]
    split
    · exact ⟨_, parsePmt_pmt valid fits framing programs, reports.describe listed⟩
    · exact ⟨programs, rfl, reports⟩
  | sdt transportStream originalNetwork framing listed =>
    obtain ⟨entered, fits⟩ := mine
    have valid : ∀ service ∈ listed, service.Valid := fun service among => multiplex.valid service (entered service among)
    have parsed := parseSdt_sdt valid fits transportStream framing programs
    exact ⟨_, parsed, reports.renames entered⟩

/-- What is sent on other PIDs is not taken for a table. -/
theorem parseTable_foreign {entry : UInt16 × Bytes} (foreign : ¬ multiplex.TablePid entry.1)
    (reports : Reports multiplex said programs) : parseTable programs entry = .ok programs := by
  have pat : entry.1 ≠ 0x0000 := fun same => foreign (.inl same)
  have sdt : entry.1 ≠ 0x0011 := fun same => foreign (.inr (.inl same))
  have unawaited : ¬ said.awaits multiplex entry.1 = true := by
    intro waits
    obtain ⟨service, listed, same⟩ := List.any_eq_true.mp waits
    exact foreign (.inr (.inr ⟨service, listed, (of_decide_eq_true same).1.symm⟩))
  exact (parseTable_awaited reports ⟨pat, sdt⟩ entry.2).trans (if_neg unawaited)

/-- The tables among the sections that were parsed. On the PIDs of the multiplex there are
its tables only. -/
inductive Sent (multiplex : Multiplex) : List (UInt16 × Bytes) → List Table → Prop where
  | none : Sent multiplex [] []
  | table (mine : table.Of multiplex) (later : Sent multiplex entries tables) :
      Sent multiplex ((table.pid, table.bytes) :: entries) (table :: tables)
  | foreign (other : ¬ multiplex.TablePid entry.1) (later : Sent multiplex entries tables) :
      Sent multiplex (entry :: entries) tables

variable {entries front back : List (UInt16 × Bytes)} {tables first second : List Table}

theorem sent_of_tables (mine : ∀ table ∈ tables, table.Of multiplex) :
    Sent multiplex (tables.map fun table => (table.pid, table.bytes)) tables := by
  induction tables with
  | nil => exact .none
  | cons table tables ih =>
    obtain ⟨here, others⟩ := List.forall_mem_cons.mp mine
    exact .table here (ih others)

theorem Sent.append (before : Sent multiplex front first) (behind : Sent multiplex back second) :
    Sent multiplex (front ++ back) (first ++ second) := by
  induction before with
  | none => exact behind
  | table mine _ ih => exact .table mine ih
  | foreign other _ ih => exact .foreign other ih

theorem parseTables_sent (sent : Sent multiplex entries tables) (reports : Reports multiplex said programs) :
    ∃ after, entries.foldlM parseTable programs = .ok after ∧ Reports multiplex (tables.foldl (Said.hear multiplex) said) after := by
  induction sent generalizing said programs with
  | none => exact ⟨programs, rfl, reports⟩
  | table mine later ih =>
    obtain ⟨next, parsed, reports⟩ := parseTable_table mine reports
    obtain ⟨after, ends, reports⟩ := ih reports
    exact ⟨after, by rw [List.foldlM_cons, parsed]; exact ends, reports⟩
  | foreign other later ih =>
    obtain ⟨after, ends, kept⟩ := ih reports
    exact ⟨after, by rw [List.foldlM_cons, parseTable_foreign other reports]; exact ends, kept⟩

def parseSections (stats : Stats) (entries : List (UInt16 × Bytes)) : Except Fault Stats :=
  entries.foldlM (fun stats entry => parseSection stats entry.1 entry.2) stats

theorem parseSections_programs {stats : Stats} (parsed : entries.foldlM parseTable stats.programs = .ok programs) :
    ∃ after, parseSections stats entries = .ok after ∧ after.programs = programs := by
  induction entries generalizing stats with
  | nil =>
    cases parsed
    exact ⟨stats, rfl, rfl⟩
  | cons entry entries ih =>
    rw [List.foldlM_cons] at parsed
    cases here : parseTable stats.programs entry with
    | error fault =>
      rw [here] at parsed
      cases parsed
    | ok next =>
      rw [here] at parsed
      obtain ⟨after, ends, same⟩ := @ih { stats with programs := next, parsed := stats.parsed ++ [entry] } parsed
      refine ⟨after, ?_, same⟩
      rw [parseSections, List.foldlM_cons, parseSection_eq_parseTable, here]
      exact ends

/-- What the inspector prints of a multiplex is what its tables have said, in whatever
order they came and however often. -/
theorem tables_reported (mine : ∀ table ∈ tables, table.Of multiplex) :
    ∃ after, parseSections {} (tables.map fun table => (table.pid, table.bytes)) = .ok after ∧
      Reports multiplex (tables.foldl (Said.hear multiplex) {}) after.programs := by
  obtain ⟨programs, parsed, reports⟩ := parseTables_sent (sent_of_tables mine) reports_start
  obtain ⟨after, ends, rfl⟩ := @parseSections_programs programs _ {} parsed
  exact ⟨after, ends, reports⟩

def repeaterService : Service where
  serviceId := 1
  pmtPid := 0x0100
  pcrPid := 0x0101
  streams := [{ streamType := 0x1b, pid := 0x0101 }, { streamType := 0x0f, pid := 0x0102 }]
  provider := [0x51]
  serviceName := [0x05, 0x57, 0x48]

def repeaterMultiplex : Multiplex where
  services := [repeaterService]
  valid := List.forall_mem_singleton.mpr ⟨by decide, by decide, by decide, by decide, by decide⟩
  distinct := List.pairwise_singleton _ _

def repeaterPat : Table := .pat 1 {} [(0, 0x0010), (1, 0x0100)]

def repeaterPmt : Table := .pmt {} repeaterService

def repeaterSdt : Table := .sdt 1 1 {} [repeaterService]

theorem repeaterTables_of : ∀ table ∈ [repeaterPmt, repeaterSdt, repeaterPat, repeaterPmt], table.Of repeaterMultiplex := by
  have mine : repeaterService ∈ repeaterMultiplex.services := List.mem_singleton.mpr rfl
  have pat : repeaterPat.Of repeaterMultiplex := by
    refine ⟨?_, by decide⟩
    simp only [List.forall_mem_cons]
    exact ⟨⟨by decide, .inl rfl⟩, ⟨by decide, .inr ⟨repeaterService, mine, rfl⟩⟩, nofun⟩
  have pmt : repeaterPmt.Of repeaterMultiplex := ⟨mine, by decide⟩
  have sdt : repeaterSdt.Of repeaterMultiplex := ⟨List.forall_mem_singleton.mpr mine, by decide⟩
  simp only [List.forall_mem_cons]
  exact ⟨pmt, sdt, pat, pmt, nofun⟩

/-- Before the PAT, the PMT is not read. -/
theorem tables_reported_early_pmt :
    ∃ after, parseSections {} ([repeaterPmt, repeaterSdt].map fun table => (table.pid, table.bytes)) = .ok after ∧
      after.programs[(1 : UInt16)]? = some { serviceId := 1, provider := [0x51], serviceName := [0x57, 0x48] } := by
  obtain ⟨after, parsed, reports⟩ := @tables_reported repeaterMultiplex [repeaterPmt, repeaterSdt] fun table among =>
    repeaterTables_of table (List.mem_append_left [repeaterPat, repeaterPmt] among)
  refine ⟨after, parsed, ?_⟩
  exact reports.listed repeaterService (List.mem_singleton.mpr rfl)

/-! ## Streams -/

variable {stats later : Stats}

/-- The programs follow from the sections that were parsed since. -/
def Stats.Follows (stats later : Stats) : Prop :=
  ∃ entries, later.parsed = stats.parsed ++ entries ∧ entries.foldlM parseTable stats.programs = .ok later.programs

theorem follows_of_same (parsed : later.parsed = stats.parsed) (programs : later.programs = stats.programs) :
    stats.Follows later := ⟨[], by rw [parsed, List.append_nil], by rw [programs]; rfl⟩

theorem Stats.Follows.trans {last : Stats} (first : stats.Follows later) (second : later.Follows last) : stats.Follows last := by
  obtain ⟨front, parsed, found⟩ := first
  obtain ⟨back, parsed', found'⟩ := second
  refine ⟨front ++ back, by rw [parsed', parsed, List.append_assoc], ?_⟩
  rw [List.foldlM_append, found]
  exact found'

theorem parseSection_follows (stats : Stats) (entry : UInt16 × Bytes) :
    Yields (parseSection stats entry.1 entry.2) stats.Follows := by
  intro later ends
  rw [parseSection_eq_parseTable] at ends
  cases here : parseTable stats.programs entry with
  | error fault =>
    rw [here] at ends
    cases ends
  | ok programs =>
    rw [here] at ends
    cases ends
    refine ⟨[entry], rfl, ?_⟩
    rw [List.foldlM_cons, here]
    rfl

theorem appendSection_follows (stats : Stats) (pid : UInt16) (buffer : SectionBuffer) (payload : Bytes) :
    Yields (appendSection stats pid buffer payload) stats.Follows := by
  have kept : ∀ buffer, stats.Follows (stats.setSection pid buffer) := fun _ => follows_of_same rfl rfl
  unfold appendSection
  refine yields_ite (fun _ => yields_pure (kept _)) fun _ => yields_bind fun first _ => ?_
  refine yields_ite (fun _ => yields_pure (kept _)) fun _ => yields_bind fun expectedSize _ => ?_
  cases expectedSize with
  | none => exact yields_pure (kept _)
  | some size =>
    refine yields_ite (fun _ => yields_bind fun section_ _ => yields_bind fun next parsed => ?_) fun _ => yields_pure (kept _)
    have follows := parseSection_follows stats (pid, section_) next parsed
    exact yields_pure (follows.trans (follows_of_same rfl rfl))

theorem appendPayloadSection_follows (stats : Stats) (pid : UInt16) (payloadStart : Bool) (payload : Bytes) :
    Yields (appendPayloadSection stats pid payloadStart payload) stats.Follows := by
  unfold appendPayloadSection
  refine yields_ite (fun _ => yields_pure (follows_of_same rfl rfl)) fun _ => ?_
  refine yields_ite (fun _ => yields_bind fun pointer _ => ?_) fun _ => appendSection_follows _ _ _ _
  refine yields_ite (fun _ => yields_pure (follows_of_same rfl rfl)) fun _ => yields_bind fun behind _ => ?_
  exact appendSection_follows _ _ _ _

theorem inspectPacket_follows (stats : Stats) (packet : Bytes) : Yields (inspectPacket stats packet) stats.Follows := by
  have unsynced : stats.Follows { stats with syncErrors := stats.syncErrors + 1 } := follows_of_same rfl rfl
  unfold inspectPacket
  refine yields_ite (fun _ => yields_pure unsynced) fun _ => yields_bind fun sync _ => ?_
  refine yields_ite (fun _ => yields_pure unsynced) fun _ => yields_bind fun flags _ => yields_bind fun pid _ => ?_
  refine yields_bind fun control _ => yields_bind fun counter _ => yields_bind fun offset _ => ?_
  refine yields_ite (fun _ => yields_bind fun payload _ => ?_) fun _ => yields_pure (follows_of_same rfl rfl)
  intro later ends
  have counted := appendPayloadSection_follows _ _ _ _ later ends
  obtain ⟨entries, parsed, programs⟩ := counted
  exact ⟨entries, parsed, programs⟩

theorem inspectPackets_follows (stream : List Bytes) (stats : Stats) : Yields (inspectPackets stats stream) stats.Follows := by
  unfold inspectPackets
  induction stream generalizing stats with
  | nil => exact yields_pure (follows_of_same rfl rfl)
  | cons packet stream ih =>
    rw [List.foldlM_cons]
    refine yields_bind fun next inspected => ?_
    intro later ends
    exact (inspectPacket_follows stats packet next inspected).trans (ih next later ends)

/-- The stream carries the tables of the multiplex, each PID in packets of which the
inspector loses nothing. On other PIDs anything may be sent. -/
structure Carries (multiplex : Multiplex) (stream : List Bytes) (tables : List Table) : Prop where
  mine : ∀ table ∈ tables, table.Of multiplex
  plain : ∀ pid, multiplex.TablePid pid → ∃ packets,
    Packetised [] ((tables.filter fun table => table.pid = pid).map Table.bytes) packets ∧
      stream.filterMap (payloadOn pid) = packets.map Carried.payload ∧ ∀ packet ∈ packets, packet.Plain

variable {table : Table} {stream : List Bytes}

theorem sectionBytes_isSection {tableId : UInt8} {extension : UInt16} {framing : Framing} {body : Bytes} (fits : Fits body)
    (whole : tableId ≠ 0xff) : IsSection (sectionBytes tableId extension framing body) := by
  have length : length12 (UInt8.ofNat (0xf0 + (body.length + 9) / 256)) (UInt8.ofNat (body.length + 9)) = body.length + 9 :=
    Except.ok.inj (@sectionBytes_readLength tableId extension framing body fits)
  refine ⟨?_, fun padding => whole (Option.some.inj padding)⟩
  rw [sectionBytes_length]
  exact congrArg some (by rw [length]; omega)

theorem Table.isSection (mine : table.Of multiplex) : IsSection table.bytes := by
  cases table with
  | pat => exact sectionBytes_isSection mine.2 (by decide)
  | pmt => exact sectionBytes_isSection mine.2 (by decide)
  | sdt => exact sectionBytes_isSection mine.2 (by decide)

theorem Table.pid_tablePid (mine : table.Of multiplex) : multiplex.TablePid table.pid := by
  cases table with
  | pat => exact .inl rfl
  | pmt _ service => exact .inr (.inr ⟨service, mine.1, rfl⟩)
  | sdt => exact .inr (.inl rfl)

theorem parsedOn_carried (carries : Carries multiplex stream tables) (inspected : inspectPackets stats stream = .ok later)
    {pid : UInt16} (known : multiplex.TablePid pid) :
    later.parsedOn pid = stats.parsedOn pid ++ (tables.filter fun table => table.pid = pid).map Table.bytes := by
  obtain ⟨packets, packetised, sent, plain⟩ := carries.plain pid known
  obtain ⟨after, ends, parsed⟩ := inspectPackets_collects stats pid stream
  obtain rfl := Except.ok.inj (ends.symm.trans inspected)
  have each : ∀ section_ ∈ (tables.filter fun table => table.pid = pid).map Table.bytes, IsSection section_ := by
    intro section_ among
    obtain ⟨table, listed, rfl⟩ := List.mem_map.mp among
    exact Table.isSection (carries.mine table (List.mem_of_mem_filter listed))
  rw [parsed, sent, (collected_iff packetised (tails_short sent) each _).mpr plain]

/-- The sections of a stream that carries tables: each table is among them, and on the
PIDs of the multiplex they all are tables. -/
theorem entries_carried (carries : Carries multiplex stream tables) (inspected : inspectPackets stats stream = .ok later)
    (parsed : later.parsed = stats.parsed ++ entries) :
    (∀ table ∈ tables, (table.pid, table.bytes) ∈ entries) ∧
      ∀ entry ∈ entries, multiplex.TablePid entry.1 → ∃ table : Table, table.Of multiplex ∧ entry = (table.pid, table.bytes) := by
  have sections : ∀ pid, multiplex.TablePid pid →
      (entries.filter fun entry => entry.1 = pid).map Prod.snd = (tables.filter fun table => table.pid = pid).map Table.bytes := by
    intro pid known
    have found := parsedOn_carried carries inspected known
    rw [Stats.parsedOn, parsed, List.filter_append, List.map_append] at found
    exact List.append_cancel_left found
  constructor
  · intro table among
    have here : table.bytes ∈ (entries.filter fun entry => entry.1 = table.pid).map Prod.snd := by
      rw [sections table.pid (Table.pid_tablePid (carries.mine table among))]
      exact List.mem_map_of_mem (List.mem_filter.mpr ⟨among, decide_eq_true rfl⟩)
    obtain ⟨⟨pid, section_⟩, listed, rfl⟩ := List.mem_map.mp here
    obtain ⟨inside, same⟩ := List.mem_filter.mp listed
    obtain rfl : pid = table.pid := of_decide_eq_true same
    exact inside
  · rintro ⟨pid, section_⟩ among known
    have here : section_ ∈ (tables.filter fun table => table.pid = pid).map Table.bytes := by
      rw [← sections pid known]
      exact List.mem_map.mpr ⟨(pid, section_), List.mem_filter.mpr ⟨among, decide_eq_true rfl⟩, rfl⟩
    obtain ⟨table, listed, rfl⟩ := List.mem_map.mp here
    obtain ⟨inside, same⟩ := List.mem_filter.mp listed
    obtain rfl : table.pid = pid := of_decide_eq_true same
    exact ⟨table, carries.mine table inside, rfl⟩

theorem sent_of_entries (each : ∀ entry ∈ entries, multiplex.TablePid entry.1 →
    ∃ table : Table, table.Of multiplex ∧ entry = (table.pid, table.bytes)) : ∃ tables, Sent multiplex entries tables := by
  induction entries with
  | nil => exact ⟨[], .none⟩
  | cons entry entries ih =>
    obtain ⟨here, others⟩ := List.forall_mem_cons.mp each
    obtain ⟨tables, sent⟩ := ih others
    by_cases known : multiplex.TablePid entry.1
    · obtain ⟨table, mine, rfl⟩ := here known
      exact ⟨table :: tables, .table mine sent⟩
    · exact ⟨tables, .foreign known sent⟩

/-- One of the tables, where it is among the sections. -/
theorem sent_through (mine : table.Of multiplex) (among : (table.pid, table.bytes) ∈ entries)
    (each : ∀ entry ∈ entries, multiplex.TablePid entry.1 → ∃ table : Table, table.Of multiplex ∧ entry = (table.pid, table.bytes)) :
    ∃ first second, Sent multiplex entries (first ++ table :: second) := by
  obtain ⟨front, back, rfl⟩ := List.append_of_mem among
  obtain ⟨ahead, rest⟩ := List.forall_mem_append.mp each
  obtain ⟨first, before⟩ := sent_of_entries ahead
  obtain ⟨second, behind⟩ := sent_of_entries (List.forall_mem_cons.mp rest).2
  exact ⟨first, second, before.append (.table mine behind)⟩

/-! ## Whole reports -/

/-- What was said stays said. -/
theorem Said.hear_kept (said : Said) (table : Table) {serviceId : UInt16} :
    (serviceId ∈ said.located → serviceId ∈ (said.hear multiplex table).located) ∧
      (serviceId ∈ said.described → serviceId ∈ (said.hear multiplex table).described) ∧
      (serviceId ∈ said.named → serviceId ∈ (said.hear multiplex table).named) := by
  unfold Said.hear
  cases table with
  | pat => exact ⟨List.mem_append_left _, id, id⟩
  | pmt framing service =>
    dsimp only
    split
    · exact ⟨List.mem_append_left _, List.mem_append_left _, id⟩
    · exact ⟨id, id, id⟩
  | sdt => exact ⟨id, id, List.mem_append_left _⟩

theorem Said.hears_kept (tables : List Table) (said : Said) {serviceId : UInt16} :
    (serviceId ∈ said.located → serviceId ∈ (tables.foldl (Said.hear multiplex) said).located) ∧
      (serviceId ∈ said.described → serviceId ∈ (tables.foldl (Said.hear multiplex) said).described) ∧
      (serviceId ∈ said.named → serviceId ∈ (tables.foldl (Said.hear multiplex) said).named) := by
  induction tables generalizing said with
  | nil => exact ⟨id, id, id⟩
  | cons table tables ih =>
    have here := @Said.hear_kept multiplex said table serviceId
    have later := ih (said.hear multiplex table)
    exact ⟨later.1 ∘ here.1, later.2.1 ∘ here.2.1, later.2.2 ∘ here.2.2⟩

theorem located_of_pat (locates : table.Locates service) (said : Said) (first second : List Table) :
    service.serviceId ∈ ((first ++ table :: second).foldl (Said.hear multiplex) said).located := by
  rw [List.foldl_append, List.foldl_cons]
  refine (Said.hears_kept second _).1 ?_
  cases table with
  | pat _ _ entries => exact List.mem_append_right _ (List.mem_map.mpr ⟨_, locates, rfl⟩)
  | pmt => exact locates.elim
  | sdt => exact locates.elim

theorem described_of_pmt {framing : Framing} (mine : service ∈ multiplex.services) (located : service.serviceId ∈ said.located)
    (first second : List Table) :
    service.serviceId ∈ ((first ++ .pmt framing service :: second).foldl (Said.hear multiplex) said).described := by
  rw [List.foldl_append, List.foldl_cons]
  refine (Said.hears_kept second _).2.1 ?_
  have awaited : (first.foldl (Said.hear multiplex) said).awaits multiplex service.pmtPid = true :=
    List.any_eq_true.mpr ⟨service, mine, decide_eq_true ⟨rfl, (Said.hears_kept first said).1 located⟩⟩
  rw [Said.hear, if_pos awaited]
  exact List.mem_append_right _ (List.mem_singleton.mpr rfl)

theorem named_of_sdt (names : table.Names service) (said : Said) (first second : List Table) :
    service.serviceId ∈ ((first ++ table :: second).foldl (Said.hear multiplex) said).named := by
  rw [List.foldl_append, List.foldl_cons]
  refine (Said.hears_kept second _).2.2 ?_
  cases table with
  | pat => exact names.elim
  | pmt => exact names.elim
  | sdt _ _ _ listed => exact List.mem_append_right _ (List.mem_map.mpr ⟨service, names, rfl⟩)

/-- Two accounts of one program, of which one has its streams and the other its names. -/
theorem program_of_both {known : Said} (same : said.program service = known.program service)
    (located : service.serviceId ∈ said.located) (described : service.serviceId ∈ said.described)
    (named : service.serviceId ∈ known.named) : said.program service = some service.program := by
  have names := congrArg (fun program => (program.getD {}).provider) same
  have names' := congrArg (fun program => (program.getD {}).serviceName) same
  simp only [Said.program_getD, named, if_true] at names names'
  simp only [Said.program, located, true_or, described, names, names', if_true, Service.program]

variable {opening closing : List Bytes}

/-- A packet with one section, and stuffing behind it. -/
def tablePacket (table : Table) : Carried := { complete := [table.bytes], stuffing := 183 - table.bytes.length }

def tableBytes (table : Table) : Bytes :=
  0x47 :: (wordField (0x4000 ||| table.pid) ++ 0x10 :: (tablePacket table).payload.bytes)

theorem carries_repeater {tables : List Table} (some : ∀ table ∈ tables, table ∈ [repeaterPat, repeaterPmt, repeaterSdt]) :
    Carries repeaterMultiplex (tables.map tableBytes) tables := by
  have mine : ∀ table ∈ tables, table.Of repeaterMultiplex := by
    intro table among
    have known := some table among
    apply repeaterTables_of
    simp only [List.mem_cons] at known ⊢
    tauto
  refine ⟨mine, fun pid _ => ⟨(tables.filter fun table => table.pid = pid).map tablePacket, ?_, ?_, ?_⟩⟩
  · induction tables.filter fun table => table.pid = pid with
    | nil => exact .done
    | cons table tables ih =>
      have packet : Packetised [] ([table.bytes] ++ tables.map Table.bytes) (tablePacket table :: tables.map tablePacket) :=
        .starts (List.cons_ne_nil _ _) ih
      exact packet
  · have each : ∀ table ∈ tables, payloadOn pid (tableBytes table) =
        if table.pid = pid then Option.some (tablePacket table).payload else none := by
      intro table among
      have read : packetPayload (tableBytes table) = Option.some (table.pid, (tablePacket table).payload) := by
        have known := some table among
        simp only [List.mem_cons, List.not_mem_nil, or_false] at known
        rcases known with rfl | rfl | rfl <;> decide +kernel
      rw [payloadOn, read]
      rfl
    clear some mine
    induction tables with
    | nil => rfl
    | cons table tables ih =>
      obtain ⟨here, others⟩ := List.forall_mem_cons.mp each
      rw [List.map_cons, List.filterMap_cons, here, List.filter_cons]
      by_cases same : table.pid = pid
      · rw [if_pos same, if_pos (decide_eq_true same), ih others]
        rfl
      · rw [if_neg same, if_neg (by simpa using same), ih others]
  · intro packet among
    obtain ⟨table, -, rfl⟩ := List.mem_map.mp among
    exact (plain_complete (List.cons_ne_nil _ _)).mpr ⟨rfl, table.bytes, rfl⟩

end WhRepeater.TsGatewayInspect
