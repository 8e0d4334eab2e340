import WhRepeater.ConfigMerges

/-! A configuration that was saved on the PC, and the part of it that the Pi has
(`daemon.cpp`, `gateway_status_client.cpp`, and the configuration routes of
`api_server.cpp`). A save that changes that part is pushed: the Pi's configuration
is fetched, or one of defaults is taken where that fails, and put with the part
in it. -/
namespace WhRepeater

open JsonParser (Fails parseValue Yields)

/-- `defaultConfig` (`config.cpp`), with the rates that are calculated, see `default_rates`. -/
def defaultConfig : RepeaterConfig where
  receivers := [
    { receiver := ⟨1⟩, targets := [
        { frequencyKhz := 10491500, symbolRateKs := 1500, localOscillatorKhz := 9750000, antenna := .top
          label := bytes "QO-100 beacon" },
        { frequencyKhz := 10499250, symbolRateKs := 333, localOscillatorKhz := 9750000, antenna := .top
          label := bytes "Wideband low SR" }] },
    { receiver := ⟨2⟩, targets := [
        { frequencyKhz := 10498750, symbolRateKs := 333, localOscillatorKhz := 9750000, antenna := .bottom
          label := bytes "Wideband low SR" }] },
    { receiver := ⟨3⟩ },
    { receiver := ⟨4⟩ }]
  pluto := { muxRateKbps := 333, videoBitrateKbps := 237 }

def piManagedProjection (config : RepeaterConfig) : RepeaterConfig :=
  { defaultConfig with
    mode := bytes "ts-gateway", statusInterval := config.statusInterval, minimumMerDb := config.minimumMerDb
    minimumDNumberDb := config.minimumDNumberDb, tsGateway := config.tsGateway, receivers := config.receivers }

def piManagedConfigChanged (printDouble : Rat → Bytes) (before after : RepeaterConfig) : Bool :=
  decide (configToJson printDouble (piManagedProjection before) ≠ configToJson printDouble (piManagedProjection after))

def mergePiManagedConfig (submitted piConfig : RepeaterConfig) : RepeaterConfig :=
  { piConfig with
    mode := bytes "ts-gateway", statusInterval := submitted.statusInterval, minimumMerDb := submitted.minimumMerDb
    minimumDNumberDb := submitted.minimumDNumberDb, tsGateway := submitted.tsGateway, receivers := submitted.receivers }

/-! ## The requests -/

structure HttpResponse where
  status : Int
  body : Bytes
  deriving DecidableEq

/-- What became of a fetch: an answer is taken as it ended, with the first bytes
of its body. -/
inductive Fetch where
  | failed
  | answered (received : Nat)
  deriving DecidableEq

/-- What became of a put. The Pi has the first bytes of the body where no answer
came back, and takes them for the whole. -/
inductive Put where
  | failed (received : Nat)
  | answered
  deriving DecidableEq

/-- `GET /api/config` of the Pi, as the PC gets it. -/
def getConfig (printDouble : Rat → Bytes) (pi : RepeaterConfig) : Fetch → Option HttpResponse
  | .failed => none
  | .answered received =>
    match configToJson printDouble pi with
    | .ok body => some ⟨200, body.take received⟩
    | .error _ => none

def fetchConfig (response : Option HttpResponse) : Option Bytes :=
  match response with
  | none => none
  | some response =>
    if response.status ≠ 200 then none
    else if response.body.head? ≠ some (code '{') then none
    else some response.body

/-- What the PC makes of the Pi's configuration. -/
def fetchedConfig (arithmetic : Arithmetic) (response : Option HttpResponse) : Option RepeaterConfig :=
  match fetchConfig response with
  | none => none
  | some body =>
    match configFromJson arithmetic body with
    | some (.ok config) => some config
    | _ => none

/-- `PUT /api/config` of the Pi. -/
def acceptConfig (arithmetic : Arithmetic) (pi : RepeaterConfig) (body : Bytes) : RepeaterConfig × HttpResponse :=
  match configFromJson arithmetic body with
  | some (.ok config) => (config, ⟨202, bytes "\x7b\"accepted\":true\x7d\n"⟩)
  | some (.error message) => (pi, ⟨400, bytes "\x7b\"error\":" ++ jsonString (bytes message) ++ bytes "\x7d\n"⟩)
  | none => (pi, ⟨400, []⟩)

def putConfig (response : Option HttpResponse) : Bool :=
  match response with
  | none => false
  | some response => response.status = 200 || response.status = 202

/-! ## A save -/

variable (arithmetic : Arithmetic) (printDouble : Rat → Bytes)

/-- The Pi's configuration after a push, and whether the push succeeded. -/
def pushConfig (next pi : RepeaterConfig) (fetch : Fetch) (put : Put) : Except String (RepeaterConfig × Bool) := do
  let fetched := fetchedConfig arithmetic (getConfig printDouble pi fetch)
  let body ← configToJson printDouble (mergePiManagedConfig next (fetched.getD (piManagedProjection next)))
  match put with
  | .failed received => return ((acceptConfig arithmetic pi (body.take received)).1, putConfig none)
  | .answered =>
    let (after, response) := acceptConfig arithmetic pi body
    return (after, putConfig (some response))

/-! ## Merged configurations -/

/-- A configuration of a process: its default, or one that was accepted. -/
def Loaded (config : RepeaterConfig) : Prop :=
  config = defaultConfig ∨ ∃ text, configFromJson arithmetic text = some (.ok config)

variable {arithmetic printDouble} {root : Json} {next pi base config : RepeaterConfig} {members : List (Bytes × Json)}

theorem jsonArray_written {message : String} {read : Json → Except String α} {write : α → Document} {layout : Layout}
    {values : List α} (each : ∀ value ∈ values, read (write value).json = .ok value) :
    jsonArray message read (Document.array layout (values.map write)).json = .ok values := by
  refine mapM_ok.mpr ?_
  induction values with
  | nil => exact .nil
  | cons value values ih =>
    rw [List.forall_mem_cons] at each
    exact .cons each.1 (ih each.2)

theorem read_target {receiver : ReceiverId} {target : ScanTarget} (wired : target.antenna = fixedAntennaForReceiver receiver)
    (fec : parseFec target.fec = .ok target.fec) :
    readTarget arithmetic receiver (targetJson target).json = .ok target := by
  obtain ⟨frequencyKhz, symbolRateKs, localOscillatorKhz, antenna, system, code, label⟩ := target
  have system_kept := (@kept_system printWhole True system).again trivial
  have antenna_kept := (@kept_antenna printWhole True antenna).again trivial
  unfold readTarget parseTarget
  simp only [bind_eq_ok, pure_eq_ok]
  refine ⟨⟨frequencyKhz, symbolRateKs, localOscillatorKhz, antenna, system, code, label⟩,
    ⟨frequencyKhz, ?_, symbolRateKs, ?_, localOscillatorKhz, ?_, antenna, antenna_kept, system, system_kept, code, fec,
      label, rfl, rfl⟩, by rw [← wired]⟩
  · exact (required_of_member rfl).trans (jsonUint32_decimal _ _)
  · exact (required_of_member rfl).trans (jsonUint32_decimal _ _)
  · exact (required_of_member rfl).trans (jsonUint32_decimal _ _)

theorem read_receiver {receiver : ReceiverConfig} (id : ¬ (receiver.receiver.value < 1 ∨ 4 < receiver.receiver.value))
    (times : receiver.dwellTime = 1500 ∧ receiver.hangTime = 5000)
    (targets : ∀ target ∈ receiver.targets, target.antenna = fixedAntennaForReceiver receiver.receiver ∧
      parseFec target.fec = .ok target.fec) :
    readReceiver arithmetic (receiverJson receiver).json = .ok receiver := by
  obtain ⟨⟨number⟩, enabled, list, dwellTime, hangTime⟩ := receiver
  obtain ⟨rfl, rfl⟩ := times
  unfold readReceiver
  simp only [bind_eq_ok]
  refine ⟨number, (required_of_member rfl).trans (jsonInt_decimal _ _), ?_⟩
  rw [if_neg id]
  simp only [bind_eq_ok, pure_eq_ok]
  refine ⟨enabled, rfl, 1500, bind_eq_ok.mpr ⟨1500, jsonInt_decimal 1500 _, rfl⟩, 5000,
    bind_eq_ok.mpr ⟨5000, jsonInt_decimal 5000 _, rfl⟩, list, (required_of_member rfl).trans ?_, rfl⟩
  exact jsonArray_written fun target among => read_target (targets target among).1 (targets target among).2

/-- The default configuration could have been read. -/
theorem default_read : ∃ root, readConfig arithmetic root = .ok defaultConfig := by
  have receivers : jsonArray "receivers must be an array" (readReceiver arithmetic)
      (Document.array (receiversLayout defaultConfig.receivers) (defaultConfig.receivers.map receiverJson)).json =
        .ok defaultConfig.receivers := by
    have each : ∀ receiver ∈ defaultConfig.receivers, ¬ (receiver.receiver.value < 1 ∨ 4 < receiver.receiver.value) ∧
        (receiver.dwellTime = 1500 ∧ receiver.hangTime = 5000) ∧
        ∀ target ∈ receiver.targets, target.antenna = fixedAntennaForReceiver receiver.receiver ∧
          parseFec target.fec = .ok target.fec := by decide
    refine jsonArray_written fun receiver among => ?_
    obtain ⟨id, times, targets⟩ := each receiver among
    exact read_receiver id times targets
  refine ⟨.object [(bytes "pluto", .object []), (bytes "receivers",
    (Document.array (receiversLayout defaultConfig.receivers) (defaultConfig.receivers.map receiverJson)).json)], ?_⟩
  unfold readConfig
  simp only [bind_eq_ok, pure_eq_ok]
  exact ⟨500, rfl, bytes "local-transcode", rfl, (2, 0), rfl, _, empty_pluto, {}, rfl, {}, rfl, {}, rfl, {}, rfl, {}, rfl,
    {}, rfl, {}, rfl, {}, rfl, {}, rfl, {}, rfl, _, (required_of_member rfl).trans receivers, rfl⟩

theorem Loaded.read (loaded : Loaded arithmetic config) : ∃ root, readConfig arithmetic root = .ok config := by
  rcases loaded with rfl | ⟨text, accepted⟩
  · exact default_read
  · obtain ⟨root, -, read⟩ := read_of_accepted accepted
    exact ⟨root, read⟩

/-- The members that the Pi has its part in, and what was there behind them. -/
def mergedMembers (next : RepeaterConfig) (members : List (Bytes × Json)) : List (Bytes × Json) :=
  (bytes "mode", .string (bytes "ts-gateway")) ::
  (bytes "statusIntervalMs", .number next.statusInterval) ::
  (bytes "selection", (selectionJson (next.minimumMerDb, next.minimumDNumberDb)).json) ::
  (bytes "tsGateway", (tsGatewayJson next.tsGateway).json) ::
  (bytes "receivers", (Document.array (receiversLayout next.receivers) (next.receivers.map receiverJson)).json) :: members

theorem read_merged (next_read : readConfig arithmetic root = .ok next)
    (read : readConfig arithmetic (.object members) = .ok base) :
    readConfig arithmetic (.object (mergedMembers next members)) = .ok (mergePiManagedConfig next base) := by
  simp only [readConfig, bind_eq_ok, pure_eq_ok] at next_read read ⊢
  obtain ⟨statusInterval, statusInterval_read, _, -, selection, selection_read, _, -, _, -, _, -, _, -, tsGateway,
    tsGateway_read, _, -, _, -, _, -, _, -, _, -, _, -, receivers, receivers_read, rfl⟩ := next_read
  obtain ⟨_, -, _, -, _, -, pluto, pluto_read, fallback, fallback_read, streaming, streaming_read, media, media_read,
    _, -, gatewayInput, gatewayInput_read, piStatus, piStatus_read, hardwarePtt, hardwarePtt_read, beaconSchedule,
    beaconSchedule_read, ident, ident_read, analogue, analogue_read, _, -, rfl⟩ := read
  have statusInterval_kept : Kept printWhole _ Document.decimal statusInterval True True :=
    kept_duration statusInterval_read rfl
  have tsGateway_kept : Kept printWhole (readTsGateway arithmetic) tsGatewayJson tsGateway _ True :=
    kept_section tsGateway_read (fun _ _ => kept_tsGateway) rfl fun _ absent => by cases absent
  have receivers_kept : Kept printWhole (jsonArray "receivers must be an array" (readReceiver arithmetic))
      (fun receivers => Document.array (receiversLayout receivers) (receivers.map receiverJson)) receivers
      (Within root "receivers" (EachItem ReceiverLegible)) True :=
    kept_required receivers_read fun _ read => kept_array read fun _ _ => kept_receiver
  exact ⟨statusInterval, statusInterval_kept.again trivial, bytes "ts-gateway", rfl, selection, rfl, pluto, pluto_read,
    fallback, fallback_read, streaming, streaming_read, media, media_read, tsGateway, tsGateway_kept.again trivial,
    gatewayInput, gatewayInput_read, piStatus, piStatus_read, hardwarePtt, hardwarePtt_read, beaconSchedule,
    beaconSchedule_read, ident, ident_read, analogue, analogue_read, receivers, receivers_kept.again trivial, rfl⟩

/-- The part of a configuration that the Pi does not take from the PC. -/
def otherFields (config : RepeaterConfig) : RepeaterConfig :=
  { config with
    mode := [], statusInterval := 0, minimumMerDb := 0, minimumDNumberDb := 0, tsGateway := {}, receivers := [] }

/-- The Pi's part of a configuration can be sent: the reader takes its text. -/
def Sendable (arithmetic : Arithmetic) (printDouble : Rat → Bytes) (config : RepeaterConfig) : Prop :=
  ∃ text read, configToJson printDouble (piManagedProjection config) = .ok text ∧
    configFromJson arithmetic text = some (.ok read)

/-- What the default transmitter is read from. -/
def plainMembers : List (Bytes × Json) := [(bytes "pluto", .object []), (bytes "receivers", .array [])]

theorem read_plain : readConfig arithmetic (.object plainMembers) = .ok { defaultConfig with receivers := [] } := rfl

theorem read_projection (next_read : readConfig arithmetic root = .ok next) :
    readConfig arithmetic (.object (mergedMembers next plainMembers)) = .ok (piManagedProjection next) := by
  have merged := read_merged next_read (@read_plain arithmetic)
  exact merged

theorem legible_plain : ConfigLegible (.object plainMembers) := by
  constructor
  case pluto =>
    rintro pluto ⟨⟩
    exact fun _ _ => nofun
  case receivers =>
    rintro receivers ⟨⟩ items ⟨⟩
    exact nofun
  all_goals rintro section_ ⟨⟩

/-- A fetched configuration is what the text was cut from. -/
theorem fetched_reads (prints : Prints printDouble) (pi_read : readConfig arithmetic root = .ok pi) {fetch : Fetch}
    {fetched : RepeaterConfig} (found : fetchedConfig arithmetic (getConfig printDouble pi fetch) = some fetched) :
    ∃ text part, configToJson printDouble pi = .ok text ∧ JsonParser.parse text = some (.ok part) ∧
      readConfig arithmetic part = .ok fetched ∧ LegibleJson part ∧ ConfigLasting arithmetic part := by
  cases fetch with
  | failed => cases found
  | answered received =>
    cases written : configToJson printDouble pi with
    | error message => simp [getConfig, written, fetchedConfig, fetchConfig] at found
    | ok text =>
      simp only [getConfig, written, fetchedConfig, fetchConfig, ne_eq, not_true, if_false] at found
      by_cases brace : (text.take received).head? = some (code '{')
      · rw [if_neg (not_not.mpr brace)] at found
        cases outcome : configFromJson arithmetic (text.take received) with
        | none => simp [outcome] at found
        | some result =>
          cases result with
          | error message => simp [outcome] at found
          | ok config =>
            simp only [outcome, Option.some.injEq] at found
            subst found
            obtain ⟨part, cut, read⟩ := read_of_accepted outcome
            obtain ⟨-, parsed, legible, lasts⟩ := cut_of_config pi_read prints written cut
            exact ⟨text, part, rfl, parsed, read, legible, lasts⟩
      · rw [if_pos brace] at found
        cases found

/-- What a configuration is merged into, fetched or not. -/
theorem base_reads (prints : Prints printDouble) (pi_read : readConfig arithmetic root = .ok pi) (next : RepeaterConfig)
    (fetch : Fetch) :
    ∃ members base, readConfig arithmetic (.object members) = .ok base ∧ ConfigLegible (.object members) ∧
      ConfigLasting arithmetic (.object members) ∧
      mergePiManagedConfig next ((fetchedConfig arithmetic (getConfig printDouble pi fetch)).getD (piManagedProjection next)) =
        mergePiManagedConfig next base ∧
      otherFields base =
        otherFields ((fetchedConfig arithmetic (getConfig printDouble pi fetch)).getD defaultConfig) := by
  cases found : fetchedConfig arithmetic (getConfig printDouble pi fetch) with
  | none => exact ⟨plainMembers, _, read_plain, legible_plain, ⟨rfl, nofun⟩, rfl, rfl⟩
  | some fetched =>
    obtain ⟨-, part, -, -, read, legible, lasts⟩ := fetched_reads prints pi_read found
    obtain ⟨members, rfl⟩ := rootMembers_of_config read
    exact ⟨members, fetched, read, legible.legible, lasts, rfl, rfl⟩

/-- The text of a merged configuration can be read exactly if the Pi's part can. -/
theorem readable_merged (next_read : readConfig arithmetic root = .ok next)
    (legible : ConfigLegible (.object members)) (prints : Prints printDouble) :
    Readable printDouble (.object (mergedMembers next members)) (mergePiManagedConfig next base) ↔
      Sendable arithmetic printDouble next := by
  have projection := read_projection next_read
  constructor
  · rintro ⟨⟨kept, exact, mer, dNumber⟩, merged⟩
    have readable : Readable printDouble (.object (mergedMembers next plainMembers)) (piManagedProjection next) := by
      refine ⟨⟨kept, exact, mer, dNumber⟩, ?_⟩
      exact { legible_plain with tsGateway := merged.tsGateway, receivers := merged.receivers }
    obtain ⟨tail, written, reads, -⟩ := text_of_config projection prints
    obtain ⟨kept, -, -, -, -, -, loads⟩ := reads readable
    exact ⟨_, _, written, loads ⟨rfl, nofun⟩⟩
  · rintro ⟨text, read, written, accepted⟩
    obtain ⟨part, parsed, -⟩ := read_of_accepted accepted
    have whole : JsonParser.parse (text.take text.length) = some (.ok part) := by rwa [List.take_length]
    obtain ⟨⟨⟨kept, exact, mer, dNumber⟩, sent⟩, -⟩ := cut_of_config projection prints written whole
    refine ⟨⟨kept, exact, mer, dNumber⟩, ?_⟩
    exact { legible with tsGateway := sent.tsGateway, receivers := sent.receivers }

/-- What is put, and what is read of its first bytes. -/
theorem put_reads (prints : Prints printDouble) (next_read : readConfig arithmetic root = .ok next) {piRoot : Json}
    (pi_read : readConfig arithmetic piRoot = .ok pi) (fetch : Fetch) :
    ∃ text base, configToJson printDouble (mergePiManagedConfig next
        ((fetchedConfig arithmetic (getConfig printDouble pi fetch)).getD (piManagedProjection next))) = .ok text ∧
      otherFields base =
        otherFields ((fetchedConfig arithmetic (getConfig printDouble pi fetch)).getD defaultConfig) ∧
      (∀ received after, configFromJson arithmetic (text.take received) = some (.ok after) →
        ∃ kept, Written printDouble next kept ∧ after = withThresholds kept (mergePiManagedConfig next base)) ∧
      (Sendable arithmetic printDouble next → ∃ after, configFromJson arithmetic text = some (.ok after)) := by
  obtain ⟨members, base, base_read, legible, lasts, same, others⟩ := base_reads prints pi_read next fetch
  have read := read_merged next_read base_read
  have merged_lasts : ConfigLasting arithmetic (.object (mergedMembers next members)) := ⟨lasts.pluto, lasts.slide⟩
  obtain ⟨tail, written, reads, -⟩ := text_of_config read prints
  rw [same]
  refine ⟨_, base, written, others, fun received after accepted => ?_, fun sendable => ?_⟩
  · obtain ⟨part, cut, part_read⟩ := read_of_accepted accepted
    obtain ⟨readable, parsed, -⟩ := cut_of_config read prints written cut
    obtain ⟨kept, -, -, kept_written, -, -, loads⟩ := reads readable
    have loaded := (configFromJson_of_parse parsed).symm.trans (loads merged_lasts)
    cases part_read.symm.trans (Option.some.inj loaded)
    exact ⟨kept, ⟨kept_written.exact, kept_written.minimumMerDb, kept_written.minimumDNumberDb⟩, rfl⟩
  · obtain ⟨kept, -, -, -, -, -, loads⟩ := reads ((readable_merged next_read legible prints).mpr sendable)
    exact ⟨_, loads merged_lasts⟩

/-! ## A push -/

theorem acceptConfig_cases (arithmetic : Arithmetic) (pi : RepeaterConfig) (body : Bytes) :
    ((acceptConfig arithmetic pi body).1 = pi ∧ putConfig (some (acceptConfig arithmetic pi body).2) = false ∧
        ∀ config, configFromJson arithmetic body ≠ some (.ok config)) ∨
      ∃ config, configFromJson arithmetic body = some (.ok config) ∧ (acceptConfig arithmetic pi body).1 = config ∧
        putConfig (some (acceptConfig arithmetic pi body).2) = true := by
  unfold acceptConfig
  rcases configFromJson arithmetic body with _ | message | config
  · refine .inl ⟨rfl, rfl, fun _ same => ?_⟩
    cases same
  · refine .inl ⟨rfl, rfl, fun _ same => ?_⟩
    cases Option.some.inj same
  · exact .inr ⟨config, rfl, rfl, rfl⟩

/-- The Pi keeps its configuration, or takes the merged one. A push that is
answered succeeds if the Pi's part can be sent. -/
theorem push_cases (prints : Prints printDouble) (next_read : readConfig arithmetic root = .ok next)
    (loaded : Loaded arithmetic pi) (fetch : Fetch) (put : Put) :
    ∃ after succeeded, pushConfig arithmetic printDouble next pi fetch put = .ok (after, succeeded) ∧
      Loaded arithmetic after ∧
      ((after = pi ∧ succeeded = false) ∨
        ∃ base kept, otherFields base =
            otherFields ((fetchedConfig arithmetic (getConfig printDouble pi fetch)).getD defaultConfig) ∧
          Written printDouble next kept ∧ after = withThresholds kept (mergePiManagedConfig next base)) ∧
      (put = .answered → Sendable arithmetic printDouble next → succeeded = true) := by
  obtain ⟨piRoot, pi_read⟩ := loaded.read
  obtain ⟨text, base, written, others, reads, sent⟩ := put_reads prints next_read pi_read fetch
  have accepts : ∀ received, ((acceptConfig arithmetic pi (text.take received)).1 = pi ∧
      putConfig (some (acceptConfig arithmetic pi (text.take received)).2) = false) ∨
        ∃ after kept, configFromJson arithmetic (text.take received) = some (.ok after) ∧
          (acceptConfig arithmetic pi (text.take received)).1 = after ∧ Written printDouble next kept ∧
          after = withThresholds kept (mergePiManagedConfig next base) := by
    intro received
    obtain ⟨same, failed, -⟩ | ⟨after, accepted, same, -⟩ := acceptConfig_cases arithmetic pi (text.take received)
    · exact .inl ⟨same, failed⟩
    · obtain ⟨kept, thresholds, merged⟩ := reads received after accepted
      exact .inr ⟨after, kept, accepted, same, thresholds, merged⟩
  simp only [pushConfig, written, ok_bind]
  cases put with
  | failed received =>
    refine ⟨_, _, rfl, ?_, ?_, nofun⟩
    · obtain ⟨same, -⟩ | ⟨after, -, accepted, same, -⟩ := accepts received
      · rw [same]
        exact loaded
      · rw [same]
        exact .inr ⟨_, accepted⟩
    · obtain ⟨same, -⟩ | ⟨after, kept, -, same, thresholds, merged⟩ := accepts received
      · exact .inl ⟨same, rfl⟩
      · exact .inr ⟨base, kept, others, thresholds, same.trans merged⟩
  | answered =>
    have whole := accepts text.length
    rw [List.take_length] at whole
    refine ⟨_, _, rfl, ?_, ?_, fun _ sendable => ?_⟩
    · obtain ⟨same, -⟩ | ⟨after, -, accepted, same, -⟩ := whole
      · rw [same]
        exact loaded
      · rw [same]
        exact .inr ⟨_, accepted⟩
    · obtain ⟨same, failed⟩ | ⟨after, kept, -, same, thresholds, merged⟩ := whole
      · exact .inl ⟨same, failed⟩
      · exact .inr ⟨base, kept, others, thresholds, same.trans merged⟩
    · obtain ⟨after, accepted⟩ := sent sendable
      obtain ⟨-, -, never⟩ | ⟨config, -, -, succeeded⟩ := acceptConfig_cases arithmetic pi text
      · exact absurd accepted (never after)
      · exact succeeded

theorem fetched_of_reloads (prints : Prints printDouble) (loaded : Loaded arithmetic pi)
    (reloads : Reloads arithmetic printDouble pi) (fetch : Fetch) :
    (∀ fetched, fetchedConfig arithmetic (getConfig printDouble pi fetch) = some fetched → fetched = pi) ∧
      ∀ text received, configToJson printDouble pi = .ok text → text.length ≤ received → fetch = .answered received →
        fetchedConfig arithmetic (getConfig printDouble pi fetch) = some pi := by
  obtain ⟨text, written, again⟩ := reloads
  obtain ⟨root, pi_read⟩ := loaded.read
  constructor
  · intro fetched found
    obtain ⟨same, part, again_written, parsed, read, -⟩ := fetched_reads prints pi_read found
    cases written.symm.trans again_written
    rw [configFromJson_of_parse parsed, ok_bind, read] at again
    cases again
    rfl
  · rintro same received again_written enough rfl
    cases written.symm.trans again_written
    obtain ⟨tail, begins, -⟩ := text_of_config pi_read prints
    cases written.symm.trans begins
    simp [getConfig, written, fetchedConfig, fetchConfig, List.take_of_length_le enough, again]

/-- A push that succeeds leaves the Pi all but its own part as it was fetched, or
at the defaults where nothing was. What was fetched is the Pi's configuration as
far as that lasts through its text. -/
theorem push_keeps_fetched (prints : Prints printDouble) {fetch : Fetch} {put : Put} {after : RepeaterConfig}
    (accepted : ∃ text, configFromJson arithmetic text = some (.ok next)) (loaded : Loaded arithmetic pi)
    (pushed : pushConfig arithmetic printDouble next pi fetch put = .ok (after, true)) :
    otherFields after = otherFields ((fetchedConfig arithmetic (getConfig printDouble pi fetch)).getD defaultConfig) ∧
      (Reloads arithmetic printDouble pi →
        (∀ fetched, fetchedConfig arithmetic (getConfig printDouble pi fetch) = some fetched → fetched = pi) ∧
          ∀ text received, configToJson printDouble pi = .ok text → text.length ≤ received → fetch = .answered received →
            fetchedConfig arithmetic (getConfig printDouble pi fetch) = some pi) := by
  obtain ⟨text, accepted⟩ := accepted
  obtain ⟨root, -, next_read⟩ := read_of_accepted accepted
  refine ⟨?_, fun reloads => fetched_of_reloads prints loaded reloads fetch⟩
  obtain ⟨same, succeeded, result, -, cases, -⟩ := push_cases prints next_read loaded fetch put
  cases pushed.symm.trans result
  obtain ⟨-, never⟩ | ⟨base, kept, others, -, rfl⟩ := cases
  · cases never
  · exact others

/-! ## A push without a fetch -/

/-- Small integers in full, all else with an exponent. -/
def printShort (value : Rat) : Bytes := if |value.num| < 1000000 then printInt value.num else bytes "1e+06"

theorem prints_short : Prints printShort := by
  have ends : JsonParser.Delimited (bytes "e+06") := by
    rintro next ⟨⟩
    decide
  intro value
  by_cases small : |value.num| < 1000000
  · right
    have exact := @JsonParser.yields_printInt [] value.num (by omega) (by rintro next ⟨⟩)
    refine ⟨value.num, ?_, by unfold printShort; rw [Rat.num_intCast]⟩
    rwa [printShort, if_pos small, ← List.append_nil (printInt value.num)]
  · left
    refine ⟨.number (1 : Int), bytes "+06", ?_⟩
    have one : printInt 1 = [49] := by simp [printInt, printNat]
    have yields := @JsonParser.yields_printInt (bytes "e+06") 1 (by decide) ends
    rw [one] at yields
    rwa [printShort, if_neg small]

theorem sendable_of_quiet (next_read : readConfig arithmetic root = .ok next) (thresholds : ∃ kept, Written printDouble next kept)
    (address : JsonParser.Legible next.tsGateway.address) (receivers : next.receivers = []) (prints : Prints printDouble) :
    Sendable arithmetic printDouble next := by
  obtain ⟨kept, exact, mer, dNumber⟩ := thresholds
  have readable : Readable printDouble (.object (mergedMembers next plainMembers)) (mergePiManagedConfig next defaultConfig) := by
    refine ⟨⟨kept, exact, mer, dNumber⟩, { legible_plain with tsGateway := ?_, receivers := ?_ }⟩
    · rintro tsGateway ⟨⟩ written ⟨⟩ text ⟨⟩
      exact address
    · rintro written ⟨⟩ items same
      rw [receivers] at same
      cases same
      exact nofun
  exact (readable_merged next_read legible_plain prints).mp readable

/-- A Pi with a callsign of its own. -/
def stationText : Bytes := bytes "\x7b\"pluto\":\x7b\"callsign\":\"G0ABC\"\x7d,\"receivers\":[]\x7d"

def station : RepeaterConfig := { pluto := { callsign := bytes "G0ABC", muxRateKbps := 333, videoBitrateKbps := 237 } }

theorem station_accepted : configFromJson arithmetic stationText = some (.ok station) := rfl

/-- A save on the PC that sends its datagrams elsewhere. -/
def movedText : Bytes :=
  bytes "\x7b\"pluto\":\x7b\x7d,\"tsGateway\":\x7b\"address\":\"10.0.0.2\"\x7d,\"receivers\":[]\x7d"

def moved : RepeaterConfig :=
  { pluto := { muxRateKbps := 333, videoBitrateKbps := 237 }, tsGateway := { address := bytes "10.0.0.2" } }

theorem moved_accepted : configFromJson arithmetic movedText = some (.ok moved) := rfl

theorem short_thresholds {config : RepeaterConfig} (mer : config.minimumMerDb = 2) (dNumber : config.minimumDNumberDb = 0) :
    ∃ kept, Written printShort config kept := by
  have ends : JsonParser.Delimited [] := by rintro next ⟨⟩
  refine ⟨(2, 0), ?_, by rw [mer], by rw [dNumber]⟩
  intro threshold among
  simp only [List.mem_cons, List.not_mem_nil, or_false] at among
  rcases among with rfl | rfl
  · simpa [printShort] using @JsonParser.yields_printInt [] 2 (by decide) ends
  · simpa [printShort] using @JsonParser.yields_printInt [] 0 (by decide) ends

theorem moved_sendable : Sendable arithmetic printShort moved := by
  obtain ⟨root, -, read⟩ := read_of_accepted (@moved_accepted arithmetic)
  exact sendable_of_quiet read (short_thresholds rfl rfl) rfl rfl prints_short

theorem moved_pushed (fetch : Fetch) :
    ∃ after, pushConfig arithmetic printShort moved station fetch .answered = .ok (after, true) := by
  obtain ⟨root, -, read⟩ := read_of_accepted (@moved_accepted arithmetic)
  obtain ⟨after, succeeded, pushed, -, -, answered⟩ :=
    push_cases prints_short read (.inr ⟨stationText, station_accepted⟩) fetch .answered
  rw [answered rfl moved_sendable] at pushed
  exact ⟨after, pushed⟩

theorem station_kept : ∃ after,
    pushConfig wrapping printShort moved station (.answered 4096) .answered = .ok (after, true) ∧
      otherFields after = otherFields ((fetchedConfig wrapping (getConfig printShort station (.answered 4096))).getD defaultConfig) := by
  obtain ⟨after, pushed⟩ := @moved_pushed wrapping (.answered 4096)
  exact ⟨after, pushed, (push_keeps_fetched prints_short ⟨movedText, moved_accepted⟩
    (.inr ⟨stationText, station_accepted⟩) pushed).1⟩

/-- The Pi is reached only once its configuration could not be fetched, and has
the callsign of the defaults from then on. -/
theorem station_overwritten :
    ¬ ∀ (arithmetic : Arithmetic) (printDouble : Rat → Bytes) (next pi after : RepeaterConfig) (fetch : Fetch) (put : Put),
      Prints printDouble → (∃ text, configFromJson arithmetic text = some (.ok next)) → Loaded arithmetic pi →
      pushConfig arithmetic printDouble next pi fetch put = .ok (after, true) → otherFields after = otherFields pi := by
  intro always
  obtain ⟨after, pushed⟩ := @moved_pushed wrapping .failed
  have accepted : ∃ text, configFromJson wrapping text = some (.ok moved) := ⟨movedText, moved_accepted⟩
  have loaded : Loaded wrapping station := .inr ⟨stationText, station_accepted⟩
  have kept := always wrapping printShort moved station after .failed .answered prints_short accepted loaded pushed
  obtain ⟨root, -, read⟩ := read_of_accepted (@moved_accepted wrapping)
  obtain ⟨same, succeeded, result, -, ⟨-, never⟩ | ⟨base, thresholds, others, -, rfl⟩, -⟩ :=
    push_cases prints_short read loaded .failed .answered
  · cases pushed.symm.trans result
    cases never
  · cases pushed.symm.trans result
    have callsign := congrArg (·.pluto.callsign) (others.symm.trans kept)
    exact absurd callsign (by decide)

end WhRepeater
