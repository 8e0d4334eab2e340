import WhRepeater.ApiSurvival
import WhRepeater.PiConvergence
import WhRepeater.Runs

/-! How a configuration gets from the API thread to the loop (`PUT /api/config`,
and the reload of `Daemon::runPiGatewayOrLocal` and `Daemon::runPcGateway`). The
two threads meet at a lock that the server takes for one access at a time, so
further requests may come in between any two steps of a reload. -/
namespace WhRepeater

namespace ApiServer

def updateConfig (server : ApiServer) (config : RepeaterConfig) : ApiServer := { server with repeaterConfig := config }

def takePendingConfig (server : ApiServer) : Option RepeaterConfig × ApiServer :=
  (server.pendingConfig, { server with pendingConfig := none })

end ApiServer

/-- Where the loop is in a reload, and the configuration it has in hand. -/
inductive ReloadPoint where
  | between
  | taken (next : RepeaterConfig)
  | pushed (next : RepeaterConfig)
  | shown (next : RepeaterConfig)
  | saved (next : RepeaterConfig)
  | applied

namespace ReloadPoint

def inHand : ReloadPoint → Option RepeaterConfig
  | taken next | pushed next | shown next | saved next => some next
  | between | applied => none

/-- What is in the file but not in use yet. -/
def ahead : ReloadPoint → Option RepeaterConfig
  | saved next => some next
  | _ => none

/-- The server was told of what is in hand. -/
def Told : ReloadPoint → Prop
  | taken _ | pushed _ => False
  | _ => True

/-- The steps that are left of the reload. -/
def stepsLeft : ReloadPoint → Nat
  | taken _ => 5
  | pushed _ => 4
  | shown _ => 3
  | saved _ => 2
  | applied => 1
  | between => 0

end ReloadPoint

/-- The daemon, its server and its file. The PC's loop pushes to a Pi too. -/
structure ConfigHandoff where
  pcGateway : Bool
  configPath : Bytes
  api : ApiServer
  config : RepeaterConfig
  file : Bytes
  pi : RepeaterConfig
  point : ReloadPoint := .between

namespace ConfigHandoff

/-- A request of a client, or the next step of the loop, with what became of a
push in it. Files can be written. -/
inductive Event where
  | put (request : Bytes)
  | loop (fetch : Fetch) (put : Put)

def start (pcGateway : Bool) (configPath : Bytes) (config : RepeaterConfig) (file : Bytes) (pi : RepeaterConfig) :
    ConfigHandoff :=
  { pcGateway, configPath, api := ApiServer.updateConfig {} config, config, file, pi }

variable (arithmetic : Arithmetic) (printDouble : Rat → Bytes)

/-- The loop up to its next access to what it shares. -/
def advance (handoff : ConfigHandoff) (fetch : Fetch) (put : Put) : Except String ConfigHandoff :=
  match handoff.point with
  | .between =>
    match handoff.api.takePendingConfig with
    | (none, api) => return { handoff with api }
    | (some next, api) => return { handoff with api, point := .taken next }
  | .taken next =>
    if handoff.pcGateway then do
      let sides ← reload arithmetic printDouble ⟨handoff.config, handoff.pi⟩ ⟨next, fetch, put⟩
      return { handoff with pi := sides.pi, point := .pushed next }
    else return { handoff with point := .pushed next }
  | .pushed next => return { handoff with api := handoff.api.updateConfig next, point := .shown next }
  | .shown next =>
    if handoff.configPath = [] then return { handoff with point := .saved next }
    else return { handoff with file := ← configToJson printDouble next, point := .saved next }
  | .saved next => return { handoff with config := next, point := .applied }
  | .applied => return { handoff with api := handoff.api.updateConfig handoff.config, point := .between }

/-- An exception ends the daemon. -/
def step (handoff : ConfigHandoff) : Event → Option ConfigHandoff
  | .put request => (handoff.api.putConfig arithmetic request).toOption.map fun (api, _) => { handoff with api }
  | .loop fetch put => (handoff.advance arithmetic printDouble fetch put).toOption

/-! ## What is handed over -/

/-- The configuration of a request that is accepted. -/
def submitted (request : Bytes) : Option RepeaterConfig :=
  match ApiServer.requestBody request with
  | .ok (some body) =>
    match configFromJson arithmetic body with
    | some (.ok config) => some config
    | _ => none
  | _ => none

/-- What was accepted, in order, and which of it is pending, was taken, and was
put to use. -/
structure Log where
  accepted : List RepeaterConfig := []
  pending : Option Nat := none
  taken : List Nat := []
  applied : List Nat := []

def Log.record (log : Log) (handoff : ConfigHandoff) : Event → Log
  | .put request =>
    match submitted arithmetic request with
    | none => log
    | some config => { log with accepted := log.accepted ++ [config], pending := some log.accepted.length }
  | .loop _ _ =>
    match handoff.point with
    | .between => { log with pending := none, taken := log.taken ++ log.pending.toList }
    | .saved _ => { log with applied := log.applied ++ log.taken.getLast?.toList }
    | _ => log

/-- A step with the log of it. -/
def logged (state : ConfigHandoff × Log) (event : Event) : Option (ConfigHandoff × Log) :=
  (state.1.step arithmetic printDouble event).map fun next => (next, state.2.record arithmetic state.1 event)

/-! ## What a run keeps -/

/-- The accepted configuration of that number. -/
def Log.config (log : Log) (number : Nat) : Option RepeaterConfig := log.accepted[number]?

/-- The numbers in the order in which they come to be used, the pending one last. -/
def Log.numbers (log : Log) : List Nat := log.taken ++ log.pending.toList

/-- No number is used before an earlier one, and the last one that was accepted
is the last to be used. -/
structure Ordered (log : Log) : Prop where
  ascending : log.numbers.Pairwise (· < ·)
  known : ∀ number ∈ log.numbers, number < log.accepted.length
  newest : log.accepted ≠ [] → log.numbers.getLast? = some (log.accepted.length - 1)

/-- What has been taken is in use or in hand. -/
inductive InHand (point : ReloadPoint) (log : Log) : Prop where
  | nothing (empty : point.inHand = none) (applied : log.taken = log.applied)
  | holds (number : Nat) (next : RepeaterConfig) (held : point.inHand = some next)
      (taken : log.taken = log.applied ++ [number]) (same : log.config number = some next)

/-- The two copies and the file follow the log. -/
structure Follows (first handoff : ConfigHandoff) (log : Log) : Prop where
  pending : handoff.api.pendingConfig = log.pending.bind log.config
  inHand : InHand handoff.point log
  config : handoff.config = (log.applied.getLast?.bind log.config).getD first.config
  told : log.pending = none → handoff.point.Told → handoff.api.repeaterConfig = handoff.point.inHand.getD handoff.config
  stored : handoff.configPath ≠ [] → log.applied ≠ [] ∨ handoff.point.ahead.isSome →
    configToJson printDouble (handoff.point.ahead.getD handoff.config) = .ok handoff.file
  unstored : handoff.configPath = [] ∨ log.applied = [] ∧ handoff.point.ahead = none → handoff.file = first.file
  configPath : handoff.configPath = first.configPath

/-- Whatever was accepted was read, so that it can be written, and so was the
configuration of the Pi. -/
structure Read (handoff : ConfigHandoff) (log : Log) : Prop where
  accepted : ∀ config ∈ log.accepted, ∃ text, configFromJson arithmetic text = some (.ok config)
  pi : Loaded arithmetic handoff.pi

variable {arithmetic printDouble} {first handoff : ConfigHandoff} {log : Log} {request : Bytes} {config : RepeaterConfig}

theorem putConfig_submitted (server : ApiServer) (request : Bytes) :
    ∃ after response, server.putConfig arithmetic request = .ok (after, response) ∧
      match submitted arithmetic request with
      | none => after = server ∧ response.rejects
      | some config => after = { server with pendingConfig := some config, repeaterConfig := config } := by
  obtain ⟨body, read⟩ := ApiServer.completes_requestBody request
  unfold ApiServer.putConfig submitted
  rw [read]
  have rejects : ∀ message : String, (ApiServer.badRequest message).rejects :=
    fun _ => ⟨Nat.le_refl 400, Nat.lt_of_sub_pos (by simp [ApiServer.badRequest])⟩
  cases body with
  | none => exact ⟨_, _, rfl, rfl, rejects _⟩
  | some body =>
    dsimp only
    rcases parsed : configFromJson arithmetic body with _ | message | config
    · refine ⟨server, ApiServer.badRequest "", ?_, rfl, rejects _⟩
      simp only [bind, Except.bind, parsed]
      rfl
    · refine ⟨server, ApiServer.badRequest message, ?_, rfl, rejects _⟩
      simp only [bind, Except.bind, parsed]
      rfl
    · refine ⟨{ server with pendingConfig := some config, repeaterConfig := config }, ApiServer.accepted [], ?_, rfl⟩
      simp only [bind, Except.bind, parsed]
      rfl

theorem submitted_read (accepted : submitted arithmetic request = some config) :
    ∃ text, configFromJson arithmetic text = some (.ok config) := by
  unfold submitted at accepted
  split at accepted
  · split at accepted
    · rename_i body _ _ _ read
      obtain rfl := Option.some.inj accepted
      exact ⟨body, read⟩
    · cases accepted
  · cases accepted

/-! ## A request -/

theorem config_append {number : Nat} (known : number < log.accepted.length) :
    ({ log with accepted := log.accepted ++ [config] } : Log).config number = log.config number :=
  List.getElem?_append_left known

theorem ordered_put (ordered : Ordered log) (config : RepeaterConfig) :
    Ordered { log with accepted := log.accepted ++ [config], pending := some log.accepted.length } := by
  have earlier : ∀ number ∈ log.taken, number < log.accepted.length := fun number among =>
    ordered.known number (List.mem_append_left _ among)
  refine ⟨?_, fun number among => ?_, fun _ => ?_⟩
  · have ascending := (List.pairwise_append.mp ordered.ascending).1
    refine List.pairwise_append.mpr ⟨ascending, List.pairwise_singleton _ _, fun number among last is => ?_⟩
    obtain rfl := List.mem_singleton.mp is
    exact earlier number among
  · rw [List.length_append, List.length_singleton]
    rcases List.mem_append.mp among with before | is
    · exact Nat.lt_succ_of_lt (earlier number before)
    · obtain rfl := List.mem_singleton.mp is
      exact Nat.lt_succ_self _
  · simp [Log.numbers]

/-- The last of some numbers that are known names what it named before. -/
theorem last_append {numbers : List Nat} (known : ∀ number ∈ numbers, number < log.accepted.length) (config : RepeaterConfig) :
    numbers.getLast?.bind ({ log with accepted := log.accepted ++ [config] } : Log).config =
      numbers.getLast?.bind log.config := by
  cases last : numbers.getLast? with
  | none => rfl
  | some number => exact config_append (known number (List.mem_of_getLast? last))

theorem follows_put (ordered : Ordered log) (follows : Follows printDouble first handoff log) (config : RepeaterConfig) :
    Follows printDouble first { handoff with api := { handoff.api with pendingConfig := some config, repeaterConfig := config } }
      { log with accepted := log.accepted ++ [config], pending := some log.accepted.length } := by
  have taken : ∀ number ∈ log.taken, number < log.accepted.length := fun number among =>
    ordered.known number (List.mem_append_left _ among)
  have applied : ∀ number ∈ log.applied, number < log.accepted.length := fun number among => by
    rcases follows.inHand with ⟨-, same⟩ | ⟨next, -, -, same, -⟩
    · exact taken number (same ▸ among)
    · exact taken number (same ▸ List.mem_append_left _ among)
  refine ⟨?_, ?_, ?_, nofun, follows.stored, follows.unstored, follows.configPath⟩
  · exact (List.getElem?_concat_length).symm
  · rcases follows.inHand with ⟨empty, same⟩ | ⟨number, next, held, same, named⟩
    · exact .nothing empty same
    · refine .holds number next held same ?_
      exact (config_append (taken number (same ▸ List.mem_append_right _ (List.mem_singleton_self _)))).trans named
  · exact follows.config.trans (congrArg (·.getD first.config) (last_append applied config).symm)

/-! ## A step of the loop -/

/-- What is kept from the start on. -/
structure Kept (arithmetic : Arithmetic) (printDouble : Rat → Bytes) (first handoff : ConfigHandoff) (log : Log) : Prop where
  ordered : Ordered log
  follows : Follows printDouble first handoff log
  read : Read arithmetic handoff log

theorem InHand.read {point : ReloadPoint} {next : RepeaterConfig} (inHand : InHand point log) (held : point.inHand = some next)
    (read : Read arithmetic handoff log) : ∃ text, configFromJson arithmetic text = some (.ok next) := by
  rcases inHand with ⟨empty, -⟩ | ⟨number, same, there, -, named⟩
  · cases empty.symm.trans held
  · cases there.symm.trans held
    exact read.accepted _ (List.mem_of_getElem? named)

/-- What is in hand goes on to the next point. -/
theorem InHand.on {point later : ReloadPoint} (inHand : InHand point log) (same : later.inHand = point.inHand) :
    InHand later log := by
  rcases inHand with ⟨empty, applied⟩ | ⟨number, next, held, taken, named⟩
  · exact .nothing (same.trans empty) applied
  · exact .holds number next (same.trans held) taken named

theorem ordered_take (ordered : Ordered log) : Ordered { log with pending := none, taken := log.taken ++ log.pending.toList } := by
  have numbers : ({ log with pending := none, taken := log.taken ++ log.pending.toList } : Log).numbers = log.numbers :=
    List.append_nil _
  exact ⟨numbers ▸ ordered.ascending, numbers ▸ ordered.known, numbers ▸ ordered.newest⟩

theorem Follows.absent (follows : Follows printDouble first handoff log) (ordered : Ordered log)
    (found : handoff.api.pendingConfig = none) : log.pending = none := by
  cases numbered : log.pending with
  | none => rfl
  | some number =>
    have known := ordered.known number (by simp [Log.numbers, numbered])
    have pending := follows.pending
    rw [found, numbered] at pending
    exact absurd pending.symm (by simp [Log.config, known])

/-- The loop looks for a pending configuration. -/
theorem kept_take (kept : Kept arithmetic printDouble first handoff log) (here : handoff.point = .between) (fetch : Fetch)
    (put : Put) :
    ∃ next, handoff.advance arithmetic printDouble fetch put = .ok next ∧
      Kept arithmetic printDouble first next (log.record arithmetic handoff (.loop fetch put)) := by
  obtain ⟨ordered, follows, read⟩ := kept
  have idle : log.taken = log.applied := by
    rcases follows.inHand with ⟨-, same⟩ | ⟨_, _, held, -, -⟩
    · exact same
    · rw [here] at held
      cases held
  have told := follows.told
  have stored := follows.stored
  have unstored := follows.unstored
  rw [here] at told stored unstored
  have pending := follows.pending
  unfold advance Log.record ApiServer.takePendingConfig
  rw [here]
  dsimp only
  cases found : handoff.api.pendingConfig with
  | none =>
    have absent := follows.absent ordered found
    have same : ({ log with pending := none, taken := log.taken ++ log.pending.toList } : Log) = log := by
      obtain ⟨accepted, _, taken, applied⟩ := log
      obtain rfl : _ = none := absent
      simp
    rw [same]
    refine ⟨_, rfl, ordered, ⟨?_, .nothing rfl idle, follows.config, ?_, ?_, ?_, follows.configPath⟩, read.accepted, read.pi⟩
    · exact found ▸ pending
    · exact told
    · exact stored
    · exact unstored
  | some next =>
    obtain ⟨number, numbered, named⟩ : ∃ number, log.pending = some number ∧ log.config number = some next :=
      Option.bind_eq_some_iff.mp (pending.symm.trans found)
    have taken : log.taken ++ log.pending.toList = log.applied ++ [number] := by rw [numbered, idle]; rfl
    refine ⟨_, rfl, ordered_take ordered, ⟨rfl, .holds number next rfl taken named, follows.config, fun _ => False.elim,
      stored, unstored, follows.configPath⟩, read.accepted, read.pi⟩

/-- A step between two points at which the log stays as it is. -/
theorem Follows.on (follows : Follows printDouble first handoff log) {next : ConfigHandoff}
    (pending : next.api.pendingConfig = handoff.api.pendingConfig) (inHand : next.point.inHand = handoff.point.inHand)
    (config : next.config = handoff.config) (path : next.configPath = handoff.configPath)
    (told : log.pending = none → next.point.Told → next.api.repeaterConfig = next.point.inHand.getD next.config)
    (stored : next.configPath ≠ [] → log.applied ≠ [] ∨ next.point.ahead.isSome →
      configToJson printDouble (next.point.ahead.getD next.config) = .ok next.file)
    (unstored : next.configPath = [] ∨ log.applied = [] ∧ next.point.ahead = none → next.file = first.file) :
    Follows printDouble first next log :=
  ⟨pending.trans follows.pending, follows.inHand.on inHand, config.trans follows.config, told, stored, unstored,
    path.trans follows.configPath⟩

/-- What is in hand can be written. -/
theorem written_inHand (kept : Kept arithmetic printDouble first handoff log) (prints : Prints printDouble)
    {next : RepeaterConfig} (held : handoff.point.inHand = some next) : ∃ text, configToJson printDouble next = .ok text := by
  obtain ⟨text, accepted⟩ := kept.follows.inHand.read held kept.read
  obtain ⟨root, -, read⟩ := read_of_accepted accepted
  obtain ⟨tail, written, -⟩ := text_of_config read prints
  exact ⟨_, written⟩

theorem kept_push (kept : Kept arithmetic printDouble first handoff log) (prints : Prints printDouble) {next : RepeaterConfig}
    (here : handoff.point = .taken next) (fetch : Fetch) (put : Put) :
    ∃ after, handoff.advance arithmetic printDouble fetch put = .ok after ∧ after.point = .pushed next ∧
      Kept arithmetic printDouble first after log := by
  obtain ⟨ordered, follows, read⟩ := kept
  have stored := follows.stored
  have unstored := follows.unstored
  rw [here] at stored unstored
  have pushed : ∀ pi, Follows printDouble first { handoff with pi, point := .pushed next } log := fun pi =>
    follows.on rfl (by rw [here]; rfl) rfl rfl (fun _ => False.elim) stored unstored
  unfold advance
  rw [here]
  dsimp only
  split
  · have accepted := follows.inHand.read (by rw [here]; rfl) read
    obtain ⟨sides, reloaded, -, loaded, -⟩ :=
      @reload_cases arithmetic printDouble ⟨handoff.config, handoff.pi⟩ ⟨next, fetch, put⟩ prints read.pi accepted
    refine ⟨{ handoff with pi := sides.pi, point := .pushed next }, ?_, rfl, ordered, pushed sides.pi, read.accepted, loaded⟩
    rw [reloaded]
    rfl
  · exact ⟨{ handoff with point := .pushed next }, rfl, rfl, ordered, pushed handoff.pi, read.accepted, read.pi⟩

theorem kept_show (kept : Kept arithmetic printDouble first handoff log) {next : RepeaterConfig}
    (here : handoff.point = .pushed next) (fetch : Fetch) (put : Put) :
    ∃ after, handoff.advance arithmetic printDouble fetch put = .ok after ∧ after.point = .shown next ∧
      Kept arithmetic printDouble first after log := by
  obtain ⟨ordered, follows, read⟩ := kept
  have stored := follows.stored
  have unstored := follows.unstored
  rw [here] at stored unstored
  unfold advance
  rw [here]
  refine ⟨{ handoff with api := handoff.api.updateConfig next, point := .shown next }, rfl, rfl, ordered, ?_, read.accepted,
    read.pi⟩
  exact follows.on rfl (by rw [here]; rfl) rfl rfl (fun _ _ => rfl) stored unstored

theorem kept_save (kept : Kept arithmetic printDouble first handoff log) (prints : Prints printDouble) {next : RepeaterConfig}
    (here : handoff.point = .shown next) (fetch : Fetch) (put : Put) :
    ∃ after, handoff.advance arithmetic printDouble fetch put = .ok after ∧ after.point = .saved next ∧
      Kept arithmetic printDouble first after log := by
  obtain ⟨text, written⟩ := written_inHand kept prints (by rw [here]; rfl)
  obtain ⟨ordered, follows, read⟩ := kept
  have told := follows.told
  have unstored := follows.unstored
  rw [here] at told unstored
  have held : ReloadPoint.inHand (.saved next) = handoff.point.inHand := by rw [here]; rfl
  unfold advance
  rw [here]
  dsimp only
  split
  · rename_i nowhere
    refine ⟨{ handoff with point := .saved next }, rfl, rfl, ordered, ?_, read.accepted, read.pi⟩
    refine follows.on rfl held rfl rfl told (fun somewhere => absurd nowhere somewhere) fun _ => ?_
    exact unstored (.inl nowhere)
  · rename_i somewhere
    refine ⟨{ handoff with file := text, point := .saved next }, by rw [written]; rfl, rfl, ordered, ?_, read.accepted,
      read.pi⟩
    refine follows.on rfl held rfl rfl told (fun _ _ => written) fun untouched => ?_
    rcases untouched with nowhere | ⟨-, never⟩
    · exact absurd nowhere somewhere
    · cases never

/-- What is in hand is put to use. -/
theorem kept_apply (kept : Kept arithmetic printDouble first handoff log) {next : RepeaterConfig}
    (here : handoff.point = .saved next) (fetch : Fetch) (put : Put) :
    ∃ after, handoff.advance arithmetic printDouble fetch put = .ok after ∧ after.point = .applied ∧
      Kept arithmetic printDouble first after (log.record arithmetic handoff (.loop fetch put)) := by
  obtain ⟨ordered, follows, read⟩ := kept
  have told := follows.told
  have stored := follows.stored
  have unstored := follows.unstored
  have inHand := follows.inHand
  rw [here] at told stored unstored inHand
  obtain ⟨empty, -⟩ | ⟨number, same, held, taken, named⟩ := inHand
  · cases empty
  · obtain rfl := Option.some.inj held
    have last : log.taken.getLast?.toList = [number] := by rw [taken, List.getLast?_concat]; rfl
    unfold advance Log.record
    rw [here]
    dsimp only
    rw [last]
    refine ⟨{ handoff with config := next, point := .applied }, rfl, rfl,
      ⟨ordered.ascending, ordered.known, ordered.newest⟩, ?_, read.accepted, read.pi⟩
    refine ⟨follows.pending, .nothing rfl taken, ?_, fun settled _ => told settled trivial, fun somewhere _ =>
      stored somewhere (.inr rfl), fun untouched => ?_, follows.configPath⟩
    · show next = ((log.applied ++ [number]).getLast?.bind log.config).getD first.config
      rw [List.getLast?_concat, Option.bind_some, named]
      rfl
    · rcases untouched with nowhere | ⟨never, -⟩
      · exact unstored (.inl nowhere)
      · exact absurd never (List.append_ne_nil_of_right_ne_nil _ (List.cons_ne_nil _ _))

theorem kept_finish (kept : Kept arithmetic printDouble first handoff log) (here : handoff.point = .applied) (fetch : Fetch)
    (put : Put) :
    ∃ after, handoff.advance arithmetic printDouble fetch put = .ok after ∧ after.point = .between ∧
      Kept arithmetic printDouble first after log := by
  obtain ⟨ordered, follows, read⟩ := kept
  have stored := follows.stored
  have unstored := follows.unstored
  rw [here] at stored unstored
  unfold advance
  rw [here]
  refine ⟨{ handoff with api := handoff.api.updateConfig handoff.config, point := .between }, rfl, rfl, ordered, ?_,
    read.accepted, read.pi⟩
  exact follows.on rfl (by rw [here]; rfl) rfl rfl (fun _ _ => rfl) stored unstored

theorem kept_loop (kept : Kept arithmetic printDouble first handoff log) (prints : Prints printDouble) (fetch : Fetch)
    (put : Put) :
    ∃ after, handoff.step arithmetic printDouble (.loop fetch put) = some after ∧
      (after.point.stepsLeft < handoff.point.stepsLeft ∨ handoff.point = .between) ∧
      Kept arithmetic printDouble first after (log.record arithmetic handoff (.loop fetch put)) := by
  have steps : ∀ {after : ConfigHandoff}, handoff.advance arithmetic printDouble fetch put = .ok after →
      handoff.step arithmetic printDouble (.loop fetch put) = some after := fun advanced => by rw [step, advanced]; rfl
  cases here : handoff.point with
  | between =>
    obtain ⟨after, advanced, stands⟩ := kept_take kept here fetch put
    exact ⟨after, steps advanced, .inr rfl, stands⟩
  | taken next =>
    obtain ⟨after, advanced, there, stands⟩ := kept_push kept prints here fetch put
    refine ⟨after, steps advanced, .inl (by rw [there]; exact Nat.lt_succ_self _), ?_⟩
    rwa [Log.record, here]
  | pushed next =>
    obtain ⟨after, advanced, there, stands⟩ := kept_show kept here fetch put
    refine ⟨after, steps advanced, .inl (by rw [there]; exact Nat.lt_succ_self _), ?_⟩
    rwa [Log.record, here]
  | shown next =>
    obtain ⟨after, advanced, there, stands⟩ := kept_save kept prints here fetch put
    refine ⟨after, steps advanced, .inl (by rw [there]; exact Nat.lt_succ_self _), ?_⟩
    rwa [Log.record, here]
  | saved next =>
    obtain ⟨after, advanced, there, stands⟩ := kept_apply kept here fetch put
    exact ⟨after, steps advanced, .inl (by rw [there]; exact Nat.lt_succ_self _), stands⟩
  | applied =>
    obtain ⟨after, advanced, there, stands⟩ := kept_finish kept here fetch put
    refine ⟨after, steps advanced, .inl (by rw [there]; exact Nat.lt_succ_self _), ?_⟩
    rwa [Log.record, here]

theorem step_rejected (rejected : submitted arithmetic request = none) :
    handoff.step arithmetic printDouble (.put request) = some handoff := by
  obtain ⟨after, response, answered, same⟩ := @putConfig_submitted arithmetic handoff.api request
  rw [rejected] at same
  rw [step, answered, same.1]
  rfl

theorem kept_put (kept : Kept arithmetic printDouble first handoff log) (request : Bytes) :
    ∃ after, handoff.step arithmetic printDouble (.put request) = some after ∧ after.point = handoff.point ∧
      Kept arithmetic printDouble first after (log.record arithmetic handoff (.put request)) := by
  cases found : submitted arithmetic request with
  | none =>
    refine ⟨handoff, step_rejected found, rfl, ?_⟩
    rwa [Log.record, found]
  | some config =>
    obtain ⟨after, response, answered, same⟩ := @putConfig_submitted arithmetic handoff.api request
    rw [found] at same
    refine ⟨{ handoff with api := after }, by rw [step, answered]; rfl, rfl, ?_⟩
    obtain rfl := same
    obtain ⟨ordered, follows, read⟩ := kept
    rw [Log.record, found]
    refine ⟨ordered_put ordered config, follows_put ordered follows config, fun other among => ?_, read.pi⟩
    rcases List.mem_append.mp among with before | is
    · exact read.accepted other before
    · obtain rfl := List.mem_singleton.mp is
      exact submitted_read found

/-! ## Every run -/

theorem kept_logged (kept : Kept arithmetic printDouble first handoff log) (prints : Prints printDouble) (event : Event) :
    ∃ after later, logged arithmetic printDouble (handoff, log) event = some (after, later) ∧
      Kept arithmetic printDouble first after later := by
  unfold logged
  cases event with
  | put request =>
    obtain ⟨after, stepped, -, stands⟩ := kept_put kept request
    exact ⟨after, _, by rw [stepped]; rfl, stands⟩
  | loop fetch put =>
    obtain ⟨after, stepped, -, stands⟩ := kept_loop kept prints fetch put
    exact ⟨after, _, by rw [stepped]; rfl, stands⟩

theorem kept_run (kept : Kept arithmetic printDouble first handoff log) (prints : Prints printDouble) (events : List Event) :
    ∃ after later, Runs.run (logged arithmetic printDouble) (handoff, log) events = some (after, later) ∧
      Kept arithmetic printDouble first after later := by
  induction events generalizing handoff log with
  | nil => exact ⟨handoff, log, rfl, kept⟩
  | cons event events ih =>
    obtain ⟨next, longer, stepped, stands⟩ := kept_logged kept prints event
    obtain ⟨after, later, ran, stands⟩ := ih stands
    exact ⟨after, later, by rw [Runs.run_cons, stepped]; exact ran, stands⟩

theorem kept_start {pcGateway : Bool} {configPath file : Bytes} {pi : RepeaterConfig} (loaded : Loaded arithmetic pi) :
    Kept arithmetic printDouble (start pcGateway configPath config file pi) (start pcGateway configPath config file pi) {} := by
  refine ⟨⟨.nil, nofun, fun accepted => absurd rfl accepted⟩, ?_, fun _ among => absurd among List.not_mem_nil, loaded⟩
  refine ⟨rfl, .nothing rfl rfl, rfl, fun _ _ => rfl, fun _ untrue => ?_, fun _ => rfl, rfl⟩
  rcases untrue with never | never
  · exact absurd rfl never
  · cases never

/-- What every run has handed over. -/
structure HandedOver (arithmetic : Arithmetic) (printDouble : Rat → Bytes) (first handoff : ConfigHandoff) (log : Log) :
    Prop where
  settled : handoff.api.pendingConfig = none → handoff.point = .between → ∀ last, log.accepted.getLast? = some last →
    handoff.config = last ∧ handoff.api.repeaterConfig = last ∧
      (handoff.configPath ≠ [] → configToJson printDouble last = .ok handoff.file)
  untouched : log.accepted = [] →
    handoff.config = first.config ∧ handoff.api.repeaterConfig = first.config ∧ handoff.file = first.file
  /-- What was taken is in use or in hand, and what is in hand will be in use: no
  step of the loop fails, and a reload ends. -/
  inHand : InHand handoff.point log
  goesOn : ∀ fetch put, ∃ after, handoff.step arithmetic printDouble (.loop fetch put) = some after ∧
    (after.point.stepsLeft < handoff.point.stepsLeft ∨ handoff.point = .between)
  answers : ∀ request, ∃ after, handoff.step arithmetic printDouble (.put request) = some after ∧ after.point = handoff.point
  config : handoff.config = (log.applied.getLast?.bind log.config).getD first.config
  inOrder : log.applied.Pairwise (· < ·)
  rejected : ∀ request, submitted arithmetic request = none → handoff.step arithmetic printDouble (.put request) = some handoff

theorem settled_of_kept (kept : Kept arithmetic printDouble first handoff log) (found : handoff.api.pendingConfig = none)
    (here : handoff.point = .between) {last : RepeaterConfig} (newest : log.accepted.getLast? = some last) :
    handoff.config = last ∧ handoff.api.repeaterConfig = last ∧
      (handoff.configPath ≠ [] → configToJson printDouble last = .ok handoff.file) := by
  obtain ⟨ordered, follows, -⟩ := kept
  have absent := follows.absent ordered found
  have told := follows.told absent
  have stored := follows.stored
  have inHand := follows.inHand
  rw [here] at told stored inHand
  obtain ⟨-, applied⟩ | ⟨_, _, held, -, -⟩ := inHand
  · obtain ⟨earlier, split⟩ := List.getLast?_eq_some_iff.mp newest
    have used : log.applied.getLast? = some earlier.length := by
      have number := ordered.newest (by simp [split])
      rw [Log.numbers, absent, Option.toList_none, List.append_nil, applied] at number
      simpa [split] using number
    have current : handoff.config = last := by
      have config := follows.config
      rw [used, Option.bind_some, Log.config, split, List.getElem?_concat_length] at config
      exact config
    refine ⟨current, (told trivial).trans current, fun somewhere => ?_⟩
    have written := stored somewhere (.inl fun empty => by rw [empty] at used; cases used)
    exact current ▸ written
  · cases held

theorem untouched_of_kept (kept : Kept arithmetic printDouble first handoff log) (nothing : log.accepted = []) :
    handoff.config = first.config ∧ handoff.api.repeaterConfig = first.config ∧ handoff.file = first.file := by
  obtain ⟨ordered, follows, -⟩ := kept
  have numbers : log.numbers = [] := by
    refine List.eq_nil_iff_forall_not_mem.mpr fun number among => ?_
    have known := ordered.known number among
    rw [nothing] at known
    exact Nat.not_lt_zero _ known
  obtain ⟨taken, pending⟩ := List.append_eq_nil_iff.mp numbers
  rcases follows.inHand with ⟨empty, applied⟩ | ⟨_, _, -, same, -⟩
  · have unused : log.applied = [] := applied ▸ taken
    have current : handoff.config = first.config := by
      have config := follows.config
      rwa [unused] at config
    have told := follows.told (Option.toList_eq_nil_iff.mp pending)
    have unstored := follows.unstored
    cases here : handoff.point with
    | between | applied =>
      rw [here] at told unstored
      exact ⟨current, (told trivial).trans current, unstored (.inr ⟨unused, rfl⟩)⟩
    | taken | pushed | shown | saved =>
      rw [here] at empty
      cases empty
  · rw [taken] at same
    exact absurd same.symm (List.append_ne_nil_of_right_ne_nil _ (List.cons_ne_nil _ _))

theorem Kept.handedOver (kept : Kept arithmetic printDouble first handoff log) (prints : Prints printDouble) :
    HandedOver arithmetic printDouble first handoff log where
  settled none_pending between _ newest := settled_of_kept kept none_pending between newest
  untouched := untouched_of_kept kept
  inHand := kept.follows.inHand
  goesOn fetch put := by
    obtain ⟨after, stepped, progress, -⟩ := kept_loop kept prints fetch put
    exact ⟨after, stepped, progress⟩
  answers request := by
    obtain ⟨after, stepped, same, -⟩ := kept_put kept request
    exact ⟨after, stepped, same⟩
  config := kept.follows.config
  inOrder := by
    have ascending := (List.pairwise_append.mp kept.ordered.ascending).1
    rcases kept.follows.inHand with ⟨-, same⟩ | ⟨_, _, -, same, -⟩
    · exact same ▸ ascending
    · exact (List.pairwise_append.mp (same ▸ ascending)).1
  rejected _ rejected := step_rejected rejected

/-- However the requests fall between the steps of the loop, no save is lost and
none comes back. -/
theorem saves_are_handed_over (prints : Prints printDouble) {pi : RepeaterConfig} (loaded : Loaded arithmetic pi)
    (pcGateway : Bool) (configPath : Bytes) (config : RepeaterConfig) (file : Bytes) (events : List Event) :
    ∃ handoff log, Runs.run (logged arithmetic printDouble) (start pcGateway configPath config file pi, {}) events =
        some (handoff, log) ∧
      HandedOver arithmetic printDouble (start pcGateway configPath config file pi) handoff log := by
  have started : Kept arithmetic printDouble (start pcGateway configPath config file pi)
      (start pcGateway configPath config file pi) {} := kept_start loaded
  obtain ⟨handoff, log, ran, kept⟩ := kept_run started prints events
  exact ⟨handoff, log, ran, kept.handedOver prints⟩

/-- A second save comes in while the first one is in hand. -/
theorem overtaken_save_handed_over : ∃ handoff log,
    Runs.run (logged wrapping printShort) (start true (bytes "wh-repeater.json") defaultConfig [] station, {})
      [.put (bytes "PUT /api/config HTTP/1.1\r\n\r\n" ++ stationText), .loop .failed .answered,
        .put (bytes "PUT /api/config HTTP/1.1\r\n\r\n" ++ movedText), .loop .failed .answered] = some (handoff, log) ∧
      HandedOver wrapping printShort (start true (bytes "wh-repeater.json") defaultConfig [] station) handoff log :=
  saves_are_handed_over prints_short (.inr ⟨stationText, station_accepted⟩) _ _ _ _ _

end ConfigHandoff
end WhRepeater
