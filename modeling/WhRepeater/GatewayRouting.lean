import WhRepeater.ArbitrationOrder
import WhRepeater.ConfigMerges
import WhRepeater.ConfigRoundTrip
import WhRepeater.GatewayFailures
import WhRepeater.JsonDocuments
import WhRepeater.ReceiversOnAir

/-! What a gateway puts out of what the arbitrator chose (`Daemon::runPiGatewayOrLocal`).
The loop takes an input for that of the capture if it is of the receiver that the
configuration gives to the capture, and that may be one of the tuners'. -/
namespace WhRepeater

variable {arithmetic : Arithmetic}

theorem receiver_of_readCapture {json : Json} {capture : AnalogueCaptureConfig}
    (read : readCapture arithmetic json = .ok capture) : 1 ≤ capture.receiver.value := by
  unfold readCapture at read
  obtain ⟨enabled, -, read⟩ := bind_eq_ok.mp read
  obtain ⟨receiver, receiver_read, read⟩ := bind_eq_ok.mp read
  iterate 19 obtain ⟨_, -, read⟩ := bind_eq_ok.mp read
  cases read
  rcases optional_cases receiver_read with ⟨-, rfl⟩ | ⟨value, -, checked⟩
  · exact (by decide : (1 : Int32) ≤ 5)
  · obtain ⟨number, -, checked⟩ := bind_eq_ok.mp checked
    split at checked
    · cases checked
    · rename_i positive
      cases checked
      exact Int32.not_lt.mp positive

/-- An accepted configuration gives the capture a receiver from 1 on. -/
theorem capture_receiver_pos {text : Bytes} {config : RepeaterConfig}
    (accepted : configFromJson arithmetic text = some (.ok config)) : 1 ≤ config.analogue.capture.receiver.value := by
  obtain ⟨root, -, read⟩ := read_of_accepted accepted
  unfold readConfig at read
  iterate 13 obtain ⟨_, -, read⟩ := bind_eq_ok.mp read
  obtain ⟨analogue, analogue_read, read⟩ := bind_eq_ok.mp read
  obtain ⟨_, -, read⟩ := bind_eq_ok.mp read
  cases read
  have standing : (1 : Int32) ≤ 5 := by decide
  rcases optional_cases analogue_read with ⟨-, rfl⟩ | ⟨json, -, read⟩
  · exact standing
  · obtain ⟨capture, capture_read, same⟩ := bind_eq_ok.mp read
    cases same
    rcases optional_cases capture_read with ⟨-, rfl⟩ | ⟨json, -, read⟩
    · exact standing
    · exact receiver_of_readCapture read

namespace GatewayLoop

open Runs SignalArbitrator

/-- What an iteration works on behind its scan. -/
structure Scanned where
  statuses : List ReceiverStatus
  distinct : (statuses.map (·.receiver)).Nodup
  analogueActive : Option ActiveInput := none
  now : Time := 0

def afterScan (loop : GatewayLoop) (scanned : Scanned) : GatewayLoop :=
  let (nimActive, arbitrator) := loop.arbitrator.choose scanned.statuses
  ({ loop with nimActive, arbitrator } : GatewayLoop).selectActive scanned.analogueActive scanned.now

def scannedStep (loop : GatewayLoop) (scanned : Scanned) : Option GatewayLoop := some (loop.afterScan scanned)

/-- What the iteration calls the router and the sink with. -/
def outputCalls (loop : GatewayLoop) : List OutputCall := [.select loop.activeForRouter, .setActive loop.activeForRouter]

/-- The calls are made with what the arbitrator returned. -/
def PutsOutChosen (before : GatewayLoop) (statuses : List ReceiverStatus) (after : GatewayLoop) : Prop :=
  after.outputCalls =
    [.select (before.arbitrator.choose statuses).1, .setActive (before.arbitrator.choose statuses).1]

/-- The arbitrator has a receiver to choose before that of the capture. -/
def CaptureNotDue (loop : GatewayLoop) (statuses : List ReceiverStatus) : Prop :=
  ¬ Due loop.config loop.arbitrator.activeReceiver statuses loop.config.analogue.capture.receiver

/-- In every iteration the output is what was chosen. -/
def FollowsArbitration (config : RepeaterConfig) (nimPresent : ReceiverId → Bool) (scans : List Scanned) : Prop :=
  Throughout scannedStep (fun before scanned after => PutsOutChosen before scanned.statuses after) (start config nimPresent) scans

def CaptureNeverDue (config : RepeaterConfig) (nimPresent : ReceiverId → Bool) (scans : List Scanned) : Prop :=
  Guarded scannedStep (fun before scanned => CaptureNotDue before scanned.statuses) (start config nimPresent) scans

def tunerReceivers : List ReceiverId := [⟨1⟩, ⟨2⟩, ⟨3⟩, ⟨4⟩]

/-- A gateway whose arbitrator has the current configuration. -/
structure IsGateway (loop : GatewayLoop) : Prop where
  mode : loop.gatewayMode = true
  arbitrator : loop.arbitrator.config = loop.config

variable {loop : GatewayLoop} {scanned : Scanned} {statuses : List ReceiverStatus}

/-! ## One iteration -/

theorem forRouter_eq_iff {config : RepeaterConfig} {chosen : Option ActiveInput} :
    forRouter config chosen = chosen ↔ chosen.map (·.receiver) ≠ some config.analogue.capture.receiver := by
  cases chosen with
  | none => exact iff_of_true rfl nofun
  | some input => simp [forRouter, Option.filter]

theorem selectActive_gateway (mode : loop.gatewayMode = true) (analogueActive : Option ActiveInput) (now : Time) :
    (loop.selectActive analogueActive now).config = loop.config ∧ (loop.selectActive analogueActive now).nim = loop.nim ∧
      (loop.selectActive analogueActive now).gatewayMode = true ∧
      (loop.selectActive analogueActive now).arbitrator = loop.arbitrator ∧
      (loop.selectActive analogueActive now).activeForRouter = forRouter loop.config loop.nimActive := by
  rw [selectActive, if_pos mode]
  unfold finishSelection selectGateway
  dsimp only
  split <;> exact ⟨rfl, rfl, mode, rfl, rfl⟩

/-- The rest of an iteration keeps the configuration, and routes what was chosen
unless it is of the capture's receiver. -/
theorem afterScan_spec (gateway : IsGateway loop) (scanned : Scanned) :
    IsGateway (loop.afterScan scanned) ∧ (loop.afterScan scanned).config = loop.config ∧
      (loop.afterScan scanned).activeForRouter = forRouter loop.config (loop.arbitrator.choose scanned.statuses).1 := by
  obtain ⟨config, -, mode, arbitrator, routed⟩ := @selectActive_gateway { loop with
    nimActive := (loop.arbitrator.choose scanned.statuses).1, arbitrator := (loop.arbitrator.choose scanned.statuses).2 }
    gateway.mode scanned.analogueActive scanned.now
  refine ⟨⟨mode, ?_⟩, config, routed⟩
  rw [afterScan, arbitrator, config]
  exact choose_config.trans gateway.arbitrator

/-- The output follows the arbitrator exactly if it does not choose the capture's receiver. -/
theorem puts_out_chosen_iff (gateway : IsGateway loop) (distinct : (statuses.map (·.receiver)).Nodup)
    {after : GatewayLoop} (routed : after.activeForRouter = forRouter loop.config (loop.arbitrator.choose statuses).1) :
    PutsOutChosen loop statuses after ↔ CaptureNotDue loop statuses := by
  rw [PutsOutChosen, outputCalls, CaptureNotDue, ← gateway.arbitrator, ← choose_receiver_iff distinct, gateway.arbitrator,
    ← ne_eq, ← forRouter_eq_iff, routed]
  simp

/-! ## The tuners -/

/-- Only the receiver is locked, and has a target. -/
def lockedOnly (receiver : ReceiverId) : List ReceiverStatus :=
  tunerReceivers.map fun tuner =>
    if tuner = receiver then { receiver := tuner, state := .lockedDvbs2, target := some {} } else { receiver := tuner }

theorem lockedOnly_receivers (receiver : ReceiverId) : (lockedOnly receiver).map (·.receiver) = tunerReceivers := by
  rw [lockedOnly, List.map_map]
  refine (List.map_congr_left fun tuner _ => ?_).trans (List.map_id _)
  dsimp only [Function.comp_apply]
  split <;> rfl

theorem lockedOnly_candidate {config : RepeaterConfig} {receiver : ReceiverId} {status : ReceiverStatus}
    (among : status ∈ lockedOnly receiver) : Candidate config status ↔ status.receiver = receiver := by
  obtain ⟨tuner, -, rfl⟩ := List.mem_map.mp among
  split
  · rename_i same
    refine iff_of_true ⟨⟨.inr rfl, ?_, ?_⟩, rfl⟩ same
    · intro mer known
      cases known
    · intro dNumber known
      cases known
  · rename_i other
    refine iff_of_false ?_ other
    rintro ⟨-, target⟩
    cases target

theorem lockedOnly_chosen {arbitrator : SignalArbitrator} {receiver : ReceiverId} (tuned : receiver ∈ tunerReceivers) :
    (arbitrator.choose (lockedOnly receiver)).1.map (·.receiver) = some receiver := by
  have distinct : ((lockedOnly receiver).map (·.receiver)).Nodup := by
    rw [lockedOnly_receivers]
    decide
  have arbitrates := @choose_arbitrates arbitrator _ distinct
  cases chosen : (arbitrator.choose (lockedOnly receiver)).1 with
  | none =>
    rw [← lockedOnly_receivers receiver] at tuned
    obtain ⟨status, among, same⟩ := List.mem_map.mp tuned
    exact absurd ((lockedOnly_candidate among).mpr same) (arbitrates.none_iff.mp chosen status among)
  | some active =>
    obtain ⟨status, among, found⟩ := choose_active chosen
    rw [Option.map_some, (activeInput_some found).2.2, (lockedOnly_candidate among).mp (candidate_of_activeInput found)]

theorem tuner_le {receiver : ReceiverId} (tuned : receiver ∈ tunerReceivers) : receiver.value ≤ 4 := by
  revert receiver
  decide

theorem tuner_of_le {receiver : ReceiverId} (positive : 1 ≤ receiver.value) (small : receiver.value ≤ 4) :
    receiver ∈ tunerReceivers := by
  obtain ⟨value⟩ := receiver
  have lower : 1 ≤ value.toInt := Int32.le_iff_toInt_le.mp positive
  have upper : value.toInt ≤ 4 := Int32.le_iff_toInt_le.mp small
  have number : ∀ tuner : Int32, value.toInt = tuner.toInt → value = tuner := fun _ => Int32.toInt_inj.mp
  have numbered : value = 1 ∨ value = 2 ∨ value = 3 ∨ value = 4 := by
    have known : value.toInt = 1 ∨ value.toInt = 2 ∨ value.toInt = 3 ∨ value.toInt = 4 := by omega
    exact known.imp (number 1) (.imp (number 2) (.imp (number 3) (number 4)))
  rcases numbered with rfl | rfl | rfl | rfl
  all_goals simp [tunerReceivers]

/-- A receiver that is none of the tuners' is never due. -/
theorem captureNotDue_of_far (far : 4 < loop.config.analogue.capture.receiver.value)
    (tuned : statuses.map (·.receiver) = tunerReceivers) : CaptureNotDue loop statuses := by
  rintro ⟨position, status, there, same, -⟩
  have among : status.receiver ∈ tunerReceivers := by
    rw [← tuned]
    exact List.mem_map_of_mem (List.mem_of_getElem? there)
  rw [same] at among
  exact Int32.not_lt.mpr (tuner_le among) far

theorem guarded_of_far {scans : List Scanned} (gateway : IsGateway loop)
    (far : 4 < loop.config.analogue.capture.receiver.value)
    (tuned : ∀ scanned ∈ scans, scanned.statuses.map (·.receiver) = tunerReceivers) :
    Guarded scannedStep (fun before scanned => CaptureNotDue before scanned.statuses) loop scans := by
  induction scans generalizing loop with
  | nil => trivial
  | cons scanned rest ih =>
    intro after stepped
    obtain rfl := Option.some.inj stepped
    obtain ⟨kept, config, -⟩ := afterScan_spec gateway scanned
    rw [← config] at far
    obtain ⟨first, others⟩ := List.forall_mem_cons.mp tuned
    exact ⟨captureNotDue_of_far (config ▸ far) first, ih kept far others⟩

/-! ## Runs -/

theorem follows_iff_never_due {config : RepeaterConfig} (mode : config.mode = bytes "ts-gateway") (nimPresent : ReceiverId → Bool)
    (scans : List Scanned) : FollowsArbitration config nimPresent scans ↔ CaptureNeverDue config nimPresent scans := by
  refine throughout_iff_guarded IsGateway ?_ ?_ ⟨decide_eq_true mode, rfl⟩
  · rintro before scanned after gateway - stepped
    obtain rfl := Option.some.inj stepped
    exact (afterScan_spec gateway scanned).1
  · rintro before scanned after gateway stepped
    obtain rfl := Option.some.inj stepped
    exact puts_out_chosen_iff gateway scanned.distinct (afterScan_spec gateway scanned).2.2

/-- A gateway puts out what the arbitrator chose as long as the capture's
receiver is not due, and that is never due exactly if it is none of the tuners'. -/
theorem gateway_follows_iff {text : Bytes} {config : RepeaterConfig}
    (accepted : configFromJson arithmetic text = some (.ok config)) (mode : config.mode = bytes "ts-gateway")
    (nimPresent : ReceiverId → Bool) :
    (∀ scans, FollowsArbitration config nimPresent scans ↔ CaptureNeverDue config nimPresent scans) ∧
      ((∀ scans : List Scanned, (∀ scanned ∈ scans, scanned.statuses.map (·.receiver) = tunerReceivers) →
          FollowsArbitration config nimPresent scans) ↔
        4 < config.analogue.capture.receiver.value) := by
  have exactly := follows_iff_never_due mode nimPresent
  refine ⟨exactly, fun always => ?_, fun far scans tuned =>
    (exactly scans).mpr (guarded_of_far ⟨decide_eq_true mode, rfl⟩ far tuned)⟩
  by_contra near
  have tuned := tuner_of_le (capture_receiver_pos accepted) (Int32.not_lt.mp near)
  have receivers := lockedOnly_receivers config.analogue.capture.receiver
  have distinct : ((lockedOnly config.analogue.capture.receiver).map (·.receiver)).Nodup := by
    rw [receivers]
    decide
  have along := always [⟨lockedOnly config.analogue.capture.receiver, distinct, none, 0⟩] (by simpa using receivers)
  obtain ⟨notDue, -⟩ := (exactly _).mp along _ rfl
  exact notDue ((@choose_receiver_iff (start config nimPresent).arbitrator _ distinct _).mp (lockedOnly_chosen tuned))

/-- The capture has the receiver of the first tuner. -/
def sharedReceiverText : Bytes :=
  bytes "\x7b\"mode\":\"ts-gateway\",\"analogue\":\x7b\"capture\":\x7b\"receiverId\":1\x7d\x7d,\"receivers\":[\x7b\"id\":1,\"targets\":[\x7b\"frequencyKhz\":10491500,\"symbolRateKs\":1500,\"localOscillatorKhz\":9750000\x7d]\x7d]\x7d"

def beaconTarget : ScanTarget := { frequencyKhz := 10491500, symbolRateKs := 1500, localOscillatorKhz := 9750000, antenna := .top }

def sharedReceiver : RepeaterConfig :=
  { mode := bytes "ts-gateway"
    analogue := { capture := { receiver := ⟨1⟩ } }
    receivers := [{ receiver := ⟨1⟩, targets := [beaconTarget] }] }

theorem sharedReceiver_accepted : configFromJson wrapping sharedReceiverText = some (.ok sharedReceiver) := by
  have printed : (Document.object .compact [("mode", .text (bytes "ts-gateway")),
      ("analogue", .object .compact [("capture", .object .compact [("receiverId", .decimal 1)])]),
      ("receivers", .array .compact [.object .compact [("id", .decimal 1), ("targets", .array .compact [.object .compact
        [("frequencyKhz", .decimal 10491500), ("symbolRateKs", .decimal 1500), ("localOscillatorKhz", .decimal 9750000)]])]])]).print
      (fun _ => []) ++ [] = sharedReceiverText := by decide +kernel
  have parsed : JsonParser.parse sharedReceiverText =
      some (.ok (.object [(bytes "mode", .string (bytes "ts-gateway")),
        (bytes "analogue", .object [(bytes "capture", .object [(bytes "receiverId", .number 1)])]),
        (bytes "receivers", .array [.object [(bytes "id", .number 1), (bytes "targets", .array [.object
          [(bytes "frequencyKhz", .number 10491500), (bytes "symbolRateKs", .number 1500),
            (bytes "localOscillatorKhz", .number 9750000)]])]])])) := by
    rw [← printed, Document.parse_print _ rfl, if_pos (by decide +kernel)]
    · rfl
    · simp only [Document.Proper, Document.ProperMembers, Document.ProperItems, and_true]
      decide +kernel
  rw [configFromJson_of_parse parsed]
  rfl

theorem sharedReceiver_follows_iff :
    (∀ scans, FollowsArbitration sharedReceiver (fun _ => true) scans ↔ CaptureNeverDue sharedReceiver (fun _ => true) scans) ∧
      ((∀ scans : List Scanned, (∀ scanned ∈ scans, scanned.statuses.map (·.receiver) = tunerReceivers) →
          FollowsArbitration sharedReceiver (fun _ => true) scans) ↔
        4 < sharedReceiver.analogue.capture.receiver.value) :=
  gateway_follows_iff sharedReceiver_accepted rfl fun _ => true

/-- The first tuner is locked to its target. -/
def firstLocked : Scanned :=
  ⟨[{ receiver := ⟨1⟩, state := .lockedDvbs2, target := some beaconTarget }, { receiver := ⟨2⟩ }, { receiver := ⟨3⟩ },
    { receiver := ⟨4⟩ }], by decide, none, 0⟩

/-- Its input is chosen, and none is put out. -/
theorem shared_receiver_not_put_out :
    configFromJson wrapping sharedReceiverText = some (.ok sharedReceiver) ∧ sharedReceiver.mode = bytes "ts-gateway" ∧
      ((start sharedReceiver fun _ => true).arbitrator.choose firstLocked.statuses).1.map (·.receiver) = some ⟨1⟩ ∧
      ((start sharedReceiver fun _ => true).afterScan firstLocked).outputCalls = [.select none, .setActive none] ∧
      ¬ FollowsArbitration sharedReceiver (fun _ => true) [firstLocked] := by
  have calls : ((start sharedReceiver fun _ => true).afterScan firstLocked).outputCalls = [.select none, .setActive none] := by
    decide +kernel
  have chosen : ((start sharedReceiver fun _ => true).arbitrator.choose firstLocked.statuses).1.map (·.receiver) = some ⟨1⟩ := by
    decide +kernel
  refine ⟨sharedReceiver_accepted, rfl, chosen, calls, fun follows => ?_⟩
  obtain ⟨same, -⟩ := follows _ rfl
  rw [PutsOutChosen, calls] at same
  injection same with selected
  injection selected with none
  rw [← none] at chosen
  cases chosen

/-! ## Runs of the loop -/

theorem pollStatus_receivers {nim : NimController} {readings : ReceiverId → Reading} {now : Time} :
    (nim.pollStatus readings now).statuses.map (·.receiver) = nim.statuses.map (·.receiver) := by
  simp [NimController.pollStatus, NimController.statuses, Function.comp_def]

theorem tune_receivers {nim : NimController} {receiver : ReceiverId} {target : ScanTarget} {tuning : Tuning} :
    (nim.tune receiver target tuning).statuses.map (·.receiver) = nim.statuses.map (·.receiver) := by
  rw [NimController.tune, NimController.statuses, NimController.statuses, List.map_map, List.map_map, List.map_map]
  refine List.map_congr_left fun tuner _ => ?_
  dsimp only [Function.comp_apply]
  split <;> rfl

theorem visit_statuses {listed : List ReceiverStatus} {tunings : ReceiverId → Tuning} {now : Time}
    (state : ScanScheduler × NimController) (receiver : ReceiverConfig) :
    (ScanScheduler.visit listed tunings now state receiver).2.statuses.map (·.receiver) =
      state.2.statuses.map (·.receiver) := by
  unfold ScanScheduler.visit
  dsimp only
  split
  · rfl
  · split
    · rfl
    · split
      · rfl
      · exact tune_receivers

theorem scan_receivers {iteration : Iteration} :
    (loop.scan iteration).nim.statuses.map (·.receiver) = loop.nim.statuses.map (·.receiver) := by
  have visits : ∀ {listed tunings now} (receivers : List ReceiverConfig) (state : ScanScheduler × NimController),
      (receivers.foldl (ScanScheduler.visit listed tunings now) state).2.statuses.map (·.receiver) =
        state.2.statuses.map (·.receiver) := by
    intro listed tunings now receivers
    induction receivers with
    | nil => exact fun _ => rfl
    | cons receiver rest ih => exact fun state => (ih _).trans (visit_statuses state receiver)
  exact pollStatus_receivers.trans ((visits _ _).trans pollStatus_receivers)

/-- The statuses that an iteration arbitrates. -/
def scannedStatuses (loop : GatewayLoop) (iteration : Iteration) : List ReceiverStatus :=
  ((loop.configured iteration).scan iteration).nim.statuses

/-- A gateway with the tuners of all four receivers. -/
structure TunedGateway (loop : GatewayLoop) : Prop extends IsGateway loop where
  receivers : loop.nim.statuses.map (·.receiver) = tunerReceivers

theorem configured_tunedGateway (gateway : TunedGateway loop) (iteration : Iteration) :
    TunedGateway (loop.configured iteration) := by
  unfold configured
  cases iteration.pendingConfig with
  | none => exact gateway
  | some nextConfig => exact ⟨⟨gateway.mode, rfl⟩, gateway.receivers⟩

theorem gateAnalogue_eq (status : AnalogueStatus) (now : Time) :
    ∃ since, (loop.gateAnalogue status now).2 = { loop with analogueLockedSince := since } := by
  unfold gateAnalogue
  split <;> exact ⟨_, rfl⟩

theorem iterate_gateway (gateway : TunedGateway loop) (iteration : Iteration) :
    TunedGateway (loop.iterate iteration) ∧
      (loop.iterate iteration).activeForRouter = forRouter (loop.configured iteration).config
        ((loop.configured iteration).arbitrator.choose (loop.scannedStatuses iteration)).1 := by
  have ready := configured_tunedGateway gateway iteration
  have receivers : ((loop.configured iteration).scan iteration).nim.statuses.map (·.receiver) = tunerReceivers :=
    scan_receivers.trans ready.receivers
  unfold iterate
  dsimp only
  generalize (if ((loop.configured iteration).scan iteration).config.analogue.capture.enabled then iteration.analogueStatus
    else disabledAnalogueStatus iteration.now) = status
  obtain ⟨since, gated⟩ := @gateAnalogue_eq ((loop.configured iteration).scan iteration) status iteration.now
  rw [gated]
  obtain ⟨config, nim, mode, arbitrator, routed⟩ := @selectActive_gateway
    ({ (loop.configured iteration).scan iteration with analogueLockedSince := since } : GatewayLoop).chooseNim ready.mode
    (analogueActiveInput ((loop.configured iteration).scan iteration).config
      (((loop.configured iteration).scan iteration).gateAnalogue status iteration.now).1 iteration.deviceExists) iteration.now
  refine ⟨⟨⟨mode, ?_⟩, ?_⟩, routed⟩
  · rw [arbitrator, config]
    exact choose_config.trans ready.arbitrator
  · rw [nim]
    exact receivers

/-- In the loop of the daemon the output follows the arbitrator in the same iterations,
whatever is reloaded. -/
theorem iterations_put_out_iff (config : RepeaterConfig) (mode : config.mode = bytes "ts-gateway")
    (nimPresent : ReceiverId → Bool) (iterations : List Iteration) :
    Throughout step (fun before iteration after =>
        PutsOutChosen (before.configured iteration) (before.scannedStatuses iteration) after)
        (start config nimPresent) iterations ↔
      Guarded step (fun before iteration => CaptureNotDue (before.configured iteration) (before.scannedStatuses iteration))
        (start config nimPresent) iterations := by
  refine throughout_iff_guarded TunedGateway ?_ ?_ ⟨⟨decide_eq_true mode, rfl⟩, rfl⟩
  · rintro before iteration after gateway - stepped
    obtain rfl := Option.some.inj stepped
    exact (iterate_gateway gateway iteration).1
  · rintro before iteration after gateway stepped
    obtain rfl := Option.some.inj stepped
    have ready := configured_tunedGateway gateway iteration
    have distinct : ((before.scannedStatuses iteration).map (·.receiver)).Nodup := by
      rw [scannedStatuses, scan_receivers, ready.receivers]
      decide
    exact puts_out_chosen_iff ready.toIsGateway distinct (iterate_gateway gateway iteration).2

end GatewayLoop
end WhRepeater
