import WhRepeater.PiConfigPush

/-! The two configurations over a run of saves (`Daemon::runPcGateway`). A push is
made for a save that changes the Pi's part of the PC's configuration, and for no
other: a change that was not delivered stays undelivered until the next one. -/
namespace WhRepeater

variable (arithmetic : Arithmetic) (printDouble : Rat → Bytes)

/-- The configurations of the two processes. -/
structure Sides where
  pc : RepeaterConfig
  pi : RepeaterConfig
  deriving DecidableEq

structure Save where
  next : RepeaterConfig
  fetch : Fetch
  put : Put
  deriving DecidableEq

/-- The reload of a configuration in `Daemon::runPcGateway`. -/
def reload (sides : Sides) (save : Save) : Except String Sides :=
  if save.next.piStatus.enabled && piManagedConfigChanged printDouble sides.pc save.next then do
    let (pi, _) ← pushConfig arithmetic printDouble save.next sides.pi save.fetch save.put
    return ⟨save.next, pi⟩
  else return ⟨save.next, sides.pi⟩

def reloads (sides : Sides) (saves : List Save) : Except String Sides := saves.foldlM (reload arithmetic printDouble) sides

/-- The Pi's part is the same, the thresholds as they are written. -/
structure ManagedAgree (pi pc : RepeaterConfig) : Prop where
  statusInterval : pi.statusInterval = pc.statusInterval
  minimumMerDb : printDouble pi.minimumMerDb = printDouble pc.minimumMerDb
  minimumDNumberDb : printDouble pi.minimumDNumberDb = printDouble pc.minimumDNumberDb
  tsGateway : pi.tsGateway = pc.tsGateway
  receivers : pi.receivers = pc.receivers

/-- The Pi would be reached by a push of the save, and take it. -/
structure Delivers (save : Save) : Prop where
  enabled : save.next.piStatus.enabled = true
  answered : save.put = .answered
  sendable : Sendable arithmetic printDouble save.next

/-- The last change of the Pi's part has not been delivered. -/
def Outstanding (pc : RepeaterConfig) (before : Prop) : List Save → Prop
  | [] => before
  | save :: saves =>
    Outstanding save.next
      (if piManagedConfigChanged printDouble pc save.next then ¬ Delivers arithmetic printDouble save else before) saves

variable {arithmetic printDouble} {root : Json} {pi pc next : RepeaterConfig} {sides : Sides} {save : Save}

/-! ## Texts of the Pi's part -/

/-- The texts that are compared are the same. -/
def SameText (printDouble : Rat → Bytes) (pi pc : RepeaterConfig) : Prop :=
  configToJson printDouble (piManagedProjection pi) = configToJson printDouble (piManagedProjection pc)

theorem unchanged_iff : piManagedConfigChanged printDouble pi pc = false ↔ SameText printDouble pi pc := by
  simp [piManagedConfigChanged, SameText]

theorem ManagedAgree.sameText (agree : ManagedAgree printDouble pi pc) : SameText printDouble pi pc := by
  have thresholds : (selectionJson (pi.minimumMerDb, pi.minimumDNumberDb)).print printDouble =
      (selectionJson (pc.minimumMerDb, pc.minimumDNumberDb)).print printDouble := by
    simp only [selectionJson, Document.print, Document.printMembers, agree.minimumMerDb, agree.minimumDNumberDb]
  have same : ∀ mux video, (configJson mux video (piManagedProjection pi)).print printDouble =
      (configJson mux video (piManagedProjection pc)).print printDouble := by
    intro mux video
    simp only [configJson, piManagedProjection, Document.print, Document.printMembers, thresholds, agree.statusInterval,
      agree.tsGateway, agree.receivers]
  unfold SameText configToJson
  simp only [same]
  rfl

/-- Of a text that can be read the fields are read again. -/
theorem SameText.agree (same : SameText printDouble pi pc) (prints : Prints printDouble)
    (pi_read : ∃ root, readConfig arithmetic root = .ok pi) (pc_read : ∃ root, readConfig arithmetic root = .ok pc)
    (sendable : Sendable arithmetic printDouble pc) : ManagedAgree printDouble pi pc := by
  obtain ⟨piRoot, pi_read⟩ := pi_read
  obtain ⟨pcRoot, pc_read⟩ := pc_read
  have pi_sendable : Sendable arithmetic printDouble pi := by
    obtain ⟨text, read, written, accepted⟩ := sendable
    exact ⟨text, read, same.trans written, accepted⟩
  have reads : ∀ {config : RepeaterConfig} {root : Json}, readConfig arithmetic root = .ok config →
      Sendable arithmetic printDouble config → ∃ text kept,
        configToJson printDouble (piManagedProjection config) = .ok text ∧ Written printDouble config kept ∧
        configFromJson arithmetic text = some (.ok (withThresholds kept (piManagedProjection config))) := by
    intro config root read sendable
    obtain ⟨tail, written, loads, -⟩ := text_of_config (read_projection read) prints
    have readable : Readable printDouble (.object (mergedMembers config plainMembers))
        (mergePiManagedConfig config { defaultConfig with receivers := [] }) :=
      (readable_merged read legible_plain prints).mpr sendable
    obtain ⟨kept, -, -, ⟨exact, mer, dNumber⟩, -, -, loaded⟩ := loads readable
    exact ⟨_, kept, written, ⟨exact, mer, dNumber⟩, loaded ⟨rfl, nofun⟩⟩
  obtain ⟨text, kept, written, thresholds, loaded⟩ := reads pi_read pi_sendable
  obtain ⟨again, others, again_written, again_thresholds, again_loaded⟩ := reads pc_read sendable
  cases written.symm.trans (same.trans again_written)
  have fields := Except.ok.inj (Option.some.inj (loaded.symm.trans again_loaded))
  constructor
  · exact congrArg (·.statusInterval) fields
  · rw [← thresholds.minimumMerDb, ← again_thresholds.minimumMerDb]
    exact congrArg (fun config => printDouble config.minimumMerDb) fields
  · rw [← thresholds.minimumDNumberDb, ← again_thresholds.minimumDNumberDb]
    exact congrArg (fun config => printDouble config.minimumDNumberDb) fields
  · exact congrArg (·.tsGateway) fields
  · exact congrArg (·.receivers) fields

/-! ## Runs -/

/-- One save: the Pi keeps its configuration unless its part changes, and has
that part of the PC's when the push gets there. -/
theorem reload_cases (prints : Prints printDouble) (loaded : Loaded arithmetic sides.pi)
    (accepted : ∃ text, configFromJson arithmetic text = some (.ok save.next)) :
    ∃ after, reload arithmetic printDouble sides save = .ok after ∧ after.pc = save.next ∧ Loaded arithmetic after.pi ∧
      (piManagedConfigChanged printDouble sides.pc save.next = false → after.pi = sides.pi) ∧
      (piManagedConfigChanged printDouble sides.pc save.next = true → Delivers arithmetic printDouble save →
        SameText printDouble after.pi save.next) := by
  obtain ⟨text, accepted⟩ := accepted
  obtain ⟨root, -, next_read⟩ := read_of_accepted accepted
  unfold reload
  by_cases pushes : save.next.piStatus.enabled && piManagedConfigChanged printDouble sides.pc save.next
  · rw [if_pos pushes]
    rw [Bool.and_eq_true] at pushes
    obtain ⟨pi, succeeded, pushed, pi_loaded, cases, answered⟩ :=
      push_cases prints next_read loaded save.fetch save.put
    refine ⟨⟨save.next, pi⟩, by rw [pushed]; rfl, rfl, pi_loaded, ?_, fun _ delivers => ?_⟩
    · intro same
      cases same.symm.trans pushes.2
    · obtain ⟨-, never⟩ | ⟨base, kept, -, thresholds, rfl⟩ := cases
      · cases never.symm.trans (answered delivers.answered delivers.sendable)
      · exact ManagedAgree.sameText ⟨rfl, thresholds.minimumMerDb, thresholds.minimumDNumberDb, rfl, rfl⟩
  · rw [if_neg pushes]
    refine ⟨⟨save.next, sides.pi⟩, rfl, rfl, loaded, fun _ => rfl, fun changes delivers => ?_⟩
    exact absurd (by rw [delivers.enabled, changes]; rfl) pushes

theorem sameText_of_reload (prints : Prints printDouble) (loaded : Loaded arithmetic sides.pi) {before : Prop}
    (accepted : ∃ text, configFromJson arithmetic text = some (.ok save.next)) {after : Sides}
    (reloaded : reload arithmetic printDouble sides save = .ok after)
    (agree : ¬ before → SameText printDouble sides.pi sides.pc)
    (settled : ¬ if piManagedConfigChanged printDouble sides.pc save.next then ¬ Delivers arithmetic printDouble save
      else before) : SameText printDouble after.pi after.pc := by
  obtain ⟨same, again, pc, -, stays, delivered⟩ := reload_cases prints loaded accepted
  cases reloaded.symm.trans again
  rw [pc]
  cases changes : piManagedConfigChanged printDouble sides.pc save.next with
  | false =>
    rw [changes] at settled
    rw [stays changes]
    exact (agree settled).trans (unchanged_iff.mp changes)
  | true =>
    rw [changes, if_pos rfl, not_not] at settled
    exact delivered changes settled

/-- A run of saves: while nothing is outstanding, the texts are the same. -/
theorem sameText_of_run (prints : Prints printDouble) (saves : List Save) (before : Prop)
    (accepted : ∀ save ∈ saves, ∃ text, configFromJson arithmetic text = some (.ok save.next))
    (loaded : Loaded arithmetic sides.pi) (agree : ¬ before → SameText printDouble sides.pi sides.pc) :
    ∃ last, reloads arithmetic printDouble sides saves = .ok last ∧ Loaded arithmetic last.pi ∧
      (¬ Outstanding arithmetic printDouble sides.pc before saves → SameText printDouble last.pi last.pc) := by
  induction saves generalizing sides before with
  | nil => exact ⟨sides, rfl, loaded, agree⟩
  | cons save saves ih =>
    rw [List.forall_mem_cons] at accepted
    obtain ⟨after, reloaded, pc, after_loaded, -⟩ := @reload_cases arithmetic printDouble sides save prints loaded accepted.1
    have settled := sameText_of_reload prints loaded accepted.1 reloaded agree
    obtain ⟨last, run, last_loaded, last_agree⟩ := ih _ accepted.2 after_loaded settled
    refine ⟨last, ?_, last_loaded, ?_⟩
    · rw [reloads, List.foldlM_cons, reloaded, ok_bind]
      exact run
    · rw [pc] at last_agree
      exact last_agree

/-- After a save with a Pi that is reached, the Pi has its part of the PC's
configuration if the save changed that part, or no change of it was outstanding.
A save that does not change it leaves the Pi alone. -/
theorem pi_converges_unless_outstanding (prints : Prints printDouble) {first : Sides} (saves : List Save) {save : Save}
    (agree : ManagedAgree printDouble first.pi first.pc) (loaded : Loaded arithmetic first.pi)
    (accepted : ∀ save ∈ saves, ∃ text, configFromJson arithmetic text = some (.ok save.next))
    (save_accepted : ∃ text, configFromJson arithmetic text = some (.ok save.next))
    (delivers : Delivers arithmetic printDouble save) :
    ∃ sides after, reloads arithmetic printDouble first saves = .ok sides ∧
      reload arithmetic printDouble sides save = .ok after ∧ after.pc = save.next ∧
      (piManagedConfigChanged printDouble sides.pc save.next = true ∨
          ¬ Outstanding arithmetic printDouble first.pc False saves →
        ManagedAgree printDouble after.pi after.pc) ∧
      (piManagedConfigChanged printDouble sides.pc save.next = false → after.pi = sides.pi) := by
  obtain ⟨sides, run, sides_loaded, sides_agree⟩ :=
    sameText_of_run prints saves False accepted loaded fun _ => agree.sameText
  obtain ⟨after, reloaded, pc, after_loaded, stays, -⟩ := reload_cases prints sides_loaded save_accepted
  refine ⟨sides, after, run, reloaded, pc, fun cause => ?_, stays⟩
  have same : SameText printDouble after.pi after.pc := by
    refine sameText_of_reload prints sides_loaded save_accepted reloaded sides_agree ?_
    split
    · exact not_not.mpr delivers
    · rename_i unchanged
      exact cause.resolve_left unchanged
  rw [pc] at same ⊢
  obtain ⟨text, save_accepted⟩ := save_accepted
  obtain ⟨root, -, read⟩ := read_of_accepted save_accepted
  exact same.agree prints after_loaded.read ⟨root, read⟩ delivers.sendable

/-! ## A change that is not delivered -/

theorem reload_unreached (prints : Prints printDouble) (loaded : Loaded arithmetic sides.pi)
    (accepted : ∃ text, configFromJson arithmetic text = some (.ok next)) (fetch : Fetch) :
    reload arithmetic printDouble sides ⟨next, fetch, .failed 0⟩ = .ok ⟨next, sides.pi⟩ := by
  obtain ⟨text, accepted⟩ := accepted
  obtain ⟨root, -, read⟩ := read_of_accepted accepted
  obtain ⟨piRoot, pi_read⟩ := loaded.read
  obtain ⟨body, base, written, -⟩ := put_reads prints read pi_read fetch
  unfold reload
  split
  · simp only [pushConfig, written, ok_bind]
    rfl
  · rfl

theorem pushed_twice : ∃ sides after,
    reloads wrapping printShort ⟨station, station⟩ [⟨moved, .failed, .answered⟩] = .ok sides ∧
      reload wrapping printShort sides ⟨moved, .answered 4096, .answered⟩ = .ok after ∧
      ManagedAgree printShort after.pi after.pc := by
  have accepted : ∃ text, configFromJson wrapping text = some (.ok moved) := ⟨movedText, moved_accepted⟩
  have settled : ¬ Outstanding wrapping printShort station False [⟨moved, .failed, .answered⟩] := by
    unfold Outstanding Outstanding
    split
    · exact not_not.mpr ⟨rfl, rfl, moved_sendable⟩
    · exact not_false
  obtain ⟨sides, after, run, reloaded, -, agree, -⟩ :=
    @pi_converges_unless_outstanding wrapping printShort prints_short ⟨station, station⟩
      [⟨moved, .failed, .answered⟩] ⟨moved, .answered 4096, .answered⟩ ⟨rfl, rfl, rfl, rfl, rfl⟩
      (.inr ⟨stationText, station_accepted⟩) (by simpa using accepted) accepted ⟨rfl, rfl, moved_sendable⟩
  exact ⟨sides, after, run, reloaded, agree (.inr settled)⟩

/-- The first push does not reach the Pi, and the second save makes none. -/
theorem failed_push_not_repeated :
    ¬ ∀ (arithmetic : Arithmetic) (printDouble : Rat → Bytes) (first sides after : Sides) (saves : List Save) (save : Save),
      Prints printDouble → piManagedProjection first.pi = piManagedProjection first.pc → Loaded arithmetic first.pi →
      (∀ save ∈ saves, ∃ text, configFromJson arithmetic text = some (.ok save.next)) →
      (∃ text, configFromJson arithmetic text = some (.ok save.next)) → Delivers arithmetic printDouble save →
      reloads arithmetic printDouble first saves = .ok sides → reload arithmetic printDouble sides save = .ok after →
      piManagedProjection after.pi = piManagedProjection after.pc := by
  intro always
  have accepted : ∃ text, configFromJson wrapping text = some (.ok moved) := ⟨movedText, moved_accepted⟩
  have loaded : Loaded wrapping station := .inr ⟨stationText, station_accepted⟩
  have first := @reload_unreached wrapping printShort moved ⟨station, station⟩ prints_short loaded accepted .failed
  have unchanged : piManagedConfigChanged printShort moved moved = false := unchanged_iff.mpr rfl
  have second : reload wrapping printShort ⟨moved, station⟩ ⟨moved, .answered 4096, .answered⟩ = .ok ⟨moved, station⟩ := by
    rw [reload, unchanged, Bool.and_false, if_neg Bool.false_ne_true]
    rfl
  have same := always wrapping printShort ⟨station, station⟩ ⟨moved, station⟩ ⟨moved, station⟩
    [⟨moved, .failed, .failed 0⟩] ⟨moved, .answered 4096, .answered⟩ prints_short rfl loaded (by simpa using accepted) accepted
    ⟨rfl, rfl, moved_sendable⟩ (by rw [reloads, List.foldlM_cons, first]; rfl) second
  have address := congrArg (·.tsGateway.address) same
  exact absurd address (by decide)

end WhRepeater
