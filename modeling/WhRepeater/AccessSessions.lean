import WhRepeater.SourceFamilies

/-! The notice that ends an access session. A source that leaves the air is
announced with an end tone, but only to an idle channel: where the other source
takes over in the same iteration, its own notice is handed over instead. -/
namespace WhRepeater

open Runs

/-- A stay of one source on air. -/
structure AccessSession where
  input : ActiveInput
  startedAt : Time
  serviceName : Option Bytes := none
  videoFormat : Option Bytes := none
  deriving Repr, DecidableEq

namespace AccessSession

/-- What the source and its stream say of themselves. -/
def learn (session : AccessSession) (media : ActiveInput) (streamInfo : Option Bytes) : AccessSession :=
  { session with
    serviceName := (streamInfo.bind serviceFromStreamInfo).or
      ((media.status.serviceName.bind nonempty).or session.serviceName)
    videoFormat := (streamInfo.bind videoFormatFromStreamInfo).or session.videoFormat }

/-- The input a session is remembered by: of the gateway the last specific one. -/
def renewed (family : ActiveSourceFamily) (session : AccessSession) (media : ActiveInput) : ActiveInput :=
  match family with
  | .nimOrGateway => if hasSpecificDisplayInput media then media else session.input
  | .analogue => media

/-- One more iteration on air, of a standing session or of a new one. -/
def extend (family : ActiveSourceFamily) (standing : Option AccessSession) (media : ActiveInput) (iteration : PcIteration) :
    AccessSession :=
  match standing with
  | some session =>
    ({ session with input := renewed family session media } : AccessSession).learn media iteration.latestMediaStreamInfo
  | none => ({ input := media, startedAt := iteration.now } : AccessSession).learn media iteration.latestMediaStreamInfo

/-- What is said of the session when it ends. -/
def notice (oneDecimal : DoubleBits → Bytes) (config : RepeaterConfig) (session : AccessSession) (now : Time) : Bytes :=
  postAccessMessage oneDecimal config session.input {
    activeDuration := some (now - session.startedAt)
    serviceOverride := session.serviceName
    videoFormat := session.videoFormat }

end AccessSession

/-- The loop, and the session on air. -/
structure AccessRun where
  loop : PcGatewayLoop
  session : Option AccessSession := none

namespace AccessRun

variable (oneDecimal : DoubleBits → Bytes) (stod : Bytes → Option DoubleBits)

/-- The session of a family, while it is the one on air. -/
def standing (run : AccessRun) (family : ActiveSourceFamily) : Option AccessSession :=
  if run.loop.activeSourceFamily = some family then run.session else none

def step (run : AccessRun) (iteration : PcIteration) : Option AccessRun :=
  (run.loop.step oneDecimal stod iteration).map fun loop => {
    loop
    session :=
      match loop.activeSourceFamily, loop.mediaActive with
      | some family, some media =>
        some (.extend family (run.standing family) media iteration)
      | _, _ => none }

/-- A source that leaves the air is announced, with its end tone. -/
def Announced (before : AccessRun) (iteration : PcIteration) (after : AccessRun) : Prop :=
  ∀ family, before.loop.activeSourceFamily = some family → after.loop.activeSourceFamily ≠ some family →
    ∃ session, before.session = some session ∧
      after.loop.handed = some (some (session.notice oneDecimal before.loop.config iteration.now), true)

/-- The source on air does not give way to the other one at once. -/
def NoHandover (before : AccessRun) (iteration : PcIteration) : Prop :=
  ∀ family, before.loop.activeSourceFamily = some family → before.loop.input iteration family = none →
    ∀ other, before.loop.input iteration other = none

end AccessRun

namespace SourceSession

/-- The locals of a session on air. -/
def of (session : AccessSession) : SourceSession :=
  { input := some session.input
    serviceName := session.serviceName
    videoFormat := session.videoFormat
    startedAt := session.startedAt
    wasActive := true }

/-- The locals are those of the session on air, or lie idle. -/
def Follows (locals : SourceSession) : Option AccessSession → Prop
  | some session => locals = .of session
  | none => locals.wasActive = false

variable {locals : SourceSession} {standing : Option AccessSession}

theorem ended_of_follows (follows : locals.Follows standing) : locals.ended = standing.map AccessSession.input := by
  cases standing with
  | none => exact if_neg (by simpa [Follows] using follows)
  | some session =>
    obtain rfl : locals = .of session := follows
    rfl

end SourceSession

namespace PcGatewayLoop

open SourceSession

variable {oneDecimal : DoubleBits → Bytes} {loop : PcGatewayLoop} {media : ActiveInput} {iteration : PcIteration}
  {standing other : Option AccessSession}

theorem gatewayNotice_follows (follows : loop.pcSession.Follows standing) :
    (loop.gatewayNotice oneDecimal media iteration).pcSession = .of (.extend .nimOrGateway standing media iteration) := by
  cases standing with
  | none =>
    have idle : loop.pcSession.wasActive = false := follows
    simp [gatewayNotice, idle, SourceSession.reset, SourceSession.observe, SourceSession.of, AccessSession.extend,
      AccessSession.learn]
  | some session =>
    have locals : loop.pcSession = .of session := follows
    cases specific : hasSpecificDisplayInput media <;>
      simp [gatewayNotice, locals, specific, SourceSession.observe, SourceSession.of, AccessSession.extend, AccessSession.renewed,
        AccessSession.learn]

theorem leavePc_analogueSession {now : Time} : (loop.leavePc oneDecimal now).analogueSession = loop.analogueSession := by
  unfold leavePc
  split <;> rfl

theorem leavePc_rests {now : Time} (follows : loop.pcSession.Follows other) :
    (loop.leavePc oneDecimal now).pcSession.wasActive = false := by
  rw [leavePc, ended_of_follows follows]
  cases other with
  | none => exact follows
  | some session => rfl

theorem analogueNotice_follows (follows : loop.analogueSession.Follows standing) :
    (loop.analogueNotice oneDecimal media iteration).analogueSession = .of (.extend .analogue standing media iteration) := by
  cases standing with
  | none =>
    have idle : loop.analogueSession.wasActive = false := follows
    simp [analogueNotice, leavePc_analogueSession, idle, SourceSession.reset, SourceSession.observe, SourceSession.of,
      AccessSession.extend, AccessSession.learn]
  | some session =>
    have locals : loop.analogueSession = .of session := follows
    simp [analogueNotice, leavePc_analogueSession, locals, SourceSession.observe, SourceSession.of, AccessSession.extend,
      AccessSession.renewed, AccessSession.learn]

/-- The other source's locals are put to rest. -/
theorem gatewayNotice_rests (follows : loop.analogueSession.Follows other) :
    (loop.gatewayNotice oneDecimal media iteration).analogueSession.wasActive = false := by
  unfold gatewayNotice
  dsimp only
  rw [ended_of_follows follows]
  cases other with
  | none => exact follows
  | some session => rfl

theorem analogueNotice_rests (follows : loop.pcSession.Follows other) :
    (loop.analogueNotice oneDecimal media iteration).pcSession.wasActive = false := leavePc_rests follows

/-- What the idle loop says of a session that has just ended. -/
theorem idleNotice_gateway {session : AccessSession} (follows : loop.pcSession.Follows (some session)) :
    (loop.idleNotice oneDecimal iteration.now).accessNotice = some (session.notice oneDecimal loop.config iteration.now) ∧
      (loop.idleNotice oneDecimal iteration.now).accessNoticeEndTone = true := by
  have locals : loop.pcSession = .of session := follows
  rw [idleNotice, ended_of_follows follows]
  simp [leave, locals, SourceSession.of, AccessSession.notice]

theorem idleNotice_analogue {session : AccessSession} (rests : loop.pcSession.Follows none)
    (follows : loop.analogueSession.Follows (some session)) :
    (loop.idleNotice oneDecimal iteration.now).accessNotice = some (session.notice oneDecimal loop.config iteration.now) ∧
      (loop.idleNotice oneDecimal iteration.now).accessNoticeEndTone = true := by
  have locals : loop.analogueSession = .of session := follows
  rw [idleNotice, ended_of_follows rests, ended_of_follows follows]
  simp [leave, locals, SourceSession.of, AccessSession.notice]

/-- At most one source can have left the air, and the locals lie idle from then on. -/
theorem idleNotice_rests (gateway : loop.pcSession.Follows standing) (analogue : loop.analogueSession.Follows other)
    (one : standing = none ∨ other = none) :
    (loop.idleNotice oneDecimal iteration.now).pcSession.wasActive = false ∧
      (loop.idleNotice oneDecimal iteration.now).analogueSession.wasActive = false := by
  rw [idleNotice, ended_of_follows gateway, ended_of_follows analogue]
  cases standing with
  | some session =>
    obtain rfl : other = none := one.resolve_left (by simp)
    exact ⟨rfl, analogue⟩
  | none =>
    cases other with
    | some session => exact ⟨gateway, rfl⟩
    | none =>
      dsimp only [Option.map_none]
      split_ifs <;> exact ⟨gateway, analogue⟩

/-- What a selection leaves alone, and that it shows something exactly of a source on air. -/
theorem selectSource_rest {gateway : Option (ActiveInput × ActiveInput)} {analogueActive : Option ActiveInput} :
    let after := loop.selectSource gateway analogueActive
    after.config = loop.config ∧ after.pcSession = loop.pcSession ∧ after.analogueSession = loop.analogueSession ∧
      after.mediaActive.isSome = after.activeSourceFamily.isSome := by
  cases family : loop.activeSourceFamily with
  | none =>
    cases gateway <;> cases analogueActive <;> simp [selectSource, continueFamily, onAir, offAir, family]
  | some source =>
    cases source <;> cases gateway <;> cases analogueActive <;> simp [selectSource, continueFamily, onAir, offAir, family]

end PcGatewayLoop

namespace AccessRun

open SourceSession

/-- The locals of the loop are those of the session on air, and of no other. -/
structure Tracked (run : AccessRun) : Prop where
  onAir : run.session.isSome = run.loop.activeSourceFamily.isSome
  gateway : run.loop.pcSession.Follows (run.standing .nimOrGateway)
  analogue : run.loop.analogueSession.Follows (run.standing .analogue)

variable {oneDecimal : DoubleBits → Bytes} {stod : Bytes → Option DoubleBits} {run next : AccessRun} {iteration : PcIteration}
  {family other : ActiveSourceFamily} {session : AccessSession}

theorem standing_onAir (onAir : run.loop.activeSourceFamily = some family) : run.standing family = run.session := if_pos onAir

theorem standing_other (off : run.loop.activeSourceFamily ≠ some family) : run.standing family = none := if_neg off

/-- The session of a source on air. -/
theorem exists_session (tracked : run.Tracked) (onAir : run.loop.activeSourceFamily = some family) :
    ∃ session, run.session = some session ∧ run.standing family = some session := by
  obtain ⟨session, found⟩ := Option.isSome_iff_exists.mp (tracked.onAir.trans (by rw [onAir, Option.isSome_some]))
  exact ⟨session, found, (standing_onAir onAir).trans found⟩

theorem standing_exclusive : run.standing .nimOrGateway = none ∨ run.standing .analogue = none := by
  by_cases onAir : run.loop.activeSourceFamily = some .nimOrGateway
  · exact .inr (standing_other (by simp [onAir]))
  · exact .inl (standing_other onAir)

/-- An idle iteration announces the session that has ended, with its tone. -/
theorem idle_spec {selected : PcGatewayLoop} (config : selected.config = run.loop.config)
    (pc : selected.pcSession.Follows (run.standing .nimOrGateway)) (capture : selected.analogueSession.Follows (run.standing .analogue))
    (stood : run.standing family = some session) :
    (selected.idleNotice oneDecimal iteration.now).accessNotice = some (session.notice oneDecimal run.loop.config iteration.now) ∧
      (selected.idleNotice oneDecimal iteration.now).accessNoticeEndTone = true := by
  rw [← config]
  cases family with
  | nimOrGateway => exact PcGatewayLoop.idleNotice_gateway (stood ▸ pc)
  | analogue =>
    have rests : run.standing .nimOrGateway = none := standing_exclusive.resolve_right (by simp [stood])
    exact PcGatewayLoop.idleNotice_analogue (rests ▸ pc) (stood ▸ capture)

theorem tracked_idle {loop : PcGatewayLoop} (off : loop.activeSourceFamily = none) (pc : loop.pcSession.Follows none)
    (capture : loop.analogueSession.Follows none) : Tracked ⟨loop, none⟩ := by
  refine ⟨by simp [off], ?_, ?_⟩
  · rwa [standing_other (by simp [off])]
  · rwa [standing_other (by simp [off])]

theorem tracked_gateway {loop : PcGatewayLoop} (on : loop.activeSourceFamily = some .nimOrGateway)
    (pc : loop.pcSession.Follows (some session)) (capture : loop.analogueSession.Follows none) : Tracked ⟨loop, some session⟩ := by
  refine ⟨by simp [on], ?_, ?_⟩
  · rwa [standing_onAir on]
  · rwa [standing_other (by simp [on])]

theorem tracked_analogue {loop : PcGatewayLoop} (on : loop.activeSourceFamily = some .analogue)
    (pc : loop.pcSession.Follows none) (capture : loop.analogueSession.Follows (some session)) : Tracked ⟨loop, some session⟩ := by
  refine ⟨by simp [on], ?_, ?_⟩
  · rwa [standing_other (by simp [on])]
  · rwa [standing_onAir on]

/-- The notices of an iteration: a source on air is announced without a tone, a
session that leaves the channel idle with one, and the locals go on in step. -/
theorem step_spec (tracked : run.Tracked) (stepped : run.step oneDecimal stod iteration = some next) :
    next.Tracked ∧
      (∀ family, next.loop.activeSourceFamily = some family → ∃ notice, next.loop.handed = some (notice, false)) ∧
      (∀ family session, run.standing family = some session → next.loop.activeSourceFamily = none →
        next.loop.handed = some (some (session.notice oneDecimal run.loop.config iteration.now), true)) := by
  obtain ⟨after, iterated, rfl⟩ := Option.map_eq_some_iff.mp stepped
  obtain ⟨gateway, read, rfl⟩ := PcGatewayLoop.step_eq_some.mp iterated
  clear iterated stepped
  obtain ⟨config, pc, capture, shown⟩ := @PcGatewayLoop.selectSource_rest run.loop gateway (run.loop.analogueInput iteration)
  have kept := @PcGatewayLoop.updateNotice_selection (run.loop.selectSource gateway (run.loop.analogueInput iteration))
    iteration oneDecimal
  generalize run.loop.selectSource gateway (run.loop.analogueInput iteration) = selected at *
  simp only [PcGatewayLoop.selection, Prod.mk.injEq] at kept
  obtain ⟨-, same, -, sameMedia⟩ := kept
  have pcFollows : selected.pcSession.Follows (run.standing .nimOrGateway) := pc ▸ tracked.gateway
  have captureFollows : selected.analogueSession.Follows (run.standing .analogue) := capture ▸ tracked.analogue
  cases family : selected.activeSourceFamily with
  | none =>
    have updated : selected.updateNotice oneDecimal iteration = selected.idleNotice oneDecimal iteration.now := by
      rw [PcGatewayLoop.updateNotice, family]
    have off := same.trans family
    obtain ⟨pcRests, captureRests⟩ := @PcGatewayLoop.idleNotice_rests oneDecimal selected iteration _ _ pcFollows captureFollows
      standing_exclusive
    simp only [off]
    refine ⟨tracked_idle rfl ?_ ?_, by simp, ?_⟩
    · rw [updated]
      exact pcRests
    · rw [updated]
      exact captureRests
    · rintro source session stood -
      obtain ⟨notice, tone⟩ := @idle_spec oneDecimal run iteration source session selected config pcFollows captureFollows stood
      rw [updated, notice, tone]
  | some source =>
    obtain ⟨media, found⟩ := Option.isSome_iff_exists.mp (shown.trans (by rw [family, Option.isSome_some]))
    have on := same.trans family
    have showing := sameMedia.trans found
    simp only [on, showing]
    cases source with
    | nimOrGateway =>
      have updated : selected.updateNotice oneDecimal iteration = selected.gatewayNotice oneDecimal media iteration := by
        rw [PcGatewayLoop.updateNotice, family, found]
      refine ⟨tracked_gateway rfl ?_ ?_, fun _ _ => ⟨_, by rw [updated]; rfl⟩, by simp⟩
      · rw [updated]
        exact @PcGatewayLoop.gatewayNotice_follows oneDecimal selected media iteration _ pcFollows
      · rw [updated]
        exact @PcGatewayLoop.gatewayNotice_rests oneDecimal selected media iteration _ captureFollows
    | analogue =>
      have updated : selected.updateNotice oneDecimal iteration = selected.analogueNotice oneDecimal media iteration := by
        rw [PcGatewayLoop.updateNotice, family, found]
      refine ⟨tracked_analogue rfl ?_ ?_, fun _ _ => ⟨_, by rw [updated]; rfl⟩, by simp⟩
      · rw [updated]
        exact @PcGatewayLoop.analogueNotice_rests oneDecimal selected media iteration _ pcFollows
      · rw [updated]
        exact @PcGatewayLoop.analogueNotice_follows oneDecimal selected media iteration _ captureFollows

/-- The family after an iteration, in the latched order. -/
theorem step_family (stepped : run.step oneDecimal stod iteration = some next) :
    next.loop.activeSourceFamily =
      Latch.next ActiveSourceFamily.all (run.loop.input iteration) run.loop.activeSourceFamily := by
  obtain ⟨after, iterated, rfl⟩ := Option.map_eq_some_iff.mp stepped
  exact (PcGatewayLoop.step_latch iterated).1

/-- A session that ends is announced exactly if it leaves the channel idle. -/
theorem announced_iff (tracked : run.Tracked) (stepped : run.step oneDecimal stod iteration = some next) :
    Announced oneDecimal run iteration next ↔ NoHandover run iteration := by
  obtain ⟨-, toneless, toned⟩ := step_spec tracked stepped
  have latched := step_family stepped
  constructor
  · intro announced family held gone other
    by_contra usable
    rw [held, Latch.next_of_gone gone, ← Latch.next_none] at latched
    have left : next.loop.activeSourceFamily ≠ some family := fun stayed => by
      have mine := Latch.input_of_next (latched.symm.trans stayed)
      simp [gone] at mine
    obtain ⟨session, -, handed⟩ := announced family held left
    cases found : next.loop.activeSourceFamily with
    | some taker =>
      obtain ⟨notice, without⟩ := toneless taker found
      simp [handed] at without
    | none =>
      have nothing := (Latch.next_eq_none_iff ActiveSourceFamily.mem_all).mp (latched.symm.trans found) other
      exact usable nothing
  · intro alone family held left
    obtain ⟨session, found, stood⟩ := exists_session tracked held
    have gone : run.loop.input iteration family = none := by
      by_contra usable
      exact left (by rw [latched, held, Latch.next_of_input (Option.isSome_iff_ne_none.mpr usable)])
    have idle : next.loop.activeSourceFamily = none :=
      latched.trans ((Latch.next_eq_none_iff ActiveSourceFamily.mem_all).mpr (alone family held gone))
    exact ⟨session, found, toned family session stood idle⟩

end AccessRun

/-- From the start of the PC daemon, whatever comes in: every session ends with
its notice exactly if no source ever takes the air over from the other one. -/
theorem sessions_announced_iff_no_handover (oneDecimal : DoubleBits → Bytes) (stod : Bytes → Option DoubleBits)
    (config : RepeaterConfig) (iterations : List PcIteration) :
    Throughout (AccessRun.step oneDecimal stod) (AccessRun.Announced oneDecimal) ⟨{ config }, none⟩ iterations ↔
      Guarded (AccessRun.step oneDecimal stod) AccessRun.NoHandover ⟨{ config }, none⟩ iterations :=
  throughout_iff_guarded AccessRun.Tracked (fun _ _ _ tracked _ stepped => (AccessRun.step_spec tracked stepped).1)
    (fun _ _ _ tracked stepped => AccessRun.announced_iff tracked stepped) ⟨rfl, rfl, rfl⟩

/-- The gateway on air, the capture beside it, and then the capture alone. -/
def gatewayIteration : PcIteration :=
  { now := 1, gatewayActive := some ⟨⟨1⟩, {}, {}⟩, gatedAnalogueStatus := usableCapture, deviceExists := true }

def captureIteration : PcIteration := { now := 2, gatedAnalogueStatus := usableCapture, deviceExists := true }

/-- The capture takes over, and its notice is handed over, without a tone. -/
theorem handover_loses_the_notice : ¬ Throughout (AccessRun.step (fun _ => []) fun _ => none)
    (AccessRun.Announced fun _ => []) ⟨{ config := captureConfig }, none⟩ [gatewayIteration, captureIteration] := by
  have toneless : ((AccessRun.step (fun _ => []) (fun _ => none) ⟨{ config := captureConfig }, none⟩ gatewayIteration).bind fun onAir =>
      (AccessRun.step (fun _ => []) (fun _ => none) onAir captureIteration).map fun after =>
        (onAir.loop.activeSourceFamily, after.loop.activeSourceFamily, after.loop.handed.map Prod.snd)) =
      some (some .nimOrGateway, some .analogue, some false) := by
    decide +kernel
  obtain ⟨onAir, first, rest⟩ := Option.bind_eq_some_iff.mp toneless
  obtain ⟨after, second, facts⟩ := Option.map_eq_some_iff.mp rest
  simp only [Prod.mk.injEq] at facts
  obtain ⟨before, taken, handed⟩ := facts
  intro along
  obtain ⟨-, onward⟩ := along onAir first
  obtain ⟨announced, -⟩ := onward after second
  obtain ⟨session, -, toned⟩ := announced .nimOrGateway before (by simp [taken])
  simp [toned] at handed

end WhRepeater
