import Mathlib.Algebra.BigOperators.Group.List.Lemmas
import Mathlib.Algebra.GroupWithZero.Nat
import Mathlib.Algebra.Order.Group.Int
import Mathlib.Algebra.Order.Group.Unbundled.Basic
import Mathlib.Data.List.Induction
import WhRepeater.PcGatewayInput

/-! When the input of the PC counts as active. A packet is delivered at the time
of its datagram, and the stamp is the time of the last datagram or error, so the
two part when bad traffic follows good. -/
namespace WhRepeater

namespace PcGatewayInput

/-- A datagram that is refused, or an error. -/
def Spoils (size : Nat) (received : Received) : Prop := stamps size received = true ∧ delivers size received = 0

/-- What is asked of `active`: the sink was handed a packet within the timeout. -/
def Earned (input : PcGatewayInput) (now : Time) (timeout : Duration) : Prop :=
  input.active now timeout = true → ∃ delivery ∈ input.delivered, now - delivery.1 ≤ timeout

/-- No packet is counted (the counter wraps), or none but good traffic was
received within the timeout, or some good traffic was. -/
def Unspoilt (size : Nat) (events : List (Time × Received)) (now : Time) (timeout : Duration) : Prop :=
  (events.map fun event => delivers size event.2).sum % 2 ^ 64 = 0 ∨
    ((∃ event ∈ events, Spoils size event.2 ∧ now - event.1 ≤ timeout) →
      ∃ event ∈ events, 0 < delivers size event.2 ∧ now - event.1 ≤ timeout)

/-- What the members say about what was received. -/
structure Observed (size : Nat) (events : List (Time × Received)) (input : PcGatewayInput) : Prop where
  times : ∀ time, time ∈ input.delivered.map Prod.fst ↔ ∃ event ∈ events, 0 < delivers size event.2 ∧ event.1 = time
  packets : input.status.transportPackets = UInt64.ofNat (events.map fun event => delivers size event.2).sum
  stamp : (∃ event ∈ events, stamps size event.2 = true) → ∀ limit,
    limit ≤ input.status.updatedAt ↔ ∃ event ∈ events, stamps size event.2 = true ∧ limit ≤ event.1

variable {size : Nat} {events : List (Time × Received)} {input : PcGatewayInput} {event : Time × Received}

theorem observe_observed (observed : Observed size events input) (buffer : input.config.packetSize.toNat = size)
    (later : ∀ earlier ∈ events, earlier.1 ≤ event.1) : Observed size (events ++ [event]) (input.observe event) := by
  obtain ⟨times, packets⟩ := @observe_delivers input event
  rw [buffer] at times packets
  constructor
  · intro time
    rw [times, List.mem_append, observed.times time, List.mem_replicate]
    constructor
    · rintro (⟨earlier, among, good, same⟩ | ⟨good, rfl⟩)
      · exact ⟨earlier, List.mem_append_left _ among, good, same⟩
      · exact ⟨event, List.mem_append_right _ List.mem_cons_self, Nat.pos_of_ne_zero good, rfl⟩
    · rintro ⟨other, among, good, rfl⟩
      obtain earlier | last := List.mem_append.mp among
      · exact .inl ⟨other, earlier, good, rfl⟩
      · obtain rfl := List.mem_singleton.mp last
        exact .inr ⟨Nat.ne_of_gt good, rfl⟩
  · rw [packets, observed.packets, ← UInt64.ofNat_add]
    simp
  · intro _ limit
    cases stamped : stamps size event.2 with
    | true =>
      rw [observe_of_stamps (by rwa [buffer])]
      constructor
      · intro within
        exact ⟨event, List.mem_append_right _ List.mem_cons_self, stamped, within⟩
      · rintro ⟨other, among, -, within⟩
        obtain earlier | last := List.mem_append.mp among
        · exact Int.le_trans within (later other earlier)
        · obtain rfl := List.mem_singleton.mp last
          exact within
    | false =>
      rename_i some
      obtain ⟨other, among, stamping⟩ := some
      have earlier : other ∈ events := by
        obtain earlier | last := List.mem_append.mp among
        · exact earlier
        · obtain rfl := List.mem_singleton.mp last
          exact absurd stamping (by simp [stamped])
      rw [observe_of_unstamped (by rwa [buffer]), observed.stamp ⟨other, earlier, stamping⟩ limit]
      constructor
      · rintro ⟨good, among, stamping, within⟩
        exact ⟨good, List.mem_append_left _ among, stamping, within⟩
      · rintro ⟨good, among, stamping, within⟩
        obtain earlier | last := List.mem_append.mp among
        · exact ⟨good, earlier, stamping, within⟩
        · obtain rfl := List.mem_singleton.mp last
          exact absurd stamping (by simp [stamped])

theorem observed_of_fresh (fresh : Observed size [] input) (buffer : input.config.packetSize.toNat = size)
    (ordered : events.Pairwise fun earlier later => earlier.1 ≤ later.1) : Observed size events (events.foldl observe input) := by
  induction events using List.reverseRecOn with
  | nil => exact fresh
  | append_singleton events event ih =>
    obtain ⟨before, -, across⟩ := List.pairwise_append.mp ordered
    rw [List.foldl_append]
    refine observe_observed (ih before) (by rw [observed_config, buffer]) ?_
    intro earlier among
    exact across earlier among event List.mem_cons_self

/-- `active` is earned exactly if bad traffic within the timeout comes with
good traffic within it. -/
theorem earned_iff_unspoilt_of_observed (observed : Observed size events input) (now : Time) (timeout : Duration) :
    Earned input now timeout ↔ Unspoilt size events now timeout := by
  have recent : (∃ delivery ∈ input.delivered, now - delivery.1 ≤ timeout) ↔
      ∃ event ∈ events, 0 < delivers size event.2 ∧ now - event.1 ≤ timeout := by
    constructor
    · rintro ⟨delivery, among, within⟩
      obtain ⟨event, received, good, same⟩ := (observed.times delivery.1).mp (List.mem_map_of_mem among)
      exact ⟨event, received, good, by rwa [same]⟩
    · rintro ⟨event, received, good, within⟩
      obtain ⟨delivery, among, same⟩ := List.mem_map.mp ((observed.times event.1).mpr ⟨event, received, good, rfl⟩)
      exact ⟨delivery, among, by rwa [same]⟩
  have counted : input.status.transportPackets = 0 ↔ (events.map fun event => delivers size event.2).sum % 2 ^ 64 = 0 := by
    rw [observed.packets, ← UInt64.toNat_inj]
    simp
  unfold Earned Unspoilt
  rw [recent, ← counted]
  by_cases none : input.status.transportPackets = 0
  · exact iff_of_true (fun live => absurd none (of_decide_eq_true live).1) (.inl none)
  · -- Something was delivered, so the stamp is the time of the last datagram or error.
    have some : ∃ event ∈ events, stamps size event.2 = true := by
      by_contra silent
      push Not at silent
      refine none ?_
      rw [counted, List.sum_eq_zero, Nat.zero_mod]
      intro count among
      obtain ⟨event, received, rfl⟩ := List.mem_map.mp among
      by_contra delivered
      exact silent event received (stamps_of_delivers (Nat.pos_of_ne_zero delivered))
    have live : input.active now timeout = true ↔ ∃ event ∈ events, stamps size event.2 = true ∧ now - event.1 ≤ timeout := by
      have stamp := observed.stamp some (now - timeout)
      simp only [active, decide_eq_true_eq, ne_eq, none, not_false_eq_true, true_and]
      rw [sub_le_comm, stamp]
      exact exists_congr fun event => and_congr_right fun _ => and_congr_right fun _ => sub_le_comm
    rw [live]
    constructor
    · intro earned
      refine .inr ?_
      rintro ⟨event, received, ⟨stamping, -⟩, within⟩
      exact earned ⟨event, received, stamping, within⟩
    · rintro (absent | unspoilt)
      · exact absurd absent none
      · rintro ⟨event, received, stamping, within⟩
        by_cases good : 0 < delivers size event.2
        · exact ⟨event, received, good, within⟩
        · exact unspoilt ⟨event, received, ⟨stamping, Nat.eq_zero_of_not_pos good⟩, within⟩

theorem opened_observed (config : GatewayInputConfig) (now : Time) : Observed size [] (opened config now) := by
  refine ⟨?_, rfl, nofun⟩
  intro time
  simp [opened]

/-- Whatever was received in the calls, in order of time, and whenever the
question is asked. -/
theorem earned_iff_unspoilt (config : GatewayInputConfig) (start : Time) (calls : List (List (Time × Received)))
    (now : Time) (timeout : Duration)
    (ordered : (history (opened config start).config.packetSize.toNat calls).Pairwise
      fun earlier later => earlier.1 ≤ later.1) :
    Earned (calls.foldl pump (opened config start)) now timeout ↔
      Unspoilt (opened config start).config.packetSize.toNat
        (history (opened config start).config.packetSize.toNat calls) now timeout := by
  rw [pumps_eq]
  exact earned_iff_unspoilt_of_observed (observed_of_fresh (opened_observed config start) rfl ordered) now timeout

/-- One good datagram, asked for within the timeout. -/
theorem earned_by_packet : Earned ([[(1, .datagram emptyPacket)]].foldl pump (opened {} 0)) 2 5 := by
  have received : history 1316 [[(1, .datagram emptyPacket)]] = [((1 : Time), .datagram emptyPacket)] := by
    decide +kernel
  refine (earned_iff_unspoilt {} 0 [[(1, .datagram emptyPacket)]] 2 5 ?_).mpr (.inr ?_)
  · rw [show (opened {} 0).config.packetSize.toNat = 1316 from rfl, received]
    exact List.pairwise_singleton _ _
  · rw [show (opened {} 0).config.packetSize.toNat = 1316 from rfl, received]
    rintro ⟨event, among, -, within⟩
    obtain rfl := List.mem_singleton.mp among
    exact ⟨_, among, by decide +kernel, within⟩

/-- A packet at 1, and a byte that is no packet at 10: at 11 the input is
active, though nothing was delivered for 10. -/
theorem garbage_keeps_active :
    ¬ Earned ([[(1, .datagram emptyPacket)], [(10, .datagram [0])]].foldl pump (opened {} 0)) 11 2 := by
  intro earned
  obtain ⟨delivery, among, within⟩ := earned (by decide +kernel)
  have only : ([[(1, .datagram emptyPacket)], [(10, .datagram [0])]].foldl pump (opened {} 0)).delivered =
      [((1 : Time), emptyPacket)] := by decide +kernel
  rw [only] at among
  obtain rfl := List.mem_singleton.mp among
  exact absurd within (by decide)

end PcGatewayInput
end WhRepeater
