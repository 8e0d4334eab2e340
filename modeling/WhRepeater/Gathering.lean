import Mathlib.Data.List.Basic

/-! Items of a stream gathered into groups of a fixed size, one by one, and
groups placed in the stream they come from. A machine whose steps gather is run
by `foldl_gathers`; what it gathers is in its stream, in order, by `gather_spec`;
and the groups stay whole units while they start on whole units, by `Placed`. -/
namespace Gathering

variable {State α : Type*} {size unit : Nat}

/-- What is not yet a group, and the groups that are full, the latest first. -/
structure Gathered (α : Type*) where
  pending : List α := []
  groups : List (List α) := []

def add (size : Nat) (held : Gathered α) (item : α) : Gathered α :=
  if (held.pending ++ [item]).length = size then ⟨[], (held.pending ++ [item]) :: held.groups⟩
  else ⟨held.pending ++ [item], held.groups⟩

def gather (size : Nat) (held : Gathered α) (items : List α) : Gathered α := items.foldl (add size) held

/-- Steps that gather, under an invariant they keep, gather. -/
theorem foldl_gathers (size : Nat) (invariant : State → Prop) (view : State → Gathered α) (each : State → α → State)
    (kept : ∀ state item, invariant state → invariant (each state item))
    (adds : ∀ state item, invariant state → view (each state item) = add size (view state) item)
    {state : State} (holds : invariant state) (items : List α) :
    view (items.foldl each state) = gather size (view state) items := by
  induction items generalizing state with
  | nil => rfl
  | cons item rest ih =>
    refine (ih (kept state item holds)).trans ?_
    rw [adds state item holds]
    rfl

/-- The new groups are full, and with what is pending they are the items. -/
theorem gather_spec (held : Gathered α) (items : List α) (room : held.pending.length < size) :
    ∃ fresh : List (List α), (gather size held items).groups = fresh.reverse ++ held.groups ∧
      (∀ group ∈ fresh, group.length = size) ∧
      held.pending ++ items = fresh.flatten ++ (gather size held items).pending ∧
      (gather size held items).pending.length < size := by
  induction items generalizing held with
  | nil => exact ⟨[], rfl, nofun, by simp [gather], room⟩
  | cons item rest ih =>
    have added : (held.pending ++ [item]).length = held.pending.length + 1 := by simp
    have step : gather size held (item :: rest) = gather size (add size held item) rest := rfl
    by_cases full : (held.pending ++ [item]).length = size
    · have next : add size held item = ⟨[], (held.pending ++ [item]) :: held.groups⟩ := if_pos full
      obtain ⟨fresh, groups, sizes, items, short⟩ := ih (add size held item) (by rw [next]; simp only [List.length_nil]; omega)
      rw [step]
      rw [next] at groups items
      refine ⟨(held.pending ++ [item]) :: fresh, by rw [next, groups]; simp, ?_, ?_, short⟩
      · intro group among
        obtain rfl | later := List.mem_cons.mp among
        · exact full
        · exact sizes group later
      · rw [next, List.flatten_cons, List.append_assoc _ fresh.flatten, ← items]
        simp
    · have next : add size held item = ⟨held.pending ++ [item], held.groups⟩ := if_neg full
      obtain ⟨fresh, groups, sizes, items, short⟩ := ih (add size held item) (by rw [next]; dsimp only; omega)
      rw [step]
      rw [next] at groups items
      exact ⟨fresh, by rw [next, groups], sizes, by rw [next, ← items]; simp, short⟩

/-- How much is pending, and whether a group was filled, follow from the lengths. -/
theorem gather_length (held : Gathered α) (items : List α) (room : held.pending.length < size) :
    (gather size held items).pending.length = (held.pending.length + items.length) % size ∧
      (held.pending.length + items.length < size → (gather size held items).groups = held.groups) ∧
      (size ≤ held.pending.length + items.length →
        ∃ group ∈ (gather size held items).groups, group.length = size) := by
  obtain ⟨fresh, groups, sizes, same, short⟩ := gather_spec held items room
  have full : fresh.flatten.length = size * fresh.length := by
    rw [List.length_flatten, List.map_congr_left sizes]
    simp [Nat.mul_comm]
  have lengths := congrArg List.length same
  rw [List.length_append, List.length_append, full] at lengths
  refine ⟨?_, ?_, ?_⟩
  · rw [lengths, Nat.mul_add_mod, Nat.mod_eq_of_lt short]
  · intro few
    cases fresh with
    | nil => exact groups
    | cons group rest =>
      rw [List.length_cons, Nat.mul_succ] at lengths
      omega
  · intro many
    cases fresh with
    | nil =>
      rw [List.length_nil] at lengths
      omega
    | cons group rest =>
      refine ⟨group, ?_, sizes group List.mem_cons_self⟩
      rw [groups]
      simp

/-! ## Places in the stream -/

/-- Groups of a stream, the latest first: each a number of whole units, begun
on a whole unit of the stream, and behind the groups before it. -/
inductive Placed (unit : Nat) : (stream : List α) → (groups : List (List α)) → Prop
  | start : Placed unit [] []
  | pass {stream : List α} {groups : List (List α)} (more : List α) :
      Placed unit stream groups → Placed unit (stream ++ more) groups
  | take {stream : List α} {groups : List (List α)} (group : List α) :
      Placed unit stream groups → stream.length % unit = 0 → group.length % unit = 0 → group ≠ [] →
        Placed unit (stream ++ group) (group :: groups)

/-- Groups of whole units that follow one another from a whole unit on. -/
theorem placed_append {stream : List α} {groups fresh : List (List α)} (placed : Placed unit stream groups)
    (aligned : stream.length % unit = 0) (whole : ∀ group ∈ fresh, group.length % unit = 0 ∧ group ≠ []) :
    Placed unit (stream ++ fresh.flatten) (fresh.reverse ++ groups) ∧
      (stream ++ fresh.flatten).length % unit = 0 := by
  induction fresh generalizing stream groups with
  | nil => simpa using ⟨placed, aligned⟩
  | cons group rest ih =>
    obtain ⟨units, some⟩ := whole group List.mem_cons_self
    have next : (stream ++ group).length % unit = 0 := by
      rw [List.length_append, Nat.add_mod, aligned, units]
      simp
    have later := ih (placed.take group aligned units some) next
      fun other among => whole other (List.mem_cons_of_mem _ among)
    simpa using later

theorem Placed.units {stream : List α} {groups : List (List α)} (placed : Placed unit stream groups) :
    ∀ group ∈ groups, group.length % unit = 0 ∧ group ≠ [] := by
  induction placed with
  | start => exact nofun
  | pass _ _ ih => exact ih
  | take latest _ _ units some ih =>
    intro group among
    obtain rfl | earlier := List.mem_cons.mp among
    · exact ⟨units, some⟩
    · exact ih group earlier

end Gathering
