import Mathlib.Data.Nat.Init

/-! Work that interruptions make longer. Every instant does one unit of it, and
an instant that is struck adds `extra` units. `Spends` is the run from a first
instant to the one after the last; it exists exactly if some number of
instants outweighs the strikes among them. -/
namespace Interruptions

/-- The struck instants among the `n` from `start` on. -/
def count (struck : Nat → Bool) (start : Nat) : (n : Nat) → Nat
  | 0 => 0
  | n + 1 => (if struck start then 1 else 0) + count struck (start + 1) n

theorem count_always (struck : Nat → Bool) (always : ∀ instant, struck instant = true) (start n : Nat) :
    count struck start n = n := by
  induction n generalizing start with
  | zero => rfl
  | succ n ih =>
    simp only [count, always, ↓reduceIte, ih]
    omega

/-- Work of `budget` units, begun at an instant, is done before another. -/
inductive Spends (struck : Nat → Bool) (extra : Nat) : Nat → Nat → Nat → Prop where
  | done : Spends struck extra start 0 start
  | calm (clear : struck start = false) (rest : Spends struck extra (start + 1) budget stop) :
      Spends struck extra start (budget + 1) stop
  | struck (hit : struck start = true) (rest : Spends struck extra (start + 1) (budget + extra) stop) :
      Spends struck extra start (budget + 1) stop

variable {struck : Nat → Bool} {extra start budget stop : Nat}

theorem spends_length (spends : Spends struck extra start budget stop) :
    ∃ n, stop = start + n ∧ n = budget + extra * count struck start n := by
  induction spends with
  | done => exact ⟨0, rfl, rfl⟩
  | calm clear rest ih =>
    obtain ⟨n, rfl, length⟩ := ih
    refine ⟨n + 1, by omega, ?_⟩
    simp only [count, clear, Bool.false_eq_true, ↓reduceIte, Nat.zero_add]
    omega
  | struck hit rest ih =>
    obtain ⟨n, rfl, length⟩ := ih
    refine ⟨n + 1, by omega, ?_⟩
    simp only [count, hit, ↓reduceIte, Nat.mul_add, Nat.mul_one]
    omega

theorem spends_unique (first : Spends struck extra start budget stop)
    (second : Spends struck extra start budget other) : stop = other := by
  induction first with
  | done =>
    cases second
    rfl
  | calm clear rest ih =>
    cases second with
    | calm _ rest => exact ih rest
    | struck hit _ => exact absurd hit (by simp [clear])
  | struck hit rest ih =>
    cases second with
    | calm clear _ => exact absurd hit (by simp [clear])
    | struck _ rest => exact ih rest

/-- Two pieces of work one after the other are one piece. -/
theorem spends_append (first : Spends struck extra start budget middle)
    (second : Spends struck extra middle more stop) :
    Spends struck extra start (budget + more) stop := by
  induction first with
  | done => simpa using second
  | @calm start budget stop clear rest ih =>
    have joined := ih second
    rw [Nat.add_right_comm]
    exact .calm clear joined
  | @struck start budget stop hit rest ih =>
    have joined := ih second
    rw [Nat.add_right_comm]
    exact .struck hit (by rwa [Nat.add_right_comm])

/-- A piece of work can be cut anywhere: strikes on its first part lengthen
the first part. -/
theorem spends_split (spends : Spends struck extra start total stop) (cut : total = budget + more) :
    ∃ middle, Spends struck extra start budget middle ∧ Spends struck extra middle more stop := by
  induction spends generalizing budget with
  | done =>
    obtain ⟨rfl, rfl⟩ : budget = 0 ∧ more = 0 := by omega
    exact ⟨_, .done, .done⟩
  | @calm start left stop clear rest ih =>
    cases budget with
    | zero =>
      obtain rfl : more = left + 1 := by omega
      exact ⟨start, .done, .calm clear rest⟩
    | succ budget =>
      obtain ⟨middle, first, second⟩ := ih (show left = budget + more by omega)
      exact ⟨middle, .calm clear first, second⟩
  | @struck start left stop hit rest ih =>
    cases budget with
    | zero =>
      obtain rfl : more = left + 1 := by omega
      exact ⟨start, .done, .struck hit rest⟩
    | succ budget =>
      obtain ⟨middle, first, second⟩ := ih (show left + extra = (budget + extra) + more by omega)
      exact ⟨middle, .struck hit first, second⟩

theorem spends_le (spends : Spends struck extra start budget stop) : start + budget ≤ stop := by
  obtain ⟨n, rfl, length⟩ := spends_length spends
  have grown : budget ≤ n := by rw [length]; exact Nat.le_add_right _ _
  omega

/-- Under strikes at every instant no work ends. -/
theorem not_spends_always (always : ∀ instant, struck instant = true) (some : 0 < budget) (more : 0 < extra) :
    ¬ Spends struck extra start budget stop := by
  intro spends
  obtain ⟨n, -, length⟩ := spends_length spends
  rw [count_always struck always] at length
  have grown : n ≤ extra * n := Nat.le_mul_of_pos_left n more
  omega

/-- Work ends within `n` instants once these outweigh it and its strikes. -/
theorem spends_of_outweighed (n : Nat) (outweighed : budget + extra * count struck start n ≤ n) :
    ∃ stop, stop ≤ start + n ∧ Spends struck extra start budget stop := by
  induction n generalizing start budget with
  | zero =>
    obtain rfl : budget = 0 := by omega
    exact ⟨start, by omega, .done⟩
  | succ n ih =>
    cases budget with
    | zero => exact ⟨start, by omega, .done⟩
    | succ budget =>
      cases now : struck start with
      | false =>
        simp only [count, now, Bool.false_eq_true, ↓reduceIte, Nat.zero_add] at outweighed
        have later : budget + extra * count struck (start + 1) n ≤ n := by omega
        obtain ⟨stop, near, rest⟩ := ih later
        exact ⟨stop, by omega, .calm now rest⟩
      | true =>
        simp only [count, now, ↓reduceIte, Nat.mul_add, Nat.mul_one] at outweighed
        have later : (budget + extra) + extra * count struck (start + 1) n ≤ n := by omega
        obtain ⟨stop, near, rest⟩ := ih later
        exact ⟨stop, by omega, .struck now rest⟩

end Interruptions
