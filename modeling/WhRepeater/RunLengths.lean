import Mathlib.Data.List.Basic

/-! The runs of equal elements in a list, with their lengths. -/
namespace RunLengths

variable {α : Type*} [DecidableEq α]

/-- The runs in order. -/
def runs : List α → List (α × Nat)
  | [] => []
  | unit :: rest =>
    match runs rest with
    | [] => [(unit, 1)]
    | (next, length) :: later => if next = unit then (unit, length + 1) :: later else (unit, 1) :: (next, length) :: later

@[simp] theorem runs_eq_nil {units : List α} : runs units = [] ↔ units = [] := by
  cases units with
  | nil => simp [runs]
  | cons unit rest =>
    rw [runs]
    split
    · simp
    · split <;> simp

theorem head_runs (units : List α) : (runs units).head?.map Prod.fst = units.head? := by
  cases units with
  | nil => rfl
  | cons unit rest =>
    rw [runs]
    split
    · rfl
    · split <;> rfl

/-- A run ends where another element comes. -/
theorem runs_cons_of_ne {unit : α} {rest : List α} (other : rest.head? ≠ some unit) :
    runs (unit :: rest) = (unit, 1) :: runs rest := by
  have first := head_runs rest
  rw [runs]
  split
  · rename_i none_left
    rw [none_left]
  · rename_i next length later found
    have apart : next ≠ unit := by
      rintro rfl
      rw [found] at first
      exact other first.symm
    rw [if_neg apart, found]

theorem runs_replicate_append {unit : α} {rest : List α} (other : rest.head? ≠ some unit) {length : Nat} (positive : 0 < length) :
    runs (List.replicate length unit ++ rest) = (unit, length) :: runs rest := by
  induction length with
  | zero => omega
  | succ shorter ih =>
    cases shorter with
    | zero => exact runs_cons_of_ne other
    | succ shorter =>
      rw [List.replicate_succ, List.cons_append, runs, ih (by omega)]
      simp

end RunLengths
