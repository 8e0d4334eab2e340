import Mathlib.Data.List.Basic

/-! Computations over the integers that record every number they compute, also where
they end without a result. A machine whose words hold all the recorded numbers
computes the same; `Within` says that they do, and goes through a computation by
`within_bind`. -/
namespace RecordedSteps

structure Recorded (α : Type) where
  result : Option α
  steps : List Int

namespace Recorded

variable {α β γ : Type} {low high : Int}

instance : Monad Recorded where
  pure value := ⟨some value, []⟩
  bind first next :=
    match first.result with
    | none => ⟨none, first.steps⟩
    | some value => ⟨(next value).result, first.steps ++ (next value).steps⟩

/-- The result of an operation. -/
def computed (value : Int) : Recorded Int := ⟨some value, [value]⟩

def refused : Recorded α := ⟨none, []⟩

/-- No number that was computed is out of range. -/
def Within (low high : Int) (recorded : Recorded α) : Prop := ∀ step ∈ recorded.steps, low ≤ step ∧ step ≤ high

@[simp] theorem result_pure (value : α) : (pure value : Recorded α).result = some value := rfl

@[simp] theorem result_computed (value : Int) : (computed value).result = some value := rfl

@[simp] theorem result_refused : (refused : Recorded α).result = none := rfl

@[simp] theorem result_bind (first : Recorded α) (next : α → Recorded β) :
    (first >>= next).result = first.result.bind fun value => (next value).result := by
  change (match first.result with | none => _ | some value => _ : Recorded β).result = _
  cases first.result <;> rfl

theorem bind_pure (first : Recorded α) : (first >>= pure) = first := by
  obtain ⟨_ | value, steps⟩ := first
  · rfl
  · change Recorded.mk (some value) (steps ++ []) = _
    rw [List.append_nil]

@[simp] theorem within_pure (value : α) : (pure value : Recorded α).Within low high := by
  rintro _ ⟨⟩

@[simp] theorem within_refused : (refused : Recorded α).Within low high := by
  rintro _ ⟨⟩

@[simp] theorem within_computed (value : Int) : (computed value).Within low high ↔ low ≤ value ∧ value ≤ high := by
  simp [Within, computed]

/-- What is computed next is computed of a result. -/
theorem within_bind (first : Recorded α) (next : α → Recorded β) :
    (first >>= next).Within low high ↔
      first.Within low high ∧ ∀ value, first.result = some value → (next value).Within low high := by
  change Within low high (match first.result with | none => _ | some value => _ : Recorded β) ↔ _
  cases first.result with
  | none => simp [Within]
  | some value => simp only [Within, List.forall_mem_append, Option.some.injEq, forall_eq']

theorem within_bind_some {first : Recorded α} {value : α} (result : first.result = some value) (next : α → Recorded β) :
    (first >>= next).Within low high ↔ first.Within low high ∧ (next value).Within low high := by
  simp [within_bind, result]

theorem within_bind_none {first : Recorded α} (result : first.result = none) (next : α → Recorded β) :
    (first >>= next).Within low high ↔ first.Within low high := by
  simp [within_bind, result]

@[simp] theorem within_computed_bind (value : Int) (next : Int → Recorded β) :
    (computed value >>= next).Within low high ↔ (low ≤ value ∧ value ≤ high) ∧ (next value).Within low high := by
  rw [within_bind_some (result_computed value), within_computed]

end Recorded
end RecordedSteps
