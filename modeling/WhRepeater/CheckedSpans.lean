import Mathlib.Algebra.Group.Nat.Defs
import Mathlib.Data.List.Basic

/-! Programs that read spans of memory whose bounds nothing checks, and count in words.
Here a read past the end and a count outside of its word end the program, so that one
without a fault has none of them. -/
namespace CheckedSpans

inductive Fault where
  /-- A read past the end of a span. -/
  | outside
  /-- A size below zero, or larger than a word. -/
  | wrapped
  deriving Repr, DecidableEq

variable {α β : Type} {items : List α}

def read (items : List α) (index : Nat) : Except Fault α :=
  match items[index]? with
  | some item => .ok item
  | none => .error .outside

def subspan (items : List α) (offset count : Nat) : Except Fault (List α) :=
  if offset + count ≤ items.length then .ok ((items.drop offset).take count) else .error .outside

/-- All that is behind an offset. -/
def subspanFrom (items : List α) (offset : Nat) : Except Fault (List α) :=
  if offset ≤ items.length then .ok (items.drop offset) else .error .outside

/-- What is left of a size. -/
def difference (size taken : Nat) : Except Fault Nat := if taken ≤ size then .ok (size - taken) else .error .wrapped

/-- Sizes have 64 bits. -/
def fits (size : Nat) : Except Fault Unit := if size < 2 ^ 64 then .ok () else .error .wrapped

theorem read_ok {index : Nat} (inside : index < items.length) : read items index = .ok (items.get ⟨index, inside⟩) := by
  rw [read, List.getElem?_eq_getElem inside]
  rfl

theorem subspan_ok {offset count : Nat} (inside : offset + count ≤ items.length) :
    subspan items offset count = .ok ((items.drop offset).take count) := if_pos inside

theorem subspanFrom_ok {offset : Nat} (inside : offset ≤ items.length) :
    subspanFrom items offset = .ok (items.drop offset) := if_pos inside

/-- A read of what is behind an offset. -/
theorem read_behind {offset : Nat} {rest : List α} (behind : items.drop offset = rest) (index : Nat) :
    read items (offset + index) = read rest index := by
  rw [read, read, ← behind, List.getElem?_drop]

theorem subspan_behind {offset : Nat} {span rest : List α} (behind : items.drop offset = span ++ rest) (inside : offset ≤ items.length) :
    subspan items offset span.length = .ok span := by
  have size := congrArg List.length behind
  rw [List.length_drop, List.length_append] at size
  rw [subspan_ok (by omega), behind, List.take_left]

theorem difference_ok {size taken : Nat} (enough : taken ≤ size) : difference size taken = .ok (size - taken) := if_pos enough

/-- The program ends with a result. -/
def Faultless (outcome : Except Fault α) : Prop := ∃ value, outcome = .ok value

theorem faultless_pure (value : α) : Faultless (pure value : Except Fault α) := ⟨value, rfl⟩

theorem faultless_bind {first : Except Fault α} {next : α → Except Fault β} (here : Faultless first)
    (later : ∀ value, first = .ok value → Faultless (next value)) : Faultless (first >>= next) := by
  obtain ⟨value, ends⟩ := here
  rw [ends]
  exact later value ends

theorem faultless_if {condition : Prop} [Decidable condition] {first second : Except Fault α}
    (met : condition → Faultless first) (otherwise : ¬ condition → Faultless second) :
    Faultless (if condition then first else second) := by
  split
  case isTrue held => exact met held
  case isFalse fails => exact otherwise fails

theorem faultless_read {index : Nat} (inside : index < items.length) : Faultless (read items index) := ⟨_, read_ok inside⟩

theorem faultless_subspan {offset count : Nat} (inside : offset + count ≤ items.length) :
    Faultless (subspan items offset count) := ⟨_, subspan_ok inside⟩

theorem faultless_subspanFrom {offset : Nat} (inside : offset ≤ items.length) : Faultless (subspanFrom items offset) :=
  ⟨_, subspanFrom_ok inside⟩

theorem faultless_difference {size taken : Nat} {next : Nat → Except Fault β} (enough : taken ≤ size)
    (later : Faultless (next (size - taken))) : Faultless (difference size taken >>= next) := by
  rw [difference_ok enough]
  exact later

theorem faultless_fits {size : Nat} (small : size < 2 ^ 64) : Faultless (fits size) := ⟨(), if_pos small⟩

/-- Induction along a walk that goes on in front of its limit only. -/
theorem walk_induction (limit : Nat) {motive : Nat → Prop}
    (step : ∀ offset, (∀ next, offset < limit → offset < next → motive next) → motive offset) (offset : Nat) : motive offset := by
  induction left : limit - offset using Nat.strongRecOn generalizing offset with
  | _ left ih =>
    refine step offset fun next inside ahead => ih (limit - next) ?_ next rfl
    omega

/-- Steps over a list that have no fault from any state have none together. -/
theorem faultless_foldlM {step : β → α → Except Fault β} (each : ∀ state item, Faultless (step state item)) (items : List α)
    (state : β) : Faultless (items.foldlM step state) := by
  induction items generalizing state with
  | nil => exact faultless_pure state
  | cons item items ih => exact faultless_bind (each state item) fun next _ => ih next

end CheckedSpans
