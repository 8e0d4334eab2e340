import Mathlib.Data.List.Basic

/-! A choice between sources that is latched: the chosen source stays while it has
an input, and another is chosen, in their order, only when it has none. -/
namespace Latch

variable {Source Input : Type*} {sources : List Source} {input : Source → Option Input} {before : Option Source}
  {source other : Source}

/-- The first source that has an input. -/
def first (sources : List Source) (input : Source → Option Input) : Option Source :=
  sources.find? fun source => (input source).isSome

def next (sources : List Source) (input : Source → Option Input) (before : Option Source) : Option Source :=
  (before.filter fun source => (input source).isSome).or (first sources input)

theorem next_of_input (usable : (input source).isSome = true) : next sources input (some source) = some source := by
  simp [next, usable]

theorem next_of_gone (gone : input source = none) : next sources input (some source) = first sources input := by
  rw [next, Option.filter_some, if_neg (by simp [gone]), Option.none_or]

theorem next_none : next sources input none = first sources input := rfl

/-- What is chosen has an input. -/
theorem input_of_next (chosen : next sources input before = some source) : (input source).isSome = true := by
  rcases Option.or_eq_some_iff.mp chosen with kept | ⟨-, found⟩
  · exact (Option.filter_eq_some_iff.mp kept).2
  · exact (List.find?_eq_some_iff_append.mp found).1

/-- A source gives way only when it has no input. -/
theorem gone_of_switched (held : before = some source) (chosen : next sources input before = some other)
    (switched : other ≠ source) : input source = none := by
  by_contra usable
  rw [held, next_of_input (Option.isSome_iff_ne_none.mpr usable)] at chosen
  exact switched (Option.some.inj chosen).symm

/-- Nothing is chosen exactly if no source has an input. -/
theorem next_eq_none_iff (all : ∀ source, source ∈ sources) : next sources input before = none ↔ ∀ source, input source = none := by
  constructor
  · intro nothing source
    by_contra usable
    have found := (Option.or_eq_none_iff.mp nothing).2
    exact List.find?_eq_none.mp found source (all source) (Option.isSome_iff_ne_none.mpr usable)
  · intro gone
    rw [next, first, Option.or_eq_none_iff, List.find?_eq_none, Option.filter_eq_none_iff]
    exact ⟨fun source _ => by simp [gone source], fun source _ => by simp [gone source]⟩

end Latch
