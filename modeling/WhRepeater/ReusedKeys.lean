import Mathlib.Logic.Function.Basic

/-! Slots that hold items, each under a key that another item may take once it is
released, as an address is. What was noted under a key is right as long as it
fits whoever holds the key now. -/
namespace ReusedKeys

variable {Slot Item Key : Type*} {key : Item → Key} {held : Slot → Option Item}
variable {slot other : Slot} {item : Item} {fits : Slot → Item → Prop}

def Live (key : Item → Key) (held : Slot → Option Item) (taken : Key) : Prop :=
  ∃ slot item, held slot = some item ∧ key item = taken

/-- No two slots hold items of one key. -/
def Distinct (key : Item → Key) (held : Slot → Option Item) : Prop :=
  ∀ ⦃slot other item another⦄, held slot = some item → held other = some another → key item = key another → slot = other

/-- Every item fits its slot. -/
def All (held : Slot → Option Item) (fits : Slot → Item → Prop) : Prop :=
  ∀ ⦃slot item⦄, held slot = some item → fits slot item

theorem distinct_empty : Distinct key (fun _ : Slot => none) := fun _ _ _ _ holds => by cases holds

theorem all_empty : All (fun _ : Slot => none) fits := fun _ _ holds => by cases holds

/-- What fits an item that a slot holds fits whoever holds its key. -/
theorem Distinct.noted (distinct : Distinct key held) (holds : held slot = some item) (right : fits slot item) :
    All held fun other another => key item = key another → fits other another := by
  intro other another found same
  obtain rfl := distinct holds found same
  rw [holds] at found
  cases found
  exact right

section Updates

variable [DecidableEq Slot]

theorem Distinct.release (distinct : Distinct key held) : Distinct key (Function.update held slot none) := by
  intro one two item another first second same
  have firstOther : one ≠ slot := by
    rintro rfl
    simp at first
  have secondOther : two ≠ slot := by
    rintro rfl
    simp at second
  rw [Function.update_of_ne firstOther] at first
  rw [Function.update_of_ne secondOther] at second
  exact distinct first second same

/-- A slot takes an item under a key that nobody holds. -/
theorem Distinct.take (distinct : Distinct key held) (free : ¬Live key held (key item)) :
    Distinct key (Function.update held slot (some item)) := by
  intro one two first second holdsFirst holdsSecond same
  by_cases atOne : one = slot <;> by_cases atTwo : two = slot
  · exact atOne.trans atTwo.symm
  · rw [atOne, Function.update_self] at holdsFirst
    cases holdsFirst
    rw [Function.update_of_ne atTwo] at holdsSecond
    exact absurd ⟨two, second, holdsSecond, same.symm⟩ free
  · rw [atTwo, Function.update_self] at holdsSecond
    cases holdsSecond
    rw [Function.update_of_ne atOne] at holdsFirst
    exact absurd ⟨one, first, holdsFirst, same⟩ free
  · rw [Function.update_of_ne atOne] at holdsFirst
    rw [Function.update_of_ne atTwo] at holdsSecond
    exact distinct holdsFirst holdsSecond same

/-- A released key is free. -/
theorem Distinct.free (distinct : Distinct key held) (holds : held slot = some item) :
    ¬Live key (Function.update held slot none) (key item) := by
  rintro ⟨other, another, found, same⟩
  by_cases here : other = slot
  · rw [here, Function.update_self] at found
    cases found
  · rw [Function.update_of_ne here] at found
    exact here (distinct found holds same)

/-- An item moves from one slot to another. -/
theorem Distinct.move (distinct : Distinct key held) (holds : held slot = some item) :
    Distinct key (Function.update (Function.update held slot none) other (some item)) :=
  distinct.release.take (distinct.free holds)

theorem All.release (all : All held fits) : All (Function.update held slot none) fits := by
  intro other item found
  by_cases here : other = slot
  · rw [here, Function.update_self] at found
    cases found
  · rw [Function.update_of_ne here] at found
    exact all found

theorem All.take (all : All held fits) (right : fits slot item) : All (Function.update held slot (some item)) fits := by
  intro other another found
  by_cases here : other = slot
  · subst here
    rw [Function.update_self] at found
    cases found
    exact right
  · rw [Function.update_of_ne here] at found
    exact all found

end Updates
end ReusedKeys
