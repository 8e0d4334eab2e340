/-! What a program that may fail ends with, whatever it does. -/
namespace Outcomes

variable {ε α β : Type} {holds : α → Prop}

/-- Whatever the program ends with is so. -/
def Yields (outcome : Except ε α) (holds : α → Prop) : Prop := ∀ value, outcome = .ok value → holds value

theorem yields_pure {value : α} (held : holds value) : Yields (pure value : Except ε α) holds := by
  intro _ ends
  cases ends
  exact held

theorem yields_bind {first : Except ε β} {next : β → Except ε α}
    (later : ∀ value, first = .ok value → Yields (next value) holds) : Yields (first >>= next) holds := by
  intro value ends
  cases here : first with
  | error fault =>
    rw [here] at ends
    cases ends
  | ok found =>
    rw [here] at ends
    exact later found here value ends

theorem yields_ite {condition : Prop} [Decidable condition] {first second : Except ε α}
    (met : condition → Yields first holds) (otherwise : ¬ condition → Yields second holds) :
    Yields (if condition then first else second) holds := by
  split
  case isTrue held => exact met held
  case isFalse fails => exact otherwise fails

end Outcomes
