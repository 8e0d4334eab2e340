import Mathlib.Init

/-! Programs over a state that may fail part of the way. What a program changed
before it failed stays changed, so its rules speak of both ends. -/
namespace FailingPrograms

abbrev Program (State Error Value : Type) := ExceptT Error (StateM State) Value

variable {State Error Value Next Item : Type}

/-- From the state, the program ends with `after`, or fails with `failed`. -/
def Ends (program : Program State Error Value) (after : Value → State → Prop) (failed : Error → State → Prop) (state : State) :
    Prop :=
  match StateT.run (ExceptT.run program) state with
  | (.ok value, final) => after value final
  | (.error error, final) => failed error final

variable {program : Program State Error Value} {next : Value → Program State Error Next} {after stronger : Value → State → Prop}
  {ended : Next → State → Prop} {failed worse : Error → State → Prop} {state : State}

@[simp] theorem ends_pure {value : Value} :
    Ends (pure value : Program State Error Value) after failed state ↔ after value state :=
  Iff.rfl

@[simp] theorem ends_throw {error : Error} :
    Ends (throw error : Program State Error Value) after failed state ↔ failed error state :=
  Iff.rfl

@[simp] theorem ends_get {after : State → State → Prop} :
    Ends (get : Program State Error State) after failed state ↔ after state state := Iff.rfl

@[simp] theorem ends_modify {change : State → State} {after : PUnit → State → Prop} :
    Ends (modify change : Program State Error PUnit) after failed state ↔ after ⟨⟩ (change state) := Iff.rfl

@[simp] theorem ends_bind : Ends (program >>= next) ended failed state ↔
    Ends program (fun value => Ends (next value) ended failed) failed state := by
  unfold Ends
  rw [ExceptT.run_bind, StateT.run_bind]
  generalize StateT.run (ExceptT.run program) state = ran
  obtain ⟨result | result, middle⟩ := ran <;> rfl

@[simp] theorem ends_tryCatch {handler : Error → Program State Error Value} :
    Ends (tryCatch program handler) after failed state ↔
      Ends program after (fun error => Ends (handler error) after failed) state := by
  unfold Ends
  rw [ExceptT.run_tryCatch, StateT.run_bind]
  generalize StateT.run (ExceptT.run program) state = ran
  obtain ⟨result | result, middle⟩ := ran <;> rfl

/-- The rule of consequence. -/
theorem Ends.mono (ends : Ends program stronger worse state) (weaken : ∀ value final, stronger value final → after value final)
    (fails : ∀ error final, worse error final → failed error final) : Ends program after failed state := by
  unfold Ends at ends ⊢
  split <;> rename_i ran <;> rw [ran] at ends
  · exact weaken _ _ ends
  · exact fails _ _ ends

/-- The rule of conjunction. -/
theorem Ends.and (one : Ends program after failed state) (other : Ends program stronger worse state) :
    Ends program (fun value final => after value final ∧ stronger value final)
      (fun error final => failed error final ∧ worse error final) state := by
  unfold Ends at one other ⊢
  split <;> rename_i ran <;> rw [ran] at one other
  · exact ⟨one, other⟩
  · exact ⟨one, other⟩

/-- The rule of composition. -/
theorem Ends.then {middle : Value → State → Prop} (first : Ends program middle failed state)
    (rest : ∀ value state, middle value state → Ends (next value) ended failed state) :
    Ends (program >>= next) ended failed state :=
  ends_bind.mpr (first.mono rest fun _ _ kept => kept)

/-- What held before the program holds after it, unless it fails. -/
def Maintains (invariant : State → Prop) (failed : Error → State → Prop) (program : Program State Error Value) : Prop :=
  ∀ state, invariant state → Ends program (fun _ => invariant) failed state

variable {invariant : State → Prop}

theorem maintains_pure {value : Value} : Maintains invariant failed (pure value : Program State Error Value) :=
  fun _ holds => holds

theorem maintains_get : Maintains invariant failed (get : Program State Error State) := fun _ holds => holds

theorem maintains_modify {change : State → State} (kept : ∀ state, invariant state → invariant (change state)) :
    Maintains invariant failed (modify change : Program State Error PUnit) := kept

theorem maintains_bind (first : Maintains invariant failed program) (rest : ∀ value, Maintains invariant failed (next value)) :
    Maintains invariant failed (program >>= next) := fun state holds => (first state holds).then fun value => rest value

theorem maintains_ite {condition : Prop} [Decidable condition] {one other : Program State Error Value}
    (whenTrue : Maintains invariant failed one) (whenFalse : Maintains invariant failed other) :
    Maintains invariant failed (if condition then one else other) := by
  split
  · exact whenTrue
  · exact whenFalse

/-- Whatever becomes of the program, what held before it holds after it. -/
def Preserves (invariant : State → Prop) (program : Program State Error Value) : Prop :=
  ∀ state, invariant state → Ends program (fun _ => invariant) (fun _ => invariant) state

theorem preserves_pure {value : Value} : Preserves invariant (pure value : Program State Error Value) := maintains_pure

theorem preserves_throw {error : Error} : Preserves invariant (throw error : Program State Error Value) := fun _ holds => holds

theorem preserves_get : Preserves invariant (get : Program State Error State) := maintains_get

theorem preserves_modify {change : State → State} (kept : ∀ state, invariant state → invariant (change state)) :
    Preserves invariant (modify change : Program State Error PUnit) := maintains_modify kept

theorem preserves_bind (first : Preserves invariant program) (rest : ∀ value, Preserves invariant (next value)) :
    Preserves invariant (program >>= next) := maintains_bind first rest

theorem preserves_ite {condition : Prop} [Decidable condition] {one other : Program State Error Value} (whenTrue : Preserves invariant one)
    (whenFalse : Preserves invariant other) : Preserves invariant (if condition then one else other) := maintains_ite whenTrue whenFalse

theorem preserves_tryCatch {handler : Error → Program State Error Value} (body : Preserves invariant program)
    (handled : ∀ error, Preserves invariant (handler error)) : Preserves invariant (tryCatch program handler) := by
  intro state holds
  rw [ends_tryCatch]
  exact (body state holds).mono (fun _ _ kept => kept) fun error final kept => handled error final kept

theorem preserves_forM {body : Item → Program State Error PUnit} {items : List Item}
    (each : ∀ item ∈ items, Preserves invariant (body item)) : Preserves invariant (items.forM body) := by
  induction items with
  | nil => exact preserves_pure
  | cons item rest ih =>
    exact preserves_bind (each item (List.mem_cons_self ..)) fun _ => ih fun other member => each other (List.mem_cons_of_mem _ member)

end FailingPrograms
