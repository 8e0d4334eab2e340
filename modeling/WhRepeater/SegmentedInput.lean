import Mathlib.Data.List.Basic

/-! Items that come in segments, as from a connection, and programs that take them
one by one or a number at a time. What a program makes of its input does not depend
on the segments: `Consumes` and `Rejects` speak of the items alone. -/
namespace SegmentedInput

variable {α β γ : Type}

/-- The segments still to come are the state; where they end there is no result. -/
abbrev Reader (α β : Type) := StateT (List (List α)) Option β

/-- The next item. -/
def next : List (List α) → Option (α × List (List α))
  | [] => none
  | [] :: later => next later
  | (item :: segment) :: later => some (item, segment :: later)

/-- So many items, from as many segments as it takes. -/
def exactly (count : Nat) : List (List α) → Option (List α × List (List α))
  | [] => if count = 0 then some ([], []) else none
  | segment :: later =>
    if count ≤ segment.length then some (segment.take count, segment.drop count :: later)
    else (exactly (count - segment.length) later).map fun (items, last) => (segment ++ items, last)

/-- The program takes these items, whatever follows them, and has this result. -/
def Consumes (reader : Reader α β) (items : List α) (result : β) : Prop :=
  ∀ incoming rest, incoming.flatten = items ++ rest → ∃ later, reader incoming = some (result, later) ∧ later.flatten = rest

/-- The program fails on an input that begins with these items. -/
def Rejects (reader : Reader α β) (items : List α) : Prop :=
  ∀ incoming rest, incoming.flatten = items ++ rest → reader incoming = none

variable {reader : Reader α β} {more : β → Reader α γ} {items front back : List α} {item : α} {result value : β} {last : γ}

theorem next_shorter {incoming later : List (List α)} (taken : next incoming = some (item, later)) :
    later.flatten.length < incoming.flatten.length := by
  induction incoming with
  | nil => cases taken
  | cons segment incoming ih =>
    cases segment with
    | nil => exact ih taken
    | cons item segment =>
      cases taken
      exact Nat.lt_succ_self _

theorem consumes_pure (result : β) : Consumes (pure result : Reader α β) [] result := fun incoming _ whole =>
  ⟨incoming, rfl, whole⟩

theorem Consumes.bind (first : Consumes reader front value) (second : Consumes (more value) back last) :
    Consumes (reader >>= more) (front ++ back) last := by
  intro incoming rest whole
  rw [List.append_assoc] at whole
  obtain ⟨middle, taken, left⟩ := first incoming _ whole
  obtain ⟨later, ended, behind⟩ := second middle rest left
  refine ⟨later, ?_, behind⟩
  change (reader incoming).bind (fun taken => more taken.1 taken.2) = _
  rw [taken, Option.bind_some, ended]

theorem Consumes.then_pure (first : Consumes reader items value) (make : β → γ) :
    Consumes (reader >>= fun value => pure (make value)) items (make value) := by
  have both : Consumes (reader >>= fun value => pure (make value)) (items ++ []) (make value) :=
    first.bind (consumes_pure _)
  rwa [List.append_nil] at both

theorem Consumes.rejects_bind (first : Consumes reader front value) (second : Rejects (more value) back) :
    Rejects (reader >>= more) (front ++ back) := by
  intro incoming rest whole
  rw [List.append_assoc] at whole
  obtain ⟨middle, taken, left⟩ := first incoming _ whole
  change (reader incoming).bind (fun taken => more taken.1 taken.2) = _
  rw [taken, Option.bind_some, second middle rest left]

theorem Rejects.bind (first : Rejects reader items) (more : β → Reader α γ) : Rejects (reader >>= more) items := by
  intro incoming rest whole
  change (reader incoming).bind (fun taken => more taken.1 taken.2) = _
  rw [first incoming rest whole, Option.bind_none]

theorem rejects_failure : Rejects (failure : Reader α β) [] := fun _ _ _ => rfl

theorem consumes_next (item : α) : Consumes next [item] item := by
  intro incoming rest whole
  induction incoming with
  | nil => cases whole
  | cons segment incoming ih =>
    cases segment with
    | nil => exact ih whole
    | cons first segment =>
      rw [List.flatten_cons, List.cons_append, List.singleton_append, List.cons.injEq] at whole
      obtain ⟨rfl, rfl⟩ := whole
      exact ⟨segment :: incoming, rfl, rfl⟩

theorem consumes_exactly (items : List α) : Consumes (exactly items.length) items items := by
  intro incoming rest whole
  induction incoming generalizing items with
  | nil =>
    obtain ⟨rfl, rfl⟩ := List.append_eq_nil_iff.mp whole.symm
    exact ⟨[], rfl, rfl⟩
  | cons segment incoming ih =>
    rw [List.flatten_cons] at whole
    rw [exactly]
    split
    case isTrue enough =>
      obtain ⟨tail, rfl⟩ := List.prefix_of_prefix_length_le ⟨rest, whole.symm⟩ (List.prefix_append segment _) enough
      rw [List.append_assoc, List.append_right_inj] at whole
      exact ⟨tail :: incoming, by rw [List.take_left, List.drop_left], whole⟩
    case isFalse short =>
      obtain ⟨tail, rfl⟩ := List.prefix_of_prefix_length_le (List.prefix_append segment _) ⟨rest, whole.symm⟩ (by omega)
      rw [List.append_assoc, List.append_right_inj] at whole
      obtain ⟨later, taken, left⟩ := ih tail whole
      rw [List.length_append, Nat.add_sub_cancel_left, taken]
      exact ⟨later, rfl, left⟩

end SegmentedInput
