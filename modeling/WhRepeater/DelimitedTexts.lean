import Mathlib.Data.List.Forall2

/-! Texts that tell what they were written of, although more follows them. What may
follow is a condition of its own: a number ends where no digit follows, a string at
its own quote. The rules go through the parts that a text is put together of. -/
namespace DelimitedTexts

variable {σ α β φ : Type} {ends ends' : List σ → Prop} {write write' : α → List σ} {same same' : α → α → Prop}

/-- Where two texts and what follows them are alike, they are of values that are the
same, and the same follows. -/
def Tells (ends : List σ → Prop) (write : α → List σ) (same : α → α → Prop) : Prop :=
  ∀ first second rest rest', ends rest → ends rest' → write first ++ rest = write second ++ rest' →
    same first second ∧ rest = rest'

/-- A text that is always the same tells nothing. -/
theorem tells_constant (text : List σ) : Tells ends (fun _ : α => text) fun _ _ => True :=
  fun _ _ _ _ _ _ alike => ⟨trivial, List.append_cancel_left alike⟩

theorem Tells.imp (tells : Tells ends write same) (known : ∀ first second, same first second → same' first second)
    (allowed : ∀ rest, ends' rest → ends rest) : Tells ends' write same' := by
  intro first second rest rest' here there alike
  obtain ⟨values, rests⟩ := tells first second rest rest' (allowed rest here) (allowed rest' there) alike
  exact ⟨known first second values, rests⟩

/-- A part of a value, written alone. -/
theorem Tells.comap (tells : Tells ends write same) (part : β → α) :
    Tells ends (fun value => write (part value)) fun first second => same (part first) (part second) :=
  fun first second => tells (part first) (part second)

theorem Tells.append (front : Tells ends write same) (back : Tells ends' write' same')
    (starts : ∀ value rest, ends' rest → ends (write' value ++ rest)) :
    Tells ends' (fun value => write value ++ write' value) fun first second => same first second ∧ same' first second := by
  intro first second rest rest' here there alike
  rw [List.append_assoc, List.append_assoc] at alike
  obtain ⟨values, behind⟩ := front first second _ _ (starts first rest here) (starts second rest' there) alike
  obtain ⟨values', rests⟩ := back first second rest rest' here there behind
  exact ⟨⟨values, values'⟩, rests⟩

theorem Tells.behind (tells : Tells ends write same) (text : List σ) : Tells ends (fun value => text ++ write value) same := by
  intro first second rest rest' here there alike
  rw [List.append_assoc, List.append_assoc] at alike
  exact tells first second rest rest' here there (List.append_cancel_left alike)

/-- The parts of a value, one after the other, of which each may be followed by the next. -/
theorem tells_flatMap {parts : List φ} {write : φ → α → List σ} {same : φ → α → α → Prop}
    (each : ∀ part ∈ parts, Tells ends (write part) (same part))
    (starts : ∀ part ∈ parts, ∀ value rest, ends (write part value ++ rest)) :
    Tells ends (fun value => parts.flatMap fun part => write part value) fun first second =>
      ∀ part ∈ parts, same part first second := by
  induction parts with
  | nil => exact (tells_constant []).imp (fun _ _ _ _ never => nomatch never) fun _ allowed => allowed
  | cons part parts ih =>
    obtain ⟨here, each⟩ := List.forall_mem_cons.mp each
    have next := (List.forall_mem_cons.mp starts).2
    have both := here.append (ih each next) fun value rest allowed => by
      cases parts with
      | nil => exact allowed
      | cons other parts =>
        rw [List.flatMap_cons, List.append_assoc]
        exact next other List.mem_cons_self value _
    exact both.imp (fun _ _ values => List.forall_mem_cons.mpr values) fun _ allowed => allowed

/-- A text of symbols of one kind ends before one of another kind. -/
theorem tells_while {keep : σ → Bool} (kept : ∀ value, ∀ symbol ∈ write value, keep symbol = true) :
    Tells (fun rest => ∃ symbol tail, rest = symbol :: tail ∧ keep symbol = false) write fun first second =>
      write first = write second := by
  rintro first second _ _ ⟨symbol, tail, rfl, stops⟩ ⟨symbol', tail', rfl, stops'⟩ alike
  have taken : ∀ value symbol tail, keep symbol = false → (write value ++ symbol :: tail).takeWhile keep = write value := by
    intro value symbol tail stops
    rw [List.takeWhile_append_of_pos (kept value), List.takeWhile_cons_of_neg (by simp [stops]), List.append_nil]
  have texts := congrArg (List.takeWhile keep) alike
  rw [taken first symbol tail stops, taken second symbol' tail' stops'] at texts
  rw [texts] at alike
  exact ⟨texts, List.append_cancel_left alike⟩

/-- The items of a list, each behind a separator, up to what closes the list. -/
theorem tells_items {separator closing : List σ} (each : Tells ends write same) (starts : ∀ rest, ends (separator ++ rest))
    (stops : ∀ rest, ends (closing ++ rest)) (apart : ∀ rest rest', separator ++ rest ≠ closing ++ rest') :
    Tells (fun _ => True) (fun values => values.flatMap (fun value => separator ++ write value) ++ closing) (List.Forall₂ same) := by
  have behind : ∀ (values : List α) rest, ends (values.flatMap (fun value => separator ++ write value) ++ closing ++ rest) := by
    intro values rest
    cases values with
    | nil => exact stops rest
    | cons value values =>
      simp only [List.flatMap_cons, List.append_assoc]
      exact starts _
  intro first second rest rest' _ _ alike
  induction first generalizing second with
  | nil =>
    cases second with
    | nil => exact ⟨.nil, List.append_cancel_left alike⟩
    | cons value second =>
      simp only [List.flatMap_cons, List.flatMap_nil, List.nil_append, List.append_assoc] at alike
      exact absurd alike.symm (apart _ _)
  | cons value first ih =>
    cases second with
    | nil =>
      simp only [List.flatMap_cons, List.flatMap_nil, List.nil_append, List.append_assoc] at alike
      exact absurd alike (apart _ _)
    | cons value' second =>
      simp only [List.flatMap_cons, List.append_assoc, List.append_cancel_left_eq] at alike
      simp only [List.append_assoc] at behind ih
      obtain ⟨values, others⟩ := each value value' _ _ (behind first rest) (behind second rest') alike
      obtain ⟨lists, rests⟩ := ih second others
      exact ⟨.cons values lists, rests⟩

end DelimitedTexts
