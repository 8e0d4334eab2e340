import Mathlib.Data.List.Infix

/-! Texts of lines, and where a word stands in them. A word that has none of the symbols
that separate the lines stands in one of them. -/
namespace LineTexts

variable {α : Type*} {word front back other later first line : List α} {stop : α} {separator : List α}
  {rest before behind : List (List α)}

/-- The lines, with a separator in front of each but the first. -/
def lines (separator first : List α) (rest : List (List α)) : List α := first ++ rest.flatMap (separator ++ ·)

theorem lines_cons (next : List α) : lines separator first (next :: rest) = first ++ (separator ++ lines separator next rest) := by
  simp only [lines, List.flatMap_cons, List.append_assoc]

theorem lines_through (line : List α) : lines separator first (before ++ line :: behind) =
    lines separator first before ++ (separator ++ lines separator line behind) := by
  simp only [lines, List.flatMap_append, List.flatMap_cons, List.append_assoc]

/-- A word stands in front of a symbol that it does not have, or behind it. -/
theorem occurs_stop (foreign : stop ∉ word) (same : front ++ stop :: back = other ++ word ++ later) :
    (∃ more, front = other ++ word ++ more) ∨ ∃ more, other = front ++ stop :: more ∧ back = more ++ word ++ later := by
  rcases List.append_eq_append_iff.mp same with ⟨ends, whole, cut⟩ | ⟨more, whole, -⟩
  · cases ends with
    | nil => exact .inl ⟨[], by rw [List.append_nil, whole, List.append_nil]⟩
    | cons next ends =>
      obtain ⟨rfl, rfl⟩ := List.cons.inj cut
      rcases List.append_eq_append_iff.mp whole with ⟨part, -, inside⟩ | ⟨part, before, behind⟩
      · exact absurd (inside ▸ List.mem_append_right part List.mem_cons_self) foreign
      · cases part with
        | nil =>
          rw [List.nil_append] at behind
          exact absurd (behind ▸ List.mem_cons_self) foreign
        | cons next part =>
          obtain ⟨rfl, rfl⟩ := List.cons.inj behind
          exact .inr ⟨part, before, rfl⟩
  · exact .inl ⟨more, whole⟩

theorem occurs_separator (foreign : ∀ stop ∈ separator, stop ∉ word) (separates : separator ≠ []) (some : word ≠ [])
    (same : front ++ (separator ++ back) = other ++ word ++ later) :
    (∃ more, front = other ++ word ++ more) ∨ ∃ more, other = front ++ separator ++ more ∧ back = more ++ word ++ later := by
  induction separator generalizing front other with
  | nil => exact absurd rfl separates
  | cons stop separator ih =>
    obtain ⟨here, others⟩ := List.forall_mem_cons.mp foreign
    rcases occurs_stop here same with inside | ⟨more, rfl, inside⟩
    · exact .inl inside
    · cases separator with
      | nil => exact .inr ⟨more, by simp, inside⟩
      | cons next separator =>
        rcases @ih [] more others (List.cons_ne_nil _ _) inside with ⟨_, empty⟩ | ⟨last, rfl, reached⟩
        · exact absurd (List.append_eq_nil_iff.mp (List.append_eq_nil_iff.mp empty.symm).1).2 some
        · exact .inr ⟨last, by simp, reached⟩

theorem infix_separator (foreign : ∀ stop ∈ separator, stop ∉ word) (separates : separator ≠ []) (some : word ≠ []) :
    word <:+: front ++ (separator ++ back) ↔ word <:+: front ∨ word <:+: back := by
  constructor
  · rintro ⟨other, later, same⟩
    rcases occurs_separator foreign separates some same.symm with ⟨more, rfl⟩ | ⟨more, -, rfl⟩
    · exact .inl ⟨other, more, rfl⟩
    · exact .inr ⟨more, later, rfl⟩
  · rintro (⟨other, later, rfl⟩ | ⟨other, later, rfl⟩)
    · exact ⟨other, later ++ (separator ++ back), by simp only [List.append_assoc]⟩
    · exact ⟨front ++ separator ++ other, later, by simp only [List.append_assoc]⟩

theorem infix_lines (foreign : ∀ stop ∈ separator, stop ∉ word) (separates : separator ≠ []) (some : word ≠ []) :
    word <:+: lines separator first rest ↔ ∃ line ∈ first :: rest, word <:+: line := by
  induction rest generalizing first with
  | nil => simp [lines]
  | cons next rest ih =>
    rw [lines_cons, infix_separator foreign separates some, ih]
    simp only [List.mem_cons, exists_eq_or_imp]

/-- A word that stands at the beginning of a line, and not behind it or in another line,
stands in the text once. -/
theorem once_in_lines (foreign : ∀ stop ∈ separator, stop ∉ word) (separates : separator ≠ []) (some : word ≠ [])
    (here : ∀ other later, word ++ line = other ++ word ++ later → other = [])
    (none_before : ∀ line ∈ first :: before, ¬ word <:+: line) (none_behind : ∀ line ∈ behind, ¬ word <:+: line)
    (same : lines separator first (before ++ (word ++ line) :: behind) = other ++ word ++ later) :
    other = lines separator first before ++ separator := by
  rw [lines_through] at same
  rcases occurs_separator foreign separates some same with ⟨more, inside⟩ | ⟨more, rfl, inside⟩
  · obtain ⟨line, among, inside⟩ := (infix_lines foreign separates some).mp ⟨other, more, inside.symm⟩
    exact absurd inside (none_before line among)
  suffices reached : more = [] by rw [reached, List.append_nil]
  cases behind with
  | nil =>
    rw [lines, List.flatMap_nil, List.append_nil] at inside
    exact here more later inside
  | cons next behind =>
    rw [lines_cons] at inside
    rcases occurs_separator foreign separates some inside with ⟨rest, first⟩ | ⟨rest, -, later⟩
    · exact here more rest first
    · obtain ⟨line, among, inside⟩ := (infix_lines foreign separates some).mp ⟨rest, _, later.symm⟩
      exact absurd inside (none_behind line among)

end LineTexts
