import Mathlib.Data.List.Infix

/-! A bounded queue that makes room by dropping its oldest entry, and the books
kept beside it: everything that entered, and what became of it. -/
namespace DroppingQueue

variable {Entry : Type*}

def push (limit : Nat) (queue : List Entry) (entry : Entry) : List Entry :=
  (if limit ≤ queue.length then queue.tail else queue) ++ [entry]

/-- What went through a queue: all that entered, what entered and was taken
since the last clear, and the totals of what is gone. -/
structure Books (Entry : Type*) where
  entered : List Entry := []
  sinceClear : List Entry := []
  taken : List Entry := []
  drained : Nat := 0
  dropped : Nat := 0
  cleared : Nat := 0
  deriving Repr, DecidableEq

namespace Books

/-- An entry was pushed, and `gone` entries made room for it. -/
def enter (books : Books Entry) (entry : Entry) (gone : Nat) : Books Entry :=
  { books with
    entered := books.entered ++ [entry]
    sinceClear := books.sinceClear ++ [entry]
    dropped := books.dropped + gone }

def take (books : Books Entry) (entries : List Entry) : Books Entry :=
  { books with taken := books.taken ++ entries, drained := books.drained + entries.length }

def clear (books : Books Entry) (gone : Nat) : Books Entry :=
  { books with sinceClear := [], taken := [], cleared := books.cleared + gone }

/-- The books are those of the queue. -/
structure Balanced (limit : Nat) (queue : List Entry) (books : Books Entry) : Prop where
  bounded : queue.length ≤ limit
  recent : books.sinceClear <:+ books.entered
  removed : ∃ removed, books.sinceClear = removed ++ queue ∧ books.taken.Sublist removed
  balance : books.entered.length = books.drained + queue.length + books.dropped + books.cleared

variable {limit : Nat} {queue : List Entry} {books : Books Entry}

theorem balanced_nil : Balanced limit [] ({} : Books Entry) :=
  ⟨Nat.zero_le _, List.suffix_rfl, ⟨[], rfl, List.Sublist.refl _⟩, rfl⟩

/-- What was taken went through the queue since it was last cleared, in order. -/
theorem Balanced.taken_sublist (balanced : Balanced limit queue books) : books.taken.Sublist books.sinceClear := by
  obtain ⟨removed, split, taken⟩ := balanced.removed
  rw [split]
  exact taken.trans (List.sublist_append_left removed queue)

theorem Balanced.enter (balanced : Balanced limit queue books) (some : 0 < limit) (entry : Entry) :
    Balanced limit (push limit queue entry)
      (books.enter entry (queue.length + 1 - (push limit queue entry).length)) := by
  obtain ⟨bounded, recent, ⟨removed, split, taken⟩, balance⟩ := balanced
  unfold push
  by_cases full : limit ≤ queue.length
  · rw [if_pos full]
    cases queue with
    | nil => exact absurd full (by simp; omega)
    | cons oldest rest =>
      refine ⟨by simpa using bounded, ?_, ⟨removed ++ [oldest], by simp [Books.enter, split], ?_⟩, ?_⟩
      · exact (List.suffix_append_self_iff).mpr recent
      · exact taken.trans (List.sublist_append_left removed [oldest])
      · simp only [Books.enter, List.length_append, List.tail_cons, List.length_cons, List.length_nil] at balance ⊢
        omega
  · rw [if_neg full]
    refine ⟨by simp; omega, ?_, ⟨removed, by simp [Books.enter, split], taken⟩, ?_⟩
    · exact (List.suffix_append_self_iff).mpr recent
    · simp only [Books.enter, List.length_append, List.length_cons, List.length_nil]
      omega

theorem Balanced.take (balanced : Balanced limit queue books) (count : Nat) :
    Balanced limit (queue.drop count) (books.take (queue.take count)) := by
  obtain ⟨bounded, recent, ⟨removed, split, taken⟩, balance⟩ := balanced
  refine ⟨by simp; omega, recent, ⟨removed ++ queue.take count, ?_, taken.append_right _⟩, ?_⟩
  · rw [List.append_assoc, List.take_append_drop]
    exact split
  · simp only [Books.take, List.length_take, List.length_drop]
    omega

theorem Balanced.clear (balanced : Balanced limit queue books) : Balanced limit [] (books.clear queue.length) := by
  refine ⟨Nat.zero_le _, List.nil_suffix, ⟨[], rfl, List.Sublist.refl _⟩, ?_⟩
  have balance := balanced.balance
  simp only [Books.clear, List.length_nil]
  omega

end Books
end DroppingQueue
