import Mathlib.Data.List.Basic

/-! A queue whose entries fall due in the order in which they stand. Its reader wants
the latest entry that is due and leaves out those before it. -/
namespace DueQueues

variable {Entry : Type*} {due : Entry → Int} {now : Int} {queue : List Entry}

/-- Entries leave at the front as long as the one behind them is due. -/
def skip (due : Entry → Int) (now : Int) : List Entry → List Entry
  | first :: second :: rest => if due second ≤ now then skip due now (second :: rest) else first :: second :: rest
  | short => short

abbrev InOrder (due : Entry → Int) (queue : List Entry) : Prop := queue.Pairwise fun early late => due early ≤ due late

/-- The latest entry that is due, between those that it leaves out and those that
are not due yet. -/
structure Latest (due : Entry → Int) (now : Int) (queue older : List Entry) (shown : Entry) (newer : List Entry) : Prop where
  split : queue = older ++ shown :: newer
  isDue : due shown ≤ now
  notYet : ∀ late ∈ newer, now < due late

/-- Behind an entry that is not due, none is. -/
theorem none_due {first : Entry} {rest : List Entry} (ordered : InOrder due (first :: rest)) (early : now < due first) :
    ∀ entry ∈ first :: rest, now < due entry := by
  obtain ⟨before, _⟩ := List.pairwise_cons.mp ordered
  intro entry member
  rcases List.mem_cons.mp member with rfl | behind
  · exact early
  · exact Int.lt_of_lt_of_le early (before entry behind)

/-- Skipping leaves a queue of which nothing is due as it is, and else brings the
latest entry that is due to the front. -/
theorem skip_cases (now : Int) (ordered : InOrder due queue) :
    (∀ entry ∈ queue, now < due entry) ∧ skip due now queue = queue ∨
      ∃ older shown newer, Latest due now queue older shown newer ∧ skip due now queue = shown :: newer := by
  induction queue using skip.induct due now with
  | case1 first second rest isDue ih =>
    rw [skip, if_pos isDue]
    obtain ⟨early, _⟩ | ⟨older, shown, newer, latest, front⟩ := ih (List.pairwise_cons.mp ordered).2
    · exact absurd (early second List.mem_cons_self) (Int.not_lt.mpr isDue)
    · exact Or.inr ⟨first :: older, shown, newer, ⟨congrArg (first :: ·) latest.split, latest.isDue, latest.notYet⟩, front⟩
  | case2 first second rest early =>
    rw [skip, if_neg early]
    have behind := none_due (List.pairwise_cons.mp ordered).2 (Int.not_le.mp early)
    by_cases isDue : due first ≤ now
    · exact Or.inr ⟨[], first, second :: rest, ⟨rfl, isDue, behind⟩, rfl⟩
    · exact Or.inl ⟨none_due ordered (Int.not_le.mp isDue), rfl⟩
  | case3 short single =>
    match short with
    | [] => exact Or.inl ⟨by simp, rfl⟩
    | [only] =>
      by_cases isDue : due only ≤ now
      · exact Or.inr ⟨[], only, [], ⟨rfl, isDue, by simp⟩, rfl⟩
      · exact Or.inl ⟨by simpa using isDue, rfl⟩
    | first :: second :: rest => exact absurd rfl (single first second rest)

/-- What the latest entry leaves out fell due no later. -/
theorem Latest.left_out {older newer : List Entry} {shown : Entry} (latest : Latest due now queue older shown newer)
    (ordered : InOrder due queue) : ∀ old ∈ older, due old ≤ due shown := by
  rw [latest.split] at ordered
  intro old member
  exact (List.pairwise_append.mp ordered).2.2 old member shown List.mem_cons_self

end DueQueues
