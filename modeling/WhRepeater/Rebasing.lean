import Mathlib.Data.List.Basic

/-! Timestamps that start again. A stream whose timestamps do not advance is moved
on by the step back, so that what is written keeps advancing; how far it has been
moved is the length of what it has left. Lists of timestamps are newest first. -/
namespace Rebasing

structure Stamp where
  timestamp : Int
  duration : Int
  deriving Repr, DecidableEq

/-- How far the step back from one timestamp to the next moves the stream. -/
def stepBack (previous latest : Stamp) : Int :=
  if latest.timestamp ≤ previous.timestamp then previous.timestamp + latest.duration - latest.timestamp else 0

/-- How far the stream has been moved: its first timestamp up to zero, and every
step back. -/
def displacement : List Stamp → Int
  | [] => 0
  | [first] => max 0 (-first.timestamp)
  | latest :: previous :: earlier => displacement (previous :: earlier) + stepBack previous latest

/-! ## Segments -/

/-- Timestamps that begin at zero and advance. -/
structure Segment where
  start : Stamp
  later : List Stamp
  zero : start.timestamp = 0
  advances : (later ++ [start]).Pairwise fun newer older => older.timestamp < newer.timestamp

namespace Segment

def stamps (segment : Segment) : List Stamp := segment.later ++ [segment.start]

def last (segment : Segment) : Stamp := segment.later.headD segment.start

theorem last_nonneg (segment : Segment) : 0 ≤ segment.last.timestamp := by
  obtain ⟨start, later, zero, advances⟩ := segment
  cases later with
  | nil => exact Int.le_of_eq zero.symm
  | cons latest earlier =>
    have after := (List.pairwise_cons.mp advances).1 start (by simp)
    exact Int.le_of_lt (zero ▸ after)

end Segment

variable {later earlier : List Stamp} {start previous : Stamp}

/-- A segment moves its stream no further than its first timestamp does. -/
theorem displacement_advancing (advances : (later ++ [start]).Pairwise fun newer older => older.timestamp < newer.timestamp) :
    displacement (later ++ start :: earlier) = displacement (start :: earlier) := by
  induction later with
  | nil => rfl
  | cons latest rest ih =>
    obtain ⟨after, advances⟩ := List.pairwise_cons.mp advances
    have still := ih advances
    cases rest with
    | nil =>
      have forward : ¬latest.timestamp ≤ start.timestamp := Int.not_le.mpr (after start (by simp))
      change displacement (start :: earlier) + stepBack start latest = _
      rw [stepBack, if_neg forward, Int.add_zero]
    | cons next rest =>
      have forward : ¬latest.timestamp ≤ next.timestamp := Int.not_le.mpr (after next (by simp))
      change displacement (next :: (rest ++ start :: earlier)) + stepBack next latest = _
      rw [stepBack, if_neg forward, Int.add_zero]
      exact still

/-- A segment that follows another moves its stream by the length of that one. -/
theorem displacement_start (zero : start.timestamp = 0) (nonneg : 0 ≤ previous.timestamp) :
    displacement (start :: previous :: earlier) = displacement (previous :: earlier) + (previous.timestamp + start.duration) := by
  rw [displacement, stepBack, if_pos (by omega), zero, Int.sub_zero]

/-- What the stream has left: of every segment but the newest its last timestamp
and the duration that follows it. -/
def lengthLeft : List Segment → Int
  | [] | [_] => 0
  | newer :: older :: rest => lengthLeft (older :: rest) + (older.last.timestamp + newer.start.duration)

/-- A stream of segments is moved by what it has left. -/
theorem displacement_segments (segments : List Segment) : displacement (segments.flatMap Segment.stamps) = lengthLeft segments := by
  induction segments with
  | nil => rfl
  | cons newer rest ih =>
    have shape : (newer :: rest).flatMap Segment.stamps = newer.later ++ newer.start :: rest.flatMap Segment.stamps := by
      simp [Segment.stamps]
    rw [shape, displacement_advancing newer.advances]
    cases rest with
    | nil => simp [displacement, newer.zero, lengthLeft]
    | cons older rest =>
      have headed : ∃ tail, (older :: rest).flatMap Segment.stamps = older.last :: tail := by
        obtain ⟨start, later, zero, advances⟩ := older
        cases later <;> exact ⟨_, rfl⟩
      obtain ⟨tail, headed⟩ := headed
      rw [headed] at ih ⊢
      rw [displacement_start newer.zero older.last_nonneg, ih, lengthLeft]

end Rebasing
