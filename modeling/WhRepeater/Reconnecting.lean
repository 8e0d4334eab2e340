import Mathlib.Data.List.Count
import Mathlib.Order.Defs.LinearOrder
import WhRepeater.Runs

/-! A connection that is tried again no sooner than a delay after it was lost. What
is sent goes through a connection that offers what it needs, and a send that fails
loses the connection. -/
namespace Reconnecting

/-- `connect` is a try, with what the other end offers when it succeeds. -/
inductive Call (Offer Item : Type*) where
  | connect (began ended : Int) (outcome : Option Offer)
  | send (ended : Int) (item : Item) (sent : Bool)
  deriving Repr, DecidableEq

structure Connection (Offer : Type*) where
  offer : Option Offer := none
  notBefore : Int := 0
  deriving Repr, DecidableEq

variable {Offer Item : Type*} {delay start middle finish sooner : Int} {carries : Offer → Item → Bool}

namespace Connection

def lost (delay ended : Int) : Connection Offer := { notBefore := ended + delay }

/-- The calls that may come next, and what they make of the connection. -/
def take (delay : Int) (carries : Offer → Item → Bool) (connection : Connection Offer) :
    Call Offer Item → Option (Connection Offer)
  | .connect began ended outcome =>
    if connection.offer.isNone && decide (connection.notBefore ≤ began) then
      some (outcome.elim (lost delay ended) fun offer => { connection with offer := some offer })
    else none
  | .send ended item sent =>
    if connection.offer.any (carries · item) then some (if sent then connection else lost delay ended) else none

/-- From here on no try comes sooner. -/
def earliest (delay start : Int) (connection : Connection Offer) : Int :=
  if connection.offer.isSome then start + delay else max start connection.notBefore

variable {connection next : Connection Offer}

theorem start_le_earliest (waits : 0 ≤ delay) : start ≤ connection.earliest delay start := by
  unfold earliest
  split <;> omega

theorem earliest_lost {ended : Int} (waits : 0 ≤ delay) :
    (lost delay ended : Connection Offer).earliest delay ended = ended + delay := by
  simp only [earliest, lost, Option.isSome_none, Bool.false_eq_true, if_false]
  omega

theorem earliest_mono (later : sooner ≤ start) : connection.earliest delay sooner ≤ connection.earliest delay start := by
  unfold earliest
  split <;> omega

end Connection

namespace Call

def isConnect : Call Offer Item → Bool
  | .connect _ _ _ => true
  | .send _ _ _ => false

def began : Call Offer Item → Int
  | .connect began _ _ => began
  | .send ended _ _ => ended

def ended : Call Offer Item → Int
  | .connect _ ended _ => ended
  | .send ended _ _ => ended

/-- The calls follow one another in time, from `start` to `finish`. -/
def Timed : Int → Int → List (Call Offer Item) → Prop
  | start, finish, [] => start ≤ finish
  | start, finish, call :: rest => start ≤ call.began ∧ call.began ≤ call.ended ∧ Timed call.ended finish rest

variable {calls later : List (Call Offer Item)}

theorem Timed.earlier (before : sooner ≤ start) (timed : Timed start finish calls) : Timed sooner finish calls := by
  cases calls with
  | nil => exact Int.le_trans before (show start ≤ finish from timed)
  | cons call rest => exact ⟨Int.le_trans before timed.1, timed.2⟩

theorem Timed.le (timed : Timed start finish calls) : start ≤ finish := by
  induction calls generalizing start with
  | nil => exact timed
  | cons call rest ih => exact Int.le_trans timed.1 (Int.le_trans timed.2.1 (ih timed.2.2))

theorem Timed.append (timed : Timed start middle calls) (after : Timed middle finish later) :
    Timed start finish (calls ++ later) := by
  induction calls generalizing start with
  | nil => exact after.earlier timed
  | cons call rest ih => exact ⟨timed.1, timed.2.1, ih timed.2.2⟩

end Call

open Connection Call

/-- A try does not come before the earliest moment for one, and puts the next one
off by the delay; what is sent leaves the earliest moment no sooner. -/
theorem earliest_take {connection next : Connection Offer} {call : Call Offer Item} (waits : 0 ≤ delay)
    (reached : start ≤ call.began) (lasts : call.began ≤ call.ended) (taken : connection.take delay carries call = some next) :
    connection.earliest delay start + (if call.isConnect then delay else 0) ≤ next.earliest delay call.ended ∧
      (call.isConnect → connection.earliest delay start ≤ call.ended) := by
  cases call with
  | connect began ended outcome =>
    simp only [take, Option.ite_none_right_eq_some, Option.some.injEq, Bool.and_eq_true, Option.isNone_iff_eq_none,
      decide_eq_true_eq] at taken
    obtain ⟨⟨closed, due⟩, rfl⟩ := taken
    simp only [Call.began, Call.ended] at reached lasts
    have here : connection.earliest delay start ≤ ended := by
      simp only [earliest, closed, Option.isSome_none, Bool.false_eq_true, if_false]
      omega
    refine ⟨?_, fun _ => here⟩
    cases outcome with
    | none =>
      have after : (lost delay ended : Connection Offer).earliest delay ended = ended + delay := earliest_lost waits
      simp only [isConnect, if_true, Option.elim_none, Call.ended, after]
      omega
    | some offer =>
      simp only [isConnect, if_true, Option.elim_some, Call.ended, earliest, Option.isSome_some] at here ⊢
      omega
  | send ended item sent =>
    simp only [take, Option.ite_none_right_eq_some, Option.some.injEq, Option.any_eq_true] at taken
    obtain ⟨⟨offer, opened, -⟩, rfl⟩ := taken
    simp only [Call.began] at reached
    have before : connection.earliest delay start = start + delay := by simp [earliest, opened]
    refine ⟨?_, by simp [isConnect]⟩
    cases sent with
    | true =>
      simp only [isConnect, Bool.false_eq_true, if_false, if_true, Call.ended, Int.add_zero]
      exact earliest_mono reached
    | false =>
      have after : (lost delay ended : Connection Offer).earliest delay ended = ended + delay := earliest_lost waits
      simp only [isConnect, Bool.false_eq_true, if_false, Call.ended, after, before]
      omega

/-- Every try after the first costs the delay. -/
theorem tries_spaced {connection final : Connection Offer} {calls : List (Call Offer Item)} (waits : 0 ≤ delay)
    (timed : Timed start finish calls) (taken : Runs.run (take delay carries) connection calls = some final)
    (tried : 0 < calls.countP isConnect) :
    connection.earliest delay start + ((calls.countP isConnect : Int) - 1) * delay ≤ finish := by
  induction calls generalizing connection start with
  | nil => simp at tried
  | cons call rest ih =>
    obtain ⟨reached, lasts, timed⟩ := timed
    obtain ⟨next, here, taken⟩ := Option.bind_eq_some_iff.mp taken
    obtain ⟨put_off, due⟩ := earliest_take waits reached lasts here
    rw [List.countP_cons] at tried ⊢
    rcases Nat.eq_zero_or_pos (rest.countP isConnect) with last | more
    · have connect : call.isConnect = true := by
        by_contra other
        rw [last, if_neg other] at tried
        omega
      rw [last, if_pos connect]
      simpa using Int.le_trans (due connect) timed.le
    · have later := ih timed taken more
      cases connect : call.isConnect with
      | true =>
        rw [connect, if_pos rfl] at put_off
        have one_more : (rest.countP isConnect : Int) * delay = (rest.countP isConnect - 1) * delay + delay := by
          rw [Int.sub_mul, Int.one_mul]
          omega
        rw [if_pos rfl, Int.natCast_add, Int.natCast_one, Int.add_sub_cancel, one_more]
        omega
      | false =>
        rw [connect, if_neg (by simp)] at put_off
        rw [if_neg (by simp), Nat.add_zero]
        omega

end Reconnecting
