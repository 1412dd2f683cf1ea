/-
Ledgers over runs.  Each step brings items in, lets items out and may lose
items; the rest waits in the state.  If every step balances, then over a run
what came in has gone out, was lost or still waits, so that nothing was lost
exactly if the books close without the losses.

Nothing here refers to a particular program.
-/

import InstagramProject.Accounting
import InstagramProject.Transition
import Mathlib.Data.Multiset.OrderedMonoid
import Mathlib.Tactic.Abel

namespace InstagramProject.Accounting

open Transition

variable {σ ε β : Type*}

/-- What waits in a state, and what a step brings in, lets out and loses. -/
structure Ledger (σ ε β : Type*) where
  waiting : σ → Multiset β
  arrives : σ → ε → Multiset β
  leaves : σ → ε → Multiset β
  lost : σ → ε → Multiset β

/-- All that flowed in a run. -/
def total (flow : σ → ε → Multiset β) : List (σ × ε) → Multiset β
  | [] => 0
  | (state, event) :: past => flow state event + total flow past

theorem total_one (mark : σ → ε → Option β) (past : List (σ × ε)) :
    total (fun state event => one (mark state event)) past =
      tally (fun moment => mark moment.1 moment.2) past := by
  induction past with
  | nil => rfl
  | cons moment past ih => rw [total, tally_cons, ih]

theorem total_eq_zero_iff (flow : σ → ε → Multiset β) (past : List (σ × ε)) :
    total flow past = 0 ↔ Throughout (fun _ state event => flow state event = 0) past := by
  induction past with
  | nil => exact iff_of_true rfl trivial
  | cons moment past ih =>
      change flow moment.1 moment.2 + total flow past = 0 ↔ _ ∧ _
      rw [add_eq_zero, ih]

namespace Ledger

variable {ledger : Ledger σ ε β} {step : σ → ε → Option σ} {start state : σ}
  {past : List (σ × ε)}

def Balances (ledger : Ledger σ ε β) (step : σ → ε → Option σ) : Prop :=
  ∀ state event after, step state event = some after →
    ledger.arrives state event + ledger.waiting state =
      ledger.waiting after + (ledger.leaves state event + ledger.lost state event)

theorem total_arrives (balances : ledger.Balances step) (nothing : ledger.waiting start = 0)
    (ran : Run step start past state) :
    total ledger.arrives past =
      ledger.waiting state + (total ledger.leaves past + total ledger.lost past) := by
  induction ran with
  | start => simp only [total, nothing, add_zero]
  | @next past state event after _earlier stepped ih =>
      have balanced := balances state event after stepped
      calc total ledger.arrives ((state, event) :: past)
          = ledger.arrives state event + (ledger.waiting state +
            (total ledger.leaves past + total ledger.lost past)) := by rw [total, ih]
        _ = ledger.waiting after + (ledger.leaves state event + ledger.lost state event) +
            (total ledger.leaves past + total ledger.lost past) := by rw [← add_assoc, balanced]
        _ = ledger.waiting after + (total ledger.leaves ((state, event) :: past) +
            total ledger.lost ((state, event) :: past)) := by
          simp only [total]
          abel

/-- What came in has gone out or still waits, exactly if no step lost anything. -/
theorem nothing_lost_iff (balances : ledger.Balances step) (nothing : ledger.waiting start = 0)
    (ran : Run step start past state) :
    Throughout (fun _ state event => ledger.lost state event = 0) past ↔
      total ledger.arrives past = ledger.waiting state + total ledger.leaves past := by
  rw [total_arrives balances nothing ran, ← total_eq_zero_iff, ← add_assoc]
  exact (add_eq_left).symm

end Ledger

end InstagramProject.Accounting
