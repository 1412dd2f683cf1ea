/-
Machines with outside events and internal ones.  A potential bounds the internal
work still to do: an internal event lowers it, an outside event raises it by a
credit at most.  Over a run the internal events are then paid for by the outside
ones, and a machine that can act while it is not at rest comes to rest.

Nothing here refers to a particular program.
-/

import InstagramProject.Transition
import Mathlib.Data.List.Basic

namespace InstagramProject.Potential

open Transition

variable {σ ε : Type*}

/-- How many events of a past satisfy a test. -/
def count (test : ε → Bool) (past : List (σ × ε)) : Nat :=
  past.countP (fun moment => test moment.2)

/-- All events of a past are internal. -/
def Internally (internal : ε → Bool) (past : List (σ × ε)) : Prop :=
  ∀ moment ∈ past, internal moment.2 = true

structure Pays (step : σ → ε → Option σ) (internal : ε → Bool) (potential : σ → Nat)
    (credit : Nat) : Prop where
  falls : ∀ state event after, step state event = some after → internal event = true →
    potential after < potential state
  rises : ∀ state event after, step state event = some after → internal event = false →
    potential after ≤ potential state + credit

variable {step : σ → ε → Option σ} {internal : ε → Bool} {potential : σ → Nat} {credit : Nat}
  {start state after : σ} {past recent : List (σ × ε)}

theorem count_cons (test : ε → Bool) (moment : σ × ε) (past : List (σ × ε)) :
    count test (moment :: past) = count test past + if test moment.2 then 1 else 0 := by
  unfold count
  rw [List.countP_cons]

/-- The internal events of a run are paid for by its outside events. -/
theorem Pays.bound (pays : Pays step internal potential credit) (ran : Run step start past state) :
    count internal past + potential state ≤
      potential start + credit * count (fun event => !internal event) past := by
  induction ran with
  | start =>
      change 0 + potential start ≤ potential start + credit * 0
      omega
  | @next past state event after _earlier stepped ih =>
      rw [count_cons, count_cons]
      cases inside : internal event with
      | true =>
          have lower := pays.falls state event after stepped inside
          simp only [Bool.not_true, if_true, Bool.false_eq_true, if_false, Nat.add_zero]
          omega
      | false =>
          have higher := pays.rises state event after stepped inside
          simp only [Bool.not_false, if_true, Bool.false_eq_true, if_false, Nat.add_zero,
            Nat.mul_add, Nat.mul_one]
          omega

/-- An internal run is no longer than the potential it starts with. -/
theorem Pays.length_le (pays : Pays step internal potential credit)
    (ran : Run step start past state) (inside : Internally internal past) :
    past.length + potential state ≤ potential start := by
  induction ran with
  | start =>
      change 0 + potential start ≤ potential start
      omega
  | @next past state event after _earlier stepped ih =>
      have earlier := ih (fun moment member => inside moment (List.mem_cons_of_mem _ member))
      have lower := pays.falls state event after stepped (inside _ List.mem_cons_self)
      rw [List.length_cons]
      omega

/-- Runs follow one another. -/
theorem run_append (first : Run step start past state) (second : Run step state recent after) :
    Run step start (recent ++ past) after := by
  induction second with
  | start => exact first
  | next _earlier stepped ih => exact .next ih stepped

/-- All events of a past are allowed in the states they happen in. -/
def Allowed (allowed : σ → ε → Bool) (past : List (σ × ε)) : Prop :=
  ∀ moment ∈ past, allowed moment.1 moment.2 = true

/-- As long as a state is not at rest, an event that is allowed in it can happen. -/
def Progresses (step : σ → ε → Option σ) (allowed : σ → ε → Bool) (Rest : σ → Prop) : Prop :=
  ∀ state, ¬ Rest state → ∃ event, allowed state event = true ∧ (step state event).isSome = true

variable {allowed : σ → ε → Bool} {Rest : σ → Prop}

/-- From every state a run of allowed internal events leads to rest. -/
theorem Pays.drains (pays : Pays step internal potential credit)
    (inside : ∀ state event, allowed state event = true → internal event = true)
    (progresses : Progresses step allowed Rest) (state : σ) :
    ∃ past after, Run step state past after ∧ Allowed allowed past ∧ Rest after := by
  induction left : potential state using Nat.strongRecOn generalizing state with
  | ind amount ih =>
      by_cases done : Rest state
      · exact ⟨[], state, .start, nofun, done⟩
      · obtain ⟨event, allows, possible⟩ := progresses state done
        obtain ⟨next, stepped⟩ := Option.isSome_iff_exists.mp possible
        have lower := pays.falls state event next stepped (inside state event allows)
        rw [left] at lower
        obtain ⟨past, after, ran, allAllowed, rests⟩ := ih (potential next) lower next rfl
        refine ⟨past ++ [(state, event)], after, run_append (.next .start stepped) ran, ?_, rests⟩
        intro moment member
        rcases List.mem_append.mp member with later | first
        · exact allAllowed moment later
        · rw [List.mem_singleton.mp first]
          exact allows

/-- A state in which no allowed event can happen is at rest. -/
theorem Progresses.stuck (progresses : Progresses step allowed Rest)
    (noEvent : ∀ event, allowed state event = true → step state event = none) : Rest state := by
  by_contra left
  obtain ⟨event, allows, possible⟩ := progresses state left
  rw [noEvent event allows] at possible
  cases possible

end InstagramProject.Potential
