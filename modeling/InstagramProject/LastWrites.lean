/-
The last write to a place in the course of a run.

Nothing here refers to a particular program.
-/

import InstagramProject.Transition

namespace InstagramProject.LastWrite

open Transition

variable {σ ε α : Type*}

/-- What was written last; `initial` if nothing was. -/
def latest (write : σ → ε → Option α) (initial : α) : List (σ × ε) → α
  | [] => initial
  | (state, event) :: past => (write state event).getD (latest write initial past)

variable {write : σ → ε → Option α} {initial : α} {state : σ} {event : ε} {past : List (σ × ε)}

theorem latest_of_write {value : α} (written : write state event = some value) :
    latest write initial ((state, event) :: past) = value := by
  rw [latest, written]
  rfl

theorem latest_of_none (unwritten : write state event = none) :
    latest write initial ((state, event) :: past) = latest write initial past := by
  rw [latest, unwritten]
  rfl

theorem latest_of_quiet {recent : List (σ × ε)}
    (quiet : ∀ moment ∈ recent, write moment.1 moment.2 = none) :
    latest write initial (recent ++ past) = latest write initial past := by
  induction recent with
  | nil => rfl
  | cons moment recent ih =>
      rw [List.cons_append, latest_of_none (quiet moment List.mem_cons_self)]
      exact ih (fun moment member => quiet moment (List.mem_cons_of_mem _ member))

/-- Something other than the initial value was written by somebody. -/
theorem exists_write (written : latest write initial past ≠ initial) :
    ∃ moment ∈ past, ∃ value, write moment.1 moment.2 = some value ∧ value ≠ initial := by
  induction past with
  | nil => exact absurd rfl written
  | cons moment past ih =>
      obtain ⟨state, event⟩ := moment
      cases wrote : write state event with
      | none =>
          rw [latest_of_none wrote] at written
          obtain ⟨moment, member, value, was, different⟩ := ih written
          exact ⟨moment, List.mem_cons_of_mem _ member, value, was, different⟩
      | some value =>
          rw [latest_of_write wrote] at written
          exact ⟨_, List.mem_cons_self, value, wrote, written⟩

/-- Whatever follows each write and is otherwise left alone follows the latest
write. -/
theorem follows_latest {step : σ → ε → Option σ} {start : σ} {Follows : σ → α → Prop}
    (ran : Run step start past state) (base : Follows start initial)
    (writes : ∀ state event after value, Follows state value → step state event = some after →
      Follows after ((write state event).getD value)) :
    Follows state (latest write initial past) := by
  induction ran with
  | start => exact base
  | next _earlier stepped ih => exact writes _ _ _ _ ih stepped

/-- A field that steps change only by writing holds what was written last. -/
theorem field_eq_latest {step : σ → ε → Option σ} {start : σ} {field : σ → α}
    (writes : ∀ state event after, step state event = some after →
      field after = (write state event).getD (field state))
    (ran : Run step start past state) : field state = latest write (field start) past := by
  induction ran with
  | start => rfl
  | next _earlier stepped ih => rw [writes _ _ _ stepped, ih, latest]

/-- One value that is written again and again is there from the first time on. -/
theorem latest_mark (marks : σ → ε → Bool) (value : α) :
    latest (fun state event => if marks state event then some value else none) initial past =
      if past.any (fun moment => marks moment.1 moment.2) then value else initial := by
  induction past with
  | nil => rfl
  | cons moment past ih =>
      rw [latest, ih, List.any_cons]
      cases marks moment.1 moment.2 <;> rfl

end InstagramProject.LastWrite
