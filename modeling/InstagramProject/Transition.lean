/-
Partial deterministic machines.  A step takes a state and an event and may
refuse the event.  A run is kept together with its past, the states and events
it went through, so that a property can speak of what happened before.  The
module supplies the induction rules for runs, and conditions on the steps of a
run.

Nothing here refers to a particular program.
-/

import Mathlib.Tactic.TypeStar

namespace InstagramProject.Transition

variable {σ ε : Type*}

/-- `Run step start past state`: a run from `start` ends in `state`; `past` lists
its states and events, the latest first. -/
inductive Run (step : σ → ε → Option σ) (start : σ) : List (σ × ε) → σ → Prop
  | start : Run step start [] start
  | next {past : List (σ × ε)} {state : σ} {event : ε} {after : σ} :
      Run step start past state → step state event = some after →
      Run step start ((state, event) :: past) after

/-- A condition on every step of a run, on the state, the event, and what came
before. -/
def Throughout (condition : List (σ × ε) → σ → ε → Prop) : List (σ × ε) → Prop
  | [] => True
  | (state, event) :: past => condition past state event ∧ Throughout condition past

instance Throughout.decidable {condition : List (σ × ε) → σ → ε → Prop}
    [∀ past state event, Decidable (condition past state event)] :
    ∀ past, Decidable (Throughout condition past)
  | [] => inferInstanceAs (Decidable True)
  | (state, event) :: past =>
      have : Decidable (Throughout condition past) := Throughout.decidable past
      inferInstanceAs (Decidable (condition past state event ∧ Throughout condition past))

variable {step : σ → ε → Option σ} {start state after : σ} {past recent : List (σ × ε)}

namespace Run

/-- The rule every safety proof uses. -/
theorem invariant (ran : Run step start past state) (property : List (σ × ε) → σ → Prop)
    (base : property [] start)
    (preserved : ∀ past state event after, Run step start past state → property past state →
      step state event = some after → property ((state, event) :: past) after) :
    property past state := by
  induction ran with
  | start => exact base
  | next earlier stepped ih => exact preserved _ _ _ _ earlier ih stepped

/-- The same rule for runs whose steps all meet a condition. -/
theorem invariant_throughout {condition : List (σ × ε) → σ → ε → Prop}
    (ran : Run step start past state) (permitted : Throughout condition past)
    (property : List (σ × ε) → σ → Prop) (base : property [] start)
    (preserved : ∀ past state event after, Run step start past state → property past state →
      condition past state event → step state event = some after →
      property ((state, event) :: past) after) :
    property past state := by
  induction ran with
  | start => exact base
  | next earlier stepped ih =>
      exact preserved _ _ _ _ earlier (ih permitted.2) permitted.1 stepped

/-- Two conditions that agree on every step agree on every run. -/
theorem throughout_iff {left right : List (σ × ε) → σ → ε → Prop}
    (ran : Run step start past state)
    (same : ∀ past state event after, Run step start past state →
      step state event = some after → (left past state event ↔ right past state event)) :
    Throughout left past ↔ Throughout right past := by
  induction ran with
  | start => exact Iff.rfl
  | next earlier stepped ih =>
      simp only [Throughout]
      rw [same _ _ _ _ earlier stepped, ih]

/-- Two conditions agree on every run if they agree on each step before which the
first one held. -/
theorem throughout_iff_of_earlier {left right : List (σ × ε) → σ → ε → Prop}
    (ran : Run step start past state)
    (same : ∀ past state event, Run step start past state → Throughout left past →
      (left past state event ↔ right past state event)) :
    Throughout left past ↔ Throughout right past := by
  induction ran with
  | start => exact Iff.rfl
  | next earlier _stepped ih =>
      simp only [Throughout]
      rw [← ih]
      exact and_congr_left (same _ _ _ earlier)

/-- The past determines the state. -/
theorem unique {other : σ} (first : Run step start past state)
    (second : Run step start past other) : state = other := by
  cases first with
  | start =>
      cases second
      rfl
  | next _earlier stepped =>
      cases second with
      | next _earlier' stepped' => exact Option.some.inj (stepped.symm.trans stepped')

/-- A longer run passes through the shorter one. -/
theorem split (ran : Run step start (recent ++ past) after) :
    ∃ middle, Run step start past middle ∧ Run step middle recent after := by
  induction recent generalizing after with
  | nil => exact ⟨after, ran, .start⟩
  | cons moment recent ih =>
      cases ran with
      | next earlier stepped =>
          obtain ⟨middle, first, second⟩ := ih earlier
          exact ⟨middle, first, .next second stepped⟩

/-- A run took each moment of its past from a state it reached before. -/
theorem moment {entry : σ × ε} (ran : Run step start past state) (member : entry ∈ past) :
    ∃ recent earlier, past = recent ++ entry :: earlier ∧ Run step start earlier entry.1 := by
  obtain ⟨recent, earlier, rfl⟩ := List.append_of_mem member
  obtain ⟨middle, first, _second⟩ := ran.split
  cases first with
  | next before _stepped => exact ⟨recent, earlier, rfl, before⟩

/-- What every step keeps, every later state still has. -/
theorem persists (ran : Run step start past state)
    (longer : Run step start (recent ++ past) after) (property : σ → Prop) (holds : property state)
    (kept : ∀ past state event after, Run step start past state → property state →
      step state event = some after → property after) :
    property after := by
  induction recent generalizing after with
  | nil =>
      rw [ran.unique longer] at holds
      exact holds
  | cons moment recent ih =>
      cases longer with
      | next earlier stepped => exact kept _ _ _ _ earlier (ih earlier) stepped

end Run

theorem Throughout.earlier {condition : List (σ × ε) → σ → ε → Prop}
    (permitted : Throughout condition (recent ++ past)) : Throughout condition past := by
  induction recent with
  | nil => exact permitted
  | cons later recent ih => exact ih permitted.2

/-- A moment of the past, with all that led to it. -/
theorem Run.recall {condition : List (σ × ε) → σ → ε → Prop} {entry : σ × ε}
    (ran : Run step start past state) (permitted : Throughout condition past)
    (member : entry ∈ past) :
    ∃ recent earlier, past = recent ++ entry :: earlier ∧ Run step start earlier entry.1 ∧
      Throughout condition earlier ∧ condition earlier entry.1 entry.2 := by
  obtain ⟨recent, earlier, rfl, before⟩ := ran.moment member
  exact ⟨recent, earlier, rfl, before, permitted.earlier.2, permitted.earlier.1⟩

/-! ### Running a list of events -/

/-- Take the events in order and keep the past. -/
def run (step : σ → ε → Option σ) : List (σ × ε) → σ → List ε → Option (List (σ × ε) × σ)
  | past, state, [] => some (past, state)
  | past, state, event :: rest =>
      match step state event with
      | none => none
      | some next => run step ((state, event) :: past) next rest

theorem Run.continue {events : List ε} {result : List (σ × ε) × σ}
    (ran : Run step start past state) (completed : run step past state events = some result) :
    Run step start result.1 result.2 := by
  induction events generalizing past state with
  | nil =>
      cases completed
      exact ran
  | cons event rest ih =>
      simp only [run] at completed
      cases stepped : step state event with
      | none => rw [stepped] at completed; cases completed
      | some next =>
          rw [stepped] at completed
          exact ih (.next ran stepped) completed

theorem Run.of_events (events : List ε) {result : List (σ × ε) × σ}
    (completed : run step [] start events = some result) : Run step start result.1 result.2 :=
  Run.start.continue completed

/-- The past and the state after a list of events; the start if one is refused. -/
def finish (step : σ → ε → Option σ) (start : σ) (events : List ε) : List (σ × ε) × σ :=
  (run step [] start events).getD ([], start)

theorem Run.finish (events : List ε) (completed : (run step [] start events).isSome) :
    Run step start (finish step start events).1 (finish step start events).2 := by
  obtain ⟨result, found⟩ := Option.isSome_iff_exists.mp completed
  unfold Transition.finish
  rw [found]
  exact Run.of_events events found

end InstagramProject.Transition
