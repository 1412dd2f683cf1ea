/-
Maps between machines.  A map of states and events that commutes with the steps
takes runs to runs, event by event.

Nothing here refers to a particular program.
-/

import InstagramProject.Transition

namespace InstagramProject.Transition

variable {σ ε τ δ : Type*}

/-- The image of a step is a step, and an event is refused where its image is. -/
def Commutes (step : σ → ε → Option σ) (image : τ → δ → Option τ) (state : σ → τ)
    (event : ε → δ) : Prop :=
  ∀ before happens, image (state before) (event happens) = (step before happens).map state

variable {step : σ → ε → Option σ} {image : τ → δ → Option τ} {state : σ → τ} {event : ε → δ}
  {start after : σ} {past : List (σ × ε)}

theorem Commutes.run (commutes : Commutes step image state event)
    (ran : Run step start past after) :
    Run image (state start) (past.map (fun moment => (state moment.1, event moment.2)))
      (state after) := by
  induction ran with
  | start => exact .start
  | next _earlier stepped ih =>
      refine .next ih ?_
      rw [commutes, stepped, Option.map_some]

/-- The image machine can do no more than the images of what the machine can do. -/
theorem Commutes.possible (commutes : Commutes step image state event) (before : σ) (happens : ε) :
    (image (state before) (event happens)).isSome = (step before happens).isSome := by
  rw [commutes, Option.isSome_map]

end InstagramProject.Transition
