/-
Functions that ask a service and report through a completion handler.  A request
carries the closure that receives its result or its error; the closure may send
further requests.  Every request is answered once, in any order, with exactly
one of result and error.

Nothing here refers to a particular program.
-/

import Mathlib.Tactic.TypeStar

namespace InstagramProject.Callback

/-- The body of such a function.  `κ` is the type of the result of a request. -/
inductive Body (ρ : Type*) (κ : ρ → Type*) (ε α : Type*)
  | done
  | trap
  | complete (result : Except ε α) (rest : Body ρ κ ε α)
  | send (request : ρ) (handler : Option (κ request) → Option ε → Body ρ κ ε α)
      (rest : Body ρ κ ε α)

/-- A request under way, with the closure that waits for it. -/
structure Pending (ρ : Type*) (κ : ρ → Type*) (ε α : Type*) where
  request : ρ
  handler : Option (κ request) → Option ε → Body ρ κ ε α

/-- One call of the function. -/
structure Session (ρ : Type*) (κ : ρ → Type*) (ε α : Type*) where
  running : Bool
  pending : List (Pending ρ κ ε α)
  /-- The answered requests, each with its error if it failed. -/
  answered : List (ρ × Option ε)
  /-- What the completion handler was called with. -/
  reports : List (Except ε α)

variable {ρ : Type*} {κ : ρ → Type*} {ε α : Type*}

namespace Session

/-- Run a body to its end. -/
def exec (session : Session ρ κ ε α) : Body ρ κ ε α → Session ρ κ ε α
  | .done => session
  | .trap => { session with running := false }
  | .complete result rest =>
      exec { session with reports := session.reports ++ [result] } rest
  | .send request handler rest =>
      exec { session with
        pending := session.pending ++ [{ request := request, handler := handler }] } rest

/-- The state when the call returns. -/
def called (body : Body ρ κ ε α) : Session ρ κ ε α :=
  exec { running := true, pending := [], answered := [], reports := [] } body

/-- An answer arrives and its closure runs. -/
def answer (session : Session ρ κ ε α) (before after : List (Pending ρ κ ε α))
    (asked : Pending ρ κ ε α) (result : Option (κ asked.request)) (error : Option ε) :
    Session ρ κ ε α :=
  exec { session with
    pending := before ++ after
    answered := (asked.request, error) :: session.answered } (asked.handler result error)

def Settled (session : Session ρ κ ε α) : Prop := session.pending = []

def Failed (session : Session ρ κ ε α) : Prop :=
  ∃ answer ∈ session.answered, answer.2.isSome = true

end Session

def ExactlyOne {ρ ε : Type*} (result : Option ρ) (error : Option ε) : Prop :=
  result.isSome = !error.isSome

/-- The states of a call, over every order of answers. -/
inductive Reached (body : Body ρ κ ε α) : Session ρ κ ε α → Prop
  | called : Reached body (.called body)
  | answered {session : Session ρ κ ε α} {before after : List (Pending ρ κ ε α)}
      {asked : Pending ρ κ ε α} {result : Option (κ asked.request)} {error : Option ε} :
      Reached body session → session.running = true →
      session.pending = before ++ asked :: after → ExactlyOne result error →
      Reached body (session.answer before after asked result error)

/-- Once every answer has arrived the completion handler has been called exactly
once, with a failure exactly if a guard stopped the call or a request failed. -/
def ReportsOnce (stopped : Prop) (body : Body ρ κ ε α) : Prop :=
  ∀ session, Reached body session → session.Settled →
    ∃ report, session.reports = [report] ∧ (report.isOk = false ↔ stopped ∨ session.Failed)

/-! ### Bodies that tell -/

/-- A body that goes on with one thing: it reports, by whether a request has
failed, or it leaves that to the closure of one request. -/
inductive Tells : Prop → Body ρ κ ε α → Prop
  | complete {failed : Prop} {result : Except ε α} :
      (result.isOk = false ↔ failed) → Tells failed (.complete result .done)
  | send {failed : Prop} {request : ρ}
      {handler : Option (κ request) → Option ε → Body ρ κ ε α} :
      (∀ result error, ExactlyOne result error →
        Tells (error.isSome = true ∨ failed) (handler result error)) →
      Tells failed (.send request handler .done)

/-- The states of a call that tells: it waits for one answer, or it has reported. -/
inductive Told : Session ρ κ ε α → Prop
  | waiting {session : Session ρ κ ε α} {asked : Pending ρ κ ε α} :
      session.pending = [asked] → session.reports = [] →
      (∀ result error, ExactlyOne result error →
        Tells (error.isSome = true ∨ session.Failed) (asked.handler result error)) →
      Told session
  | reported {session : Session ρ κ ε α} {report : Except ε α} :
      session.pending = [] → session.reports = [report] →
      (report.isOk = false ↔ session.Failed) → Told session

/-- Running a body that tells from a call that has nothing under way and has not
reported. -/
theorem Tells.exec {session : Session ρ κ ε α} {failed : Prop} {body : Body ρ κ ε α}
    (tells : Tells failed body) (same : failed ↔ session.Failed) (nothing : session.pending = [])
    (silent : session.reports = []) : Told (session.exec body) := by
  rw [propext same] at tells
  cases tells with
  | complete honest =>
      refine .reported nothing ?_ honest
      change session.reports ++ [_] = [_]
      rw [silent]
      rfl
  | @send _ request handler tells =>
      have underWay : session.pending ++ [Pending.mk request handler] =
          [Pending.mk request handler] := by
        rw [nothing]
        rfl
      exact .waiting underWay silent tells

/-- One answer. -/
theorem Told.answer {session : Session ρ κ ε α} (told : Told session)
    {before after : List (Pending ρ κ ε α)} {asked : Pending ρ κ ε α}
    (pending : session.pending = before ++ asked :: after) {result : Option (κ asked.request)}
    {error : Option ε} (one : ExactlyOne result error) :
    Told (session.answer before after asked result error) := by
  cases told with
  | waiting only silent tells =>
      rw [pending] at only
      cases before with
      | nil =>
          cases only
          refine (tells result error one).exec ?_ rfl silent
          simp only [Session.Failed, List.mem_cons, exists_eq_or_imp]
      | cons first before =>
          have none := (List.cons.inj only).2
          exact absurd none (List.append_ne_nil_of_right_ne_nil _ (List.cons_ne_nil _ _))
  | reported none _reports _honest =>
      rw [pending] at none
      exact absurd none (List.append_ne_nil_of_right_ne_nil _ (List.cons_ne_nil _ _))

theorem Tells.told {body : Body ρ κ ε α} (tells : Tells False body)
    {session : Session ρ κ ε α} (reached : Reached body session) : Told session := by
  induction reached with
  | called =>
      refine tells.exec (iff_of_false not_false ?_) rfl rfl
      rintro ⟨answer, impossible, _failed⟩
      cases impossible
  | answered _earlier _running pending one told => exact told.answer pending one

/-- A body that tells reports exactly once, if no guard stopped it. -/
theorem Tells.reportsOnce {stopped : Prop} {body : Body ρ κ ε α} (tells : Tells False body)
    (goes : ¬stopped) : ReportsOnce stopped body := by
  intro session reached settled
  cases tells.told reached with
  | waiting only _silent _tells =>
      have impossible := only.symm.trans settled
      cases impossible
  | reported _none reports honest => exact ⟨_, reports, honest.trans (or_iff_right goes).symm⟩

/-- A body that returns at once never reports. -/
theorem not_reportsOnce_done {stopped : Prop} :
    ¬ReportsOnce stopped (.done : Body ρ κ ε α) := by
  intro reports
  obtain ⟨report, once, _honest⟩ := reports _ .called rfl
  cases once

end InstagramProject.Callback
