/-
The keyboard handling that the login screen and the profile editor have in
common.  A keyboard that shows moves the top constraint up and keeps a reference
to it; a keyboard that hides takes the constant of the kept constraint away.
Constraints are objects: the kept reference follows every later change.
-/

import InstagramProject.Transition
import Mathlib.Algebra.Field.Rat

namespace InstagramProject.Keyboard

open Transition

variable {α : Type}

/-- The constraint objects the handlers are connected to. -/
inductive NSLayoutConstraint
  | logoImageTopConstraint
  | profileImageTopConstraint
deriving DecidableEq

/-- What the handlers of one controller read and write. -/
structure KeyboardHandling (α : Type) where
  /-- The outlet: the login screen's or the editor's. -/
  topConstraint : NSLayoutConstraint
  constants : NSLayoutConstraint → α
  isKeyboardThere : Bool
  originalState : Option NSLayoutConstraint
  /-- How often the two observers were added since they were last removed. -/
  registrations : Nat

inductive KeyboardEvent (α : Type)
  | viewDidAppear
  | viewDidDisappear
  /-- With the height of `UIKeyboardFrameBeginUserInfoKey`, if the notification has it. -/
  | keyboardWillShow (keyboardFrame : Option α)
  | keyboardWillHide
deriving DecidableEq

namespace KeyboardHandling

/-- A controller that has loaded its view and not appeared yet. -/
def loaded (outlet : NSLayoutConstraint) (constants : NSLayoutConstraint → α) :
    KeyboardHandling α :=
  { topConstraint := outlet
    constants := constants
    isKeyboardThere := false
    originalState := none
    registrations := 0 }

variable [Field α]

def moveKeyboardUp (controller : KeyboardHandling α) (height : α) : KeyboardHandling α :=
  if controller.isKeyboardThere then controller
  else
    { controller with
      originalState := some controller.topConstraint
      isKeyboardThere := true
      constants := Function.update controller.constants controller.topConstraint
        (controller.constants controller.topConstraint - height) }

def keyboardWillShow (controller : KeyboardHandling α) (keyboardFrame : Option α) :
    KeyboardHandling α :=
  match keyboardFrame with
  | none => controller
  | some height => controller.moveKeyboardUp (height / 2)

/-- `none` is the trap of the implicitly unwrapped `originalState`. -/
def resetUI (controller : KeyboardHandling α) : Option (KeyboardHandling α) :=
  match controller.originalState with
  | none => none
  | some originalState =>
      some { controller with
        isKeyboardThere := false
        constants := Function.update controller.constants controller.topConstraint
          (controller.constants controller.topConstraint - controller.constants originalState) }

end KeyboardHandling

/-- A notification reaches the handler once for each registration. -/
def deliver (handler : KeyboardHandling α → Option (KeyboardHandling α)) :
    Nat → KeyboardHandling α → Option (KeyboardHandling α)
  | 0, controller => some controller
  | times + 1, controller => (handler controller).bind (deliver handler times)

/-- One event; `none` when a handler traps. -/
def handle [Field α] (controller : KeyboardHandling α) :
    KeyboardEvent α → Option (KeyboardHandling α)
  | .viewDidAppear => some { controller with registrations := controller.registrations + 1 }
  | .viewDidDisappear => some { controller with registrations := 0 }
  | .keyboardWillShow keyboardFrame =>
      deliver (fun controller => some (controller.keyboardWillShow keyboardFrame))
        controller.registrations controller
  | .keyboardWillHide => deliver KeyboardHandling.resetUI controller.registrations controller

/-! ### What the layout should be -/

abbrev KeyboardPast (α : Type) := List (KeyboardHandling α × KeyboardEvent α)

/-- The height of the first show delivered since the last delivered hide. -/
def raisedBy : KeyboardPast α → Option α
  | [] => none
  | (controller, event) :: past =>
      if controller.registrations = 0 then raisedBy past
      else
        match event with
        | .keyboardWillShow (some height) => (raisedBy past).or (some height)
        | .keyboardWillHide => none
        | _ => raisedBy past

/-- The initial constant, less half the height of that show. -/
def expected [Field α] (initial : α) (past : KeyboardPast α) : α :=
  match raisedBy past with
  | none => initial
  | some height => initial - height / 2

/-- The event traps in no handler and leaves the constant as it should be. -/
def Restores [Field α] (outlet : NSLayoutConstraint) (initial : α) (past : KeyboardPast α)
    (controller : KeyboardHandling α) (event : KeyboardEvent α) : Prop :=
  ∃ after, handle controller event = some after ∧
    after.constants outlet = expected initial ((controller, event) :: past)

/-- A show was delivered before. -/
def ShownBefore (past : KeyboardPast α) : Prop :=
  ∃ moment ∈ past, moment.1.registrations ≠ 0 ∧ ∃ height, moment.2 = .keyboardWillShow (some height)

/-- A hide is delivered only to a layout whose initial constant is zero, and after
a show. -/
def Harmless [Field α] (initial : α) (past : KeyboardPast α) (controller : KeyboardHandling α)
    (event : KeyboardEvent α) : Prop :=
  event = .keyboardWillHide → controller.registrations ≠ 0 → initial = 0 ∧ ShownBefore past

/-! ### One event -/

section Handlers

variable {handler : KeyboardHandling α → Option (KeyboardHandling α)}
  {controller after : KeyboardHandling α}

private theorem deliver_fixed (fixed : handler after = some after) (times : Nat) :
    deliver handler times after = some after := by
  induction times with
  | zero => rfl
  | succ times ih =>
      change (handler after).bind (deliver handler times) = some after
      rw [fixed, Option.bind_some]
      exact ih

/-- Hearing a notification more than once makes no difference to these handlers. -/
private theorem deliver_once {times : Nat} (registered : times ≠ 0)
    (handled : handler controller = some after) (fixed : handler after = some after) :
    deliver handler times controller = some after := by
  cases times with
  | zero => exact absurd rfl registered
  | succ times =>
      change (handler controller).bind (deliver handler times) = some after
      rw [handled, Option.bind_some]
      exact deliver_fixed fixed times

variable [Field α]

theorem handle_unregistered (unregistered : controller.registrations = 0) :
    (∀ keyboardFrame, handle controller (.keyboardWillShow keyboardFrame) = some controller) ∧
      handle controller .keyboardWillHide = some controller := by
  simp only [handle, unregistered, deliver, implies_true, and_self]

theorem handle_frameless : handle controller (.keyboardWillShow none) = some controller :=
  deliver_fixed rfl controller.registrations

theorem handle_show {height : α} (registered : controller.registrations ≠ 0) :
    handle controller (.keyboardWillShow (some height)) =
      some (controller.moveKeyboardUp (height / 2)) := by
  refine deliver_once registered rfl ?_
  change some ((controller.moveKeyboardUp (height / 2)).moveKeyboardUp (height / 2)) = _
  have there : (controller.moveKeyboardUp (height / 2)).isKeyboardThere = true := by
    unfold KeyboardHandling.moveKeyboardUp
    split
    · assumption
    · rfl
  congr 1
  exact if_pos there

theorem handle_hide_unsaved (registered : controller.registrations ≠ 0)
    (unsaved : controller.originalState = none) :
    handle controller .keyboardWillHide = none := by
  change deliver KeyboardHandling.resetUI controller.registrations controller = none
  cases times : controller.registrations with
  | zero => exact absurd times registered
  | succ times =>
      change (controller.resetUI).bind _ = none
      simp only [KeyboardHandling.resetUI, unsaved, Option.bind_none]

/-- The kept constraint is the one that is set, so the difference is zero. -/
theorem handle_hide_saved (registered : controller.registrations ≠ 0)
    (saved : controller.originalState = some controller.topConstraint) :
    handle controller .keyboardWillHide =
      some { controller with
        isKeyboardThere := false
        constants := Function.update controller.constants controller.topConstraint 0 } := by
  refine deliver_once registered ?_ ?_
  · simp only [KeyboardHandling.resetUI, saved, sub_self]
  · simp only [KeyboardHandling.resetUI, saved, sub_self, Function.update_idem]

end Handlers

/-! ### Every event -/

section Histories

variable {outlet : NSLayoutConstraint} {past : KeyboardPast α}
  {controller after : KeyboardHandling α} {event : KeyboardEvent α}

/-- The flag and the reference follow the notifications delivered so far. -/
structure Tracks (outlet : NSLayoutConstraint) (past : KeyboardPast α)
    (controller : KeyboardHandling α) : Prop where
  connected : controller.topConstraint = outlet
  saved : ∀ originalState, controller.originalState = some originalState → originalState = outlet
  shown : controller.originalState ≠ none ↔ ShownBefore past
  there : controller.isKeyboardThere = (raisedBy past).isSome

theorem shownBefore_cons :
    ShownBefore ((controller, event) :: past) ↔
      (controller.registrations ≠ 0 ∧ ∃ height, event = .keyboardWillShow (some height)) ∨
        ShownBefore past := by
  simp only [ShownBefore, List.mem_cons, exists_eq_or_imp]

theorem raisedBy_unregistered (unregistered : controller.registrations = 0) :
    raisedBy ((controller, event) :: past) = raisedBy past := by
  simp only [raisedBy, unregistered, if_true]

/-- The height on record comes from a delivered show. -/
theorem shown_of_raised (raised : (raisedBy past).isSome = true) : ShownBefore past := by
  induction past with
  | nil => cases raised
  | cons moment past ih =>
      obtain ⟨controller, event⟩ := moment
      rw [shownBefore_cons]
      by_cases registered : controller.registrations = 0
      · rw [raisedBy_unregistered registered] at raised
        exact .inr (ih raised)
      · simp only [raisedBy, if_neg registered] at raised
        cases event with
        | keyboardWillShow keyboardFrame =>
            cases keyboardFrame with
            | none => exact .inr (ih raised)
            | some height => exact .inl ⟨registered, height, rfl⟩
        | keyboardWillHide => cases raised
        | _ => exact .inr (ih raised)

private theorem tracks_unheard (tracks : Tracks outlet past controller)
    (sameOutlet : after.topConstraint = controller.topConstraint)
    (sameSaved : after.originalState = controller.originalState)
    (sameThere : after.isKeyboardThere = controller.isKeyboardThere)
    (noShow : ¬ (controller.registrations ≠ 0 ∧ ∃ height, event = .keyboardWillShow (some height)))
    (sameRaise : raisedBy ((controller, event) :: past) = raisedBy past) :
    Tracks outlet ((controller, event) :: past) after := by
  refine ⟨sameOutlet.trans tracks.connected, ?_, ?_, ?_⟩
  · intro originalState saved
    exact tracks.saved originalState (sameSaved.symm.trans saved)
  · rw [sameSaved, tracks.shown, shownBefore_cons]
    exact ⟨.inr, fun shown => shown.resolve_left noShow⟩
  · rw [sameThere, tracks.there, sameRaise]

variable [Field α] {initial : α} {constants : NSLayoutConstraint → α}

private theorem tracks_show {height : α} (tracks : Tracks outlet past controller)
    (registered : controller.registrations ≠ 0) :
    Tracks outlet ((controller, .keyboardWillShow (some height)) :: past)
      (controller.moveKeyboardUp (height / 2)) := by
  have raised : raisedBy ((controller, .keyboardWillShow (some height)) :: past) =
      (raisedBy past).or (some height) := if_neg registered
  have shownNow : ShownBefore ((controller, .keyboardWillShow (some height)) :: past) :=
    shownBefore_cons.mpr (.inl ⟨registered, height, rfl⟩)
  cases there : controller.isKeyboardThere with
  | true =>
      have same : controller.moveKeyboardUp (height / 2) = controller := if_pos there
      have alreadyRaised : (raisedBy past).isSome = true := by rw [← tracks.there, there]
      rw [same]
      refine ⟨tracks.connected, tracks.saved, iff_of_true ?_ shownNow, ?_⟩
      · rw [tracks.shown]
        exact shown_of_raised alreadyRaised
      · rw [raised, there]
        cases known : raisedBy past with
        | none => rfl
        | some first => rfl
  | false =>
      have moved : controller.moveKeyboardUp (height / 2) =
          { controller with
            originalState := some controller.topConstraint
            isKeyboardThere := true
            constants := Function.update controller.constants controller.topConstraint
              (controller.constants controller.topConstraint - height / 2) } := by
        unfold KeyboardHandling.moveKeyboardUp
        rw [there]
        exact if_neg Bool.false_ne_true
      rw [moved]
      refine ⟨tracks.connected, ?_, iff_of_true (Option.some_ne_none _) shownNow, ?_⟩
      · rintro originalState ⟨⟩
        exact tracks.connected
      · rw [raised]
        cases raisedBy past <;> rfl

private theorem tracks_hide (tracks : Tracks outlet past controller)
    (handled : handle controller .keyboardWillHide = some after) :
    Tracks outlet ((controller, .keyboardWillHide) :: past) after := by
  by_cases registered : controller.registrations = 0
  · rw [(handle_unregistered registered).2] at handled
    cases handled
    apply tracks_unheard tracks rfl rfl rfl
    · exact fun shown => shown.1 registered
    · exact raisedBy_unregistered registered
  · cases saved : controller.originalState with
    | none =>
        rw [handle_hide_unsaved registered saved] at handled
        cases handled
    | some originalState =>
        have isOutlet := tracks.saved originalState saved
        rw [handle_hide_saved registered (saved.trans (by rw [isOutlet, tracks.connected]))]
          at handled
        cases handled
        refine ⟨tracks.connected, tracks.saved, ?_, ?_⟩
        · rw [shownBefore_cons, tracks.shown]
          refine ⟨.inr, ?_⟩
          rintro (⟨_, _, isShow⟩ | before)
          · cases isShow
          · exact before
        · simp only [raisedBy, registered, if_false, Option.isSome_none]

theorem tracks (ran : Run handle (KeyboardHandling.loaded outlet constants) past controller) :
    Tracks outlet past controller := by
  refine ran.invariant (Tracks outlet) ?_ ?_
  · refine ⟨rfl, nofun, ?_, rfl⟩
    exact iff_of_false (fun saved => saved rfl) nofun
  · intro past before event after _earlier tracks handled
    cases event with
    | viewDidAppear =>
        cases handled
        refine tracks_unheard tracks rfl rfl rfl ?_ ?_
        · rintro ⟨_, _, ⟨⟩⟩
        · simp only [raisedBy, ite_self]
    | viewDidDisappear =>
        cases handled
        refine tracks_unheard tracks rfl rfl rfl ?_ ?_
        · rintro ⟨_, _, ⟨⟩⟩
        · simp only [raisedBy, ite_self]
    | keyboardWillShow keyboardFrame =>
        by_cases registered : before.registrations = 0
        · rw [(handle_unregistered registered).1 keyboardFrame] at handled
          cases handled
          apply tracks_unheard tracks rfl rfl rfl
          · exact fun shown => shown.1 registered
          · exact raisedBy_unregistered registered
        · cases keyboardFrame with
          | none =>
              rw [handle_frameless] at handled
              cases handled
              apply tracks_unheard tracks rfl rfl rfl
              · rintro ⟨_, _, ⟨⟩⟩
              · simp only [raisedBy, ite_self]
          | some height =>
              rw [handle_show registered] at handled
              cases handled
              exact tracks_show tracks registered
    | keyboardWillHide => exact tracks_hide tracks handled

/-! ### When the layout is restored -/

private theorem restores_unheard (known : controller.constants outlet = expected initial past)
    (handled : handle controller event = some after)
    (sameConstants : after.constants = controller.constants)
    (sameRaise : raisedBy ((controller, event) :: past) = raisedBy past) :
    Restores outlet initial past controller event := by
  refine ⟨after, handled, ?_⟩
  unfold expected
  rw [sameConstants, known, sameRaise]
  rfl

private theorem restores_show {height : α} (tracks : Tracks outlet past controller)
    (known : controller.constants outlet = expected initial past)
    (registered : controller.registrations ≠ 0) :
    Restores outlet initial past controller (.keyboardWillShow (some height)) := by
  refine ⟨_, handle_show registered, ?_⟩
  have raised : raisedBy ((controller, .keyboardWillShow (some height)) :: past) =
      (raisedBy past).or (some height) := if_neg registered
  unfold expected at known ⊢
  rw [raised]
  unfold KeyboardHandling.moveKeyboardUp
  cases first : raisedBy past with
  | none =>
      have there : controller.isKeyboardThere = false := by
        rw [tracks.there, first]
        rfl
      rw [first] at known
      simp only [there, Bool.false_eq_true, if_false, tracks.connected, Function.update_self,
        known, Option.none_or]
  | some earlier =>
      have there : controller.isKeyboardThere = true := by
        rw [tracks.there, first]
        rfl
      rw [first] at known
      simp only [there, if_true, known, Option.some_or]

private theorem restores_hide_iff (tracks : Tracks outlet past controller)
    (registered : controller.registrations ≠ 0) :
    Restores outlet initial past controller .keyboardWillHide ↔
      initial = 0 ∧ ShownBefore past := by
  rw [← tracks.shown]
  have raised : raisedBy ((controller, .keyboardWillHide) :: past) = none := if_neg registered
  unfold Restores expected
  rw [raised]
  cases saved : controller.originalState with
  | none =>
      rw [handle_hide_unsaved registered saved]
      refine iff_of_false ?_ (fun shown => shown.2 rfl)
      rintro ⟨after, trapped, _⟩
      cases trapped
  | some originalState =>
      have isOutlet := tracks.saved originalState saved
      rw [handle_hide_saved registered (saved.trans (by rw [isOutlet, tracks.connected]))]
      simp only [Option.some.injEq, exists_eq_left', tracks.connected, Function.update_self,
        ne_eq, reduceCtorEq, not_false_eq_true, and_true]
      exact eq_comm

theorem restores_iff_harmless (tracks : Tracks outlet past controller)
    (known : controller.constants outlet = expected initial past) :
    Restores outlet initial past controller event ↔ Harmless initial past controller event := by
  unfold Harmless
  cases event with
  | keyboardWillHide =>
      by_cases registered : controller.registrations = 0
      · refine iff_of_true ?_ (fun _ heard => absurd registered heard)
        exact restores_unheard known (handle_unregistered registered).2 rfl
          (raisedBy_unregistered registered)
      · rw [restores_hide_iff tracks registered]
        exact ⟨fun both _ _ => both, fun both => both rfl registered⟩
  | keyboardWillShow keyboardFrame =>
      refine iff_of_true ?_ nofun
      by_cases registered : controller.registrations = 0
      · exact restores_unheard known ((handle_unregistered registered).1 keyboardFrame) rfl
          (raisedBy_unregistered registered)
      · cases keyboardFrame with
        | none =>
            apply restores_unheard known handle_frameless rfl
            simp only [raisedBy, ite_self]
        | some height => exact restores_show tracks known registered
  | viewDidAppear =>
      refine iff_of_true ?_ nofun
      refine restores_unheard known rfl rfl ?_
      simp only [raisedBy, ite_self]
  | viewDidDisappear =>
      refine iff_of_true ?_ nofun
      refine restores_unheard known rfl rfl ?_
      simp only [raisedBy, ite_self]

/-- As long as every event restores the layout, the constant is as it should be. -/
theorem constant_of_restores
    (ran : Run handle (KeyboardHandling.loaded outlet constants) past controller)
    (restored : Throughout (Restores outlet (constants outlet)) past) :
    controller.constants outlet = expected (constants outlet) past := by
  cases ran with
  | start => rfl
  | next _earlier handled =>
      obtain ⟨_, reached, known⟩ := restored.1
      cases handled.symm.trans reached
      exact known

/-- Over any events, the last of which may trap: no handler traps and the constant
is always the initial one, less half the height of the first show since the last
hide, exactly if no hide is delivered, or the initial constant is zero and a show
was delivered before. -/
theorem keyboard_restores
    (ran : Run handle (KeyboardHandling.loaded outlet constants) past controller)
    (event : KeyboardEvent α) :
    Throughout (Restores outlet (constants outlet)) ((controller, event) :: past) ↔
      Throughout (Harmless (constants outlet)) ((controller, event) :: past) := by
  have same {past : KeyboardPast α} {state : KeyboardHandling α} {event : KeyboardEvent α}
      (ran : Run handle (KeyboardHandling.loaded outlet constants) past state)
      (restored : Throughout (Restores outlet (constants outlet)) past) :
      Restores outlet (constants outlet) past state event ↔
        Harmless (constants outlet) past state event :=
    restores_iff_harmless (tracks ran) (constant_of_restores ran restored)
  simp only [Throughout]
  rw [← ran.throughout_iff_of_earlier (fun _ _ _ => same)]
  exact and_congr_left (same ran)

end Histories

/-! ### The two controllers -/

/-- The constants the storyboards give the two constraints. -/
def storyboardConstants : NSLayoutConstraint → ℚ
  | .logoImageTopConstraint => 40
  | .profileImageTopConstraint => 10

def loginViewController : KeyboardHandling ℚ :=
  .loaded .logoImageTopConstraint storyboardConstants

def editProfileViewController : KeyboardHandling ℚ :=
  .loaded .profileImageTopConstraint storyboardConstants

/-- The keyboard shows and changes its height in the editor, and hides after the
editor has gone. -/
theorem keyboard_restores_editor :
    ∃ past controller, Run handle editProfileViewController past controller ∧
      past.map Prod.snd = [.viewDidDisappear, .keyboardWillShow (some 260),
        .keyboardWillShow (some 300), .viewDidAppear] ∧
      Throughout (Restores .profileImageTopConstraint 10)
        ((controller, .keyboardWillHide) :: past) := by
  obtain ⟨⟨past, controller⟩, reached⟩ := Option.isSome_iff_exists.mp
    (by decide +kernel : (run handle [] editProfileViewController
      [.viewDidAppear, .keyboardWillShow (some 300), .keyboardWillShow (some 260),
        .viewDidDisappear]).isSome)
  have ran := Run.of_events _ reached
  cases reached
  refine ⟨_, _, ran, rfl, (keyboard_restores ran .keyboardWillHide).mpr ?_⟩
  exact ⟨fun _ heard => absurd rfl heard, nofun, nofun, nofun, nofun, trivial⟩

/-- After one show and one hide the constant of the login screen is zero; a hide
before any show traps. -/
theorem constant_lost :
    (∃ past controller, Run handle loginViewController past controller ∧
      past.map Prod.snd =
        [.keyboardWillHide, .keyboardWillShow (some 300), .viewDidAppear] ∧
      controller.constants .logoImageTopConstraint = 0 ∧
      loginViewController.constants .logoImageTopConstraint = 40 ∧
      ¬ Throughout (Restores .logoImageTopConstraint 40) past) ∧
    ∃ past controller, Run handle loginViewController past controller ∧
      past.map Prod.snd = [.viewDidAppear] ∧ handle controller .keyboardWillHide = none := by
  constructor
  · obtain ⟨⟨past, controller⟩, reached⟩ := Option.isSome_iff_exists.mp
      (by decide +kernel : (run handle [] loginViewController
        [.viewDidAppear, .keyboardWillShow (some 300), .keyboardWillHide]).isSome)
    have ran := Run.of_events _ reached
    cases reached
    refine ⟨_, _, ran, rfl, by decide +kernel, rfl, ?_⟩
    intro restored
    obtain ⟨after, handled, known⟩ := restored.1
    cases handled
    revert known
    decide +kernel
  · exact ⟨_, _, .next .start rfl, rfl, rfl⟩

end InstagramProject.Keyboard
