/-
The button of the Profile screen that opens the editor.  The button is installed
when the view loads and unwraps a record that comes later; the account may
meanwhile be signed out by Firebase itself.
-/

import InstagramProject.Arrivals

namespace InstagramProject

open Transition

variable {K : Platform}

/-! ### Losing the account -/

/-- An event of the app, or Firebase signs the account out by itself. -/
inductive Occurrence (K : Platform)
  | app (event : Event K)
  | accountLost

namespace Occurrence

def event? : Occurrence K → Option (Event K)
  | .app event => some event
  | .accountLost => none

def pressesEdit : Occurrence K → Bool
  | .app .editButtonPressed => true
  | _ => false

end Occurrence

/-- No screen of the app listens for the loss. -/
def occur (world : World K) : Occurrence K → Option (World K)
  | .app event => step world event
  | .accountLost => some { world with currentUser := none }

/-- `world` is reached from an empty store by events of the app and losses of the
account. -/
abbrev AccountRun (past : List (World K × Occurrence K)) (world : World K) : Prop :=
  Run occur (World.initial K) past world

/-- The events of the app among the occurrences. -/
def eventsOf (past : List (World K × Occurrence K)) : Past K :=
  past.filterMap (fun moment => moment.2.event?.map (fun event => (moment.1, event)))

/-- What the events of the app keep holds under losses of the account too, if it
does not look at the account. -/
theorem AccountRun.invariant {past : List (World K × Occurrence K)} {world : World K}
    (ran : AccountRun past world) (property : Past K → World K → Prop)
    (base : property [] (World.initial K))
    (kept : ∀ past before event after, property past before → step before event = some after →
      property ((before, event) :: past) after)
    (lost : ∀ past world, property past world → property past { world with currentUser := none }) :
    property (eventsOf past) world := by
  refine Run.invariant ran (fun past world => property (eventsOf past) world) base ?_
  intro past before occurrence after _earlier holds occurred
  cases occurrence with
  | app event => exact kept _ _ _ _ holds occurred
  | accountLost =>
      cases occurred
      exact lost _ _ holds

/-- What the record of the Profile screen needs to arrive. -/
structure Arriving (past : Past K) (world : World K) : Prop where
  fresh : Fresh world
  asked : AskedOnce past world
  arrivals : RecordArrivals past world

theorem arriving {past : List (World K × Occurrence K)} {world : World K}
    (ran : AccountRun past world) : Arriving (eventsOf past) world := by
  apply ran.invariant Arriving
  · exact ⟨fresh_initial, askedOnce_initial, recordArrivals_initial⟩
  · intro past before event after ⟨fresh, asked, arrivals⟩ stepped
    exact ⟨fresh.step stepped, asked.step fresh stepped, arrivals.step asked stepped⟩
  · intro past world ⟨fresh, asked, arrivals⟩
    exact ⟨⟨fresh.root, fresh.editors, fresh.requests, fresh.blocks⟩,
      ⟨asked.once, asked.known, asked.loaded⟩,
      ⟨arrivals.brought, arrivals.counted, arrivals.arrives⟩⟩

/-! ### The button -/

/-- Where the installed button can be pressed, the screen has its record and the
press does not end the process. -/
def World.EditsSafely (world : World K) : Prop :=
  ∀ front ∈ world.profileInFront?, front.2.barButtonsInstalled = true →
    front.2.instaUser ≠ none ∧ step world .editButtonPressed ≠ some world.terminate

/-- Where the installed button can be pressed, the fetch of the screen has been
answered with a snapshot, and the handler and the block of the answer have run. -/
def RecordIn (past : Past K) (world : World K) : Prop :=
  ∀ front ∈ world.profileInFront?, front.2.barButtonsInstalled = true →
    front.1.id ∈ recordsServed past ∧ ¬world.recordWaits front.1.id

instance (past : Past K) (world : World K) : Decidable (RecordIn past world) :=
  inferInstanceAs (Decidable (∀ front ∈ world.profileInFront?, _))

section Button

variable {world : World K} {tabs : TabBarController K} {controller : ProfileViewController}

/-- The press traps exactly on a screen without a record. -/
theorem press_traps_iff (inFront : world.profileInFront? = some (tabs, controller))
    (installed : controller.barButtonsInstalled = true) :
    step world .editButtonPressed = some world.terminate ↔ controller.instaUser = none := by
  obtain ⟨root, _present⟩ := World.profile_of_front inFront
  simp only [step, inFront, Option.bind_some, installed, if_true, Option.some.injEq,
    World.editButtonPressed]
  constructor
  · intro traps
    cases isUser : controller.instaUser with
    | none => rfl
    | some user =>
        rw [isUser] at traps
        have closed := congrArg World.root traps
        change world.root = none at closed
        rw [root] at closed
        cases closed
  · intro absent
    rw [absent]

/-- The button is safe exactly while the record is in. -/
theorem editsSafely_iff {past : Past K} (arriving : Arriving past world) :
    world.EditsSafely ↔ RecordIn past world := by
  have recorded (front : TabBarController K × ProfileViewController)
      (inFront : front ∈ world.profileInFront?) (installed : front.2.barButtonsInstalled = true) :
      (front.2.instaUser ≠ none ∧ step world .editButtonPressed ≠ some world.terminate) ↔
        front.1.id ∈ recordsServed past ∧ ¬world.recordWaits front.1.id := by
    have root := (World.profile_of_front inFront).1
    have isRoot : world.rootIdentity = some (.instagram front.1.id) :=
      World.rootIdentity_of_some root
    have kept : (∃ user, world.profileRecord? = some (front.1.id, user)) ↔
        front.2.instaUser ≠ none := by
      rw [World.record_of_front inFront, Option.ne_none_iff_exists']
      constructor
      · rintro ⟨user, recorded⟩
        obtain ⟨_, isUser, _same⟩ := Option.map_eq_some_iff.mp recorded
        exact ⟨_, isUser⟩
      · rintro ⟨user, isUser⟩
        exact ⟨user, by rw [isUser, Option.map_some]⟩
    rw [← arriving.arrivals.kept_iff arriving.asked isRoot, kept, Ne, Ne,
      press_traps_iff inFront installed, and_self]
  constructor
  · intro safe front inFront installed
    exact (recorded front inFront installed).mp (safe front inFront installed)
  · intro prompt front inFront installed
    exact (recorded front inFront installed).mpr (prompt front inFront installed)

end Button

/-- In every state that is reached the button is safe exactly if the record is in,
and the presses of a run are safe exactly if each finds the record in. -/
theorem edit_button_safe {past : List (World K × Occurrence K)} {world : World K}
    (ran : AccountRun past world) :
    (world.EditsSafely ↔ RecordIn (eventsOf past) world) ∧
      (Throughout (fun _ before occurrence =>
          occurrence.pressesEdit = true → before.EditsSafely) past ↔
        Throughout (fun earlier before occurrence =>
          occurrence.pressesEdit = true → RecordIn (eventsOf earlier) before) past) := by
  refine ⟨editsSafely_iff (arriving ran), ran.throughout_iff ?_⟩
  intro earlier before occurrence after reached _occurred
  rw [editsSafely_iff (arriving reached)]

/-- Alice has signed up and is in front of the feed. -/
def signedUp : List (Occurrence Platform.plain) :=
  (.launch :: signUpEvents "alice@mail" "secret" "alice").map .app

/-- The editor is opened from a loaded profile and left, and the account is lost. -/
def openedRun : List (Occurrence Platform.plain) :=
  signedUp ++ editorEvents.map .app ++ [.app .editorCancelButtonPressed, .accountLost]

theorem edit_button_safe_opened :
    let reached := finish occur (World.initial Platform.plain) openedRun
    reached.2.EditsSafely ∧
      Throughout (fun _ before occurrence =>
        occurrence.pressesEdit = true → before.EditsSafely) reached.1 := by
  intro reached
  have ran : AccountRun reached.1 reached.2 := Run.finish _ (by decide +kernel)
  have safe := edit_button_safe ran
  constructor
  · exact safe.1.mpr (by decide +kernel)
  · exact safe.2.mpr (by decide +kernel)

/-- The fetch is still to be answered, or it has failed and nothing is under way
any more: the button is there and pressing it ends the process. -/
theorem edit_button_traps :
    let asked := finish occur (World.initial Platform.plain) (signedUp ++ [.app (.selectTab 2)])
    let failed := finish occur (World.initial Platform.plain) (signedUp ++
      [.app (.selectTab 2), .app (.serve 0 (.failure "offline")), .app (.callback 0)])
    AccountRun asked.1 asked.2 ∧ ¬asked.2.EditsSafely ∧
      (step asked.2 .editButtonPressed).map (fun world => world.root.isNone) = some true ∧
      AccountRun failed.1 failed.2 ∧ ¬failed.2.EditsSafely ∧
      failed.2.requests.isEmpty = true ∧ failed.2.responses.isEmpty = true ∧
      failed.2.mainQueue.isEmpty = true ∧
      (step failed.2 .editButtonPressed).map (fun world => world.root.isNone) = some true := by
  intro asked failed
  have ranAsked : AccountRun asked.1 asked.2 := Run.finish _ (by decide +kernel)
  have ranFailed : AccountRun failed.1 failed.2 := Run.finish _ (by decide +kernel)
  have outAsked : ¬RecordIn (eventsOf asked.1) asked.2 := by decide +kernel
  have outFailed : ¬RecordIn (eventsOf failed.1) failed.2 := by decide +kernel
  refine ⟨ranAsked, ?_, by decide +kernel, ranFailed, ?_, by decide +kernel, by decide +kernel,
    by decide +kernel, by decide +kernel⟩
  · intro safe
    exact outAsked ((editsSafely_iff (arriving ranAsked)).mp safe)
  · intro safe
    exact outFailed ((editsSafely_iff (arriving ranFailed)).mp safe)

end InstagramProject
