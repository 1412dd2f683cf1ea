/-
The snapshot listeners of the feed and of the profile under UIKit's life cycle.
The feed listens from viewDidAppear to viewWillDisappear, the profile from
viewWillAppear to viewDidDisappear.
-/

import InstagramProject.PostLists
import InstagramProject.Registrations

namespace InstagramProject

open Transition Registration

/-- Where a view controller stands in the life cycle. -/
inductive Phase
  | disappeared
  | appearing
  | appeared
  | disappearing
deriving DecidableEq

/-- The callback UIKit sends, if the phase allows it.  An appearance that has
started can be cancelled by viewWillDisappear, a disappearance by viewWillAppear. -/
def Phase.next : Phase → Appearance → Option Phase
  | .disappeared, .viewWillAppear => some .appearing
  | .appearing, .viewDidAppear => some .appeared
  | .appearing, .viewWillDisappear => some .disappearing
  | .appeared, .viewWillDisappear => some .disappearing
  | .disappearing, .viewDidDisappear => some .disappeared
  | .disappearing, .viewWillAppear => some .appearing
  | _, _ => none

def ListEvent.callback? : ListEvent → Option Appearance
  | .appearance callback => some callback
  | _ => none

structure Presented (σ : Type) where
  phase : Phase
  screen : σ

namespace Presented

variable {σ ε : Type} {step : σ → ε → Option σ} {listEvent : ε → Option ListEvent}

/-- After `viewDidLoad`. -/
def loaded (screen : σ) : Presented σ := { phase := .disappeared, screen := screen }

/-- An event of the screen; a callback only where the life cycle has it. -/
def handle (step : σ → ε → Option σ) (listEvent : ε → Option ListEvent)
    (presented : Presented σ) (event : ε) : Option (Presented σ) :=
  match (listEvent event).bind ListEvent.callback? with
  | none => (step presented.screen event).map ({ presented with screen := · })
  | some callback =>
      (presented.phase.next callback).bind (fun phase =>
        (step presented.screen event).map (fun screen => { phase := phase, screen := screen }))

/-- What an event does to the screen and to the phase. -/
theorem step_of_handle {presented after : Presented σ} {event : ε}
    (handled : presented.handle step listEvent event = some after) :
    step presented.screen event = some after.screen ∧
      match (listEvent event).bind ListEvent.callback? with
      | none => after.phase = presented.phase
      | some callback => presented.phase.next callback = some after.phase := by
  unfold handle at handled
  split at handled
  · rename_i none
    obtain ⟨screen, stepped, result⟩ := Option.map_eq_some_iff.mp handled
    cases result
    exact ⟨stepped, rfl⟩
  · rename_i callback sent
    obtain ⟨phase, allowed, result⟩ := Option.bind_eq_some_iff.mp handled
    obtain ⟨screen, stepped, result⟩ := Option.map_eq_some_iff.mp result
    cases result
    exact ⟨stepped, allowed⟩

/-- A run under the life cycle is a run of the screen. -/
theorem run_screen {start state : Presented σ} {past : List (Presented σ × ε)}
    (ran : Run (handle step listEvent) start past state) :
    Run step start.screen (past.map (fun moment => (moment.1.screen, moment.2)))
      state.screen := by
  induction ran with
  | start => exact .start
  | next _earlier handled ih => exact .next ih (step_of_handle handled).1

end Presented

/-! ### The registrations of a list -/

namespace PostList

def slot (list : PostList) : Slot :=
  { held := list.listener, live := list.live, next := list.nextListener }

theorem numbered_loaded (mainQueue : List ListBlock) : (loaded mainQueue).slot.Numbered :=
  ⟨List.nodup_nil, nofun⟩

end PostList

def ListController.operation (controller : ListController) (callback : Appearance) :
    Operation :=
  if callback = controller.addsListener then .add
  else if callback = controller.removesListener then .remove
  else .keep

def ListController.operationOf (controller : ListController) : ListEvent → Operation
  | .appearance callback => controller.operation callback
  | _ => .keep

theorem PostList.slot_appear (list : PostList) (controller : ListController)
    (callback : Appearance) :
    (list.appear controller callback).slot = list.slot.apply (controller.operation callback) := by
  unfold appear ListController.operation
  split
  · rfl
  · split
    · change list.removeListener.slot = list.slot.remove
      unfold removeListener Slot.remove
      cases held : list.listener with
      | none => simp only [slot, held]
      | some listener => simp only [slot, held]
    · rfl

theorem PostList.slot_handle {controller : ListController} {list after : PostList}
    {event : ListEvent} (handled : list.handle controller event = some after) :
    after.slot = list.slot.apply (controller.operationOf event) := by
  cases (handles_of_handle handled).2 with
  | appeared => exact slot_appear _ _ _
  | _ => rfl

/-! ### Phases in which a controller means to listen -/

/-- From the callback that adds the listener to the one that removes it. -/
structure ListensIn (controller : ListController) (listening : Phase → Prop) : Prop where
  initially : ¬listening .disappeared
  adds : ∀ phase after, Phase.next phase controller.addsListener = some after → listening after
  removes : ∀ phase after, Phase.next phase controller.removesListener = some after →
    ¬listening after
  keeps : ∀ phase callback after, callback ≠ controller.addsListener →
    callback ≠ controller.removesListener → Phase.next phase callback = some after →
    (listening after ↔ listening phase)

/-- What a callback means for the registration and for the phase. -/
theorem ListensIn.moves {controller : ListController} {listening : Phase → Prop}
    (listens : ListensIn controller listening) {phase after : Phase} {callback : Appearance}
    (moved : phase.next callback = some after) :
    match controller.operation callback with
    | .add => listening after
    | .remove => ¬listening after
    | .keep => (listening after ↔ listening phase) := by
  unfold ListController.operation
  by_cases adding : callback = controller.addsListener
  · rw [if_pos adding]
    rw [adding] at moved
    exact listens.adds phase after moved
  · rw [if_neg adding]
    by_cases removing : callback = controller.removesListener
    · rw [if_pos removing]
      rw [removing] at moved
      exact listens.removes phase after moved
    · rw [if_neg removing]
      exact listens.keeps phase callback after adding removing moved

theorem feed_listensIn : ListensIn instagramFeedViewController (· = .appeared) where
  initially := nofun
  adds := by
    intro phase after allowed
    cases phase <;> cases allowed
    rfl
  removes := by
    intro phase after allowed
    cases phase <;> cases allowed <;> nofun
  keeps := by
    intro phase callback after notAdding notRemoving allowed
    cases callback with
    | viewWillAppear => cases phase <;> cases allowed <;> exact iff_of_false nofun nofun
    | viewDidAppear => exact absurd rfl notAdding
    | viewWillDisappear => exact absurd rfl notRemoving
    | viewDidDisappear =>
        cases phase <;> cases allowed
        exact iff_of_false nofun nofun

theorem profile_listensIn : ListensIn profileViewController (· ≠ .disappeared) where
  initially := not_not_intro rfl
  adds := by
    intro phase after allowed
    cases phase <;> cases allowed <;> nofun
  removes := by
    intro phase after allowed
    cases phase <;> cases allowed
    exact not_not_intro rfl
  keeps := by
    intro phase callback after notAdding notRemoving allowed
    cases callback with
    | viewWillAppear => exact absurd rfl notAdding
    | viewDidAppear =>
        cases phase <;> cases allowed
        exact iff_of_true nofun nofun
    | viewWillDisappear => cases phase <;> cases allowed <;> exact iff_of_true nofun nofun
    | viewDidDisappear => exact absurd rfl notRemoving

/-! ### Screens under the life cycle -/

section Screens

variable {σ ε : Type} {step : σ → ε → Option σ} {list : σ → PostList}
  {listEvent : ε → Option ListEvent} {controller : ListController} {listening : Phase → Prop}

def screenOperation (controller : ListController) (listEvent : ε → Option ListEvent)
    (event : ε) : Operation :=
  ((listEvent event).map controller.operationOf).getD .keep

private theorem ListensIn.moves_of_handle (listens : ListensIn controller listening)
    {presented after : Presented σ} {event : ε}
    (handled : presented.handle step listEvent event = some after) :
    match screenOperation controller listEvent event with
    | .add => listening after.phase
    | .remove => ¬listening after.phase
    | .keep => (listening after.phase ↔ listening presented.phase) := by
  have moved := (Presented.step_of_handle handled).2
  unfold screenOperation
  cases own : listEvent event with
  | none =>
      rw [own] at moved
      change listening after.phase ↔ listening presented.phase
      rw [moved]
  | some own' =>
      rw [own] at moved
      cases own' with
      | appearance callback => exact listens.moves moved
      | _ =>
          change after.phase = presented.phase at moved
          change listening after.phase ↔ listening presented.phase
          rw [moved]

/-- A screen that leaves the registrations to its list adds and removes them on
the schedule of its controller. -/
theorem Carries.scheduled (carries : Carries step list listEvent controller)
    (spares : ∀ state event after, step state event = some after → listEvent event = none →
      (list after).slot = (list state).slot)
    (listens : ListensIn controller listening) :
    Scheduled (Presented.handle step listEvent) (fun presented => (list presented.screen).slot)
      (screenOperation controller listEvent) (fun presented => listening presented.phase) where
  applies := by
    intro presented event after handled
    have stepped := (Presented.step_of_handle handled).1
    unfold screenOperation
    cases own : listEvent event with
    | none => exact spares _ _ _ stepped own
    | some own' => exact PostList.slot_handle (carries.handles _ _ _ own' stepped own)
  adds := by
    intro presented event after handled added
    have moved := listens.moves_of_handle handled
    rwa [added] at moved
  removes := by
    intro presented event after handled removed
    have moved := listens.moves_of_handle handled
    rwa [removed] at moved
  keeps := by
    intro presented event after handled kept
    have moved := listens.moves_of_handle handled
    rwa [kept] at moved

end Screens

theorem feed_scheduled :
    Scheduled (Presented.handle (PostList.handle instagramFeedViewController) some)
      (fun presented => presented.screen.slot) (screenOperation instagramFeedViewController some)
      (fun presented => presented.phase = .appeared) := by
  refine feed_carries.scheduled ?_ feed_listensIn
  intro list event after _stepped notOwn
  cases notOwn

theorem profile_scheduled :
    Scheduled (Presented.handle ProfileScreen.handle ProfileEvent.own?)
      (fun presented => presented.screen.list.slot)
      (screenOperation profileViewController ProfileEvent.own?)
      (fun presented => presented.phase ≠ .disappeared) := by
  apply profile_carries.scheduled _ profile_listensIn
  intro screen event after handled other
  cases event with
  | list event => cases other
  | segmentControllerPressed selectedSegmentIndex =>
      cases handled
      rfl
  | setProfileUser =>
      cases handled
      rw [ProfileScreen.list_updateUI]
  | sessionChanged currentUser =>
      cases handled
      rfl

/-! ### One listener at a time -/

/-- At most one registration is live, the live one is in the listener field, and
none is live after viewDidDisappear. -/
structure OneListener (phase : Phase) (list : PostList) : Prop where
  single : list.live.length ≤ 1
  held : ∀ registration ∈ list.live, list.listener = some registration
  gone : phase = .disappeared → list.live = []

theorem oneListener_iff {phase : Phase} {list : PostList} :
    OneListener phase list ↔ list.slot.Sound ∧ (phase = .disappeared → list.slot.live = []) := by
  constructor
  · intro one
    exact ⟨⟨one.single, one.held⟩, one.gone⟩
  · rintro ⟨sound, gone⟩
    exact ⟨sound.single, sound.held, gone⟩

abbrev PresentedFeedRun (past : List (Presented PostList × ListEvent))
    (feed : Presented PostList) : Prop :=
  Run (Presented.handle (PostList.handle instagramFeedViewController) some)
    (.loaded (.loaded [])) past feed

abbrev PresentedProfileRun (currentUser : Option UID)
    (past : List (Presented ProfileScreen × ProfileEvent)) (profile : Presented ProfileScreen) :
    Prop :=
  Run (Presented.handle ProfileScreen.handle ProfileEvent.own?)
    (.loaded (.loaded currentUser)) past profile

/-- An event does not cancel a disappearance. -/
def Presented.Proceeds (profile : Presented ProfileScreen) : ProfileEvent → Prop
  | .list (.appearance .viewWillAppear) => profile.phase ≠ .disappearing
  | _ => True

instance (profile : Presented ProfileScreen) : ∀ event, Decidable (profile.Proceeds event)
  | .list (.appearance .viewWillAppear) =>
      inferInstanceAs (Decidable (profile.phase ≠ .disappearing))
  | .list (.appearance .viewDidAppear) | .list (.appearance .viewWillDisappear)
  | .list (.appearance .viewDidDisappear) | .list (.snapshot _ _)
  | .list (.snapshotError _ _) | .list .runBlock | .list .numberOfItemsInSection
  | .list (.cellForItemAt _) | .segmentControllerPressed _ | .setProfileUser
  | .sessionChanged _ => inferInstanceAs (Decidable True)

/-- The feed removes its listener before the next viewDidAppear can come. -/
theorem feed_oneListener {past : List (Presented PostList × ListEvent)}
    {feed : Presented PostList} (ran : PresentedFeedRun past feed) :
    OneListener feed.phase feed.screen := by
  have onTime : Throughout (fun _ (feed : Presented PostList) event =>
      screenOperation instagramFeedViewController some event = .add →
        ¬feed.phase = .appeared) past := by
    apply ran.invariant (fun past _ => Throughout _ past) trivial
    intro past feed event after _earlier before handled
    refine ⟨?_, before⟩
    intro adds appeared
    have moved := (Presented.step_of_handle handled).2
    cases event with
    | appearance callback =>
        change feed.phase.next callback = some after.phase at moved
        rw [appeared] at moved
        cases callback with
        | viewDidAppear => cases moved
        | _ => cases adds
    | _ => cases adds
  obtain ⟨sound, gone⟩ :=
    (feed_scheduled.sound_iff ran (PostList.numbered_loaded _) ⟨rfl, nofun⟩).mpr onTime
  rw [oneListener_iff]
  refine ⟨sound, ?_⟩
  intro disappeared
  apply gone
  rw [disappeared]
  nofun

/-- The profile adds its next listener while the last one is live exactly when a
disappearance is cancelled. -/
theorem profile_oneListener_iff {currentUser : Option UID}
    {past : List (Presented ProfileScreen × ProfileEvent)} {profile : Presented ProfileScreen}
    (ran : PresentedProfileRun currentUser past profile) :
    OneListener profile.phase profile.screen.list ↔
      Throughout (fun _ profile event => profile.Proceeds event) past := by
  have initially : (ProfileScreen.loaded currentUser).list.slot = (PostList.loaded []).slot := by
    rw [ProfileScreen.list_loaded]
    rfl
  have numbered : (ProfileScreen.loaded currentUser).list.slot.Numbered := by
    rw [initially]
    exact PostList.numbered_loaded []
  have noneLive : (ProfileScreen.loaded currentUser).list.slot.live = [] := by
    rw [initially]
    rfl
  have scheduled := profile_scheduled.sound_iff ran numbered ⟨noneLive, not_not_intro rfl⟩
  simp only [ne_eq, not_not] at scheduled
  rw [oneListener_iff, scheduled]
  apply ran.throughout_iff
  intro past profile event after _earlier handled
  have moved := (Presented.step_of_handle handled).2
  cases event with
  | list event =>
      cases event with
      | appearance callback =>
          change profile.phase.next callback = some after.phase at moved
          cases callback with
          | viewWillAppear =>
              change (Operation.add = .add → profile.phase = .disappeared) ↔
                profile.phase ≠ .disappearing
              cases phase : profile.phase with
              | disappeared => exact iff_of_true (fun _ => rfl) nofun
              | disappearing => exact iff_of_false nofun (not_not_intro rfl)
              | appearing =>
                  rw [phase] at moved
                  cases moved
              | appeared =>
                  rw [phase] at moved
                  cases moved
          | _ => exact iff_of_true nofun trivial
      | _ => exact iff_of_true nofun trivial
  | _ => exact iff_of_true nofun trivial

/-- The listeners of both screens: on the feed never more than one, on the profile
exactly as long as no viewWillAppear comes between a viewWillDisappear and its
viewDidDisappear. -/
theorem one_listener {feedPast : List (Presented PostList × ListEvent)}
    {feed : Presented PostList} (feedRan : PresentedFeedRun feedPast feed)
    {currentUser : Option UID} {past : List (Presented ProfileScreen × ProfileEvent)}
    {profile : Presented ProfileScreen} (ran : PresentedProfileRun currentUser past profile) :
    (OneListener feed.phase feed.screen ∧ OneListener profile.phase profile.screen.list) ↔
      Throughout (fun _ profile event => profile.Proceeds event) past := by
  rw [← profile_oneListener_iff ran]
  exact and_iff_right (feed_oneListener feedRan)

/-- Both screens come and go twice; the second time the appearance is cancelled. -/
theorem one_listener_cancelled_appearance :
    ∃ feedPast feed, PresentedFeedRun feedPast feed ∧ feed.screen.nextListener = 1 ∧
      ∃ past profile, PresentedProfileRun (some "alice") past profile ∧
        profile.screen.list.nextListener = 2 ∧
        OneListener feed.phase feed.screen ∧ OneListener profile.phase profile.screen.list := by
  let callbacks : List Appearance :=
    [.viewWillAppear, .viewDidAppear, .viewWillDisappear, .viewDidDisappear,
      .viewWillAppear, .viewWillDisappear, .viewDidDisappear]
  obtain ⟨⟨feedPast, feed⟩, feedReached⟩ := Option.isSome_iff_exists.mp
    (rfl : (run (Presented.handle (PostList.handle instagramFeedViewController) some) []
      (.loaded (.loaded [])) (callbacks.map .appearance)).isSome = true)
  obtain ⟨⟨past, profile⟩, reached⟩ := Option.isSome_iff_exists.mp
    (rfl : (run (Presented.handle ProfileScreen.handle ProfileEvent.own?) []
      (.loaded (.loaded (some "alice"))) (callbacks.map (.list ∘ .appearance))).isSome = true)
  have feedRan := Run.of_events _ feedReached
  have ran := Run.of_events _ reached
  cases feedReached
  cases reached
  have both := (one_listener feedRan ran).mpr (by decide +kernel)
  exact ⟨_, _, feedRan, rfl, _, _, ran, rfl, both.1, both.2⟩

/-- The profile is swiped halfway away and comes back: it listens twice, and when it
has gone for good the first registration is still served. -/
theorem listener_leaked :
    ∃ past profile, PresentedProfileRun (some "alice") past profile ∧
      (∃ moment ∈ past, moment.1.screen.list.live = [1, 0] ∧
        ¬OneListener moment.1.phase moment.1.screen.list) ∧
      profile.phase = .disappeared ∧ profile.screen.list.live = [0] ∧
      profile.screen.list.listener = some 1 ∧
      ¬OneListener profile.phase profile.screen.list := by
  obtain ⟨⟨past, profile⟩, reached⟩ := Option.isSome_iff_exists.mp
    (rfl : (run (Presented.handle ProfileScreen.handle ProfileEvent.own?) []
      (.loaded (.loaded (some "alice")))
      ([.viewWillAppear, .viewDidAppear, .viewWillDisappear, .viewWillAppear, .viewDidAppear,
        .viewWillDisappear, .viewDidDisappear].map (.list ∘ .appearance))).isSome = true)
  have ran := Run.of_events _ reached
  cases reached
  refine ⟨_, _, ran, ⟨_, List.mem_cons_self, rfl, ?_⟩, rfl, rfl, rfl, ?_⟩
  · intro one
    exact absurd one.single (by decide)
  · intro one
    exact absurd (one.gone rfl) (by decide)

end InstagramProject
