/-
The root of the window over time.  `RootStep` lists every way an event changes
it, and `TabsStep` what happens to a tab bar that stays: which screens have been
loaded, and which records arrive.
-/

import InstagramProject.Drafts

namespace InstagramProject

open Transition

variable {K : Platform}

/-- Every way an event changes the tab bar in the window. -/
inductive TabsStep (before : World K) (tabs : TabBarController K) :
    Event K → TabBarController K → Prop
  | selected {event : Event K} (index : Fin 3) :
      TabsStep before tabs event { tabs with selectedIndex := index }
  | addPhotoLoaded : tabs.addPhoto = none → before.presented = [] →
      TabsStep before tabs (.selectTab 1)
        { tabs with selectedIndex := 1, addPhoto := some AddPhotoViewController.loaded }
  | profileLoaded : tabs.profile = none → before.presented = [] →
      TabsStep before tabs (.selectTab 2)
        { tabs with
          selectedIndex := 2
          profile := some (ProfileViewController.loaded before.currentUser) }
  | addPhotoChanged {event : Event K} {addPhoto : Option (AddPhotoViewController K)} :
      addPhoto.isSome = tabs.addPhoto.isSome →
      TabsStep before tabs event { tabs with addPhoto := addPhoto }
  | profileInformed {user : FetchedUser} : .setProfileUser tabs.id user ∈ before.mainQueue →
      TabsStep before tabs .runBlock
        { tabs with profile := tabs.profile.map (fun controller =>
            { controller with
              instaUser := some user
              bioLabel := user.user.userBio
              fullNameLabel := user.user.userFullName }) }

/-- Every way an event changes the root. -/
inductive RootStep (before : World K) : Event K → Option (Root K) → Prop
  | same {event : Event K} : RootStep before event before.root
  | toggled {event : Event K} {controller : LoginViewController} {accountState : AccountState} :
      before.root = some (.login controller) →
      RootStep before event (some (.login { controller with accountState := accountState }))
  | tabs {event : Event K} {tabs after : TabBarController K} :
      before.root = some (.instagram tabs) → TabsStep before tabs event after →
      RootStep before event (some (.instagram after))
  | closed {event : Event K} : RootStep before event none
  | loginOpened {event : Event K} :
      RootStep before event
        (some (.login { id := before.nextController, accountState := .existingUser }))
  | instagramOpened {event : Event K} :
      RootStep before event
        (some (.instagram
          { id := before.nextController
            selectedIndex := 0
            addPhoto := none
            profile := none }))

/-! ### Every event is in the list -/

section Steps

variable {before after : World K} {event : Event K}

private theorem root_same {world : World K} (same : world.root = before.root) :
    RootStep before event world.root := by
  rw [same]
  exact .same

/-- A change of the tab bar named by a block or a handler. -/
private theorem root_updateTabs {world : World K} {screen : ControllerID}
    {change : TabBarController K → TabBarController K} (same : world.root = before.root)
    (changes : ∀ tabs, tabs.id = screen → TabsStep before tabs event (change tabs)) :
    RootStep before event (world.updateTabs screen change).root := by
  unfold World.updateTabs
  rw [same]
  cases isRoot : before.root with
  | none =>
      rw [Option.map_none]
      exact .closed
  | some root =>
      cases root with
      | login controller =>
          have kept : RootStep before event (some (.login controller)) := by
            rw [← isRoot]
            exact .same
          exact kept
      | instagram tabs =>
          simp only [Option.map_some, Root.updateTabs]
          split
          · rename_i isScreen
            exact .tabs isRoot (changes tabs isScreen)
          · rw [← isRoot]
            exact .same

/-- Only the Add Photo controller has been changed, if anything has. -/
private inductive AddPhotoOnly (before : World K) : Option (Root K) → Prop
  | same : AddPhotoOnly before before.root
  | changed {tabs : TabBarController K} {addPhoto : Option (AddPhotoViewController K)} :
      before.root = some (.instagram tabs) → addPhoto.isSome = tabs.addPhoto.isSome →
      AddPhotoOnly before (some (.instagram { tabs with addPhoto := addPhoto }))

private theorem AddPhotoOnly.rootStep {root : Option (Root K)} (only : AddPhotoOnly before root) :
    RootStep before event root := by
  cases only with
  | same => exact .same
  | changed isRoot loaded => exact .tabs isRoot (.addPhotoChanged loaded)

private theorem AddPhotoOnly.updateAddPhoto {world : World K} {screen : ControllerID}
    {change : AddPhotoViewController K → AddPhotoViewController K}
    (only : AddPhotoOnly before world.root) :
    AddPhotoOnly before (world.updateAddPhoto screen change).root := by
  have update {tabs : TabBarController K} {addPhoto : Option (AddPhotoViewController K)}
      (isRoot : before.root = some (.instagram tabs))
      (loaded : addPhoto.isSome = tabs.addPhoto.isSome) :
      AddPhotoOnly before (some (Root.updateTabs screen
        (fun tabs => { tabs with addPhoto := tabs.addPhoto.map change })
        (.instagram { tabs with addPhoto := addPhoto }))) := by
    simp only [Root.updateTabs]
    split
    · exact .changed isRoot (Option.isSome_map.trans loaded)
    · exact .changed isRoot loaded
  unfold World.updateAddPhoto World.updateTabs
  generalize world.root = root at only
  cases only with
  | changed isRoot loaded => exact update isRoot loaded
  | same =>
      cases isRoot : before.root with
      | none =>
          have kept : AddPhotoOnly before none := by
            rw [← isRoot]
            exact .same
          exact kept
      | some root =>
          cases root with
          | login controller =>
              have kept : AddPhotoOnly before (some (.login controller)) := by
                rw [← isRoot]
                exact .same
              exact kept
          | instagram tabs => exact update isRoot rfl

private theorem addPhotoOnly_same {world : World K} (same : world.root = before.root) :
    AddPhotoOnly before world.root := by
  rw [same]
  exact .same

private theorem root_updateAddPhoto {world : World K} {screen : ControllerID}
    {change : AddPhotoViewController K → AddPhotoViewController K}
    (same : world.root = before.root) :
    RootStep before event (world.updateAddPhoto screen change).root :=
  (addPhotoOnly_same same).updateAddPhoto.rootStep

/-- What a block does to the root, whatever waits behind it. -/
theorem rootStep_runBlock {block : Block K} {rest : List (Block K)} :
    RootStep { before with mainQueue := [block] } .runBlock
      (World.runBlock { before with mainQueue := rest } block).root := by
  have head : block ∈ [block] := List.mem_singleton_self _
  cases block with
  | createUser login uid email =>
      simp only [World.runBlock, World.createDatabaseUser]
      split
      · split <;> exact .same
      · exact .same
  | navigateToInstagram login =>
      simp only [World.runBlock]
      split
      · exact .instagramOpened
      · exact .same
  | loginAlert login title message => exact root_same (World.root_presentFromLogin _ _ _)
  | setAddPhotoUser screen user => exact root_updateAddPhoto rfl
  | setProfileUser screen user =>
      refine root_updateTabs rfl ?_
      rintro tabs rfl
      exact .profileInformed head
  | previewPost screen => exact root_updateAddPhoto rfl
  | addPhotoAlert screen title message documentID =>
      exact root_same (World.root_presentFromTab _ _ _ _)
  | resetDraft screen documentID =>
      simp only [World.runBlock, World.resetDraft]
      split
      · have dismissed : AddPhotoOnly { before with mainQueue := [.resetDraft screen documentID] }
            (World.dismissFromTab { before with mainQueue := rest } screen).root :=
          addPhotoOnly_same (World.root_dismissFromTab _ _)
        exact dismissed.updateAddPhoto.updateAddPhoto.rootStep
      · exact .same
  | previewProfilePicture editor => exact .same
  | editorAlert editor title message => exact root_same (World.root_presentFromEditor _ _ _)
  | pictureAlert editor title message => exact root_same (World.root_presentFromEditor _ _ _)
  | commitAlert editor captured title message =>
      simp only [World.runBlock]
      split
      · split
        · exact root_same (World.root_presentFromEditor _ _ _)
        · exact .closed
      · exact .same
  | signOutAlert screen title message => exact root_same (World.root_presentFromTab _ _ _ _)

/-- A step with one block in the queue is a step with more. -/
theorem RootStep.of_head {block : Block K} {root : Option (Root K)}
    (rooted : RootStep { before with mainQueue := [block] } event root)
    (head : block ∈ before.mainQueue) : RootStep before event root := by
  cases rooted with
  | same => exact .same
  | toggled wasRoot => exact .toggled wasRoot
  | closed => exact .closed
  | loginOpened => exact .loginOpened
  | instagramOpened => exact .instagramOpened
  | tabs wasRoot changed =>
      refine .tabs wasRoot ?_
      cases changed with
      | selected index => exact .selected index
      | addPhotoLoaded absent alone => exact .addPhotoLoaded absent alone
      | profileLoaded absent alone => exact .profileLoaded absent alone
      | addPhotoChanged same => exact .addPhotoChanged same
      | profileInformed queued =>
          rw [← List.mem_singleton.mp queued] at head
          exact .profileInformed head

private theorem rootStep_showAddPhoto {tabs : TabBarController K}
    (root : before.root = some (.instagram tabs)) (presented : before.presented = []) :
    RootStep before (.selectTab 1) (before.showAddPhoto tabs).root := by
  unfold World.showAddPhoto
  split
  · exact .tabs root (.selected 1)
  · rename_i absent
    rw [World.root_fetchCurrentUser]
    exact .tabs root (.addPhotoLoaded absent presented)

private theorem rootStep_showProfile {tabs : TabBarController K}
    (root : before.root = some (.instagram tabs)) (presented : before.presented = []) :
    RootStep before (.selectTab 2) (before.showProfile tabs).root := by
  unfold World.showProfile
  split
  · exact .tabs root (.selected 2)
  · rename_i absent
    rw [World.root_fetchCurrentUser]
    exact .tabs root (.profileLoaded absent presented)

private theorem rootStep_addPhotoImagePicked {screen : ControllerID}
    (originalImage : Option K.Image) :
    RootStep before event (before.addPhotoImagePicked screen originalImage).root := by
  cases originalImage with
  | none => exact .same
  | some image =>
      unfold World.addPhotoImagePicked World.selectPostImage
      rw [World.root_dismissFromTab]
      have selected : AddPhotoOnly before ((before.updateAddPhoto screen (fun controller =>
          { controller with selectedImage := some image })).async (.previewPost screen)).root :=
        (addPhotoOnly_same rfl).updateAddPhoto
      exact selected.updateAddPhoto.rootStep

private theorem rootStep_callback {index : Nat} {request : Request K} {answer : Answer} :
    RootStep before event
      (World.callback { before with responses := before.responses.eraseIdx index }
        request answer).root := by
  rcases World.root_callback { before with responses := before.responses.eraseIdx index }
    request answer with same | ⟨screen, moved⟩
  · exact root_same same
  · rw [moved]
    refine root_updateTabs rfl ?_
    intro tabs _isScreen
    exact .selected 0

theorem rootStep_of_step (stepped : step before event = some after) :
    RootStep before event after.root := by
  cases acts_of_step stepped with
  | feedLaunched => exact .instagramOpened
  | loginLaunched => exact .loginOpened
  | called _found => exact rootStep_callback
  | ran queued =>
      refine rootStep_runBlock.of_head ?_
      rw [queued]
      exact List.mem_cons_self
  | signUpPressed inFront =>
      unfold World.loginInFront? at inFront
      split at inFront
      · rename_i root _presented
        cases inFront
        exact .toggled root
      · cases inFront
  | loginIncomplete _inFront _missing => exact root_same (World.root_presentFromLogin _ _ _)
  | feedSelected root _presented => exact .tabs root (.selected 0)
  | addPhotoSelected root presented => exact rootStep_showAddPhoto root presented
  | profileSelected root presented => exact rootStep_showProfile root presented
  | cancelled inFront => exact .tabs (before.draft?_of_inFront inFront).1 (.selected 0)
  | captioned _inFront => exact root_updateAddPhoto rfl
  | postPressed _inFront _enabled _picked _fresh _slashFree =>
      have start : AddPhotoOnly before before.root := .same
      exact start.updateAddPhoto.rootStep
  | @postImagePicked originalImage tabs rest _root _presented =>
      exact rootStep_addPhotoImagePicked originalImage
  | profileImagePicked _root _presented =>
      split
      · exact root_same (World.root_dismissFromTab _ _)
      · exact .same
  | @editorImagePicked originalImage controller rest _presented =>
      cases originalImage with
      | none => exact .same
      | some image => exact root_same (World.root_dismissFromEditor _ _)
  | signedOut _inFront _installed => exact .loginOpened
  | changePicturePressed _inFront => exact root_same (World.root_presentFromEditor _ _ _)
  | donePressed _inFront => exact root_same (World.root_doneButtonPressed _ _ _)
  | editorCancelled _inFront => exact root_same (World.root_dismissFromEditor _ _)
  | terminated | editTrapped => exact .closed
  | _ => exact .same

end Steps

end InstagramProject
