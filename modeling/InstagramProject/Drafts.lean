/-
The Add Photo screen over time.  The draft is its controller, if the tab bar is
the root and the screen was opened; `DraftStep` lists every way an event changes
it.
-/

import InstagramProject.Posts
import InstagramProject.Windows

namespace InstagramProject

open Transition

variable {K : Platform}

/-- The Add Photo controller of the root, with its identity. -/
def Root.draft? : Root K → Option (ControllerID × AddPhotoViewController K)
  | .instagram tabs => tabs.addPhoto.map (fun controller => (tabs.id, controller))
  | .login _ => none

namespace World

def draft? (world : World K) : Option (ControllerID × AddPhotoViewController K) :=
  world.root.bind Root.draft?

/-- The image an event picks on the Add Photo screen. -/
def picked? (world : World K) : Event K → Option K.Image
  | .imagePicked originalImage =>
      match world.root, world.presented with
      | some (.instagram _), .imagePicker .addPhoto :: _ => originalImage
      | _, _ => none
  | _ => none

end World

/-- The caption an event types. -/
def Event.typed? : Event K → Option String
  | .captionEdited text => some text
  | _ => none

namespace World

variable (world : World K)

theorem draft?_of_root {other : World K} (same : other.root = world.root) :
    other.draft? = world.draft? := by
  unfold draft?
  rw [same]

/-- A change of the tab bar that leaves the Add Photo controller alone. -/
theorem draft?_updateTabs (screen : ControllerID)
    (change : TabBarController K → TabBarController K)
    (same : ∀ tabs, Root.draft? (.instagram (change tabs)) = Root.draft? (.instagram tabs)) :
    (world.updateTabs screen change).draft? = world.draft? := by
  simp only [draft?, updateTabs, Option.bind_map]
  congr 1
  funext root
  cases root with
  | login controller => rfl
  | instagram tabs =>
      simp only [Function.comp_apply, Root.updateTabs]
      split
      · exact same tabs
      · rfl

theorem draft?_updateAddPhoto (screen : ControllerID)
    (change : AddPhotoViewController K → AddPhotoViewController K) :
    (world.updateAddPhoto screen change).draft? =
      world.draft?.map (fun draft =>
        (draft.1, if draft.1 = screen then change draft.2 else draft.2)) := by
  simp only [draft?, updateAddPhoto, updateTabs, Option.bind_map, Option.map_bind]
  congr 1
  funext root
  cases root with
  | login controller => rfl
  | instagram tabs =>
      by_cases same : tabs.id = screen
      · simp only [Function.comp_def, Root.updateTabs, Root.draft?, Option.map_map, same, if_true]
      · simp only [Function.comp_def, Root.updateTabs, Root.draft?, Option.map_map, same,
          if_false]

theorem draft?_of_inFront {tabs : TabBarController K} {controller : AddPhotoViewController K}
    (inFront : world.addPhotoInFront? = some (tabs, controller)) :
    world.root = some (.instagram tabs) ∧ world.presented = [] ∧
      world.draft? = some (tabs.id, controller) := by
  unfold addPhotoInFront? at inFront
  split at inFront
  · rename_i front root presented
    split at inFront
    · obtain ⟨found, present, same⟩ := Option.map_eq_some_iff.mp inFront
      cases same
      refine ⟨root, presented, ?_⟩
      simp only [draft?, root, Option.bind_some, Root.draft?, present, Option.map_some]
    · cases inFront
  · cases inFront

end World

/-- What a press that starts a publication finds on the screen. -/
theorem press_of_publication {world : World K} {event : Event K} {press : Publication K}
    (pressed : world.publication? event = some press) :
    ∃ tabs controller photoPicked bounds,
      world.addPhotoInFront? = some (tabs, controller) ∧
      press.screen = tabs.id ∧ press.userId = controller.userId ∧
      press.image = K.resizeImage photoPicked bounds ∧
      controller.selectedImage = some photoPicked := by
  unfold World.publication? at pressed
  split at pressed
  · rename_i documentID bounds
    obtain ⟨⟨tabs, controller⟩, inFront, started⟩ := Option.bind_eq_some_iff.mp pressed
    dsimp only at started
    split at started
    · obtain ⟨photoPicked, picked, rfl⟩ := Option.map_eq_some_iff.mp started
      refine ⟨tabs, controller, photoPicked, bounds, inFront, rfl, rfl, rfl, ?_⟩
      unfold AddPhotoViewController.photoPicked at picked
      split at picked
      · cases picked
      · exact picked
    · cases started
  · cases pressed

/-- Every way an event changes the draft; the image and the text are those the
event picks and types. -/
inductive DraftStep (before : World K) (draft : Option (ControllerID × AddPhotoViewController K)) :
    Option K.Image → Option String → Option (ControllerID × AddPhotoViewController K) → Prop
  | kept : DraftStep before draft none none draft
  | closed : DraftStep before draft none none none
  | opened {screen : ControllerID} :
      draft = none → DraftStep before draft none none (some (screen, .loaded))
  | informed {screen : ControllerID} {controller : AddPhotoViewController K}
      {user : FetchedUser} :
      draft = some (screen, controller) → .setAddPhotoUser screen user ∈ before.mainQueue →
      DraftStep before draft none none
        (some (screen, { controller with instaUser := some user }))
  | picked {screen : ControllerID} {controller : AddPhotoViewController K} {image : K.Image} :
      draft = some (screen, controller) →
      DraftStep before draft (some image) none
        (some (screen, { controller with selectedImage := some image, nextButtonIsEnabled := true }))
  | pickedNowhere {image : K.Image} : draft = none → DraftStep before draft (some image) none none
  | typed {screen : ControllerID} {controller : AddPhotoViewController K} {text : String} :
      draft = some (screen, controller) →
      DraftStep before draft none (some text)
        (some (screen, { controller with captionTF := text }))
  | shown {screen : ControllerID} {controller : AddPhotoViewController K}
      {image : Option K.Image} :
      draft = some (screen, controller) →
      DraftStep before draft none none
        (some (screen, { controller with postImageView := image }))
  | reset {screen : ControllerID} {controller : AddPhotoViewController K} :
      draft = some (screen, controller) →
      DraftStep before draft none none
        (some (screen, { controller with
          selectedImage := none, nextButtonIsEnabled := false, captionTF := "" }))

/-! ### Every event is in the list -/

theorem draft?_callback (world : World K) (request : Request K) (answer : Answer) :
    (world.callback request answer).draft? = world.draft? := by
  rcases world.root_callback request answer with same | ⟨screen, moved⟩
  · exact world.draft?_of_root same
  · rw [← world.draft?_updateTabs screen (fun tabs => { tabs with selectedIndex := 0 })
      (fun tabs => rfl)]
    exact World.draft?_of_root _ moved

/-- A change of the controller of the screen named by the block or the press. -/
private theorem updated_cases {world : World K} {screen : ControllerID}
    {change : AddPhotoViewController K → AddPhotoViewController K} :
    (world.updateAddPhoto screen change).draft? = world.draft? ∨
      ∃ controller, world.draft? = some (screen, controller) ∧
        (world.updateAddPhoto screen change).draft? = some (screen, change controller) := by
  rw [World.draft?_updateAddPhoto]
  cases present : world.draft? with
  | none => exact .inl rfl
  | some draft =>
      obtain ⟨id, controller⟩ := draft
      by_cases same : id = screen
      · subst same
        refine .inr ⟨controller, rfl, ?_⟩
        simp only [Option.map_some, if_true]
      · left
        simp only [Option.map_some, same, if_false]

private theorem draftStep_runBlock {before : World K} {block : Block K} {rest : List (Block K)}
    (queued : before.mainQueue = block :: rest) :
    DraftStep before before.draft? none none
      (World.runBlock { before with mainQueue := rest } block).draft? := by
  have kept {world : World K} (same : world.root = before.root) :
      DraftStep before before.draft? none none world.draft? := by
    rw [before.draft?_of_root same]
    exact .kept
  have head : block ∈ before.mainQueue := by
    rw [queued]
    exact List.mem_cons_self
  have start : World.draft? { before with mainQueue := rest } = before.draft? := rfl
  cases block with
  | createUser login uid email =>
      apply kept
      simp only [World.runBlock, World.createDatabaseUser]
      split
      · split <;> rfl
      · rfl
  | navigateToInstagram login =>
      simp only [World.runBlock]
      split
      · exact .closed
      · exact .kept
  | loginAlert login title message => exact kept (World.root_presentFromLogin _ _ _)
  | setAddPhotoUser screen user =>
      change DraftStep before _ none none (World.updateAddPhoto _ _ _).draft?
      rcases updated_cases with same | ⟨controller, present, changed⟩
      · rw [same]
        exact .kept
      · rw [changed]
        exact .informed present head
  | setProfileUser screen user =>
      change DraftStep before _ none none (World.updateTabs _ _ _).draft?
      rw [World.draft?_updateTabs]
      · exact .kept
      · exact fun tabs => rfl
  | previewPost screen =>
      change DraftStep before _ none none (World.updateAddPhoto _ _ _).draft?
      rcases updated_cases with same | ⟨controller, present, changed⟩
      · rw [same]
        exact .kept
      · rw [changed]
        exact .shown present
  | addPhotoAlert screen title message documentID => exact kept (World.root_presentFromTab _ _ _ _)
  | resetDraft screen documentID =>
      simp only [World.runBlock, World.resetDraft]
      split
      · have dismissed : (World.dismissFromTab { before with mainQueue := rest } screen).draft? =
            before.draft? := World.draft?_of_root _ (World.root_dismissFromTab _ _)
        simp only [World.selectPostImage, World.draft?_updateAddPhoto,
          World.draft?_of_root _ (World.root_async _ _), dismissed]
        cases present : before.draft? with
        | none => exact .kept
        | some draft =>
            obtain ⟨id, controller⟩ := draft
            simp only [Option.map_some]
            split
            · dsimp only
              exact .reset rfl
            · exact .kept
      · exact .kept
  | previewProfilePicture editor => exact .kept
  | editorAlert editor title message => exact kept (World.root_presentFromEditor _ _ _)
  | pictureAlert editor title message => exact kept (World.root_presentFromEditor _ _ _)
  | commitAlert editor captured title message =>
      simp only [World.runBlock]
      split
      · split
        · exact kept (World.root_presentFromEditor _ _ _)
        · exact .closed
      · exact .kept
  | signOutAlert screen title message => exact kept (World.root_presentFromTab _ _ _ _)

private theorem World.draft?_of_tabs (world : World K) {tabs : TabBarController K}
    (root : world.root = some (.instagram tabs)) :
    world.draft? = Root.draft? (.instagram tabs) := by
  rw [World.draft?, root, Option.bind_some]

private theorem draftStep_showAddPhoto {before : World K} {tabs : TabBarController K}
    (root : before.root = some (.instagram tabs)) :
    DraftStep before before.draft? none none (before.showAddPhoto tabs).draft? := by
  have start := before.draft?_of_tabs root
  unfold World.showAddPhoto
  split
  · rw [start]
    exact .kept
  · rename_i absent
    rw [World.draft?_of_root _ (World.root_fetchCurrentUser _ _)]
    refine .opened ?_
    rw [start, Root.draft?, absent, Option.map_none]

private theorem draftStep_showProfile {before : World K} {tabs : TabBarController K}
    (root : before.root = some (.instagram tabs)) :
    DraftStep before before.draft? none none (before.showProfile tabs).draft? := by
  unfold World.showProfile
  rw [before.draft?_of_tabs root]
  split
  · exact .kept
  · rw [World.draft?_of_root _ (World.root_fetchCurrentUser _ _)]
    exact .kept

private theorem draftStep_addPhotoImagePicked {before : World K} {tabs : TabBarController K}
    (root : before.root = some (.instagram tabs)) (originalImage : Option K.Image) :
    DraftStep before before.draft? originalImage none
      (before.addPhotoImagePicked tabs.id originalImage).draft? := by
  cases originalImage with
  | none => exact .kept
  | some image =>
      simp only [World.addPhotoImagePicked, World.selectPostImage,
        World.draft?_of_root _ (World.root_dismissFromTab _ _), World.draft?_updateAddPhoto,
        World.draft?_of_root _ (World.root_async _ _), before.draft?_of_tabs root, Root.draft?]
      cases tabs.addPhoto with
      | none => exact .pickedNowhere rfl
      | some controller =>
          simp only [Option.map_some, if_true]
          exact .picked rfl

theorem draftStep_of_step {before after : World K} {event : Event K}
    (stepped : step before event = some after) :
    DraftStep before before.draft? (before.picked? event) event.typed? after.draft? := by
  have kept (noPick : before.picked? event = none) (noText : event.typed? = none)
      (same : after.root = before.root) :
      DraftStep before before.draft? (before.picked? event) event.typed? after.draft? := by
    rw [noPick, noText, before.draft?_of_root same]
    exact .kept
  cases acts_of_step stepped with
  | called _found =>
      rw [draft?_callback]
      exact .kept
  | ran queued => exact draftStep_runBlock queued
  | loginIncomplete _inFront _missing => exact kept rfl rfl (World.root_presentFromLogin _ _ _)
  | feedSelected root _presented =>
      rw [before.draft?_of_tabs root]
      exact .kept
  | addPhotoSelected root _presented => exact draftStep_showAddPhoto root
  | profileSelected root _presented => exact draftStep_showProfile root
  | cancelled inFront =>
      rw [before.draft?_of_tabs (before.draft?_of_inFront inFront).1]
      exact .kept
  | captioned inFront =>
      rw [World.draft?_updateAddPhoto, (before.draft?_of_inFront inFront).2.2]
      simp only [Option.map_some, if_true]
      exact .typed rfl
  | postPressed inFront _enabled _picked _fresh _slashFree =>
      change DraftStep before _ none none (World.updateAddPhoto _ _ _).draft?
      rw [World.draft?_updateAddPhoto, (before.draft?_of_inFront inFront).2.2]
      simp only [Option.map_some, if_true]
      exact .shown rfl
  | @postImagePicked originalImage tabs rest root presented =>
      have picks : before.picked? (.imagePicked originalImage) = originalImage := by
        simp only [World.picked?, root, presented]
      rw [picks]
      exact draftStep_addPhotoImagePicked root originalImage
  | @profileImagePicked originalImage tabs rest root presented =>
      apply kept _ rfl
      · split
        · exact World.root_dismissFromTab _ _
        · rfl
      · simp only [World.picked?, root, presented]
  | @editorImagePicked originalImage controller rest presented =>
      apply kept _ rfl
      · cases originalImage with
        | none => rfl
        | some image => exact World.root_dismissFromEditor _ _
      · simp only [World.picked?, presented]
        cases before.root with
        | none => rfl
        | some root => cases root <;> rfl
  | changePicturePressed _inFront => exact kept rfl rfl (World.root_presentFromEditor _ _ _)
  | donePressed _inFront => exact kept rfl rfl (World.root_doneButtonPressed _ _ _)
  | editorCancelled _inFront => exact kept rfl rfl (World.root_dismissFromEditor _ _)
  | feedLaunched | loginLaunched | terminated | signUpPressed | editTrapped | signedOut =>
      exact .closed
  | _ => exact .kept

end InstagramProject
