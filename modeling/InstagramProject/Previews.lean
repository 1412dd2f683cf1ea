/-
The image of the Add Photo screen: the selection, the Next button and the
preview.  The preview follows the selection in a block on the main queue, which
shows what is selected when it runs.
-/

import InstagramProject.Fetches
import InstagramProject.Finishing
import InstagramProject.LastWrites

namespace InstagramProject

open LastWrite Transition

variable {K : Platform}

structure Preview (K : Platform) where
  selectedImage : Option K.Image
  nextButtonIsEnabled : Bool
  postImageView : Option K.Image

def AddPhotoViewController.preview (controller : AddPhotoViewController K) : Preview K :=
  { selectedImage := controller.selectedImage
    nextButtonIsEnabled := controller.nextButtonIsEnabled
    postImageView := controller.postImageView }

namespace Preview

def choose (preview : Preview K) (image : Option K.Image) : Preview K :=
  { preview with selectedImage := image }

def enable (preview : Preview K) (enabled : Bool) : Preview K :=
  { preview with nextButtonIsEnabled := enabled }

/-- Picking an image selects it and resetting the draft selects nothing; the preview
waits for its block. -/
def select (preview : Preview K) (image : Option K.Image) : Preview K :=
  (preview.choose image).enable image.isSome

def refresh (preview : Preview K) : Preview K :=
  { preview with postImageView := preview.selectedImage }

end Preview

/-- The screen whose draft a block resets. -/
def Block.resets? : Block K → Option ControllerID
  | .resetDraft screen _ => some screen
  | _ => none

/-- The block that shows the selection on a screen. -/
def Block.previews (screen : ControllerID) : Block K → Bool
  | .previewPost id => id == screen
  | _ => false

namespace World

/-- The event runs a block that shows the selection on a screen. -/
def previews (world : World K) (screen : ControllerID) : Event K → Bool
  | .runBlock => world.mainQueue.head?.any (Block.previews screen)
  | _ => false

def preview? (world : World K) : Option (ControllerID × Preview K) :=
  world.draft?.map (fun draft => (draft.1, draft.2.preview))

/-- What an event assigns to `selectedImage` of a screen: a pick its image, the
last block of a publication nothing. -/
def assigned? (world : World K) (screen : ControllerID) (event : Event K) :
    Option (Option K.Image) :=
  match event with
  | .imagePicked _ =>
      if world.draft?.any (fun draft => draft.1 == screen) then
        (world.picked? event).map some
      else none
  | .runBlock =>
      if (world.mainQueue.head?.bind Block.resets?) = some screen then some none else none
  | _ => none

end World

/-- The image of the latest pick on a screen since its draft was last reset. -/
def latestPick (screen : ControllerID) (past : Past K) : Option K.Image :=
  latest (fun world event => World.assigned? world screen event) none past

/-! ### Every event, as far as the image goes -/

namespace World

variable (world : World K)

theorem preview?_of_draft? {other : World K} (same : other.draft? = world.draft?) :
    other.preview? = world.preview? := by
  unfold preview?
  rw [same]

theorem preview?_updateAddPhoto (screen : ControllerID)
    {change : AddPhotoViewController K → AddPhotoViewController K}
    (shows : Preview K → Preview K)
    (acts : ∀ controller, (change controller).preview = shows controller.preview) :
    (world.updateAddPhoto screen change).preview? =
      world.preview?.map (fun preview =>
        (preview.1, if preview.1 = screen then shows preview.2 else preview.2)) := by
  unfold preview?
  rw [draft?_updateAddPhoto, Option.map_map, Option.map_map]
  congr 1
  funext draft
  simp only [Function.comp_apply]
  split
  · rw [acts]
  · rfl

theorem preview?_updateAddPhoto_same (screen : ControllerID)
    {change : AddPhotoViewController K → AddPhotoViewController K}
    (same : ∀ controller, (change controller).preview = controller.preview) :
    (world.updateAddPhoto screen change).preview? = world.preview? := by
  have acts : ∀ controller, (change controller).preview = id controller.preview := same
  rw [preview?_updateAddPhoto world screen id acts]
  simp only [id, ite_self]
  exact Option.map_id'

/-- The image of a screen after a change of the screen `changed`. -/
theorem preview?_updateAddPhoto_inv {screen changed : ControllerID} {now : Preview K}
    {change : AddPhotoViewController K → AddPhotoViewController K}
    (shows : Preview K → Preview K)
    (acts : ∀ controller, (change controller).preview = shows controller.preview)
    (present : (world.updateAddPhoto changed change).preview? = some (screen, now)) :
    (screen = changed ∧ ∃ preview, world.preview? = some (screen, preview) ∧
      shows preview = now) ∨ (screen ≠ changed ∧ world.preview? = some (screen, now)) := by
  rw [preview?_updateAddPhoto world changed shows acts] at present
  obtain ⟨⟨id, preview⟩, found, result⟩ := Option.map_eq_some_iff.mp present
  obtain ⟨rfl, shown⟩ := Prod.mk.inj result
  dsimp only at shown
  by_cases same : id = changed
  · rw [if_pos same] at shown
    exact .inl ⟨same, preview, found, shown⟩
  · rw [if_neg same] at shown
    subst shown
    exact .inr ⟨same, found⟩

theorem assigned?_runBlock {block : Block K} {rest : List (Block K)} (screen : ControllerID)
    (queued : world.mainQueue = block :: rest) :
    world.assigned? screen .runBlock =
      if block.resets? = some screen then some none else none := by
  simp only [assigned?, queued, List.head?_cons, Option.bind_some]

theorem assigned?_of_screen {screen : ControllerID} {controller : AddPhotoViewController K}
    {originalImage : Option K.Image} (present : world.draft? = some (screen, controller)) :
    world.assigned? screen (.imagePicked originalImage) =
      (world.picked? (.imagePicked originalImage)).map some := by
  simp only [assigned?, present, Option.any_some, beq_self_eq_true, if_true]

end World

/-- What an event does to the image of a screen. -/
inductive PreviewStep (before : World K) (event : Event K) (screen : ControllerID) :
    World K → Preview K → Prop
  | kept {after : World K} {preview : Preview K} :
      before.preview? = some (screen, preview) → before.assigned? screen event = none →
      (.previewPost screen ∈ before.mainQueue → .previewPost screen ∈ after.mainQueue) →
      PreviewStep before event screen after preview
  | opened {after : World K} :
      before.draft? = none → before.rootIdentity = some (.instagram screen) →
      before.assigned? screen event = none →
      PreviewStep before event screen after AddPhotoViewController.loaded.preview
  | selected {after : World K} {preview : Preview K} {image : Option K.Image} :
      before.preview? = some (screen, preview) →
      before.assigned? screen event = some image → .previewPost screen ∈ after.mainQueue →
      PreviewStep before event screen after (preview.select image)
  | refreshed {after : World K} {preview : Preview K} :
      before.preview? = some (screen, preview) → before.assigned? screen event = none →
      PreviewStep before event screen after preview.refresh

section Steps

variable {before after : World K} {event : Event K} {screen : ControllerID} {now : Preview K}

/-- A preview block waits until it is run. -/
private theorem preview_waits (stepped : step before event = some after)
    (present : after.preview? = some (screen, now))
    (notRun : before.previews screen event = false)
    (waiting : .previewPost screen ∈ before.mainQueue) : .previewPost screen ∈ after.mainQueue := by
  rcases (workStep_of_step stepped).block_stays waiting with
    stays | ends | ⟨rest, isRun, queued, _⟩
  · exact stays
  · have closed := terminated_of_step stepped ends
    rw [closed] at present
    cases present
  · subst isRun
    rw [World.previews, queued, List.head?_cons, Option.any_some, Block.previews,
      beq_self_eq_true] at notRun
    cases notRun

/-- An event that leaves the image alone. -/
private theorem preview_kept (stepped : step before event = some after)
    (present : after.preview? = some (screen, now)) (same : after.preview? = before.preview?)
    (quiet : before.assigned? screen event = none)
    (notRun : before.previews screen event = false) :
    PreviewStep before event screen after now := by
  rw [same] at present
  exact .kept present quiet (preview_waits stepped (same.trans present) notRun)

/-- A selection with the button that goes with it. -/
private theorem preview?_select {world : World K} {id : ControllerID} {image : Option K.Image}
    {change : AddPhotoViewController K → AddPhotoViewController K}
    (enables : ∀ controller, (change controller).preview =
      controller.preview.enable image.isSome)
    (present : ((world.selectPostImage id image).updateAddPhoto id change).preview? =
      some (screen, now)) :
    (screen = id ∧ ∃ preview, world.preview? = some (screen, preview) ∧
      preview.select image = now) ∨ (screen ≠ id ∧ world.preview? = some (screen, now)) := by
  have selects (controller : AddPhotoViewController K) :
      AddPhotoViewController.preview { controller with selectedImage := image } =
        controller.preview.choose image := rfl
  rcases World.preview?_updateAddPhoto_inv _ (Preview.enable · image.isSome) enables present with
    ⟨isScreen, chosen, found, isNow⟩ | ⟨different, found⟩
  · rcases World.preview?_updateAddPhoto_inv world (Preview.choose · image) selects found with
      ⟨_isScreen, preview, earlier, isChosen⟩ | ⟨different, _found⟩
    · subst isNow isChosen
      exact .inl ⟨isScreen, preview, earlier, rfl⟩
    · exact absurd isScreen different
  · rcases World.preview?_updateAddPhoto_inv world (Preview.choose · image) selects found with
      ⟨isScreen, _, _, _⟩ | ⟨_different, earlier⟩
    · exact absurd isScreen different
    · exact .inr ⟨different, earlier⟩

/-- A block that leaves the image alone. -/
private theorem preview_keptBlock {block : Block K} {rest : List (Block K)}
    (queued : before.mainQueue = block :: rest)
    (stepped : step before .runBlock = some (World.runBlock { before with mainQueue := rest } block))
    (present : (World.runBlock { before with mainQueue := rest } block).preview? =
      some (screen, now))
    (same : (World.runBlock { before with mainQueue := rest } block).preview? = before.preview?)
    (quiet : before.assigned? screen .runBlock = none) (other : block.previews screen = false) :
    PreviewStep before .runBlock screen (World.runBlock { before with mainQueue := rest } block)
      now := by
  apply preview_kept stepped present same quiet
  rw [World.previews, queued, List.head?_cons, Option.any_some, other]

private theorem previewStep_resetDraft {reset : ControllerID} {documentID : String}
    {rest : List (Block K)} (queued : before.mainQueue = .resetDraft reset documentID :: rest)
    (stepped : step before .runBlock =
      some (World.runBlock { before with mainQueue := rest } (.resetDraft reset documentID)))
    (present : (World.runBlock { before with mainQueue := rest }
      (.resetDraft reset documentID)).preview? = some (screen, now)) :
    PreviewStep before .runBlock screen
      (World.runBlock { before with mainQueue := rest } (.resetDraft reset documentID)) now := by
  cases alive : World.addPhotoAlive { before with mainQueue := rest } reset with
  | false =>
      have same : World.runBlock { before with mainQueue := rest }
          (.resetDraft reset documentID) = { before with mainQueue := rest } := by
        simp only [World.runBlock, World.resetDraft, alive, Bool.false_eq_true, if_false]
      refine preview_keptBlock queued stepped present (by rw [same]; rfl) ?_ rfl
      rw [same] at present
      rw [before.assigned?_runBlock screen queued, if_neg]
      intro isScreen
      cases isScreen
      obtain ⟨⟨id, controller⟩, shown, isNow⟩ := Option.map_eq_some_iff.mp present
      cases isNow
      have front : World.isTabs { before with mainQueue := rest } id = true :=
        (isTabs_of_draft shown id).trans (beq_self_eq_true id)
      simp only [World.addPhotoAlive, front, Bool.true_or, Bool.true_eq_false] at alive
  | true =>
      have isAfter : World.runBlock { before with mainQueue := rest }
          (.resetDraft reset documentID) =
            (((World.dismissFromTab { before with mainQueue := rest } reset).selectPostImage
              reset none).updateAddPhoto reset (fun controller =>
                { controller with nextButtonIsEnabled := false, captionTF := "" })) := by
        simp only [World.runBlock, World.resetDraft, alive, if_true]
      have dismissed : (World.dismissFromTab { before with mainQueue := rest } reset).preview? =
          before.preview? :=
        World.preview?_of_draft? _ (World.draft?_of_root _ (World.root_dismissFromTab _ _))
      have selected := present
      rw [isAfter] at selected
      rcases preview?_select (fun controller => rfl) selected with
        ⟨isScreen, preview, found, isNow⟩ | ⟨different, found⟩
      · subst isNow isScreen
        refine .selected (dismissed.symm.trans found) ?_ ?_
        · rw [before.assigned?_runBlock screen queued]
          exact if_pos rfl
        · rw [isAfter]
          exact List.mem_append_right _ (List.mem_singleton_self _)
      · rw [dismissed] at found
        refine preview_keptBlock queued stepped present (present.trans found.symm) ?_ rfl
        rw [before.assigned?_runBlock screen queued, if_neg]
        intro same
        exact different (Option.some.inj same).symm

private theorem previewStep_runBlock {block : Block K} {rest : List (Block K)}
    (queued : before.mainQueue = block :: rest)
    (stepped : step before .runBlock = some (World.runBlock { before with mainQueue := rest } block))
    (present : (World.runBlock { before with mainQueue := rest } block).preview? =
      some (screen, now)) :
    PreviewStep before .runBlock screen (World.runBlock { before with mainQueue := rest } block)
      now := by
  have quiet (noReset : block.resets? = none) : before.assigned? screen .runBlock = none := by
    rw [before.assigned?_runBlock screen queued, noReset]
    rfl
  have rootKept (same : (World.runBlock { before with mainQueue := rest } block).root =
        before.root) (noReset : block.resets? = none) (other : block.previews screen = false) :
      PreviewStep before .runBlock screen
        (World.runBlock { before with mainQueue := rest } block) now :=
    preview_keptBlock queued stepped present
      (World.preview?_of_draft? _ (World.draft?_of_root _ same)) (quiet noReset) other
  cases block with
  | createUser login uid email =>
      refine rootKept ?_ rfl rfl
      simp only [World.runBlock, World.createDatabaseUser]
      split
      · split <;> rfl
      · rfl
  | navigateToInstagram login =>
      cases isLogin : World.isLogin { before with mainQueue := rest } login with
      | true =>
          simp only [World.runBlock, isLogin, if_true] at present
          cases present
      | false =>
          refine rootKept ?_ rfl rfl
          simp only [World.runBlock, isLogin, Bool.false_eq_true, if_false]
  | loginAlert login title message => exact rootKept (World.root_presentFromLogin _ _ _) rfl rfl
  | setAddPhotoUser id user =>
      refine preview_keptBlock queued stepped present ?_ (quiet rfl) rfl
      exact World.preview?_updateAddPhoto_same _ id (fun controller => rfl)
  | setProfileUser id user =>
      refine preview_keptBlock queued stepped present ?_ (quiet rfl) rfl
      apply World.preview?_of_draft?
      exact World.draft?_updateTabs _ id _ (fun tabs => rfl)
  | previewPost id =>
      have acts (controller : AddPhotoViewController K) :
          AddPhotoViewController.preview
            { controller with postImageView := controller.selectedImage } =
              controller.preview.refresh := rfl
      rcases World.preview?_updateAddPhoto_inv _ Preview.refresh acts present with
        ⟨_isScreen, preview, found, isNow⟩ | ⟨different, found⟩
      · subst isNow
        exact .refreshed found (quiet rfl)
      · refine preview_keptBlock queued stepped present (present.trans found.symm) (quiet rfl) ?_
        exact beq_eq_false_iff_ne.mpr (Ne.symm different)
  | addPhotoAlert id title message documentID =>
      exact rootKept (World.root_presentFromTab _ _ _ _) rfl rfl
  | resetDraft reset documentID => exact previewStep_resetDraft queued stepped present
  | previewProfilePicture editor => exact rootKept rfl rfl rfl
  | editorAlert editor title message =>
      exact rootKept (World.root_presentFromEditor _ _ _) rfl rfl
  | pictureAlert editor title message =>
      exact rootKept (World.root_presentFromEditor _ _ _) rfl rfl
  | commitAlert editor captured title message =>
      cases captured with
      | false => exact rootKept rfl rfl rfl
      | true =>
          cases alive : World.editorAlive { before with mainQueue := rest } editor with
          | true =>
              refine rootKept ?_ rfl rfl
              simp only [World.runBlock, alive, if_true]
              exact World.root_presentFromEditor _ _ _
          | false =>
              simp only [World.runBlock, alive, Bool.false_eq_true, if_true, if_false] at present
              cases present
  | signOutAlert id title message => exact rootKept (World.root_presentFromTab _ _ _ _) rfl rfl

private theorem previewStep_showAddPhoto {tabs : TabBarController K}
    (stepped : step before (.selectTab 1) = some (before.showAddPhoto tabs))
    (root : before.root = some (.instagram tabs))
    (present : (before.showAddPhoto tabs).preview? = some (screen, now)) :
    PreviewStep before (.selectTab 1) screen (before.showAddPhoto tabs) now := by
  cases loaded : tabs.addPhoto with
  | some controller =>
      refine preview_kept stepped present ?_ rfl rfl
      apply World.preview?_of_draft?
      simp only [World.showAddPhoto, loaded, World.draft?, root, Option.bind_some, Root.draft?]
  | none =>
      have isDraft : (before.showAddPhoto tabs).draft? = some (tabs.id, .loaded) := by
        simp only [World.showAddPhoto, loaded, World.draft?, World.root_fetchCurrentUser,
          Option.bind_some, Root.draft?, Option.map_some]
      rw [World.preview?, isDraft] at present
      cases present
      refine .opened ?_ (World.rootIdentity_of_some root) rfl
      simp only [World.draft?, root, Option.bind_some, Root.draft?, loaded, Option.map_none]

private theorem previewStep_postImagePicked {originalImage : Option K.Image}
    {tabs : TabBarController K} {rest : List (Screen K)}
    (stepped : step before (.imagePicked originalImage) =
      some (before.addPhotoImagePicked tabs.id originalImage))
    (root : before.root = some (.instagram tabs))
    (presented : before.presented = .imagePicker .addPhoto :: rest)
    (present : (before.addPhotoImagePicked tabs.id originalImage).preview? =
      some (screen, now)) :
    PreviewStep before (.imagePicked originalImage) screen
      (before.addPhotoImagePicked tabs.id originalImage) now := by
  have picks : before.picked? (.imagePicked originalImage) = originalImage := by
    simp only [World.picked?, root, presented]
  cases originalImage with
  | none =>
      refine preview_kept stepped present rfl ?_ rfl
      simp only [World.assigned?, picks, Option.map_none, ite_self]
  | some image =>
      have dismissed : (before.addPhotoImagePicked tabs.id (some image)).preview? =
          ((before.selectPostImage tabs.id (some image)).updateAddPhoto tabs.id
            (fun controller => { controller with nextButtonIsEnabled := true })).preview? :=
        World.preview?_of_draft? _ (World.draft?_of_root _ (World.root_dismissFromTab _ _))
      rw [dismissed] at present
      rcases preview?_select (fun controller => rfl) present with
        ⟨isScreen, preview, found, isNow⟩ | ⟨different, found⟩
      · subst isNow isScreen
        obtain ⟨⟨id, controller⟩, drafted, isPreview⟩ := Option.map_eq_some_iff.mp found
        cases isPreview
        refine .selected found ?_ ?_
        · rw [before.assigned?_of_screen drafted, picks]
          rfl
        · change _ ∈ (World.work (World.dismissFromTab _ _)).mainQueue
          rw [World.work_dismissFromTab]
          exact List.mem_append_right _ (List.mem_singleton_self _)
      · exfalso
        obtain ⟨⟨id, controller⟩, drafted, isPreview⟩ := Option.map_eq_some_iff.mp found
        cases isPreview
        rw [World.draft?, root] at drafted
        obtain ⟨_, _loaded, same⟩ := Option.map_eq_some_iff.mp drafted
        cases same
        exact different rfl

/-- The image a press publishes is the one selected. -/
theorem selected_of_photoPicked {controller : AddPhotoViewController K} {photoPicked : K.Image}
    (picked : controller.photoPicked = some photoPicked) :
    controller.selectedImage = some photoPicked := by
  unfold AddPhotoViewController.photoPicked at picked
  split at picked
  · cases picked
  · exact picked

theorem previewStep_of_step (stepped : step before event = some after)
    (present : after.preview? = some (screen, now)) :
    PreviewStep before event screen after now := by
  have rootKept (same : after.root = before.root)
      (quiet : before.assigned? screen event = none) (notRun : before.previews screen event = false) :
      PreviewStep before event screen after now :=
    preview_kept stepped present (World.preview?_of_draft? _ (World.draft?_of_root _ same)) quiet
      notRun
  cases acts_of_step stepped with
  | feedLaunched | loginLaunched | terminated | signUpPressed | editTrapped | signedOut =>
      cases present
  | called _found =>
      refine preview_kept stepped present ?_ rfl rfl
      exact World.preview?_of_draft? _ (draft?_callback _ _ _)
  | ran queued => exact previewStep_runBlock queued stepped present
  | loginIncomplete _inFront _missing => exact rootKept (World.root_presentFromLogin _ _ _) rfl rfl
  | feedSelected root _presented =>
      refine preview_kept stepped present ?_ rfl rfl
      apply World.preview?_of_draft?
      simp only [World.draft?, root, Option.bind_some, Root.draft?]
  | addPhotoSelected root _presented => exact previewStep_showAddPhoto stepped root present
  | @profileSelected tabs root _presented =>
      refine preview_kept stepped present ?_ rfl rfl
      apply World.preview?_of_draft?
      unfold World.showProfile
      split
      · simp only [World.draft?, root, Option.bind_some, Root.draft?]
      · rw [World.draft?_of_root _ (World.root_fetchCurrentUser _ _)]
        simp only [World.draft?, root, Option.bind_some, Root.draft?]
  | cancelled inFront =>
      refine preview_kept stepped present ?_ rfl rfl
      apply World.preview?_of_draft?
      simp only [World.draft?, (before.draft?_of_inFront inFront).1, Option.bind_some, Root.draft?]
  | @captioned text tabs controller _inFront =>
      refine preview_kept stepped present ?_ rfl rfl
      exact before.preview?_updateAddPhoto_same tabs.id (fun controller => rfl)
  | @postPressed documentID bounds tabs controller photoPicked inFront _enabled picked _fresh _free =>
      obtain ⟨_root, _presented, drafted⟩ := before.draft?_of_inFront inFront
      change (before.updateAddPhoto _ _).preview? = _ at present
      rw [World.preview?, before.draft?_updateAddPhoto, drafted] at present
      simp only [Option.map_some, if_true] at present
      cases present
      have isRefreshed : AddPhotoViewController.preview
          { controller with postImageView := some photoPicked } = controller.preview.refresh := by
        simp only [AddPhotoViewController.preview, Preview.refresh, selected_of_photoPicked picked]
      rw [isRefreshed]
      refine .refreshed ?_ rfl
      rw [World.preview?, drafted]
      rfl
  | @postImagePicked originalImage tabs rest root presented =>
      exact previewStep_postImagePicked stepped root presented present
  | @profileImagePicked originalImage tabs rest root presented =>
      refine rootKept ?_ ?_ rfl
      · split
        · exact World.root_dismissFromTab _ _
        · rfl
      · simp only [World.assigned?, World.picked?, root, presented, Option.map_none, ite_self]
  | @editorImagePicked originalImage controller rest presented =>
      refine rootKept ?_ ?_ rfl
      · cases originalImage with
        | none => rfl
        | some image => exact World.root_dismissFromEditor _ _
      · have noPick : before.picked? (.imagePicked originalImage) = none := by
          simp only [World.picked?, presented]
          cases before.root with
          | none => rfl
          | some root => cases root <;> rfl
        simp only [World.assigned?, noPick, Option.map_none, ite_self]
  | changePicturePressed _inFront => exact rootKept (World.root_presentFromEditor _ _ _) rfl rfl
  | donePressed _inFront => exact rootKept (World.root_doneButtonPressed _ _ _) rfl rfl
  | editorCancelled _inFront => exact rootKept (World.root_dismissFromEditor _ _) rfl rfl
  | _ => exact rootKept rfl rfl rfl

end Steps

/-! ### The latest pick -/

/-- An image is assigned only to a screen that is there. -/
private theorem drafted_of_assigned {world : World K} {screen : ControllerID} {event : Event K}
    {image : Option K.Image} (assigned : world.assigned? screen event = some image)
    (isImage : image ≠ none) : ∃ controller, world.draft? = some (screen, controller) := by
  cases event with
  | imagePicked originalImage =>
      obtain ⟨present, _⟩ := Option.ite_none_right_eq_some.mp assigned
      cases drafted : world.draft? with
      | none =>
          rw [drafted] at present
          cases present
      | some draft =>
          rw [drafted] at present
          obtain ⟨id, controller⟩ := draft
          cases beq_iff_eq.mp present
          exact ⟨controller, rfl⟩
  | runBlock =>
      obtain ⟨_reset, same⟩ := Option.ite_none_right_eq_some.mp assigned
      exact absurd (Option.some.inj same).symm isImage
  | _ => cases assigned

private theorem loads_of_draft {world : World K} {screen : ControllerID}
    {controller : AddPhotoViewController K} (drafted : world.draft? = some (screen, controller)) :
    world.rootIdentity = some (.instagram screen) ∧ world.loads (.addPhoto screen) = true := by
  obtain ⟨root, isRoot, isDraft⟩ := Option.bind_eq_some_iff.mp drafted
  cases root with
  | login login => cases isDraft
  | instagram tabs =>
      obtain ⟨_, present, same⟩ := Option.map_eq_some_iff.mp isDraft
      cases same
      constructor
      · exact World.rootIdentity_of_some isRoot
      · simp only [World.loads, isRoot, present, Option.isSome_some, Bool.and_true]
        exact beq_self_eq_true tabs.id

private theorem draft_of_loads {world : World K} {screen : ControllerID}
    (loaded : world.loads (.addPhoto screen) = true) : world.draft? ≠ none := by
  unfold World.loads at loaded
  split at loaded
  · rename_i tabs root
    obtain ⟨controller, present⟩ := Option.isSome_iff_exists.mp (Bool.and_eq_true_iff.mp loaded).2
    rw [World.draft?, root, Option.bind_some, Root.draft?, present]
    exact Option.some_ne_none _
  · cases loaded

/-- Nothing was picked on a screen before it was opened. -/
theorem latestPick_of_unopened {past : Past K} {world : World K} (ran : AppRun past world)
    {screen : ControllerID} (absent : world.draft? = none)
    (isRoot : world.rootIdentity = some (.instagram screen)) : latestPick screen past = none := by
  by_contra picked
  obtain ⟨⟨earlier, event⟩, member, image, assigned, isImage⟩ := exists_write picked
  obtain ⟨controller, drafted⟩ := drafted_of_assigned assigned isImage
  obtain ⟨recent, older, rfl, reached⟩ := ran.moment member
  obtain ⟨wasRoot, wasLoaded⟩ := loads_of_draft drafted
  rw [List.append_cons] at ran
  -- Once loaded, the screen stays as long as its tab bar is the root.
  have stays := reached.persists ran (fun world => screen < world.nextController ∧
      (world.rootIdentity = some (.instagram screen) → world.loads (.addPhoto screen) = true))
    ⟨(fresh reached).root _ wasRoot, fun _ => wasLoaded⟩ (by
      rintro past before event after _earlier ⟨known, loaded⟩ stepped
      refine ⟨Nat.lt_of_lt_of_le known (identityStep_of_step stepped).grows, ?_⟩
      intro isRoot
      exact loads_stays (rootStep_of_step stepped) known isRoot loaded)
  exact draft_of_loads (stays.2 isRoot) absent

theorem latestPick_cons (screen : ControllerID) (world : World K) (event : Event K)
    (past : Past K) :
    latestPick screen ((world, event) :: past) =
      (world.assigned? screen event).getD (latestPick screen past) :=
  rfl

/-! ### What is previewed is what is published -/

/-- The three copies of the selection agree, but for a preview block under way. -/
structure Previewing (past : Past K) (world : World K) (screen : ControllerID)
    (preview : Preview K) : Prop where
  enabled : preview.nextButtonIsEnabled = preview.selectedImage.isSome
  shown : .previewPost screen ∉ world.mainQueue → preview.postImageView = preview.selectedImage
  latest : preview.selectedImage = latestPick screen past

theorem previewing {past : Past K} {world : World K} (ran : AppRun past world) :
    ∀ screen preview, world.preview? = some (screen, preview) →
      Previewing past world screen preview := by
  apply ran.invariant (fun past world => ∀ screen preview,
    world.preview? = some (screen, preview) → Previewing past world screen preview)
  · nofun
  intro past before event after earlier ih stepped screen now present
  cases previewStep_of_step stepped present with
  | kept found unassigned waits =>
      have before := ih screen now found
      refine ⟨before.enabled, fun none => before.shown (fun waiting => none (waits waiting)), ?_⟩
      rw [latestPick_cons, unassigned]
      exact before.latest
  | opened absent isRoot unassigned =>
      refine ⟨rfl, fun _ => rfl, ?_⟩
      rw [latestPick_cons, unassigned]
      exact (latestPick_of_unopened earlier absent isRoot).symm
  | selected found assigned waiting =>
      refine ⟨rfl, fun none => absurd waiting none, ?_⟩
      rw [latestPick_cons, assigned]
      rfl
  | refreshed found unassigned =>
      have before := ih screen _ found
      refine ⟨before.enabled, fun _ => rfl, ?_⟩
      rw [latestPick_cons, unassigned]
      exact before.latest

/-- In every state of a loaded Add Photo screen: Next is enabled exactly if an image
is selected; with no preview block under way the preview shows what is selected;
and a press of Next that starts a publication publishes the latest pick since the
draft was last reset, and leaves it in the preview. -/
theorem preview_is_published {past : Past K} {world : World K} (ran : AppRun past world)
    {screen : ControllerID} {controller : AddPhotoViewController K}
    (loaded : world.draft? = some (screen, controller)) :
    (controller.nextButtonIsEnabled = true ↔ controller.selectedImage ≠ none) ∧
      (.previewPost screen ∉ world.mainQueue →
        controller.postImageView = controller.selectedImage) ∧
      ∀ documentID bounds press after,
        world.publication? (.nextButtonPressed documentID bounds) = some press →
        step world (.nextButtonPressed documentID bounds) = some after →
        ∃ image, latestPick screen past = some image ∧
          .setPost documentID press.fields (K.resizeImage image bounds) screen world.currentUser ∈
            after.requests ∧
          ∃ shown, after.draft? = some (screen, shown) ∧ shown.postImageView = some image := by
  have agrees : Previewing past world screen controller.preview := by
    apply previewing ran
    rw [World.preview?, loaded]
    rfl
  refine ⟨?_, agrees.shown, ?_⟩
  · have enabled : controller.nextButtonIsEnabled = controller.selectedImage.isSome :=
      agrees.enabled
    rw [enabled, Option.isSome_iff_ne_none]
  · intro documentID bounds press after pressed stepped
    cases acts_of_step stepped with
    | postIncomplete inFront enabled missing =>
        simp only [World.publication?, inFront, Option.bind_some, enabled, if_true, missing,
          Option.map_none, reduceCtorEq] at pressed
    | @postPressed _ _ tabs front image inFront enabled picked _fresh _free =>
        simp only [World.publication?, inFront, Option.bind_some, enabled, if_true, picked,
          Option.map_some, Option.some.injEq] at pressed
        subst pressed
        have drafted := (world.draft?_of_inFront inFront).2.2
        rw [loaded] at drafted
        cases drafted
        refine ⟨image, ?_, List.mem_append_right _ (List.mem_singleton_self _), ?_⟩
        · rw [← agrees.latest]
          exact selected_of_photoPicked picked
        · refine ⟨{ controller with postImageView := some image }, ?_, rfl⟩
          change (world.updateAddPhoto _ _).draft? = _
          rw [World.draft?_updateAddPhoto, loaded]
          simp only [Option.map_some, if_true]

/-- A picture of the beach is picked, previewed and published. -/
theorem preview_is_published_beach :
    let events : List (Event Platform.plain) :=
      [.launch] ++ signUpEvents "alice@mail" "secret" "alice" ++
        (publishEvents "beach" "sunny" "post1" ()).dropLast
    let reached := endOf events
    ∃ screen controller fields after, reached.2.draft? = some (screen, controller) ∧
      controller.nextButtonIsEnabled = true ∧
      controller.postImageView = controller.selectedImage ∧
      step reached.2 (.nextButtonPressed "post1" ()) = some after ∧
      latestPick screen reached.1 = some "beach" ∧
      .setPost "post1" fields "beach" screen reached.2.currentUser ∈ after.requests := by
  intro events reached
  obtain ⟨⟨screen, controller⟩, loaded⟩ := Option.isSome_iff_exists.mp
    (by decide +kernel : reached.2.draft?.isSome = true)
  obtain ⟨press, pressed⟩ := Option.isSome_iff_exists.mp
    (by decide +kernel :
      (reached.2.publication? (.nextButtonPressed "post1" ())).isSome = true)
  obtain ⟨after, stepped⟩ := Option.isSome_iff_exists.mp
    (by decide +kernel : (step reached.2 (.nextButtonPressed "post1" ())).isSome = true)
  obtain ⟨enabled, shown, publishes⟩ :=
    preview_is_published (appRun_endOf events (by decide +kernel)) loaded
  have selected : reached.2.draft?.map (fun draft => draft.2.selectedImage) =
      some (some "beach") := by decide +kernel
  have picked : reached.2.draft?.map (fun draft => latestPick draft.1 reached.1) =
      some (some "beach") := by decide +kernel
  have settled : reached.2.mainQueue = [] := List.isEmpty_iff.mp (by decide +kernel)
  rw [loaded] at selected picked
  obtain ⟨image, isLatest, sent, _⟩ := publishes "post1" () press after pressed stepped
  have isPicked : latestPick screen reached.1 = some "beach" := Option.some.inj picked
  have isSelected : controller.selectedImage = some "beach" := Option.some.inj selected
  cases isLatest.symm.trans isPicked
  refine ⟨screen, controller, press.fields, after, loaded, ?_, ?_, stepped, isPicked, sent⟩
  · rw [enabled, isSelected]
    nofun
  · apply shown
    rw [settled]
    exact List.not_mem_nil

end InstagramProject
