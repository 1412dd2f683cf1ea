/-
Profile editors over time.  `EditorStep` says where an editor on the screen after
an event comes from: it was opened, it was there before, or a picture was chosen
or a text typed in it.  An editor has the picture last chosen and the texts last
typed in it, and the record it was opened with for the rest.
-/

import InstagramProject.Windows

namespace InstagramProject

open Transition

variable {K : Platform}

/-! ### What the user does in an editor -/

/-- An image chosen in an editor, with the account then signed in. -/
structure Choice (K : Platform) where
  user : Option UID
  editor : ControllerID
  image : K.Image

structure FieldEdit where
  editor : ControllerID
  field : ProfileField
  text : String

namespace World

def choice? (world : World K) : Event K → Option (Choice K)
  | .imagePicked (some image) =>
      match world.presented with
      | .imagePicker .editor :: .editor controller :: _ =>
          some { user := world.currentUser, editor := controller.id, image := image }
      | _ => none
  | _ => none

def fieldEdit? (world : World K) : Event K → Option FieldEdit
  | .fieldEdited field text =>
      world.editorInFront?.map (fun controller =>
        { editor := controller.id, field := field, text := text })
  | _ => none

/-- The record an event opens an editor with. -/
def opened? (world : World K) : Event K → Option FetchedUser
  | .editButtonPressed => world.profileInFront?.bind (fun (_, controller) =>
      if controller.barButtonsInstalled then controller.instaUser else none)
  | _ => none

end World

theorem mem_of_editorInFront {world : World K} {controller : EditProfileViewController K}
    (inFront : world.editorInFront? = some controller) :
    .editor controller ∈ world.presented := by
  unfold World.editorInFront? at inFront
  split at inFront
  · rename_i presented
    cases inFront
    rw [presented]
    exact List.mem_cons_self
  · cases inFront

/-- Where an editor on the screen after an event comes from. -/
inductive EditorStep (before : World K) (event : Event K) : EditProfileViewController K → Prop
  | kept {controller : EditProfileViewController K} :
      .editor controller ∈ before.presented → before.opened? event = none →
      (∀ choice, before.choice? event = some choice → choice.editor ≠ controller.id) →
      (∀ edit, before.fieldEdit? event = some edit → edit.editor ≠ controller.id) →
      EditorStep before event controller
  | previewed {controller : EditProfileViewController K} :
      .editor controller ∈ before.presented → before.opened? event = none →
      before.choice? event = none → before.fieldEdit? event = none →
      EditorStep before event
        { controller with profilePictureView := controller.selectedImage }
  | chosen {controller : EditProfileViewController K} {choice : Choice K} :
      .editor controller ∈ before.presented → before.opened? event = none →
      before.choice? event = some choice → choice.editor = controller.id →
      before.fieldEdit? event = none →
      EditorStep before event { controller with selectedImage := some choice.image }
  | edited {controller : EditProfileViewController K} {edit : FieldEdit} :
      .editor controller ∈ before.presented → before.opened? event = none →
      before.fieldEdit? event = some edit → edit.editor = controller.id →
      before.choice? event = none →
      EditorStep before event (controller.edit edit.field edit.text)
  | opened {user : FetchedUser} :
      before.opened? event = some user →
      EditorStep before event
        (EditProfileViewController.loaded before.nextController user before.currentUser)

/-! ### Every event is in the list -/

private theorem alert_ne_editor (title message : String)
    (controller : EditProfileViewController K) :
    Screen.alert title message ≠ .editor controller := by
  intro same
  cases same

section Members

variable {world : World K} {controller : EditProfileViewController K} {screen : Screen K}

private theorem member_of_presented {shown : List (Screen K)}
    (notEditor : ∀ controller, screen ≠ .editor controller)
    (member : .editor controller ∈ screen :: shown) : .editor controller ∈ shown := by
  rcases List.mem_cons.mp member with same | older
  · exact absurd same.symm (notEditor controller)
  · exact older

theorem editor_presentFromLogin {login : ControllerID}
    (notEditor : ∀ controller, screen ≠ .editor controller)
    (member : .editor controller ∈ (world.presentFromLogin login screen).presented) :
    .editor controller ∈ world.presented := by
  unfold World.presentFromLogin at member
  split at member
  · cases member_of_presented notEditor member
  · exact member

theorem editor_presentFromTab {tab : ControllerID} {index : Fin 3}
    (notEditor : ∀ controller, screen ≠ .editor controller)
    (member : .editor controller ∈ (world.presentFromTab tab index screen).presented) :
    .editor controller ∈ world.presented := by
  unfold World.presentFromTab at member
  split at member
  · split at member
    · cases member_of_presented notEditor member
    · exact member
  · exact member

theorem editor_presentFromEditor {presenter : ControllerID}
    (notEditor : ∀ controller, screen ≠ .editor controller)
    (member : .editor controller ∈ (world.presentFromEditor presenter screen).presented) :
    .editor controller ∈ world.presented := by
  unfold World.presentFromEditor at member
  split at member
  · rename_i top rest presented
    split at member
    · rw [presented]
      exact member_of_presented notEditor member
    · exact member
  · exact member

theorem editor_dismissFromTab {tab : ControllerID}
    (member : .editor controller ∈ (world.dismissFromTab tab).presented) :
    .editor controller ∈ world.presented := by
  unfold World.dismissFromTab at member
  split at member
  · cases member
  · exact member

theorem editor_dismissFromEditor {dismissed : ControllerID}
    (member : .editor controller ∈ (world.dismissFromEditor dismissed).presented) :
    .editor controller ∈ world.presented := by
  unfold World.dismissFromEditor at member
  split at member
  · rename_i top rest presented
    rw [presented]
    split at member
    · exact List.mem_cons_of_mem _ member
    · split at member
      · exact List.mem_cons_of_mem _ ((List.dropWhile_suffix _).subset member)
      · rwa [presented] at member
  · exact member

theorem editor_updateEditor {updated : ControllerID}
    {change : EditProfileViewController K → EditProfileViewController K}
    (member : .editor controller ∈ (world.updateEditor updated change).presented) :
    ∃ earlier, .editor earlier ∈ world.presented ∧
      (earlier.id = updated ∧ controller = change earlier ∨
        earlier.id ≠ updated ∧ controller = earlier) := by
  obtain ⟨screen, present, changed⟩ := List.mem_map.mp member
  cases screen with
  | editor earlier =>
      refine ⟨earlier, present, ?_⟩
      simp only [Screen.updateEditor] at changed
      split at changed
      · rename_i same
        cases changed
        exact .inl ⟨same, rfl⟩
      · rename_i different
        cases changed
        exact .inr ⟨different, rfl⟩
  | _ => cases changed

theorem editor_callback {request : Request K} {answer : Answer}
    (member : .editor controller ∈ (world.callback request answer).presented) :
    .editor controller ∈ world.presented := by
  rcases world.presented_callback request answer with same | ⟨_, _, saved, _, _, dismissed⟩
  · rwa [same] at member
  · rw [dismissed] at member
    exact editor_dismissFromEditor member

theorem editor_runBlock {block : Block K}
    (member : .editor controller ∈ (world.runBlock block).presented) :
    .editor controller ∈ world.presented ∨ ∃ earlier, .editor earlier ∈ world.presented ∧
      controller = { earlier with profilePictureView := earlier.selectedImage } := by
  cases block with
  | createUser login uid email =>
      left
      simp only [World.runBlock, World.createDatabaseUser] at member
      split at member
      · split at member <;> exact member
      · exact member
  | navigateToInstagram login =>
      simp only [World.runBlock] at member
      split at member
      · cases member
      · exact .inl member
  | loginAlert login title message =>
      exact .inl (editor_presentFromLogin (alert_ne_editor _ _) member)
  | setAddPhotoUser screen user => exact .inl member
  | setProfileUser screen user => exact .inl member
  | previewPost screen => exact .inl member
  | addPhotoAlert screen title message documentID =>
      exact .inl (editor_presentFromTab (alert_ne_editor _ _) member)
  | resetDraft screen documentID =>
      left
      simp only [World.runBlock, World.resetDraft] at member
      split at member
      · exact editor_dismissFromTab member
      · exact member
  | previewProfilePicture updated =>
      obtain ⟨earlier, present, ⟨_, changed⟩ | ⟨_, same⟩⟩ := editor_updateEditor member
      · exact .inr ⟨earlier, present, changed⟩
      · rw [same]
        exact .inl present
  | editorAlert presenter title message =>
      exact .inl (editor_presentFromEditor (alert_ne_editor _ _) member)
  | pictureAlert presenter title message =>
      exact .inl (editor_presentFromEditor (alert_ne_editor _ _) member)
  | commitAlert presenter captured title message =>
      left
      simp only [World.runBlock] at member
      split at member
      · split at member
        · exact editor_presentFromEditor (alert_ne_editor _ _) member
        · cases member
      · exact member
  | signOutAlert screen title message =>
      exact .inl (editor_presentFromTab (alert_ne_editor _ _) member)

theorem editor_doneButtonPressed {pressed : EditProfileViewController K} {bounds : K.CGRect}
    (member : .editor controller ∈ (world.doneButtonPressed pressed bounds).presented) :
    .editor controller ∈ world.presented := by
  unfold World.doneButtonPressed at member
  split at member
  · exact editor_presentFromEditor (alert_ne_editor _ _) member
  · split at member
    · exact member
    · rw [World.presented_updateUserInfo] at member
      split at member
      · exact member
      · rwa [World.presented_updateProfilePicture] at member

end Members

private theorem unchanged {before : World K} {event : Event K}
    {controller : EditProfileViewController K} (noOpening : before.opened? event = none)
    (noChoice : before.choice? event = none) (noEdit : before.fieldEdit? event = none)
    (member : .editor controller ∈ before.presented) :
    EditorStep before event controller := by
  refine .kept member noOpening ?_ ?_
  · intro choice chosen
    rw [noChoice] at chosen
    cases chosen
  · intro edit edited
    rw [noEdit] at edited
    cases edited

private theorem editorStep_editorImagePicked {before : World K}
    {front controller : EditProfileViewController K} {rest : List (Screen K)} {picked : K.Image}
    (presented : before.presented = .imagePicker .editor :: .editor front :: rest)
    (member : .editor controller ∈ (before.editorImagePicked front.id (some picked)).presented) :
    EditorStep before (.imagePicked (some picked)) controller := by
  have chosen : before.choice? (.imagePicked (some picked)) = some
      { user := before.currentUser, editor := front.id, image := picked } := by
    simp only [World.choice?, presented]
  unfold World.editorImagePicked at member
  have updated := editor_dismissFromEditor member
  rw [World.presented_async] at updated
  obtain ⟨earlier, present, ⟨same, rfl⟩ | ⟨different, rfl⟩⟩ := editor_updateEditor updated
  · exact .chosen present rfl chosen same.symm rfl
  · refine .kept present rfl ?_ nofun
    intro choice other
    cases chosen.symm.trans other
    exact Ne.symm different

private theorem editorStep_fieldEdited {before : World K}
    {front controller : EditProfileViewController K} {field : ProfileField} {text : String}
    (inFront : before.editorInFront? = some front)
    (member : .editor controller ∈
      (before.updateEditor front.id (fun controller => controller.edit field text)).presented) :
    EditorStep before (.fieldEdited field text) controller := by
  have edit : before.fieldEdit? (.fieldEdited field text) =
      some { editor := front.id, field := field, text := text } := by
    simp only [World.fieldEdit?, inFront, Option.map_some]
  obtain ⟨earlier, present, ⟨same, rfl⟩ | ⟨different, rfl⟩⟩ := editor_updateEditor member
  · exact .edited present rfl edit same.symm rfl
  · refine .kept present rfl nofun ?_
    intro other edited
    cases edit.symm.trans edited
    exact Ne.symm different

theorem editorStep_of_step {before after : World K} {event : Event K}
    (stepped : step before event = some after) {controller : EditProfileViewController K}
    (member : .editor controller ∈ after.presented) : EditorStep before event controller := by
  cases acts_of_step stepped with
  | called _found =>
      have older := editor_callback member
      exact unchanged rfl rfl rfl older
  | ran _queued =>
      rcases editor_runBlock member with older | ⟨earlier, present, rfl⟩
      · exact unchanged rfl rfl rfl older
      · exact .previewed present rfl rfl rfl
  | dismissed presented =>
      apply unchanged rfl rfl rfl
      rw [presented]
      exact List.mem_cons_of_mem _ member
  | loginIncomplete _inFront _missing =>
      exact unchanged rfl rfl rfl (editor_presentFromLogin (alert_ne_editor _ _) member)
  | addPhotoSelected _root _presented =>
      rw [World.presented_showAddPhoto] at member
      exact unchanged rfl rfl rfl member
  | profileSelected _root _presented =>
      rw [World.presented_showProfile] at member
      exact unchanged rfl rfl rfl member
  | sourceChosen presented =>
      apply unchanged rfl rfl rfl
      rw [presented]
      rcases List.mem_cons.mp member with same | older
      · cases same
      · exact List.mem_cons_of_mem _ older
  | @postImagePicked originalImage tabs rest _root presented =>
      cases originalImage with
      | none => exact unchanged rfl rfl rfl member
      | some picked =>
          refine unchanged rfl ?_ rfl ?_
          · simp only [World.choice?, presented]
          · unfold World.addPhotoImagePicked at member
            have older := editor_dismissFromTab member
            exact older
  | @profileImagePicked originalImage tabs rest _root presented =>
      refine unchanged rfl ?_ rfl ?_
      · cases originalImage <;> simp only [World.choice?, presented]
      · split at member
        · exact editor_dismissFromTab member
        · exact member
  | @editorImagePicked originalImage front rest presented =>
      cases originalImage with
      | none => exact unchanged rfl rfl rfl member
      | some picked => exact editorStep_editorImagePicked presented member
  | editorOpened inFront installed arrived =>
      cases List.mem_singleton.mp member
      refine .opened ?_
      simp only [World.opened?, inFront, Option.bind_some, installed, if_true, arrived]
  | fieldEdited inFront => exact editorStep_fieldEdited inFront member
  | changePicturePressed _inFront =>
      refine unchanged rfl rfl rfl (editor_presentFromEditor ?_ member)
      intro other same
      cases same
  | donePressed _inFront => exact unchanged rfl rfl rfl (editor_doneButtonPressed member)
  | editorCancelled _inFront => exact unchanged rfl rfl rfl (editor_dismissFromEditor member)
  | feedLaunched | loginLaunched | terminated | editTrapped | signedOut => cases member
  | galleryPressed | cameraPressed | editPicturePressed => cases List.mem_singleton.mp member
  | _ => exact unchanged rfl rfl rfl member

/-! ### The picture last chosen -/

/-- The images chosen so far, the latest first. -/
def choices (past : Past K) : List (Choice K) :=
  past.filterMap (fun moment => moment.1.choice? moment.2)

/-- The image last chosen in an editor. -/
def latestChoice (past : Past K) (editor : ControllerID) : Option (Choice K) :=
  (choices past).find? (fun choice => choice.editor == editor)

theorem mem_of_latestChoice {past : Past K} {editor : ControllerID} {choice : Choice K}
    (found : latestChoice past editor = some choice) : choice ∈ choices past :=
  List.mem_of_find?_eq_some found

private theorem latestChoice_cons {past : Past K} {before : World K} {event : Event K}
    {editor : ControllerID} :
    latestChoice ((before, event) :: past) editor =
      match before.choice? event with
      | some choice => if choice.editor = editor then some choice else latestChoice past editor
      | none => latestChoice past editor := by
  unfold latestChoice choices
  rw [log_cons]
  cases chosen : before.choice? event with
  | none => rfl
  | some choice =>
      rw [Option.toList_some, List.singleton_append, List.find?_cons]
      by_cases same : choice.editor = editor
      · simp only [same, beq_self_eq_true, if_true]
      · simp only [beq_eq_false_iff_ne.mpr same, same, if_false]

/-- The picture an editor has selected is the one last chosen in it. -/
theorem selected_choice {past : Past K} {world : World K} (ran : AppRun past world)
    {controller : EditProfileViewController K} {image : K.Image}
    (present : .editor controller ∈ world.presented)
    (selects : controller.selectedImage = some image) :
    ∃ choice, latestChoice past controller.id = some choice ∧ choice.image = image := by
  refine ran.invariant (fun past world => ∀ controller image,
    .editor controller ∈ world.presented → controller.selectedImage = some image →
    ∃ choice, latestChoice past controller.id = some choice ∧ choice.image = image) nofun ?_
    controller image present selects
  intro past before event after _earlier latest stepped controller image present selects
  rw [latestChoice_cons]
  have origin := editorStep_of_step stepped present
  cases origin with
  | kept older _noOpening others _edits =>
      cases chosen : before.choice? event with
      | none => exact latest controller image older selects
      | some choice =>
          dsimp only
          rw [if_neg (others choice chosen)]
          exact latest controller image older selects
  | @previewed earlier older _noOpening noChoice _noEdit =>
      rw [noChoice]
      exact latest earlier image older selects
  | chosen older _noOpening chosen sameEditor _noEdit =>
      rw [chosen]
      exact ⟨_, if_pos sameEditor, Option.some.inj selects⟩
  | @edited earlier edit older _noOpening _edit _sameEditor noChoice =>
      rw [noChoice]
      have kept : (earlier.edit edit.field edit.text).selectedImage = earlier.selectedImage ∧
          (earlier.edit edit.field edit.text).id = earlier.id := by
        cases edit.field <;> exact ⟨rfl, rfl⟩
      rw [kept.2]
      exact latest earlier image older (kept.1.symm.trans selects)
  | opened _opening =>
      unfold EditProfileViewController.loaded at selects
      split at selects <;> cases selects

end InstagramProject
