/-
What handlers do to the root of the window and to what it presents.  Sending a
request and putting a block on the main queue touch neither; presenting and
dismissing leave the root alone.
-/

import InstagramProject.Outstanding

namespace InstagramProject

variable {K : Platform}

namespace World

variable (world : World K)

/-! ### The root -/

@[simp] theorem root_async (block : Block K) : (world.async block).root = world.root := rfl

@[simp] theorem root_presentFromLogin (login : ControllerID) (screen : Screen K) :
    (world.presentFromLogin login screen).root = world.root := by
  unfold presentFromLogin
  split <;> rfl

@[simp] theorem root_presentFromTab (tab : ControllerID) (index : Fin 3) (screen : Screen K) :
    (world.presentFromTab tab index screen).root = world.root := by
  unfold presentFromTab
  split
  · split <;> rfl
  · rfl

@[simp] theorem root_presentFromEditor (editor : ControllerID) (screen : Screen K) :
    (world.presentFromEditor editor screen).root = world.root := by
  unfold presentFromEditor
  split
  · split <;> rfl
  · rfl

@[simp] theorem root_dismissFromTab (tab : ControllerID) :
    (world.dismissFromTab tab).root = world.root := by
  unfold dismissFromTab
  split <;> rfl

@[simp] theorem root_dismissFromEditor (editor : ControllerID) :
    (world.dismissFromEditor editor).root = world.root := by
  unfold dismissFromEditor
  split
  · split
    · rfl
    · split <;> rfl
  · rfl

@[simp] theorem root_fetchCurrentUser (caller : FetchCaller) :
    (world.fetchCurrentUser caller).root = world.root := by
  unfold fetchCurrentUser
  split <;> rfl

@[simp] theorem root_updateUserInfo (userId username userBio fullname : String)
    (editor : ControllerID) :
    (world.updateUserInfo userId username userBio fullname editor).root = world.root := by
  unfold updateUserInfo
  split <;> rfl

/-- The variable of the storage reference is assigned, so nothing traps. -/
@[simp] theorem root_addPhotoUploadPhoto (photo : K.Image) (documentID : String)
    (screen : ControllerID) :
    (world.addPhotoUploadPhoto photo documentID screen).root = world.root := by
  unfold addPhotoUploadPhoto uploadPhoto
  split <;> rfl

@[simp] theorem root_updateProfilePicture (userId : UID) (selectedImage : K.Image)
    (editor : ControllerID) :
    (world.updateProfilePicture userId selectedImage editor).root = world.root := by
  unfold updateProfilePicture uploadPhoto
  split <;> rfl

@[simp] theorem root_doneButtonPressed (controller : EditProfileViewController K)
    (bounds : K.CGRect) :
    (world.doneButtonPressed controller bounds).root = world.root := by
  unfold doneButtonPressed
  split
  · exact root_presentFromEditor _ _ _
  · split
    · rfl
    · rw [root_updateUserInfo]
      split
      · rfl
      · exact root_updateProfilePicture _ _ _ _

/-! ### What is presented -/

@[simp] theorem presented_async (block : Block K) :
    (world.async block).presented = world.presented := rfl

@[simp] theorem presented_updateAddPhoto (screen : ControllerID)
    (change : AddPhotoViewController K → AddPhotoViewController K) :
    (world.updateAddPhoto screen change).presented = world.presented := rfl

@[simp] theorem presented_fetchCurrentUser (caller : FetchCaller) :
    (world.fetchCurrentUser caller).presented = world.presented := by
  unfold fetchCurrentUser
  split <;> rfl

@[simp] theorem presented_showAddPhoto (tabs : TabBarController K) :
    (world.showAddPhoto tabs).presented = world.presented := by
  unfold showAddPhoto
  split
  · rfl
  · rw [presented_fetchCurrentUser]

@[simp] theorem presented_showProfile (tabs : TabBarController K) :
    (world.showProfile tabs).presented = world.presented := by
  unfold showProfile
  split
  · rfl
  · rw [presented_fetchCurrentUser]

@[simp] theorem presented_updateUserInfo (userId username userBio fullname : String)
    (editor : ControllerID) :
    (world.updateUserInfo userId username userBio fullname editor).presented =
      world.presented := by
  unfold updateUserInfo
  split <;> rfl

@[simp] theorem presented_updateProfilePicture (userId : UID) (selectedImage : K.Image)
    (editor : ControllerID) :
    (world.updateProfilePicture userId selectedImage editor).presented = world.presented := by
  unfold updateProfilePicture uploadPhoto
  split <;> rfl

theorem presented_presentFromLogin {login : ControllerID} {screen : Screen K}
    (covered : world.presented ≠ []) :
    (world.presentFromLogin login screen).presented = world.presented := by
  unfold presentFromLogin
  rw [List.isEmpty_eq_false_iff.mpr covered, Bool.and_false]
  rfl

theorem presented_presentFromTab {tab : ControllerID} {index : Fin 3} {screen : Screen K}
    (covered : world.presented ≠ []) :
    (world.presentFromTab tab index screen).presented = world.presented := by
  unfold presentFromTab
  split
  · split
    · rename_i position
      exact absurd (List.isEmpty_iff.mp position.2.2) covered
    · rfl
  · rfl

@[simp] theorem presented_postCreated (documentID : String) (resizeImage : K.Image)
    (screen : ControllerID) :
    (world.postCreated documentID resizeImage screen).presented = world.presented := by
  unfold postCreated addPhotoUploadPhoto uploadPhoto
  split
  · split <;> rfl
  · rfl

/-! ### Completion handlers -/

/-- The root, what it presents and the next identity are those before. -/
structure SameScreens (world after : World K) : Prop where
  root : after.root = world.root
  presented : after.presented = world.presented
  nextController : after.nextController = world.nextController

/-- Of the completion handlers only those of a save and of a created post change the
screens. -/
theorem callback_cases (request : Request K) (answer : Answer) :
    world.SameScreens (world.callback request answer) ∨
      (∃ uid fields editor, request = .updateUser uid fields editor ∧ answer = .done ∧
        world.callback request answer =
          (world.async (.editorAlert editor "Profile updated!" "")).dismissFromEditor editor) ∨
      ∃ documentID fields resizeImage screen writer,
        request = .setPost documentID fields resizeImage screen writer ∧ answer = .done ∧
          world.callback request answer = world.postCreated documentID resizeImage screen := by
  cases request with
  | updateUser uid fields editor =>
      cases answer with
      | done => exact .inr (.inl ⟨uid, fields, editor, rfl, rfl, rfl⟩)
      | _ => exact .inl ⟨rfl, rfl, rfl⟩
  | setPost documentID fields resizeImage screen writer =>
      cases answer with
      | done => exact .inr (.inr ⟨documentID, fields, resizeImage, screen, writer, rfl, rfl, rfl⟩)
      | _ => exact .inl ⟨rfl, rfl, rfl⟩
  | getUser uid caller =>
      left
      cases answer with
      | snapshot data => cases caller <;> exact ⟨rfl, rfl, rfl⟩
      | _ => exact ⟨rfl, rfl, rfl⟩
  | putData reference imageData caller =>
      left
      cases answer with
      | error message => cases caller <;> exact ⟨rfl, rfl, rfl⟩
      | _ => exact ⟨rfl, rfl, rfl⟩
  | downloadURL reference caller =>
      left
      cases answer with
      | error message => cases caller <;> exact ⟨rfl, rfl, rfl⟩
      | url url =>
          cases caller with
          | post documentID screen =>
              change world.SameScreens (if world.addPhotoAlive screen then
                world.updateImageURL url documentID screen else world)
              split <;> exact ⟨rfl, rfl, rfl⟩
          | profilePicture userId editor =>
              change world.SameScreens (world.profilePictureUploaded url editor)
              unfold profilePictureUploaded
              split <;> exact ⟨rfl, rfl, rfl⟩
      | _ => exact ⟨rfl, rfl, rfl⟩
  | _ => cases answer <;> exact .inl ⟨rfl, rfl, rfl⟩

/-- Completion handlers select the feed at most. -/
theorem root_callback (request : Request K) (answer : Answer) :
    (world.callback request answer).root = world.root ∨
      ∃ screen, (world.callback request answer).root =
        world.root.map (Root.updateTabs screen (fun tabs => { tabs with selectedIndex := 0 })) := by
  rcases world.callback_cases request answer with
    same | ⟨_, _, editor, _, _, saved⟩ | ⟨documentID, _, resizeImage, screen, _, _, _, created⟩
  · exact .inl same.root
  · left
    rw [saved, root_dismissFromEditor, root_async]
  · rw [created]
    unfold postCreated
    split
    · right
      refine ⟨screen, ?_⟩
      simp only [updateTabs, root_addPhotoUploadPhoto]
    · exact .inl rfl

/-- Of the completion handlers only that of a save dismisses. -/
theorem presented_callback (request : Request K) (answer : Answer) :
    (world.callback request answer).presented = world.presented ∨
      ∃ uid fields editor, request = .updateUser uid fields editor ∧ answer = .done ∧
        (world.callback request answer).presented =
          (world.dismissFromEditor editor).presented := by
  rcases world.callback_cases request answer with
    same | ⟨uid, fields, editor, isSave, isDone, saved⟩ | ⟨_, _, _, _, _, _, _, created⟩
  · exact .inl same.presented
  · refine .inr ⟨uid, fields, editor, isSave, isDone, ?_⟩
    rw [saved]
    unfold dismissFromEditor
    rw [presented_async]
    split
    · split
      · rfl
      · split <;> rfl
    · rfl
  · left
    rw [created, presented_postCreated]

end World

end InstagramProject
