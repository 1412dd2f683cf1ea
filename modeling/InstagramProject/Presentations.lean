/-
The screens over the root.  Each is put up by a controller that can put it up:
the root, or an editor that the root put up.  Nothing is ever put up over an
alert, a sheet or a picker, and a picker always finds the controller it was
chosen for.  The error alerts of the two lists of posts are not among these screens.
-/

import InstagramProject.Fetches
import InstagramProject.Windows

namespace InstagramProject

open Transition

variable {K : Platform}

/-! ### Who puts up what -/

/-- What the controllers of the root put up themselves. -/
def Root.presents : Root K → Screen K → Bool
  | _, .alert _ _ => true
  | .instagram tabs, .actionSheet .addPhoto | .instagram tabs, .imagePicker .addPhoto =>
      tabs.addPhoto.isSome
  | .instagram tabs, .actionSheet .profile | .instagram tabs, .imagePicker .profile =>
      tabs.profile.any (fun controller => controller.barButtonsInstalled)
  | .instagram tabs, .editor _ =>
      tabs.profile.any (fun controller =>
        controller.barButtonsInstalled && controller.instaUser.isSome)
  | _, _ => false

/-- What an editor puts up. -/
def Screen.overEditor : Screen K → Bool
  | .alert _ _ | .actionSheet .editor | .imagePicker .editor => true
  | _ => false

/-- Nothing is presented, one screen of the root is, or an editor of the root with
one screen of its own. -/
inductive Stacked : Option (Root K) → List (Screen K) → Prop
  | nothing {root : Option (Root K)} : Stacked root []
  | one {root : Root K} {screen : Screen K} : root.presents screen = true →
      Stacked (some root) [screen]
  | two {root : Root K} {screen : Screen K} {controller : EditProfileViewController K} :
      root.presents (.editor controller) = true → screen.overEditor = true →
      Stacked (some root) [screen, .editor controller]

/-- A root that takes the place of another and can put up what that could. -/
def TakesOver (root after : Option (Root K)) : Prop :=
  ∀ old, root = some old →
    ∃ new, after = some new ∧ ∀ screen, old.presents screen = true → new.presents screen = true

theorem TakesOver.refl (root : Option (Root K)) : TakesOver root root :=
  fun old isRoot => ⟨old, isRoot, fun _ presents => presents⟩

theorem TakesOver.trans {first second third : Option (Root K)} (earlier : TakesOver first second)
    (later : TakesOver second third) : TakesOver first third := by
  intro old isFirst
  obtain ⟨middle, isSecond, carried⟩ := earlier old isFirst
  obtain ⟨new, isThird, carriedOn⟩ := later middle isSecond
  exact ⟨new, isThird, fun screen presents => carriedOn screen (carried screen presents)⟩

namespace Stacked

variable {root after : Option (Root K)} {presented shown : List (Screen K)}

theorem carried (stacked : Stacked root presented) (taken : TakesOver root after) :
    Stacked after presented := by
  cases stacked with
  | nothing => exact .nothing
  | one presents =>
      obtain ⟨new, rfl, carried⟩ := taken _ rfl
      exact .one (carried _ presents)
  | two presents liesOver =>
      obtain ⟨new, rfl, carried⟩ := taken _ rfl
      exact .two (carried _ presents) liesOver

/-- Some of the screens on top go. -/
theorem fewer (stacked : Stacked root presented) (suffix : shown <:+ presented) :
    Stacked root shown := by
  cases stacked with
  | nothing =>
      rw [List.suffix_nil.mp suffix]
      exact .nothing
  | one presents =>
      rcases List.suffix_cons_iff.mp suffix with rfl | below
      · exact .one presents
      · rw [List.suffix_nil.mp below]
        exact .nothing
  | two presents liesOver =>
      rcases List.suffix_cons_iff.mp suffix with rfl | below
      · exact .two presents liesOver
      · rcases List.suffix_cons_iff.mp below with rfl | lower
        · exact .one presents
        · rw [List.suffix_nil.mp lower]
          exact .nothing

end Stacked

/-- An editor whose fields change is still an editor. -/
theorem updateEditor_editor (controller : EditProfileViewController K) (editor : ControllerID)
    (change : EditProfileViewController K → EditProfileViewController K) :
    ∃ changed, (Screen.editor controller).updateEditor editor change = .editor changed := by
  simp only [Screen.updateEditor]
  split
  · exact ⟨_, rfl⟩
  · exact ⟨_, rfl⟩

namespace Stacked

variable {root after : Option (Root K)} {presented shown : List (Screen K)}

/-- The fields of an editor change, or those of none. -/
theorem updateEditor (stacked : Stacked root presented) (editor : ControllerID)
    (change : EditProfileViewController K → EditProfileViewController K) :
    Stacked root (presented.map (Screen.updateEditor editor change)) := by
  cases stacked with
  | nothing => exact .nothing
  | @one root screen able =>
      rw [List.map_cons, List.map_nil]
      cases screen with
      | editor controller =>
          obtain ⟨changed, same⟩ := updateEditor_editor controller editor change
          rw [same]
          refine .one ?_
          cases root <;> exact able
      | _ => exact .one able
  | @two root screen controller able liesOver =>
      obtain ⟨changed, same⟩ := updateEditor_editor controller editor change
      rw [List.map_cons, List.map_cons, List.map_nil, same]
      have below : root.presents (.editor changed) = true := by
        cases root <;> exact able
      cases screen with
      | editor _ => cases liesOver
      | _ => exact .two below liesOver

/-- An editor on top puts up a screen of its own. -/
theorem onEditor {world : World K} (stacked : Stacked world.root world.presented)
    {screen : Screen K} (liesOver : screen.overEditor = true) (editor : ControllerID) :
    Stacked world.root (world.presentFromEditor editor screen).presented := by
  unfold World.presentFromEditor
  split
  · rename_i top rest presented
    split
    · rename_i isEditor
      rw [presented] at stacked
      change Stacked world.root (screen :: top :: rest)
      generalize world.root = root at stacked
      cases stacked with
      | one able =>
          cases top with
          | editor controller => exact .two able liesOver
          | _ => cases isEditor
      | two able above =>
          cases top with
          | editor controller => cases above
          | _ => cases isEditor
    · exact stacked
  · exact stacked

/-- An alert goes up only where nothing is presented. -/
theorem onTab {world : World K} (stacked : Stacked world.root world.presented)
    (tab : ControllerID) (index : Fin 3) (title message : String) :
    Stacked world.root (world.presentFromTab tab index (.alert title message)).presented := by
  unfold World.presentFromTab
  split
  · rename_i tabs isRoot
    split
    · rw [isRoot]
      exact .one rfl
    · exact stacked
  · exact stacked

theorem onLogin {world : World K} (stacked : Stacked world.root world.presented)
    (login : ControllerID) (title message : String) :
    Stacked world.root (world.presentFromLogin login (.alert title message)).presented := by
  unfold World.presentFromLogin
  split
  · rename_i position
    unfold World.isLogin at position
    cases isRoot : world.root with
    | none =>
        rw [isRoot] at position
        cases position
    | some root => exact .one rfl
  · exact stacked

theorem dismissed {world : World K} (stacked : Stacked world.root world.presented)
    (editor : ControllerID) :
    Stacked world.root (world.dismissFromEditor editor).presented := by
  unfold World.dismissFromEditor
  split
  · rename_i top rest presented
    rw [presented] at stacked
    have below : rest <:+ top :: rest := List.suffix_cons top rest
    split
    · exact stacked.fewer below
    · split
      · exact stacked.fewer ((List.dropWhile_suffix _).trans below)
      · rw [presented]
        exact stacked
  · exact stacked

theorem cleared {world : World K} (stacked : Stacked world.root world.presented)
    (tab : ControllerID) : Stacked world.root (world.dismissFromTab tab).presented := by
  unfold World.dismissFromTab
  split
  · exact .nothing
  · exact stacked

end Stacked

/-! ### Roots that stay -/

/-- A change of the tab bar that unloads no screen and drops no record. -/
theorem takesOver_updateTabs (world : World K) (screen : ControllerID)
    (change : TabBarController K → TabBarController K)
    (keeps : ∀ tabs shown, (Root.instagram tabs).presents shown = true →
      (Root.instagram (change tabs)).presents shown = true) :
    TakesOver world.root (world.updateTabs screen change).root := by
  intro old isRoot
  unfold World.updateTabs
  rw [isRoot]
  refine ⟨_, rfl, ?_⟩
  intro shown presents
  cases old with
  | login controller => exact presents
  | instagram tabs =>
      simp only [Root.updateTabs]
      split
      · exact keeps tabs shown presents
      · exact presents

theorem takesOver_selected (world : World K) (screen : ControllerID) (index : Fin 3) :
    TakesOver world.root
      (world.updateTabs screen (fun tabs => { tabs with selectedIndex := index })).root := by
  apply takesOver_updateTabs
  intro tabs shown presents
  cases shown with
  | actionSheet presenter => cases presenter <;> exact presents
  | imagePicker presenter => cases presenter <;> exact presents
  | _ => exact presents

theorem takesOver_updateAddPhoto (world : World K) (screen : ControllerID)
    (change : AddPhotoViewController K → AddPhotoViewController K) :
    TakesOver world.root (world.updateAddPhoto screen change).root := by
  apply takesOver_updateTabs
  intro tabs shown presents
  cases shown with
  | actionSheet presenter =>
      cases presenter with
      | addPhoto => exact Option.isSome_map.trans presents
      | _ => exact presents
  | imagePicker presenter =>
      cases presenter with
      | addPhoto => exact Option.isSome_map.trans presents
      | _ => exact presents
  | _ => exact presents

/-- A record arrives at the Profile screen. -/
theorem takesOver_setProfileUser (world : World K) (screen : ControllerID) (user : FetchedUser) :
    TakesOver world.root (world.runBlock (.setProfileUser screen user)).root := by
  apply takesOver_updateTabs
  intro tabs shown presents
  have installed : tabs.profile.any (fun controller => controller.barButtonsInstalled) = true →
      (tabs.profile.map (fun controller =>
        { controller with
          instaUser := some user
          bioLabel := user.user.userBio
          fullNameLabel := user.user.userFullName })).any
        (fun controller => controller.barButtonsInstalled) = true := by
    cases tabs.profile <;> exact id
  cases shown with
  | actionSheet presenter =>
      cases presenter with
      | profile => exact installed presents
      | _ => exact presents
  | imagePicker presenter =>
      cases presenter with
      | profile => exact installed presents
      | _ => exact presents
  | editor controller =>
      simp only [Root.presents] at presents ⊢
      cases loaded : tabs.profile with
      | none =>
          rw [loaded] at presents
          cases presents
      | some profile =>
          rw [loaded] at presents
          exact Bool.and_eq_true_iff.mpr ⟨(Bool.and_eq_true_iff.mp presents).1, rfl⟩
  | alert title message => rfl

/-! ### One event -/

theorem stacked_runBlock {world : World K} (stacked : Stacked world.root world.presented)
    (block : Block K) :
    Stacked (world.runBlock block).root (world.runBlock block).presented := by
  cases block with
  | createUser login uid email =>
      simp only [World.runBlock, World.createDatabaseUser]
      split
      · split <;> exact stacked
      · exact stacked
  | navigateToInstagram login =>
      simp only [World.runBlock]
      split
      · exact .nothing
      · exact stacked
  | loginAlert login title message =>
      simp only [World.runBlock, World.root_presentFromLogin]
      exact stacked.onLogin login title message
  | setAddPhotoUser screen user => exact stacked.carried (takesOver_updateAddPhoto world _ _)
  | setProfileUser screen user => exact stacked.carried (takesOver_setProfileUser world screen user)
  | previewPost screen => exact stacked.carried (takesOver_updateAddPhoto world _ _)
  | addPhotoAlert screen title message documentID =>
      simp only [World.runBlock, World.root_presentFromTab]
      exact stacked.onTab screen 1 title message
  | resetDraft screen documentID =>
      simp only [World.runBlock, World.resetDraft]
      split
      · have clear : Stacked (world.dismissFromTab screen).root
            (world.dismissFromTab screen).presented := by
          rw [World.root_dismissFromTab]
          exact stacked.cleared screen
        exact clear.carried ((takesOver_updateAddPhoto _ _ _).trans (takesOver_updateAddPhoto _ _ _))
      · exact stacked
  | previewProfilePicture editor => exact stacked.updateEditor editor _
  | editorAlert editor title message =>
      simp only [World.runBlock, World.root_presentFromEditor]
      exact stacked.onEditor rfl editor
  | pictureAlert editor title message =>
      simp only [World.runBlock, World.root_presentFromEditor]
      exact stacked.onEditor rfl editor
  | commitAlert editor captured title message =>
      simp only [World.runBlock]
      split
      · split
        · rw [World.root_presentFromEditor]
          exact stacked.onEditor rfl editor
        · exact .nothing
      · exact stacked
  | signOutAlert screen title message =>
      simp only [World.runBlock, World.root_presentFromTab]
      exact stacked.onTab screen 2 title message

theorem stacked_callback {world : World K} (stacked : Stacked world.root world.presented)
    (request : Request K) (answer : Answer) :
    Stacked (world.callback request answer).root (world.callback request answer).presented := by
  have shown : Stacked world.root (world.callback request answer).presented := by
    rcases world.presented_callback request answer with same | ⟨_, _, editor, _, _, dismissed⟩
    · rw [same]
      exact stacked
    · rw [dismissed]
      exact stacked.dismissed editor
  apply shown.carried
  rcases world.root_callback request answer with same | ⟨screen, moved⟩
  · rw [same]
    exact .refl _
  · rw [moved]
    exact takesOver_selected world screen 0

section Steps

variable {before after : World K} {event : Event K}

theorem stacked_imagePicked (stacked : Stacked before.root before.presented)
    {originalImage : Option K.Image}
    (stepped : step before (.imagePicked originalImage) = some after) :
    Stacked after.root after.presented := by
  cases acts_of_step stepped with
  | @postImagePicked _ tabs rest isRoot presented =>
      cases originalImage with
      | none => exact stacked
      | some image =>
          simp only [World.addPhotoImagePicked, World.selectPostImage, World.dismissFromTab,
            World.isTabs, World.updateAddPhoto, World.updateTabs, World.async, isRoot,
            Option.map_some, Root.updateTabs, if_true, beq_self_eq_true]
          exact .nothing
  | profileImagePicked isRoot presented =>
      split
      · rw [World.root_dismissFromTab]
        exact stacked.cleared _
      · exact stacked
  | @editorImagePicked _ controller rest presented =>
      cases originalImage with
      | none => exact stacked
      | some image =>
          simp only [World.editorImagePicked, World.root_dismissFromEditor, World.root_async]
          exact @Stacked.dismissed _ ((before.updateEditor controller.id _).async _)
            (stacked.updateEditor controller.id _) controller.id

theorem stacked_doneButtonPressed (stacked : Stacked before.root before.presented)
    (controller : EditProfileViewController K) (bounds : K.CGRect) :
    Stacked (before.doneButtonPressed controller bounds).root
      (before.doneButtonPressed controller bounds).presented := by
  rw [World.root_doneButtonPressed]
  unfold World.doneButtonPressed
  split
  · exact stacked.onEditor rfl controller.id
  · split
    · exact stacked
    · rw [World.presented_updateUserInfo]
      split
      · exact stacked
      · rw [World.presented_updateProfilePicture]
        exact stacked

private theorem alone_of_addPhoto {tabs : TabBarController K} {controller : AddPhotoViewController K}
    (inFront : before.addPhotoInFront? = some (tabs, controller)) :
    before.root = some (.instagram tabs) ∧ tabs.addPhoto = some controller ∧
      before.presented = [] := by
  unfold World.addPhotoInFront? at inFront
  split at inFront
  · rename_i isRoot alone
    split at inFront
    · obtain ⟨present, loaded, same⟩ := Option.map_eq_some_iff.mp inFront
      cases same
      exact ⟨isRoot, loaded, alone⟩
    · cases inFront
  · cases inFront

private theorem alone_of_login {controller : LoginViewController}
    (inFront : before.loginInFront? = some controller) : before.presented = [] := by
  unfold World.loginInFront? at inFront
  split at inFront
  · assumption
  · cases inFront

theorem stacked_step (stacked : Stacked before.root before.presented)
    (stepped : step before event = some after) : Stacked after.root after.presented := by
  have alone {root : Option (Root K)} {presented : List (Screen K)}
      (uncovered : before.presented = []) (same : presented = before.presented) :
      Stacked root presented := by
    rw [same, uncovered]
    exact .nothing
  cases acts_of_step stepped with
  | feedLaunched | loginLaunched | terminated | editTrapped | signedOut => exact .nothing
  | called _found =>
      apply stacked_callback
      exact stacked
  | ran _queued =>
      apply stacked_runBlock
      exact stacked
  | dismissed presented =>
      rw [presented] at stacked
      exact stacked.fewer (List.suffix_cons _ _)
  | signUpPressed inFront => exact alone (alone_of_login inFront) rfl
  | loginIncomplete _inFront _missing =>
      rw [World.root_presentFromLogin]
      exact stacked.onLogin _ _ _
  | feedSelected _root presented => exact alone presented rfl
  | addPhotoSelected _root presented => exact alone presented (World.presented_showAddPhoto _ _)
  | profileSelected _root presented => exact alone presented (World.presented_showProfile _ _)
  | galleryPressed inFront | cameraPressed inFront =>
      obtain ⟨isRoot, loaded, _alone⟩ := alone_of_addPhoto inFront
      rw [isRoot]
      refine .one ?_
      simp only [Root.presents, loaded, Option.isSome_some]
  | cancelled inFront => exact alone (alone_of_addPhoto inFront).2.2 rfl
  | captioned inFront => exact alone (alone_of_addPhoto inFront).2.2 rfl
  | postPressed inFront _enabled _picked _fresh _slashFree =>
      exact alone (alone_of_addPhoto inFront).2.2 rfl
  | @sourceChosen presenter rest presented =>
      rw [presented] at stacked
      change Stacked before.root (.imagePicker presenter :: rest)
      generalize before.root = root at stacked
      cases stacked with
      | @one root _ able =>
          refine .one ?_
          cases root <;> cases presenter <;> exact able
      | two able liesOver =>
          refine .two able ?_
          cases presenter <;> exact liesOver
  | postImagePicked | profileImagePicked | editorImagePicked =>
      exact stacked_imagePicked stacked stepped
  | editorOpened inFront installed arrived =>
      obtain ⟨isRoot, present⟩ := World.profile_of_front inFront
      change Stacked before.root _
      rw [isRoot]
      refine .one ?_
      simp only [Root.presents, present, Option.any_some, installed, arrived, Option.isSome_some,
        Bool.and_self]
  | editPicturePressed inFront installed =>
      obtain ⟨isRoot, present⟩ := World.profile_of_front inFront
      change Stacked before.root _
      rw [isRoot]
      refine .one ?_
      simp only [Root.presents, present, Option.any_some, installed]
  | fieldEdited _inFront => exact stacked.updateEditor _ _
  | changePicturePressed _inFront =>
      rw [World.root_presentFromEditor]
      exact stacked.onEditor rfl _
  | donePressed _inFront => exact stacked_doneButtonPressed stacked _ _
  | editorCancelled _inFront =>
      rw [World.root_dismissFromEditor]
      exact stacked.dismissed _
  | _ => exact stacked

end Steps

/-- In every state each screen was put up by a controller that is still there and
can put it up, nothing lies over an alert, a sheet or a picker, and the picker in
front has somebody to hand its image to. -/
theorem screens_stacked {past : Past K} {world : World K} (ran : AppRun past world) :
    Stacked world.root world.presented ∧
      ∀ presenter rest originalImage, world.presented = .imagePicker presenter :: rest →
        (step world (.imagePicked originalImage)).isSome = true := by
  have stacked : Stacked world.root world.presented := by
    refine ran.invariant (fun _ world => Stacked world.root world.presented) .nothing ?_
    intro past before event after _earlier stacked stepped
    exact stacked_step stacked stepped
  refine ⟨stacked, ?_⟩
  intro presenter rest originalImage presented
  simp only [step, World.imagePicked, presented]
  rw [presented] at stacked
  cases isRoot : world.root with
  | none =>
      rw [isRoot] at stacked
      cases stacked
  | some root =>
      rw [isRoot] at stacked
      cases stacked with
      | one able => cases root <;> cases presenter <;> first | rfl | cases able
      | two able liesOver => cases root <;> cases presenter <;> first | rfl | cases liesOver

/-- The picker opened from the Add Photo screen takes an image. -/
theorem screens_stacked_picker :
    let reached := endOf (.launch :: signUpEvents "alice@mail" "secret" "alice" ++
      [.selectTab 1, .galleryButtonPressed, .sourceChosen] : List (Event Platform.plain))
    (step reached.2 (.imagePicked (some "beach"))).isSome = true := by
  intro reached
  have ran : AppRun reached.1 reached.2 := appRun_endOf _ (by decide +kernel)
  have presented : reached.2.presented = [.imagePicker .addPhoto] := rfl
  exact (screens_stacked ran).2 .addPhoto [] (some "beach") presented

end InstagramProject
