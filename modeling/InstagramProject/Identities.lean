/-
Identities of controllers.  A root or an editor gets the next identity when it is
made, so the requests and blocks that name an earlier controller never name a
later one.  `IdentityStep` lists every way an event changes the identity of the
root and the next identity.
-/

import InstagramProject.Drafts
import InstagramProject.EditSessions

namespace InstagramProject

open Transition

variable {K : Platform}

inductive RootIdentity
  | login (id : ControllerID)
  | instagram (id : ControllerID)
deriving DecidableEq

def RootIdentity.id : RootIdentity → ControllerID
  | .login id => id
  | .instagram id => id

def Root.identity : Root K → RootIdentity
  | .login controller => .login controller.id
  | .instagram tabs => .instagram tabs.id

/-- A press of the sign-out button that succeeds. -/
def Event.signsOut : Event K → Bool
  | .signOutButtonPressed none => true
  | _ => false

def Block.navigates : Block K → Bool
  | .navigateToInstagram _ => true
  | _ => false

namespace World

def rootIdentity (world : World K) : Option RootIdentity := world.root.map Root.identity

theorem rootIdentity_of_some {world : World K} {front : Root K} (root : world.root = some front) :
    world.rootIdentity = some front.identity := by
  rw [rootIdentity, root, Option.map_some]

/-- The block about to run opens the tab bar. -/
def navigates (world : World K) : Event K → Bool
  | .runBlock =>
      match world.mainQueue with
      | .navigateToInstagram login :: _ => world.isLogin login
      | _ => false
  | _ => false

/-- The question a press of the login button or the first selection of a tab asks. -/
def question? (world : World K) : Event K → Option (Request K)
  | .loginButtonPressed email password =>
      world.loginInFront?.bind (fun controller =>
        if email.isEmpty || password.isEmpty then none
        else if controller.accountState = .existingUser then
          some (.signIn email password controller.id)
        else some (.createUser email password controller.id))
  | .selectTab index =>
      match world.root, world.presented with
      | some (.instagram tabs), [] =>
          if index = 1 ∧ tabs.addPhoto.isNone then
            world.currentUser.map (fun user => .getUser user (.addPhoto tabs.id))
          else if index = 2 ∧ tabs.profile.isNone then
            world.currentUser.map (fun user => .getUser user (.profile tabs.id))
          else none
      | _, _ => none
  | _ => none

variable (world : World K)

theorem isLogin_iff {login : ControllerID} :
    world.isLogin login = true ↔ world.rootIdentity = some (.login login) := by
  unfold isLogin rootIdentity
  cases world.root with
  | none => simp only [Bool.false_eq_true, Option.map_none, reduceCtorEq]
  | some root =>
      cases root with
      | login controller =>
          simp only [beq_iff_eq, Option.map_some, Root.identity, Option.some.injEq,
            RootIdentity.login.injEq]
      | instagram tabs =>
          simp only [Bool.false_eq_true, Option.map_some, Root.identity, Option.some.injEq,
            reduceCtorEq]

theorem rootIdentity_updateTabs (screen : ControllerID)
    (change : TabBarController K → TabBarController K) (same : ∀ tabs, (change tabs).id = tabs.id) :
    (world.updateTabs screen change).rootIdentity = world.rootIdentity := by
  unfold rootIdentity updateTabs
  cases world.root with
  | none => rfl
  | some root =>
      cases root with
      | login controller => rfl
      | instagram tabs =>
          simp only [Option.map_some, Root.updateTabs]
          split
          · simp only [Root.identity, same]
          · rfl

theorem rootIdentity_updateAddPhoto (screen : ControllerID)
    (change : AddPhotoViewController K → AddPhotoViewController K) :
    (world.updateAddPhoto screen change).rootIdentity = world.rootIdentity :=
  world.rootIdentity_updateTabs screen _ (fun _ => rfl)

theorem rootIdentity_of_root {other : World K} (same : other.root = world.root) :
    other.rootIdentity = world.rootIdentity := by
  unfold rootIdentity
  rw [same]

/-! ### The next identity -/

@[simp] theorem nextController_presentFromLogin (login : ControllerID) (screen : Screen K) :
    (world.presentFromLogin login screen).nextController = world.nextController := by
  unfold presentFromLogin
  split <;> rfl

@[simp] theorem nextController_presentFromTab (tab : ControllerID) (index : Fin 3)
    (screen : Screen K) :
    (world.presentFromTab tab index screen).nextController = world.nextController := by
  unfold presentFromTab
  split
  · split <;> rfl
  · rfl

@[simp] theorem nextController_presentFromEditor (editor : ControllerID) (screen : Screen K) :
    (world.presentFromEditor editor screen).nextController = world.nextController := by
  unfold presentFromEditor
  split
  · split <;> rfl
  · rfl

@[simp] theorem nextController_dismissFromTab (tab : ControllerID) :
    (world.dismissFromTab tab).nextController = world.nextController := by
  unfold dismissFromTab
  split <;> rfl

@[simp] theorem nextController_dismissFromEditor (editor : ControllerID) :
    (world.dismissFromEditor editor).nextController = world.nextController := by
  unfold dismissFromEditor
  split
  · split
    · rfl
    · split <;> rfl
  · rfl

@[simp] theorem nextController_fetchCurrentUser (caller : FetchCaller) :
    (world.fetchCurrentUser caller).nextController = world.nextController := by
  unfold fetchCurrentUser
  split <;> rfl

@[simp] theorem nextController_updateUserInfo (userId username userBio fullname : String)
    (editor : ControllerID) :
    (world.updateUserInfo userId username userBio fullname editor).nextController =
      world.nextController := by
  unfold updateUserInfo
  split <;> rfl

@[simp] theorem nextController_uploadPhoto (userId postId : Option String) (image : K.Image)
    (caller : UploadCaller) :
    (world.uploadPhoto userId postId image caller).nextController = world.nextController := by
  unfold uploadPhoto
  split
  · rfl
  · split <;> rfl

@[simp] theorem nextController_doneButtonPressed (controller : EditProfileViewController K)
    (bounds : K.CGRect) :
    (world.doneButtonPressed controller bounds).nextController = world.nextController := by
  unfold doneButtonPressed
  split
  · exact nextController_presentFromEditor _ _ _
  · split
    · rfl
    · rw [nextController_updateUserInfo]
      split
      · rfl
      · exact nextController_uploadPhoto _ _ _ _ _

theorem nextController_callback (request : Request K) (answer : Answer) :
    (world.callback request answer).nextController = world.nextController := by
  rcases world.callback_cases request answer with
    same | ⟨_, _, _, _, _, saved⟩ | ⟨_, _, _, _, _, _, _, created⟩
  · exact same.nextController
  · rw [saved]
    exact nextController_dismissFromEditor _ _
  · rw [created]
    unfold postCreated
    split
    · exact nextController_uploadPhoto _ _ _ _ _
    · rfl

theorem rootIdentity_callback (request : Request K) (answer : Answer) :
    (world.callback request answer).rootIdentity = world.rootIdentity := by
  rcases world.root_callback request answer with same | ⟨screen, moved⟩
  · exact world.rootIdentity_of_root same
  · rw [← world.rootIdentity_updateTabs screen (fun tabs => { tabs with selectedIndex := 0 })
      (fun tabs => rfl)]
    exact rootIdentity_of_root _ moved

end World

/-- Every way an event changes the identity of the root and the next identity. -/
inductive IdentityStep (before : World K) : Event K → Option RootIdentity → ControllerID → Prop
  | kept {event : Event K} :
      before.navigates event = false → event ≠ .signOutButtonPressed none →
      before.opened? event = none →
      IdentityStep before event before.rootIdentity before.nextController
  | launched : before.root = none →
      IdentityStep before .launch
        (some (if before.currentUser.isSome then .instagram before.nextController
          else .login before.nextController))
        (before.nextController + 1)
  | ended {event : Event K} :
      before.endsProcess event = true → IdentityStep before event none before.nextController
  | navigated : before.navigates .runBlock = true →
      IdentityStep before .runBlock (some (.instagram before.nextController))
        (before.nextController + 1)
  | signedOut :
      IdentityStep before (.signOutButtonPressed none) (some (.login before.nextController))
        (before.nextController + 1)
  | opened {event : Event K} {user : FetchedUser} :
      before.opened? event = some user →
      IdentityStep before event before.rootIdentity (before.nextController + 1)

/-! ### Every event is in the list -/

section Steps

variable {before after : World K} {event : Event K}

private theorem identity_kept (root : after.rootIdentity = before.rootIdentity)
    (next : after.nextController = before.nextController)
    (stays : before.navigates event = false) (signedIn : event.signsOut = false)
    (noOpening : before.opened? event = none) :
    IdentityStep before event after.rootIdentity after.nextController := by
  rw [root, next]
  refine .kept stays ?_ noOpening
  intro isSignOut
  subst isSignOut
  cases signedIn

private theorem rootIdentity_reset (world : World K) (screen : ControllerID) (documentID : String) :
    (world.runBlock (.resetDraft screen documentID)).rootIdentity = world.rootIdentity := by
  simp only [World.runBlock, World.resetDraft]
  split
  · unfold World.selectPostImage
    rw [World.rootIdentity_updateAddPhoto, World.rootIdentity_of_root _ (World.root_async _ _),
      World.rootIdentity_updateAddPhoto,
      World.rootIdentity_of_root _ (World.root_dismissFromTab _ _)]
  · rfl

private theorem nextController_reset (world : World K) (screen : ControllerID)
    (documentID : String) :
    (world.runBlock (.resetDraft screen documentID)).nextController = world.nextController := by
  simp only [World.runBlock, World.resetDraft]
  split
  · exact World.nextController_dismissFromTab _ _
  · rfl

private theorem identityStep_runBlock {block : Block K} {rest : List (Block K)}
    (queued : before.mainQueue = block :: rest) :
    IdentityStep before .runBlock
      (World.runBlock { before with mainQueue := rest } block).rootIdentity
      (World.runBlock { before with mainQueue := rest } block).nextController := by
  have kept {world : World K} (root : world.rootIdentity = before.rootIdentity)
      (next : world.nextController = before.nextController)
      (other : block.navigates = false) :
      IdentityStep before .runBlock world.rootIdentity world.nextController := by
    refine identity_kept root next ?_ rfl rfl
    simp only [World.navigates, queued]
    split
    · rename_i login tail same
      cases same
      cases other
    · rfl
  cases block with
  | createUser login uid email =>
      simp only [World.runBlock, World.createDatabaseUser]
      split
      · split <;> exact kept rfl rfl rfl
      · exact kept rfl rfl rfl
  | navigateToInstagram login =>
      simp only [World.runBlock]
      split
      · rename_i isRoot
        apply IdentityStep.navigated
        simp only [World.navigates, queued]
        exact isRoot
      · rename_i notRoot
        have stays : before.navigates .runBlock = false := by
          simp only [World.navigates, queued]
          exact Bool.eq_false_iff.mpr notRoot
        exact identity_kept rfl rfl stays rfl rfl
  | loginAlert login title message =>
      exact kept (World.rootIdentity_of_root _ (World.root_presentFromLogin _ _ _))
        (World.nextController_presentFromLogin _ _ _) rfl
  | setAddPhotoUser screen user =>
      exact kept (World.rootIdentity_updateTabs _ _ _ (fun _ => rfl)) rfl rfl
  | setProfileUser screen user =>
      exact kept (World.rootIdentity_updateTabs _ _ _ (fun _ => rfl)) rfl rfl
  | previewPost screen =>
      exact kept (World.rootIdentity_updateTabs _ _ _ (fun _ => rfl)) rfl rfl
  | addPhotoAlert screen title message documentID =>
      exact kept (World.rootIdentity_of_root _ (World.root_presentFromTab _ _ _ _))
        (World.nextController_presentFromTab _ _ _ _) rfl
  | resetDraft screen documentID =>
      exact kept (rootIdentity_reset _ _ _) (nextController_reset _ _ _) rfl
  | previewProfilePicture editor => exact kept rfl rfl rfl
  | editorAlert editor title message =>
      exact kept (World.rootIdentity_of_root _ (World.root_presentFromEditor _ _ _))
        (World.nextController_presentFromEditor _ _ _) rfl
  | pictureAlert editor title message =>
      exact kept (World.rootIdentity_of_root _ (World.root_presentFromEditor _ _ _))
        (World.nextController_presentFromEditor _ _ _) rfl
  | commitAlert editor captured title message =>
      simp only [World.runBlock]
      split
      · rename_i wasCaptured
        split
        · exact kept (World.rootIdentity_of_root _ (World.root_presentFromEditor _ _ _))
            (World.nextController_presentFromEditor _ _ _) rfl
        · rename_i gone
          apply IdentityStep.ended
          have notHeld : before.editorAlive editor = false := by
            rw [World.editorAlive_commitAlert queued]
            exact Bool.eq_false_iff.mpr gone
          simp only [World.endsProcess, queued, wasCaptured, notHeld, Bool.not_false,
            Bool.and_self]
      · exact kept rfl rfl rfl
  | signOutAlert screen title message =>
      exact kept (World.rootIdentity_of_root _ (World.root_presentFromTab _ _ _ _))
        (World.nextController_presentFromTab _ _ _ _) rfl

private theorem rootIdentity_showAddPhoto {tabs : TabBarController K}
    (root : before.root = some (.instagram tabs)) :
    (before.showAddPhoto tabs).rootIdentity = before.rootIdentity ∧
      (before.showAddPhoto tabs).nextController = before.nextController := by
  have start : before.rootIdentity = some (.instagram tabs.id) := World.rootIdentity_of_some root
  unfold World.showAddPhoto
  rw [start]
  split
  · exact ⟨rfl, rfl⟩
  · refine ⟨?_, World.nextController_fetchCurrentUser _ _⟩
    rw [World.rootIdentity_of_root _ (World.root_fetchCurrentUser _ _)]
    rfl

private theorem rootIdentity_showProfile {tabs : TabBarController K}
    (root : before.root = some (.instagram tabs)) :
    (before.showProfile tabs).rootIdentity = before.rootIdentity ∧
      (before.showProfile tabs).nextController = before.nextController := by
  have start : before.rootIdentity = some (.instagram tabs.id) := World.rootIdentity_of_some root
  unfold World.showProfile
  rw [start]
  split
  · exact ⟨rfl, rfl⟩
  · refine ⟨?_, World.nextController_fetchCurrentUser _ _⟩
    rw [World.rootIdentity_of_root _ (World.root_fetchCurrentUser _ _)]
    rfl

private theorem identityStep_postImagePicked {screen : ControllerID}
    (originalImage : Option K.Image) :
    IdentityStep before (.imagePicked originalImage)
      (before.addPhotoImagePicked screen originalImage).rootIdentity
      (before.addPhotoImagePicked screen originalImage).nextController := by
  cases originalImage with
  | none => exact identity_kept rfl rfl rfl rfl rfl
  | some image =>
      unfold World.addPhotoImagePicked
      refine identity_kept ?_ (World.nextController_dismissFromTab _ _) rfl rfl rfl
      unfold World.selectPostImage
      rw [World.rootIdentity_of_root _ (World.root_dismissFromTab _ _),
        World.rootIdentity_updateAddPhoto, World.rootIdentity_of_root _ (World.root_async _ _),
        World.rootIdentity_updateAddPhoto]

theorem identityStep_of_step (stepped : step before event = some after) :
    IdentityStep before event after.rootIdentity after.nextController := by
  cases acts_of_step stepped with
  | feedLaunched notRunning signedIn =>
      have launched := IdentityStep.launched notRunning
      rw [signedIn] at launched
      exact launched
  | loginLaunched notRunning signedOut =>
      have launched := IdentityStep.launched notRunning
      rw [signedOut] at launched
      exact launched
  | terminated _running => exact .ended rfl
  | called _found =>
      exact identity_kept (World.rootIdentity_callback _ _ _)
        (World.nextController_callback _ _ _) rfl rfl rfl
  | ran queued => exact identityStep_runBlock queued
  | signUpPressed inFront =>
      refine identity_kept ?_ rfl rfl rfl rfl
      unfold World.loginInFront? at inFront
      split at inFront
      · rename_i root _presented
        cases inFront
        exact (World.rootIdentity_of_some root).symm
      · cases inFront
  | loginIncomplete _inFront _missing =>
      exact identity_kept (World.rootIdentity_of_root _ (World.root_presentFromLogin _ _ _))
        (World.nextController_presentFromLogin _ _ _) rfl rfl rfl
  | feedSelected root _presented =>
      exact identity_kept (World.rootIdentity_of_some root).symm rfl rfl rfl rfl
  | addPhotoSelected root _presented =>
      obtain ⟨same, next⟩ := rootIdentity_showAddPhoto root
      exact identity_kept same next rfl rfl rfl
  | profileSelected root _presented =>
      obtain ⟨same, next⟩ := rootIdentity_showProfile root
      exact identity_kept same next rfl rfl rfl
  | cancelled inFront =>
      have root := (before.draft?_of_inFront inFront).1
      exact identity_kept (World.rootIdentity_of_some root).symm rfl rfl rfl rfl
  | captioned _inFront =>
      exact identity_kept (World.rootIdentity_updateTabs _ _ _ (fun _ => rfl)) rfl rfl rfl rfl
  | postPressed _inFront _enabled _picked _fresh _slashFree =>
      refine identity_kept ?_ rfl rfl rfl rfl
      exact World.rootIdentity_updateTabs _ _ _ (fun _ => rfl)
  | @postImagePicked originalImage tabs rest _root _presented =>
      exact identityStep_postImagePicked originalImage
  | profileImagePicked _root _presented =>
      split
      · exact identity_kept (World.rootIdentity_of_root _ (World.root_dismissFromTab _ _))
          (World.nextController_dismissFromTab _ _) rfl rfl rfl
      · exact identity_kept rfl rfl rfl rfl rfl
  | @editorImagePicked originalImage controller rest _presented =>
      cases originalImage with
      | none => exact identity_kept rfl rfl rfl rfl rfl
      | some image =>
          exact identity_kept (World.rootIdentity_of_root _ (World.root_dismissFromEditor _ _))
            (World.nextController_dismissFromEditor _ _) rfl rfl rfl
  | editTrapped inFront _installed missing =>
      refine .ended ?_
      simp only [World.endsProcess, inFront, missing, Option.isNone_none]
  | @editorOpened tabs controller user inFront installed arrived =>
      refine @IdentityStep.opened _ _ _ user ?_
      simp only [World.opened?, inFront, Option.bind_some, installed, if_true, arrived]
  | signedOut _inFront _installed => exact .signedOut
  | changePicturePressed _inFront =>
      exact identity_kept (World.rootIdentity_of_root _ (World.root_presentFromEditor _ _ _))
        (World.nextController_presentFromEditor _ _ _) rfl rfl rfl
  | donePressed _inFront =>
      exact identity_kept (World.rootIdentity_of_root _ (World.root_doneButtonPressed _ _ _))
        (World.nextController_doneButtonPressed _ _ _) rfl rfl rfl
  | editorCancelled _inFront =>
      exact identity_kept (World.rootIdentity_of_root _ (World.root_dismissFromEditor _ _))
        (World.nextController_dismissFromEditor _ _) rfl rfl rfl
  | _ => exact identity_kept rfl rfl rfl rfl rfl

/-! ### Where questions come from -/

@[simp] theorem World.requests_presentFromLogin (world : World K) (login : ControllerID)
    (screen : Screen K) : (world.presentFromLogin login screen).requests = world.requests :=
  congrArg Work.requests (world.work_presentFromLogin login screen)

@[simp] theorem World.requests_presentFromEditor (world : World K) (editor : ControllerID)
    (screen : Screen K) : (world.presentFromEditor editor screen).requests = world.requests :=
  congrArg Work.requests (world.work_presentFromEditor editor screen)

/-- A delivery asks no question. -/
private theorem question_delivery {work : Work K} (stepped : WorkStep before event work)
    (delivery : event.isDelivery = true) {request : Request K} (member : request ∈ work.requests)
    (question : request.isQuestion = true) : request ∈ before.requests := by
  have notIdle : ¬ Idle before event := by
    intro idle
    rw [idle.noDelivery] at delivery
    cases delivery
  rcases stepped.requests member with old | issued
  · exact old
  · cases stepped with
    | screens idle => exact absurd idle notIdle
    | asked idle _question => exact absurd idle notIdle
    | displayed idle _display => exact absurd idle notIdle
    | ended _ends => cases member
    | signedOut => cases delivery
    | published _started _noSave _fresh _free noDelivery =>
        rw [delivery] at noDelivery
        cases noDelivery
    | saved _started _noPublication noDelivery =>
        rw [delivery] at noDelivery
        cases noDelivery
    | served _found _performed => exact List.mem_of_mem_eraseIdx member
    | servedOrphan _found _performed => exact member
    | called _found answered =>
        cases answered with
        | ignored _ignores => exact member
        | queued _handled => exact member
        | notUploading _nothing => exact member
        | notLinking _gone => exact member
        | notCommitting _signedOut => exact member
        | _ =>
            rcases List.mem_append.mp member with old | fresh
            · exact old
            · cases List.mem_singleton.mp fresh
              cases question
    | ran _queued result =>
        cases result with
        | creating _isRoot =>
            rcases List.mem_append.mp member with old | fresh
            · exact old
            · cases List.mem_singleton.mp fresh
              cases question
        | _ => exact member

/-- The questions still to be served. -/
def World.questions (world : World K) : List (Request K) :=
  world.requests.filter Request.isQuestion

private theorem questions_same {world : World K} (same : world.requests = before.requests) :
    world.questions = before.questions := by
  unfold World.questions
  rw [same]

private theorem questions_send (world : World K) (request : Request K) :
    (world.send request).questions =
      world.questions ++ if request.isQuestion then [request] else [] := by
  unfold World.questions World.send
  rw [List.filter_append, List.filter_singleton]
  cases request.isQuestion <;> rfl

private theorem questions_updateUserInfo (world : World K)
    (userId username userBio fullname : String) (editor : ControllerID) :
    (world.updateUserInfo userId username userBio fullname editor).questions =
      world.questions := by
  unfold World.updateUserInfo
  split
  · rfl
  · rw [questions_send]
    exact List.append_nil _

private theorem questions_updateProfilePicture (world : World K) (userId : UID)
    (selectedImage : K.Image) (editor : ControllerID) :
    (world.updateProfilePicture userId selectedImage editor).questions = world.questions := by
  unfold World.updateProfilePicture World.uploadPhoto
  split
  · rfl
  · change (world.send _).questions = _
    rw [questions_send]
    exact List.append_nil _

private theorem questions_doneButtonPressed (world : World K)
    (controller : EditProfileViewController K) (bounds : K.CGRect) :
    (world.doneButtonPressed controller bounds).questions = world.questions := by
  unfold World.doneButtonPressed
  split
  · exact questions_same (World.requests_presentFromEditor _ _ _)
  · split
    · rfl
    · rw [questions_updateUserInfo]
      split
      · rfl
      · exact questions_updateProfilePicture _ _ _ _

private theorem questions_fetchCurrentUser {world : World K} (caller : FetchCaller)
    (sameUser : world.currentUser = before.currentUser)
    (sameRequests : world.requests = before.requests) :
    (world.fetchCurrentUser caller).questions = before.questions ++
      (before.currentUser.map (fun user => .getUser user caller)).toList := by
  unfold World.fetchCurrentUser
  rw [← questions_same sameRequests, sameUser]
  split
  · rename_i nobody
    rw [nobody]
    exact (List.append_nil _).symm
  · rename_i user signedIn
    rw [signedIn, questions_send]
    rfl

private theorem questions_showAddPhoto {tabs : TabBarController K}
    (root : before.root = some (.instagram tabs)) (presented : before.presented = []) :
    (before.showAddPhoto tabs).questions =
      before.questions ++ (before.question? (.selectTab 1)).toList := by
  unfold World.showAddPhoto
  simp only [World.question?, root, presented]
  split
  · rename_i present
    simp only [present, Option.isNone_some, Bool.false_eq_true, and_false, if_false,
      show ¬ ((1 : Fin 3) = 2) from by decide, false_and]
    exact (List.append_nil _).symm
  · rename_i absent
    simp only [absent, Option.isNone_none, and_self, if_true]
    exact questions_fetchCurrentUser _ rfl rfl

private theorem questions_showProfile {tabs : TabBarController K}
    (root : before.root = some (.instagram tabs)) (presented : before.presented = []) :
    (before.showProfile tabs).questions =
      before.questions ++ (before.question? (.selectTab 2)).toList := by
  unfold World.showProfile
  simp only [World.question?, root, presented, show ¬ ((2 : Fin 3) = 1) from by decide, false_and,
    if_false]
  split
  · rename_i present
    simp only [present, Option.isNone_some, Bool.false_eq_true, and_false, if_false]
    exact (List.append_nil _).symm
  · rename_i absent
    simp only [absent, Option.isNone_none, and_self, if_true]
    exact questions_fetchCurrentUser _ rfl rfl

/-- An act of the user adds the question it asks, and no other. -/
theorem questions_of_act (stepped : step before event = some after)
    (noDelivery : event.isDelivery = false) (running : before.endsProcess event = false) :
    after.questions = before.questions ++ (before.question? event).toList := by
  have quiet (same : after.requests = before.requests) (noQuestion : before.question? event = none) :
      after.questions = before.questions ++ (before.question? event).toList := by
    rw [questions_same same, noQuestion]
    exact (List.append_nil _).symm
  cases acts_of_step stepped with
  | served | servedOrphan | called | ran => cases noDelivery
  | terminated _running => cases running
  | loginIncomplete inFront missing =>
      apply quiet (World.requests_presentFromLogin _ _ _)
      simp only [World.question?, inFront, Option.bind_some, missing, if_true]
  | signInAsked inFront complete existing =>
      simp only [World.question?, inFront, Option.bind_some, complete, existing, if_true, if_false,
        Bool.false_eq_true]
      exact questions_send _ _
  | signUpAsked inFront complete new =>
      simp only [World.question?, inFront, Option.bind_some, complete, new, if_false,
        Bool.false_eq_true]
      exact questions_send _ _
  | feedSelected root presented =>
      apply quiet rfl
      simp only [World.question?, root, presented, show ¬ ((0 : Fin 3) = 1) from by decide,
        show ¬ ((0 : Fin 3) = 2) from by decide, false_and, if_false]
  | addPhotoSelected root presented => exact questions_showAddPhoto root presented
  | profileSelected root presented => exact questions_showProfile root presented
  | postPressed _inFront _enabled _picked _fresh _slashFree => exact questions_send _ _
  | postImagePicked | profileImagePicked | editorImagePicked =>
      rcases work_of_imagePicked stepped with same | ⟨block, _display, queued⟩
      · exact quiet (congrArg Work.requests same) rfl
      · exact quiet (congrArg Work.requests queued) rfl
  | editTrapped inFront _installed missing =>
      simp only [World.endsProcess, inFront, missing, Option.isNone_none, Bool.true_eq_false]
        at running
  | donePressed _inFront =>
      rw [questions_doneButtonPressed]
      exact (List.append_nil _).symm
  | postIncomplete | editorOpened | signedOut | signOutFailed => exact quiet rfl rfl
  | _ => exact quiet (congrArg Work.requests (work_of_quiet stepped rfl)) rfl

theorem question_of_step (stepped : step before event = some after) {request : Request K}
    (member : request ∈ after.requests) (question : request.isQuestion = true) :
    request ∈ before.requests ∨ before.question? event = some request := by
  have worked := workStep_of_step stepped
  cases delivery : event.isDelivery with
  | true => exact .inl (question_delivery worked delivery member question)
  | false =>
      cases ends : before.endsProcess event with
      | true =>
          rw [terminated_of_step stepped ends] at member
          cases member
      | false =>
          have asked : request ∈ after.questions := List.mem_filter.mpr ⟨member, question⟩
          rw [questions_of_act stepped delivery ends] at asked
          rcases List.mem_append.mp asked with old | new
          · exact .inl (List.mem_filter.mp old).1
          · exact .inr (Option.mem_toList.mp new)

end Steps

/-! ### Identities in use -/

def FetchCaller.controller : FetchCaller → ControllerID
  | .addPhoto screen => screen
  | .profile screen => screen

def UploadCaller.controller : UploadCaller → ControllerID
  | .post _ screen => screen
  | .profilePicture _ editor => editor

/-- The controller a completion handler belongs to. -/
def Request.controller : Request K → ControllerID
  | .createUser _ _ login => login
  | .signIn _ _ login => login
  | .setUser _ _ login _ => login
  | .getUser _ caller => caller.controller
  | .updateUser _ _ editor => editor
  | .setPost _ _ _ screen _ => screen
  | .putData _ _ caller => caller.controller
  | .downloadURL _ caller => caller.controller
  | .updatePost _ _ screen _ => screen
  | .commitChanges _ _ editor _ => editor

/-- The controller a block of the main queue belongs to. -/
def Block.controller : Block K → ControllerID
  | .createUser login _ _ => login
  | .navigateToInstagram login => login
  | .loginAlert login _ _ => login
  | .setAddPhotoUser screen _ => screen
  | .setProfileUser screen _ => screen
  | .previewPost screen => screen
  | .addPhotoAlert screen _ _ _ => screen
  | .resetDraft screen _ => screen
  | .previewProfilePicture editor => editor
  | .editorAlert editor _ _ => editor
  | .pictureAlert editor _ _ => editor
  | .commitAlert editor _ _ _ => editor
  | .signOutAlert screen _ _ => screen

theorem controller_of_handlerBlock {request : Request K} {answer : Answer} {block : Block K}
    (handled : handlerBlock request answer = some block) :
    block.controller = request.controller := by
  cases queues_of_handlerBlock handled <;> rfl

theorem Asks.sameController {world : World K} {request next : Request K} {answer : Answer}
    (asks : Asks world request answer next) : next.controller = request.controller := by
  cases asks <;> rfl

theorem controller_of_question {world : World K} {event : Event K} {request : Request K}
    (asked : world.question? event = some request) :
    ∃ identity, world.rootIdentity = some identity ∧ request.controller = identity.id := by
  unfold World.question? at asked
  split at asked
  · obtain ⟨login, inFront, started⟩ := Option.bind_eq_some_iff.mp asked
    unfold World.loginInFront? at inFront
    split at inFront
    · rename_i root _presented
      cases inFront
      refine ⟨.login login.id, World.rootIdentity_of_some root, ?_⟩
      split at started
      · cases started
      · split at started
        · cases started
          rfl
        · cases started
          rfl
    · cases inFront
  · split at asked
    · rename_i tabs root _presented
      refine ⟨.instagram tabs.id, World.rootIdentity_of_some root, ?_⟩
      split at asked
      · obtain ⟨user, _signedIn, rfl⟩ := Option.map_eq_some_iff.mp asked
        rfl
      · split at asked
        · obtain ⟨user, _signedIn, rfl⟩ := Option.map_eq_some_iff.mp asked
          rfl
        · cases asked
    · cases asked
  · cases asked

theorem editor_of_save {world : World K} {event : Event K} {save : Save K}
    (started : world.save? event = some save) :
    ∃ controller, world.editorInFront? = some controller ∧ save.editor = controller.id ∧
      world.currentUser = some save.user := by
  unfold World.save? at started
  split at started
  · obtain ⟨controller, inFront, entered⟩ := Option.bind_eq_some_iff.mp started
    refine ⟨controller, inFront, ?_⟩
    split at entered
    · cases entered
    · obtain ⟨user, signedIn, rfl⟩ := Option.map_eq_some_iff.mp entered
      exact ⟨rfl, signedIn⟩
  · cases started

/-- Every identity in use has been handed out. -/
structure Fresh (world : World K) : Prop where
  root : ∀ identity, world.rootIdentity = some identity → identity.id < world.nextController
  editors : ∀ controller, .editor controller ∈ world.presented →
    controller.id < world.nextController
  requests : ∀ request, world.Pending request → request.controller < world.nextController
  blocks : ∀ block ∈ world.mainQueue, block.isDisplay = false →
    block.controller < world.nextController

section Fresh

variable {before after : World K} {event : Event K}

theorem IdentityStep.grows {identity : Option RootIdentity} {next : ControllerID}
    (stepped : IdentityStep before event identity next) : before.nextController ≤ next := by
  cases stepped with
  | kept _stays _noSignOut _noOpening => exact Nat.le_refl _
  | launched _closed => exact Nat.le_succ _
  | ended _ends => exact Nat.le_refl _
  | navigated _navigates => exact Nat.le_succ _
  | signedOut => exact Nat.le_succ _
  | opened _opening => exact Nat.le_succ _

theorem not_ended_of_opened {user : FetchedUser} (opening : before.opened? event = some user) :
    before.endsProcess event = false := by
  cases event with
  | editButtonPressed =>
      obtain ⟨⟨tabs, controller⟩, inFront, loaded⟩ := Option.bind_eq_some_iff.mp opening
      simp only [World.endsProcess, inFront]
      dsimp only at loaded
      split at loaded
      · rw [loaded]
        rfl
      · cases loaded
  | _ => cases opening

theorem IdentityStep.next_of_opened {identity : Option RootIdentity} {next : ControllerID}
    {user : FetchedUser} (stepped : IdentityStep before event identity next)
    (opening : before.opened? event = some user) :
    identity = before.rootIdentity ∧ next = before.nextController + 1 := by
  cases stepped with
  | kept _stays _noSignOut noOpening =>
      rw [noOpening] at opening
      cases opening
  | ended ends =>
      rw [not_ended_of_opened opening] at ends
      cases ends
  | opened _opening => exact ⟨rfl, rfl⟩
  | _ => cases opening

private theorem fresh_issued (fresh : Fresh before) (stepped : step before event = some after)
    {request : Request K} (member : request ∈ after.requests)
    (issued : Issued before event request) : request.controller < before.nextController := by
  cases issued with
  | question question =>
      rcases question_of_step stepped member question with old | asked
      · exact fresh.requests request (.inl old)
      · obtain ⟨identity, isRoot, same⟩ := controller_of_question asked
        rw [same]
        exact fresh.root identity isRoot
  | post started =>
      obtain ⟨tabs, controller, _, _, inFront, isScreen, _, _, _⟩ := press_of_publication started
      have root : before.rootIdentity = some (.instagram tabs.id) :=
        World.rootIdentity_of_some (before.draft?_of_inFront inFront).1
      have issuedBelow := fresh.root _ root
      rw [← isScreen] at issuedBelow
      exact issuedBelow
  | picture started _pictured =>
      obtain ⟨controller, inFront, isEditor, _⟩ := editor_of_save started
      have below := fresh.editors controller (mem_of_editorInFront inFront)
      rw [← isEditor] at below
      exact below
  | info started =>
      obtain ⟨controller, inFront, isEditor, _⟩ := editor_of_save started
      have below := fresh.editors controller (mem_of_editorInFront inFront)
      rw [← isEditor] at below
      exact below
  | called found asks =>
      rw [asks.sameController]
      exact fresh.requests _ (.inr (.inr ⟨_, List.mem_of_getElem? found⟩))
  | ran queued => exact fresh.blocks _ queued rfl

private theorem fresh_root (fresh : Fresh before) {next : ControllerID}
    {identity : Option RootIdentity} (stepped : IdentityStep before event identity next)
    {root : RootIdentity} (isRoot : identity = some root) : root.id < next := by
  cases stepped with
  | kept _stays _noSignOut _noOpening => exact fresh.root root isRoot
  | launched _closed =>
      cases isRoot
      split <;> exact Nat.lt_succ_self _
  | ended _ends => cases isRoot
  | navigated _navigates =>
      cases isRoot
      exact Nat.lt_succ_self _
  | signedOut =>
      cases isRoot
      exact Nat.lt_succ_self _
  | opened _opening => exact Nat.lt_succ_of_lt (fresh.root root isRoot)

private theorem fresh_editor (fresh : Fresh before) (stepped : step before event = some after)
    {controller : EditProfileViewController K} (present : .editor controller ∈ after.presented) :
    controller.id < after.nextController := by
  have identities := identityStep_of_step stepped
  have origin := editorStep_of_step stepped present
  cases opening : before.opened? event with
  | none =>
      obtain ⟨earlier, older, same⟩ := older_of_editorStep origin opening
      rw [← same]
      exact Nat.lt_of_lt_of_le (fresh.editors earlier older) identities.grows
  | some user =>
      rw [fresh_of_editorStep origin opening, (identities.next_of_opened opening).2]
      exact Nat.lt_succ_self _

private theorem fresh_block (fresh : Fresh before) (stepped : step before event = some after)
    {block : Block K} (member : block ∈ after.mainQueue) (visible : block.isDisplay = false) :
    block.controller < before.nextController := by
  rcases (workStep_of_step stepped).mainQueue member with
    old | display | ⟨request, answer, answered, handled⟩
  · exact fresh.blocks block old visible
  · rw [display] at visible
    cases visible
  · rw [controller_of_handlerBlock handled]
    exact fresh.requests request (.inr (.inr ⟨answer, answered⟩))

theorem Fresh.step (fresh : Fresh before) (stepped : step before event = some after) :
    Fresh after := by
  have worked := workStep_of_step stepped
  have grows := (identityStep_of_step stepped).grows
  refine ⟨?_, ?_, ?_, ?_⟩
  · intro root isRoot
    exact fresh_root fresh (identityStep_of_step stepped) isRoot
  · intro controller present
    exact fresh_editor fresh stepped present
  · rintro request (live | orphaned | ⟨answer, answered⟩)
    · refine Nat.lt_of_lt_of_le ?_ grows
      rcases worked.requests live with old | issued
      · exact fresh.requests request (.inl old)
      · exact fresh_issued fresh stepped live issued
    · refine Nat.lt_of_lt_of_le (fresh.requests request ?_) grows
      rcases worked.orphans orphaned with old | ⟨_ends, old⟩
      · exact .inr (.inl old)
      · exact .inl old
    · refine Nat.lt_of_lt_of_le (fresh.requests request ?_) grows
      rcases worked.responses answered with old | ⟨index, outcome, _served, found, _performed⟩
      · exact .inr (.inr ⟨answer, old⟩)
      · exact .inl (List.mem_of_getElem? found)
  · intro block member visible
    exact Nat.lt_of_lt_of_le (fresh_block fresh stepped member visible) grows

theorem fresh_initial : Fresh (World.initial K) := by
  refine ⟨nofun, nofun, ?_, nofun⟩
  rintro request (live | orphaned | ⟨answer, answered⟩)
  · cases live
  · cases orphaned
  · cases answered

theorem fresh {past : Past K} {world : World K} (ran : AppRun past world) : Fresh world :=
  ran.invariant (fun _ world => Fresh world) fresh_initial
    (fun _past _before _event _after _earlier fresh stepped => fresh.step stepped)

end Fresh

end InstagramProject
