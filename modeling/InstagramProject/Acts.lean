/-
The inversion of `step`.  An event that happened passed its guards, and left the
state its handler made.  The modules after this one argue about a step by cases
on `Acts`.
-/

import InstagramProject.App

namespace InstagramProject

variable {K : Platform}

/-- Every event that can happen, with the guards it passed and the state it leaves. -/
inductive Acts (before : World K) : Event K → World K → Prop
  | feedLaunched {user : UID} (notRunning : before.root = none)
      (signedIn : before.currentUser = some user) :
      Acts before .launch (before.showViewController .instagram)
  | loginLaunched (notRunning : before.root = none) (signedOut : before.currentUser = none) :
      Acts before .launch (before.showViewController .loginViewController)
  | terminated (running : before.root.isSome = true) : Acts before .terminate before.terminate
  | served {index : Nat} {outcome : Outcome} {request : Request K} {firebase : Firebase K}
      {answer : Answer} (found : before.requests[index]? = some request) :
      before.firebase.perform before.localUser request outcome = some (firebase, answer) →
      Acts before (.serve index outcome)
        { before with
          firebase := firebase
          currentUser :=
            match answer with
            | .account uid _ => some uid
            | _ => before.currentUser
          requests := before.requests.eraseIdx index
          responses := before.responses ++ [(request, answer)] }
  | servedOrphan {index : Nat} {outcome : Outcome} {request : Request K} {firebase : Firebase K}
      {answer : Answer} (found : before.orphans[index]? = some request)
      (performed :
        before.firebase.perform before.localUser request outcome = some (firebase, answer)) :
      Acts before (.serveOrphan index outcome)
        { before with
          firebase := firebase
          orphans := before.orphans.eraseIdx index }
  | called {index : Nat} {request : Request K} {answer : Answer}
      (found : before.responses[index]? = some (request, answer)) :
      Acts before (.callback index)
        ({ before with responses := before.responses.eraseIdx index }.callback request answer)
  | ran {block : Block K} {rest : List (Block K)} (queued : before.mainQueue = block :: rest) :
      Acts before .runBlock ({ before with mainQueue := rest }.runBlock block)
  | dismissed {top : Screen K} {rest : List (Screen K)} (presented : before.presented = top :: rest) :
      Acts before .dismissTop { before with presented := rest }
  | signUpPressed {login : LoginViewController} (inFront : before.loginInFront? = some login) :
      Acts before .signUpButtonPressed (before.signUpButtonPressed login)
  | loginIncomplete {email password : String} {login : LoginViewController}
      (inFront : before.loginInFront? = some login)
      (missing : (email.isEmpty || password.isEmpty) = true) :
      Acts before (.loginButtonPressed email password)
        (before.presentFromLogin login.id (.alert "Missing Fields" "all fields are required"))
  | signInAsked {email password : String} {login : LoginViewController}
      (inFront : before.loginInFront? = some login)
      (complete : (email.isEmpty || password.isEmpty) = false)
      (existing : login.accountState = .existingUser) :
      Acts before (.loginButtonPressed email password)
        (before.signExisitingUser email password login.id)
  | signUpAsked {email password : String} {login : LoginViewController}
      (inFront : before.loginInFront? = some login)
      (complete : (email.isEmpty || password.isEmpty) = false)
      (new : login.accountState ≠ .existingUser) :
      Acts before (.loginButtonPressed email password)
        (before.createNewUser email password login.id)
  | feedSelected {tabs : TabBarController K} (root : before.root = some (.instagram tabs))
      (presented : before.presented = []) :
      Acts before (.selectTab 0)
        { before with root := some (.instagram { tabs with selectedIndex := 0 }) }
  | addPhotoSelected {tabs : TabBarController K} (root : before.root = some (.instagram tabs))
      (presented : before.presented = []) :
      Acts before (.selectTab 1) (before.showAddPhoto tabs)
  | profileSelected {tabs : TabBarController K} (root : before.root = some (.instagram tabs))
      (presented : before.presented = []) :
      Acts before (.selectTab 2) (before.showProfile tabs)
  | galleryPressed {tabs : TabBarController K} {controller : AddPhotoViewController K}
      (inFront : before.addPhotoInFront? = some (tabs, controller)) :
      Acts before .galleryButtonPressed { before with presented := [.actionSheet .addPhoto] }
  | cameraPressed {tabs : TabBarController K} {controller : AddPhotoViewController K}
      (inFront : before.addPhotoInFront? = some (tabs, controller)) :
      Acts before .cameraButtonPressed { before with presented := [.actionSheet .addPhoto] }
  | cancelled {tabs : TabBarController K} {controller : AddPhotoViewController K}
      (inFront : before.addPhotoInFront? = some (tabs, controller)) :
      Acts before .cancelButtonPressed
        { before with root := some (.instagram { tabs with selectedIndex := 0 }) }
  | captioned {text : String} {tabs : TabBarController K} {controller : AddPhotoViewController K}
      (inFront : before.addPhotoInFront? = some (tabs, controller)) :
      Acts before (.captionEdited text)
        (before.updateAddPhoto tabs.id (fun controller => { controller with captionTF := text }))
  | postIncomplete {documentID : String} {bounds : K.CGRect} {tabs : TabBarController K}
      {controller : AddPhotoViewController K}
      (inFront : before.addPhotoInFront? = some (tabs, controller))
      (enabled : controller.nextButtonIsEnabled = true)
      (missing : controller.photoPicked = none) :
      Acts before (.nextButtonPressed documentID bounds) before
  | postPressed {documentID : String} {bounds : K.CGRect} {tabs : TabBarController K}
      {controller : AddPhotoViewController K} {photoPicked : K.Image}
      (inFront : before.addPhotoInFront? = some (tabs, controller))
      (enabled : controller.nextButtonIsEnabled = true)
      (picked : controller.photoPicked = some photoPicked)
      (fresh : documentID ∉ before.documentIDs) (slashFree : SlashFree documentID) :
      Acts before (.nextButtonPressed documentID bounds)
        ((before.updateAddPhoto tabs.id (fun controller =>
          { controller with postImageView := some photoPicked })).createPost
            documentID controller.username controller.userId controller.captionTF
            (K.resizeImage photoPicked bounds) tabs.id)
  | sourceChosen {presenter : Presenter} {rest : List (Screen K)}
      (presented : before.presented = .actionSheet presenter :: rest) :
      Acts before .sourceChosen { before with presented := .imagePicker presenter :: rest }
  | postImagePicked {originalImage : Option K.Image} {tabs : TabBarController K}
      {rest : List (Screen K)} (root : before.root = some (.instagram tabs))
      (presented : before.presented = .imagePicker .addPhoto :: rest) :
      Acts before (.imagePicked originalImage) (before.addPhotoImagePicked tabs.id originalImage)
  | profileImagePicked {originalImage : Option K.Image} {tabs : TabBarController K}
      {rest : List (Screen K)} (root : before.root = some (.instagram tabs))
      (presented : before.presented = .imagePicker .profile :: rest) :
      Acts before (.imagePicked originalImage)
        (if originalImage.isSome then before.dismissFromTab tabs.id else before)
  | editorImagePicked {originalImage : Option K.Image} {controller : EditProfileViewController K}
      {rest : List (Screen K)}
      (presented : before.presented = .imagePicker .editor :: .editor controller :: rest) :
      Acts before (.imagePicked originalImage)
        (before.editorImagePicked controller.id originalImage)
  | editTrapped {tabs : TabBarController K} {controller : ProfileViewController}
      (inFront : before.profileInFront? = some (tabs, controller))
      (installed : controller.barButtonsInstalled = true)
      (missing : controller.instaUser = none) :
      Acts before .editButtonPressed before.terminate
  | editorOpened {tabs : TabBarController K} {controller : ProfileViewController}
      {user : FetchedUser} (inFront : before.profileInFront? = some (tabs, controller))
      (installed : controller.barButtonsInstalled = true)
      (arrived : controller.instaUser = some user) :
      Acts before .editButtonPressed
        { before with
          presented := [.editor (EditProfileViewController.loaded before.nextController user
            before.currentUser)]
          nextController := before.nextController + 1 }
  | editPicturePressed {tabs : TabBarController K} {controller : ProfileViewController}
      (inFront : before.profileInFront? = some (tabs, controller))
      (installed : controller.barButtonsInstalled = true) :
      Acts before .editProfilePictureButtonPressed
        { before with presented := [.actionSheet .profile] }
  | signedOut {tabs : TabBarController K} {controller : ProfileViewController}
      (inFront : before.profileInFront? = some (tabs, controller))
      (installed : controller.barButtonsInstalled = true) :
      Acts before (.signOutButtonPressed none)
        ({ before with currentUser := none }.showViewController .loginViewController)
  | signOutFailed {message : String} {tabs : TabBarController K}
      {controller : ProfileViewController}
      (inFront : before.profileInFront? = some (tabs, controller))
      (installed : controller.barButtonsInstalled = true) :
      Acts before (.signOutButtonPressed (some message))
        (before.async (.signOutAlert tabs.id "Oops... unable to sign out" message))
  | fieldEdited {field : ProfileField} {text : String} {controller : EditProfileViewController K}
      (inFront : before.editorInFront? = some controller) :
      Acts before (.fieldEdited field text)
        (before.updateEditor controller.id (fun controller => controller.edit field text))
  | changePicturePressed {controller : EditProfileViewController K}
      (inFront : before.editorInFront? = some controller) :
      Acts before .changeProfilePictureButton
        (before.presentFromEditor controller.id (.actionSheet .editor))
  | donePressed {bounds : K.CGRect} {controller : EditProfileViewController K}
      (inFront : before.editorInFront? = some controller) :
      Acts before (.doneButtonPressed bounds) (before.doneButtonPressed controller bounds)
  | editorCancelled {controller : EditProfileViewController K}
      (inFront : before.editorInFront? = some controller) :
      Acts before .editorCancelButtonPressed (before.dismissFromEditor controller.id)

private theorem acts_of_imagePicked {before after : World K} {originalImage : Option K.Image}
    (stepped : before.imagePicked originalImage = some after) :
    Acts before (.imagePicked originalImage) after := by
  unfold World.imagePicked at stepped
  split at stepped
  · rename_i root presented
    cases stepped
    exact .postImagePicked root presented
  · rename_i root presented
    cases stepped
    exact .profileImagePicked root presented
  · rename_i _root presented
    cases stepped
    exact .editorImagePicked presented
  · cases stepped

private theorem acts_of_nextButtonPressed {before after : World K} {documentID : String}
    {bounds : K.CGRect} {tabs : TabBarController K} {controller : AddPhotoViewController K}
    (inFront : before.addPhotoInFront? = some (tabs, controller))
    (enabled : controller.nextButtonIsEnabled = true)
    (stepped : before.nextButtonPressed tabs.id controller documentID bounds = some after) :
    Acts before (.nextButtonPressed documentID bounds) after := by
  unfold World.nextButtonPressed at stepped
  split at stepped
  · rename_i missing
    cases stepped
    exact .postIncomplete inFront enabled missing
  · rename_i photoPicked picked
    split at stepped
    · rename_i fresh
      cases stepped
      exact .postPressed inFront enabled picked fresh.1 fresh.2
    · cases stepped

private theorem acts_of_loginButtonPressed {before : World K} {email password : String}
    {login : LoginViewController} (inFront : before.loginInFront? = some login) :
    Acts before (.loginButtonPressed email password)
      (before.loginButtonPressed login email password) := by
  unfold World.loginButtonPressed World.continueLoginFlow
  split
  · rename_i missing
    exact .loginIncomplete inFront missing
  · rename_i complete
    rw [Bool.not_eq_true] at complete
    split
    · rename_i existing
      exact .signInAsked inFront complete existing
    · rename_i new
      exact .signUpAsked inFront complete new

/-- The one case analysis of `step`: what is proved of a step is proved from it. -/
theorem acts_of_step {before after : World K} {event : Event K}
    (stepped : step before event = some after) : Acts before event after := by
  unfold step at stepped
  cases event with
  | launch =>
      obtain ⟨notRunning, result⟩ := Option.ite_none_right_eq_some.mp stepped
      have absent := Option.isNone_iff_eq_none.mp notRunning
      cases result
      unfold World.sceneWillConnect
      split
      · rename_i user signedIn
        exact .feedLaunched absent signedIn
      · rename_i signedOut
        exact .loginLaunched absent signedOut
  | terminate =>
      obtain ⟨running, result⟩ := Option.ite_none_right_eq_some.mp stepped
      cases result
      exact .terminated running
  | serve index outcome =>
      simp only [World.serve] at stepped
      split at stepped
      · cases stepped
      · rename_i request found
        obtain ⟨⟨firebase, answer⟩, performed, rfl⟩ := Option.map_eq_some_iff.mp stepped
        exact .served found performed
  | serveOrphan index outcome =>
      simp only [World.serveOrphan] at stepped
      split at stepped
      · cases stepped
      · rename_i request found
        obtain ⟨⟨firebase, answer⟩, performed, rfl⟩ := Option.map_eq_some_iff.mp stepped
        exact .servedOrphan found performed
  | callback index =>
      dsimp only at stepped
      split at stepped
      · cases stepped
      · rename_i request answer found
        cases stepped
        exact .called found
  | runBlock =>
      dsimp only at stepped
      split at stepped
      · cases stepped
      · rename_i block rest queued
        cases stepped
        exact .ran queued
  | dismissTop =>
      dsimp only at stepped
      split at stepped
      · cases stepped
      · rename_i top rest presented
        cases stepped
        exact .dismissed presented
  | signUpButtonPressed =>
      obtain ⟨login, inFront, rfl⟩ := Option.map_eq_some_iff.mp stepped
      exact .signUpPressed inFront
  | loginButtonPressed email password =>
      obtain ⟨login, inFront, rfl⟩ := Option.map_eq_some_iff.mp stepped
      exact acts_of_loginButtonPressed inFront
  | selectTab index =>
      dsimp only at stepped
      split at stepped
      · rename_i tabs root presented
        cases stepped
        split
        · exact .feedSelected root presented
        · exact .addPhotoSelected root presented
        · exact .profileSelected root presented
      · cases stepped
  | galleryButtonPressed =>
      obtain ⟨⟨tabs, controller⟩, inFront, rfl⟩ := Option.map_eq_some_iff.mp stepped
      exact .galleryPressed inFront
  | cameraButtonPressed =>
      obtain ⟨⟨tabs, controller⟩, inFront, rfl⟩ := Option.map_eq_some_iff.mp stepped
      exact .cameraPressed inFront
  | cancelButtonPressed =>
      obtain ⟨⟨tabs, controller⟩, inFront, rfl⟩ := Option.map_eq_some_iff.mp stepped
      exact .cancelled inFront
  | captionEdited text =>
      obtain ⟨⟨tabs, controller⟩, inFront, rfl⟩ := Option.map_eq_some_iff.mp stepped
      exact .captioned inFront
  | nextButtonPressed documentID bounds =>
      obtain ⟨⟨tabs, controller⟩, inFront, pressed⟩ := Option.bind_eq_some_iff.mp stepped
      obtain ⟨enabled, result⟩ := Option.ite_none_right_eq_some.mp pressed
      exact acts_of_nextButtonPressed inFront enabled result
  | sourceChosen =>
      simp only [World.sourceChosen] at stepped
      split at stepped
      · rename_i presenter rest presented
        cases stepped
        exact .sourceChosen presented
      · cases stepped
  | imagePicked originalImage => exact acts_of_imagePicked stepped
  | editButtonPressed =>
      obtain ⟨⟨tabs, controller⟩, inFront, pressed⟩ := Option.bind_eq_some_iff.mp stepped
      obtain ⟨installed, result⟩ := Option.ite_none_right_eq_some.mp pressed
      cases result
      unfold World.editButtonPressed
      split
      · rename_i missing
        exact .editTrapped inFront installed missing
      · rename_i user arrived
        exact .editorOpened inFront installed arrived
  | editProfilePictureButtonPressed =>
      obtain ⟨⟨tabs, controller⟩, inFront, pressed⟩ := Option.bind_eq_some_iff.mp stepped
      obtain ⟨installed, result⟩ := Option.ite_none_right_eq_some.mp pressed
      cases result
      exact .editPicturePressed inFront installed
  | signOutButtonPressed error =>
      obtain ⟨⟨tabs, controller⟩, inFront, pressed⟩ := Option.bind_eq_some_iff.mp stepped
      obtain ⟨installed, result⟩ := Option.ite_none_right_eq_some.mp pressed
      cases result
      cases error with
      | none => exact .signedOut inFront installed
      | some message => exact .signOutFailed inFront installed
  | fieldEdited field text =>
      obtain ⟨controller, inFront, rfl⟩ := Option.map_eq_some_iff.mp stepped
      exact .fieldEdited inFront
  | changeProfilePictureButton =>
      obtain ⟨controller, inFront, rfl⟩ := Option.map_eq_some_iff.mp stepped
      exact .changePicturePressed inFront
  | doneButtonPressed bounds =>
      obtain ⟨controller, inFront, rfl⟩ := Option.map_eq_some_iff.mp stepped
      exact .donePressed inFront
  | editorCancelButtonPressed =>
      obtain ⟨controller, inFront, rfl⟩ := Option.map_eq_some_iff.mp stepped
      exact .editorCancelled inFront

end InstagramProject
