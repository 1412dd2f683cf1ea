/-
The app as a machine.  An event is a press or another act of the user, a
service serving a request, a completion handler running, the next block of the
main queue, or the process starting or ending.  `step` gives the state after an
event, or `none` where the event cannot happen.
-/

import InstagramProject.Controllers
import InstagramProject.Transition

namespace InstagramProject

variable {K : Platform}

namespace World

/-! ### Completion handlers -/

/-- The handler each caller passes to `fetchCurrentUser`, on success. -/
def userFetched (world : World K) (uid : UID) (data : Option Document)
    (caller : FetchCaller) : World K :=
  let user : FetchedUser :=
    { user := (data.map InstagramUser.ofDocument).getD InstagramUser.empty
      key := uid
      stored := data.isSome }
  match caller with
  | .addPhoto screen => world.async (.setAddPhotoUser screen user)
  | .profile screen => world.async (.setProfileUser screen user)

/-- The handler each caller passes to `uploadPhoto`. -/
def photoUploaded (world : World K) (caller : UploadCaller) (result : Except String URL) :
    World K :=
  match caller, result with
  | .post documentID screen, .error message =>
      world.async (.addPhotoAlert screen "Could not upload photo" message documentID)
  | .post documentID screen, .ok url =>
      if world.addPhotoAlive screen then world.updateImageURL url documentID screen else world
  | .profilePicture _ editor, .error message =>
      world.async (.pictureAlert editor "Failed to upload photo" message)
  | .profilePicture _ editor, .ok url => world.profilePictureUploaded url editor

/-- A failed sign-in, sign-up or fetch is only printed. -/
def callback (world : World K) (request : Request K) (answer : Answer) : World K :=
  match request, answer with
  | .createUser _ _ login, .account uid email => world.async (.createUser login uid email)
  | .signIn _ _ login, .account _ _ => world.async (.navigateToInstagram login)
  | .setUser _ _ login _, .error message =>
      world.async (.loginAlert login "unable to create a user" message)
  | .setUser _ _ login _, .done => world.async (.navigateToInstagram login)
  | .getUser uid caller, .snapshot data => world.userFetched uid data caller
  | .updateUser _ _ editor, .error message =>
      world.async (.editorAlert editor "Failed to update profile" message)
  | .updateUser _ _ editor, .done =>
      (world.async (.editorAlert editor "Profile updated!" "")).dismissFromEditor editor
  | .setPost documentID _ _ screen _, .error message =>
      world.async (.addPhotoAlert screen "Could not create post" message documentID)
  | .setPost documentID _ resizeImage screen _, .done =>
      world.postCreated documentID resizeImage screen
  | .putData _ _ caller, .error message => world.photoUploaded caller (.error message)
  | .putData reference _ caller, .done => world.send (.downloadURL reference caller)
  | .downloadURL _ caller, .error message => world.photoUploaded caller (.error message)
  | .downloadURL _ caller, .url url => world.photoUploaded caller (.ok url)
  | .updatePost documentID _ screen _, .error message =>
      world.async (.addPhotoAlert screen "Failed to update item" message documentID)
  | .updatePost documentID _ screen _, .done => world.async (.resetDraft screen documentID)
  | .commitChanges _ _ editor captured, .error message =>
      world.async (.commitAlert editor captured "Could not save changes" message)
  | .commitChanges _ _ editor captured, .done =>
      world.async (.commitAlert editor captured "Profile Picture Updated" "")
  | _, _ => world

/-! ### Main-queue blocks -/

def runBlock (world : World K) (block : Block K) : World K :=
  match block with
  | .createUser login uid email =>
      if world.isLogin login then world.createDatabaseUser uid email login else world
  | .navigateToInstagram login =>
      if world.isLogin login then world.navigateToInstagram else world
  | .loginAlert login title message => world.presentFromLogin login (.alert title message)
  | .setAddPhotoUser screen user =>
      world.updateAddPhoto screen (fun controller => { controller with instaUser := some user })
  | .setProfileUser screen user =>
      world.updateProfile screen (fun controller =>
        { controller with
          instaUser := some user
          bioLabel := user.user.userBio
          fullNameLabel := user.user.userFullName })
  | .previewPost screen =>
      world.updateAddPhoto screen (fun controller =>
        { controller with postImageView := controller.selectedImage })
  | .addPhotoAlert screen title message _ =>
      world.presentFromTab screen 1 (.alert title message)
  | .resetDraft screen _ => world.resetDraft screen
  | .previewProfilePicture editor =>
      world.updateEditor editor (fun controller =>
        { controller with profilePictureView := controller.selectedImage })
  | .editorAlert editor title message => world.presentFromEditor editor (.alert title message)
  | .pictureAlert editor title message => world.presentFromEditor editor (.alert title message)
  -- A captured unowned reference traps once the editor is released.
  | .commitAlert editor captured title message =>
      if captured then
        if world.editorAlive editor then world.presentFromEditor editor (.alert title message)
        else world.terminate
      else world
  | .signOutAlert screen title message => world.presentFromTab screen 2 (.alert title message)

/-! ### What the user can reach -/

/-- The Add Photo screen, when it is in front with nothing presented over it. -/
def addPhotoInFront? (world : World K) :
    Option (TabBarController K × AddPhotoViewController K) :=
  match world.root, world.presented with
  | some (.instagram tabs), [] =>
      if tabs.selectedIndex = 1 then tabs.addPhoto.map (fun controller => (tabs, controller))
      else none
  | _, _ => none

def profileInFront? (world : World K) : Option (TabBarController K × ProfileViewController) :=
  match world.root, world.presented with
  | some (.instagram tabs), [] =>
      if tabs.selectedIndex = 2 then tabs.profile.map (fun controller => (tabs, controller))
      else none
  | _, _ => none

def loginInFront? (world : World K) : Option LoginViewController :=
  match world.root, world.presented with
  | some (.login controller), [] => some controller
  | _, _ => none

def editorInFront? (world : World K) : Option (EditProfileViewController K) :=
  match world.presented with
  | .editor controller :: _ => some controller
  | _ => none

/-- A source chosen on an action sheet puts up the picker in its place. -/
def sourceChosen (world : World K) : Option (World K) :=
  match world.presented with
  | .actionSheet presenter :: rest =>
      some { world with presented := .imagePicker presenter :: rest }
  | _ => none

def imagePicked (world : World K) (originalImage : Option K.Image) : Option (World K) :=
  match world.root, world.presented with
  | some (.instagram tabs), .imagePicker .addPhoto :: _ =>
      some (world.addPhotoImagePicked tabs.id originalImage)
  | some (.instagram tabs), .imagePicker .profile :: _ =>
      some (if originalImage.isSome then world.dismissFromTab tabs.id else world)
  | _, .imagePicker .editor :: .editor controller :: _ =>
      some (world.editorImagePicked controller.id originalImage)
  | _, _ => none

/-! ### Requests -/

/-- A served request's answer is on its way; a successful sign-up or sign-in
makes its account the current one.  A write whose account has signed out may be
served too: it may have been on its way before. -/
def serve (world : World K) (index : Nat) (outcome : Outcome) : Option (World K) :=
  match world.requests[index]? with
  | none => none
  | some request =>
      (world.firebase.perform world.localUser request outcome).map (fun (firebase, answer) =>
        { world with
          firebase := firebase
          currentUser :=
            match answer with
            | .account uid _ => some uid
            | _ => world.currentUser
          requests := world.requests.eraseIdx index
          responses := world.responses ++ [(request, answer)] })

def serveOrphan (world : World K) (index : Nat) (outcome : Outcome) : Option (World K) :=
  match world.orphans[index]? with
  | none => none
  | some request =>
      (world.firebase.perform world.localUser request outcome).map (fun (firebase, _answer) =>
        { world with
          firebase := firebase
          orphans := world.orphans.eraseIdx index })

end World

open World in
/-- One event. -/
def step (world : World K) (event : Event K) : Option (World K) :=
  match event with
  | .launch => if world.root.isNone then some world.sceneWillConnect else none
  | .terminate => if world.root.isSome then some world.terminate else none
  | .serve index outcome => world.serve index outcome
  | .serveOrphan index outcome => world.serveOrphan index outcome
  | .callback index =>
      match world.responses[index]? with
      | none => none
      | some (request, answer) =>
          some ({ world with responses := world.responses.eraseIdx index }.callback
            request answer)
  | .runBlock =>
      match world.mainQueue with
      | [] => none
      | block :: rest => some ({ world with mainQueue := rest }.runBlock block)
  | .dismissTop =>
      match world.presented with
      | [] => none
      | _ :: rest => some { world with presented := rest }
  | .signUpButtonPressed => world.loginInFront?.map world.signUpButtonPressed
  | .loginButtonPressed email password =>
      world.loginInFront?.map (fun controller =>
        world.loginButtonPressed controller email password)
  | .selectTab index =>
      match world.root, world.presented with
      | some (.instagram tabs), [] =>
          some (match index with
            | 0 => { world with root := some (.instagram { tabs with selectedIndex := 0 }) }
            | 1 => world.showAddPhoto tabs
            | 2 => world.showProfile tabs)
      | _, _ => none
  | .galleryButtonPressed | .cameraButtonPressed =>
      world.addPhotoInFront?.map (fun (_, _) =>
        { world with presented := [.actionSheet .addPhoto] })
  | .cancelButtonPressed =>
      world.addPhotoInFront?.map (fun (tabs, _) =>
        { world with root := some (.instagram { tabs with selectedIndex := 0 }) })
  | .captionEdited text =>
      world.addPhotoInFront?.map (fun (tabs, _) =>
        world.updateAddPhoto tabs.id (fun controller => { controller with captionTF := text }))
  | .nextButtonPressed documentID bounds =>
      world.addPhotoInFront?.bind (fun (tabs, controller) =>
        if controller.nextButtonIsEnabled then
          world.nextButtonPressed tabs.id controller documentID bounds
        else none)
  | .sourceChosen => world.sourceChosen
  | .imagePicked originalImage => world.imagePicked originalImage
  | .editButtonPressed =>
      world.profileInFront?.bind (fun (_, controller) =>
        if controller.barButtonsInstalled then some (world.editButtonPressed controller)
        else none)
  | .editProfilePictureButtonPressed =>
      world.profileInFront?.bind (fun (_, controller) =>
        if controller.barButtonsInstalled then
          some { world with presented := [.actionSheet .profile] }
        else none)
  | .signOutButtonPressed error =>
      world.profileInFront?.bind (fun (tabs, controller) =>
        if controller.barButtonsInstalled then
          some (world.signOutButtonPressed tabs.id error)
        else none)
  | .fieldEdited field text =>
      world.editorInFront?.map (fun controller =>
        world.updateEditor controller.id (fun controller => controller.edit field text))
  | .changeProfilePictureButton =>
      world.editorInFront?.map (fun controller =>
        world.presentFromEditor controller.id (.actionSheet .editor))
  | .doneButtonPressed bounds =>
      world.editorInFront?.map (fun controller => world.doneButtonPressed controller bounds)
  | .editorCancelButtonPressed =>
      world.editorInFront?.map (fun controller => world.dismissFromEditor controller.id)

/-! ### Runs -/

abbrev Past (K : Platform) := List (World K × Event K)

/-- `world` is reached from an empty store with the app not running. -/
abbrev AppRun (past : Past K) (world : World K) : Prop :=
  Transition.Run step (World.initial K) past world

/-- The past and the state after a list of events, from the initial state. -/
def endOf (events : List (Event K)) : Past K × World K :=
  (Transition.run step [] (World.initial K) events).getD ([], World.initial K)

theorem appRun_endOf (events : List (Event K))
    (completed : (Transition.run step [] (World.initial K) events).isSome) :
    AppRun (endOf events).1 (endOf events).2 :=
  Transition.Run.finish events completed

/-- The events of a sign-up that succeeds, from an empty login screen with
nothing else under way. -/
def signUpEvents (email password : String) (uid : UID) : List (Event K) :=
  [.signUpButtonPressed, .loginButtonPressed email password, .serve 0 (.success uid),
    .callback 0, .runBlock, .serve 0 (.success ""), .callback 0, .runBlock]

/-- From the feed: open the Add Photo screen for the first time, pick an image,
type a caption and press Next. -/
def publishEvents (image : K.Image) (caption documentID : String) (bounds : K.CGRect) :
    List (Event K) :=
  [.selectTab 1, .serve 0 (.success ""), .callback 0, .runBlock, .galleryButtonPressed,
    .sourceChosen, .imagePicked (some image), .runBlock, .captionEdited caption,
    .nextButtonPressed documentID bounds]

/-- Open the profile for the first time and wait for its record. -/
def profileEvents : List (Event K) := [.selectTab 2, .serve 0 (.success ""), .callback 0, .runBlock]

/-- The same, and open the editor. -/
def editorEvents : List (Event K) := profileEvents ++ [.editButtonPressed]

/-- In the editor: choose a picture and press Done. -/
def pictureEvents (image : K.Image) (bounds : K.CGRect) : List (Event K) :=
  [.changeProfilePictureButton, .sourceChosen, .imagePicked (some image), .runBlock,
    .doneButtonPressed bounds]

/-- The next remote step succeeds and its handler runs. -/
def stepEvents : List (Event K) := [.serve 0 (.success ""), .callback 0]

namespace World

/-- The request that takes effect in an event. -/
def effect? (world : World K) : Event K → Option (Request K)
  | .serve index (.success _) | .serve index (.unconfirmed _ _) => world.requests[index]?
  | .serveOrphan index (.success _) | .serveOrphan index (.unconfirmed _ _) =>
      world.orphans[index]?
  | _ => none

/-- The request that fails in an event, for all the client can tell. -/
def refused? (world : World K) : Event K → Option (Request K)
  | .serve index (.failure _) | .serve index (.unconfirmed _ _) => world.requests[index]?
  | .serveOrphan index (.failure _) => world.orphans[index]?
  | _ => none

end World

end InstagramProject
