/-
The handlers of the view controllers, in the source's words.  A handler reads
the state in which it runs; what it hands to a completion handler or to the
main queue is in the request or the block.
-/

import InstagramProject.Services

namespace InstagramProject

variable {K : Platform}

/-! ### UIViewController+Navigation and SceneDelegate -/

inductive ViewControllerID
  | instagram
  | loginViewController

namespace World

/-- `showViewController` and `resetWindow`: a new root replaces the old one. -/
def showViewController (world : World K) (viewcontrollerID : ViewControllerID) : World K :=
  { world with
    root := some (match viewcontrollerID with
      | .instagram =>
          .instagram
            { id := world.nextController
              selectedIndex := 0
              addPhoto := none
              profile := none }
      | .loginViewController =>
          .login { id := world.nextController, accountState := .existingUser })
    presented := []
    nextController := world.nextController + 1 }

/-- `scene(_:willConnectTo:options:)`. -/
def sceneWillConnect (world : World K) : World K :=
  match world.currentUser with
  | some _ => world.showViewController .instagram
  | none => world.showViewController .loginViewController

/-! ### LoginViewController -/

def continueLoginFlow (world : World K) (controller : LoginViewController)
    (email password : String) : World K :=
  if controller.accountState = .existingUser then
    world.signExisitingUser email password controller.id
  else world.createNewUser email password controller.id

def loginButtonPressed (world : World K) (controller : LoginViewController)
    (email password : String) : World K :=
  if email.isEmpty || password.isEmpty then
    world.presentFromLogin controller.id (.alert "Missing Fields" "all fields are required")
  else world.continueLoginFlow controller email password

def navigateToInstagram (world : World K) : World K :=
  world.showViewController .instagram

def signUpButtonPressed (world : World K) (controller : LoginViewController) : World K :=
  { world with
    root := some (.login { controller with
      accountState :=
        if controller.accountState = .existingUser then .newUser else .existingUser }) }

end World

/-! ### AddPhotoViewController -/

/-- The controller after `viewDidLoad`, before its user data arrives. -/
def AddPhotoViewController.loaded : AddPhotoViewController K :=
  { instaUser := none
    selectedImage := none
    captionTF := ""
    nextButtonIsEnabled := false
    postImageView := none }

/-- `instaUser?.username ?? ""`. -/
def AddPhotoViewController.username (controller : AddPhotoViewController K) : String :=
  (controller.instaUser.map (fun fetched => fetched.user.username)).getD ""

/-- `instaUser?.userId ?? ""`. -/
def AddPhotoViewController.userId (controller : AddPhotoViewController K) : String :=
  (controller.instaUser.map (fun fetched => fetched.user.userId)).getD ""

/-- The guard of `nextButtonPressed`: the image to publish, when there is one and
the caption is not empty. -/
def AddPhotoViewController.photoPicked (controller : AddPhotoViewController K) :
    Option K.Image :=
  if controller.captionTF.isEmpty then none else controller.selectedImage

namespace World

/-- `selectedImage = image`; its observer shows the image later. -/
def selectPostImage (world : World K) (screen : ControllerID)
    (image : Option K.Image) : World K :=
  (world.updateAddPhoto screen (fun controller =>
    { controller with selectedImage := image })).async (.previewPost screen)

def updateImageURL (world : World K) (url : URL) (documentID : String)
    (screen : ControllerID) : World K :=
  world.send (.updatePost documentID [("photoURL", K.absoluteString url)] screen world.currentUser)

def addPhotoUploadPhoto (world : World K) (photo : K.Image) (documentID : String)
    (screen : ControllerID) : World K :=
  world.uploadPhoto none (some documentID) photo (.post documentID screen)

/-- A press that starts no publication accepts any `documentID`; one that does
needs an id `document()` can return, which is fresh and has no slash. -/
def nextButtonPressed (world : World K) (screen : ControllerID)
    (controller : AddPhotoViewController K) (documentID : String) (bounds : K.CGRect) :
    Option (World K) :=
  match controller.photoPicked with
  | none => some world
  | some photoPicked =>
      if documentID ∉ world.documentIDs ∧ SlashFree documentID then
        some ((world.updateAddPhoto screen (fun controller =>
            { controller with postImageView := some photoPicked })).createPost
          documentID controller.username controller.userId controller.captionTF
          (K.resizeImage photoPicked bounds) screen)
      else none

/-- The success branch of `createPost`'s completion handler. -/
def postCreated (world : World K) (documentID : String) (resizeImage : K.Image)
    (screen : ControllerID) : World K :=
  if world.addPhotoAlive screen then
    (world.addPhotoUploadPhoto resizeImage documentID screen).updateTabs screen
      (fun tabs => { tabs with selectedIndex := 0 })
  else world

/-- The success block of `updateImageURL`. -/
def resetDraft (world : World K) (screen : ControllerID) : World K :=
  if world.addPhotoAlive screen then
    (((world.dismissFromTab screen).selectPostImage screen none).updateAddPhoto screen
      (fun controller => { controller with nextButtonIsEnabled := false, captionTF := "" }))
  else world

/-- `imagePickerController(_:didFinishPickingMediaWithInfo:)`. -/
def addPhotoImagePicked (world : World K) (screen : ControllerID)
    (originalImage : Option K.Image) : World K :=
  match originalImage with
  | none => world
  | some image =>
      ((world.selectPostImage screen (some image)).updateAddPhoto screen
        (fun controller => { controller with nextButtonIsEnabled := true })).dismissFromTab screen

/-- Selecting the tab for the first time runs `viewDidLoad`. -/
def showAddPhoto (world : World K) (tabs : TabBarController K) : World K :=
  match tabs.addPhoto with
  | some _ => { world with root := some (.instagram { tabs with selectedIndex := 1 }) }
  | none =>
      { world with
        root := some (.instagram { tabs with
          selectedIndex := 1
          addPhoto := some AddPhotoViewController.loaded }) }.fetchCurrentUser
        (.addPhoto tabs.id)

end World

/-! ### ProfileViewController -/

/-- The controller after `configureNavBar` in `viewDidLoad`. -/
def ProfileViewController.loaded (currentUser : Option UID) : ProfileViewController :=
  { instaUser := none
    barButtonsInstalled := currentUser.isSome
    bioLabel := "bio"
    fullNameLabel := "full name" }

/-- The editor after `init(coder:user:)` and `viewDidLoad`. -/
def EditProfileViewController.loaded (id : ControllerID) (user : FetchedUser)
    (currentUser : Option UID) : EditProfileViewController K :=
  match currentUser with
  | none =>
      { id := id
        instaUser := user
        usernameTextfield := ""
        emailTextfield := ""
        bioTextField := ""
        fullNameTF := ""
        selectedImage := none
        profilePictureView := none }
  | some _ =>
      { id := id
        instaUser := user
        usernameTextfield := user.user.username
        emailTextfield := user.user.userEmail
        bioTextField := user.user.userBio
        fullNameTF := user.user.userFullName
        selectedImage := none
        profilePictureView := none }

namespace World

def showProfile (world : World K) (tabs : TabBarController K) : World K :=
  match tabs.profile with
  | some _ => { world with root := some (.instagram { tabs with selectedIndex := 2 }) }
  | none =>
      { world with
        root := some (.instagram { tabs with
          selectedIndex := 2
          profile := some (ProfileViewController.loaded world.currentUser) }) }.fetchCurrentUser
        (.profile tabs.id)

/-- `signOut()` either throws or signs the account out. -/
def signOutButtonPressed (world : World K) (screen : ControllerID)
    (error : Option String) : World K :=
  match error with
  | none => { world with currentUser := none }.showViewController .loginViewController
  | some message => world.async (.signOutAlert screen "Oops... unable to sign out" message)

/-- The forced unwrap of `instaUser` traps when the user data has not arrived. -/
def editButtonPressed (world : World K) (controller : ProfileViewController) : World K :=
  match controller.instaUser with
  | none => world.terminate
  | some user =>
      { world with
        presented := [.editor (EditProfileViewController.loaded world.nextController user
          world.currentUser)]
        nextController := world.nextController + 1 }

end World

/-! ### EditProfileViewController -/

def EditProfileViewController.edit (controller : EditProfileViewController K)
    (field : ProfileField) (text : String) : EditProfileViewController K :=
  match field with
  | .username => { controller with usernameTextfield := text }
  | .userBio => { controller with bioTextField := text }
  | .userFullName => { controller with fullNameTF := text }

namespace World

def editorImagePicked (world : World K) (editor : ControllerID)
    (originalImage : Option K.Image) : World K :=
  match originalImage with
  | none => world
  | some image =>
      ((world.updateEditor editor (fun controller =>
        { controller with selectedImage := some image })).async
          (.previewProfilePicture editor)).dismissFromEditor editor

def updateProfilePicture (world : World K) (userId : UID) (selectedImage : K.Image)
    (editor : ControllerID) : World K :=
  world.uploadPhoto (some userId) none selectedImage (.profilePicture userId editor)

def doneButtonPressed (world : World K) (controller : EditProfileViewController K)
    (bounds : K.CGRect) : World K :=
  if controller.usernameTextfield.isEmpty || controller.bioTextField.isEmpty ||
      controller.fullNameTF.isEmpty then
    world.presentFromEditor controller.id (.alert "Missing Fields" "All fields are required")
  else
    match world.currentUser with
    | none => world
    | some user =>
        let pictured :=
          match controller.selectedImage with
          | none => world
          | some profilePicture =>
              world.updateProfilePicture user (K.resizeImage profilePicture bounds) controller.id
        pictured.updateUserInfo user controller.usernameTextfield controller.bioTextField
          controller.fullNameTF controller.id

/-- The success branch of `updateProfilePicture`'s completion handler.  The
account is read again here. -/
def profilePictureUploaded (world : World K) (url : URL) (editor : ControllerID) : World K :=
  match world.currentUser with
  | none => world
  | some user => world.send (.commitChanges user url editor (world.editorAlive editor))

end World

end InstagramProject
