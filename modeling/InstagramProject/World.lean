/-
The state of the app and of the Firebase services behind it: accounts,
documents, storage objects, the signed-in account, the screens, the requests
under way with what their completion handlers captured, the answers whose
handlers have not run, and the blocks on the main queue.
-/

import InstagramProject.Document
import InstagramProject.Platform

namespace InstagramProject

abbrev UID := String

/-- Identity of a controller object.  The controllers inside one tab bar share
the identity of the tab bar. -/
abbrev ControllerID := Nat

/-! ### Firebase -/

structure Account where
  uid : UID
  email : String
  password : String
deriving DecidableEq

structure StoredObject (K : Platform) where
  data : K.Data
  version : Nat

structure Firebase (K : Platform) where
  accounts : List Account
  /-- `User.photoURL` of each account. -/
  photoURL : UID → Option URL
  users : UID → Option Document
  posts : String → Option Document
  storage : String → Option (StoredObject K)
  /-- The version the next stored object gets. -/
  nextVersion : Nat

/-! ### Requests and what their completion handlers captured -/

inductive FetchCaller
  | addPhoto (screen : ControllerID)
  | profile (screen : ControllerID)
deriving DecidableEq

/-- The completion handler passed to `uploadPhoto`, with the id it was called
for. -/
inductive UploadCaller
  | post (documentID : String) (screen : ControllerID)
  | profilePicture (userId : UID) (editor : ControllerID)
deriving DecidableEq

/-- `writer` is the account signed in when a write was made, in whose queue Firestore
keeps it.  `updateUser` writes the document of that account itself. -/
inductive Request (K : Platform)
  | createUser (email password : String) (login : ControllerID)
  | signIn (email password : String) (login : ControllerID)
  | setUser (uid : UID) (fields : Fields) (login : ControllerID) (writer : Option UID)
  | getUser (uid : UID) (caller : FetchCaller)
  | updateUser (uid : UID) (fields : Fields) (editor : ControllerID)
  | setPost (documentID : String) (fields : Fields) (resizeImage : K.Image)
      (screen : ControllerID) (writer : Option UID)
  | putData (reference : String) (imageData : K.Data) (caller : UploadCaller)
  | downloadURL (reference : String) (caller : UploadCaller)
  | updatePost (documentID : String) (fields : Fields) (screen : ControllerID)
      (writer : Option UID)
  /-- `captured` says whether the unowned self was non-nil when captured. -/
  | commitChanges (uid : UID) (photoURL : URL) (editor : ControllerID) (captured : Bool)

inductive Answer
  | error (message : String)
  | done
  | account (uid : UID) (email : Option String)
  | snapshot (data : Option Document)
  | url (url : URL)

/-- What the service does with a request.  The uid is the one `createUser` assigns;
other requests do not look at it. -/
inductive Outcome
  | failure (message : String)
  | success (uid : UID)
  /-- The request takes effect, and the client reports a failure. -/
  | unconfirmed (uid : UID) (message : String)
deriving DecidableEq

/-- A user record together with the document it was asked from.  The app reads
only `user`; `key` and `stored` say where it came from and whether the document
existed. -/
structure FetchedUser where
  user : InstagramUser
  key : UID
  stored : Bool
deriving DecidableEq

/-- A block put on the main queue.  The last argument of the post blocks names
the publication they belong to. -/
inductive Block (K : Platform)
  | createUser (login : ControllerID) (uid : UID) (email : Option String)
  | navigateToInstagram (login : ControllerID)
  | loginAlert (login : ControllerID) (title message : String)
  | setAddPhotoUser (screen : ControllerID) (user : FetchedUser)
  | setProfileUser (screen : ControllerID) (user : FetchedUser)
  | previewPost (screen : ControllerID)
  | addPhotoAlert (screen : ControllerID) (title message : String) (documentID : String)
  | resetDraft (screen : ControllerID) (documentID : String)
  | previewProfilePicture (editor : ControllerID)
  | editorAlert (editor : ControllerID) (title message : String)
  | pictureAlert (editor : ControllerID) (title message : String)
  | commitAlert (editor : ControllerID) (captured : Bool) (title message : String)
  | signOutAlert (screen : ControllerID) (title message : String)

/-! ### Screens -/

inductive AccountState
  | existingUser
  | newUser
deriving DecidableEq

structure LoginViewController where
  id : ControllerID
  accountState : AccountState

structure AddPhotoViewController (K : Platform) where
  instaUser : Option FetchedUser
  selectedImage : Option K.Image
  captionTF : String
  nextButtonIsEnabled : Bool
  postImageView : Option K.Image

structure ProfileViewController where
  instaUser : Option FetchedUser
  /-- The bar buttons of `configureNavBar`. -/
  barButtonsInstalled : Bool
  bioLabel : String
  fullNameLabel : String

structure EditProfileViewController (K : Platform) where
  id : ControllerID
  instaUser : FetchedUser
  usernameTextfield : String
  emailTextfield : String
  bioTextField : String
  fullNameTF : String
  selectedImage : Option K.Image
  profilePictureView : Option K.Image

/-- For the numerals of `selectedIndex`. -/
instance tabs_neZero : @NeZero Nat Zero.ofOfNat0 3 := ⟨by decide⟩

/-- The feed, the Add Photo screen and the profile, by `selectedIndex`.  The
last two load their views when they are first selected. -/
structure TabBarController (K : Platform) where
  id : ControllerID
  selectedIndex : Fin 3
  addPhoto : Option (AddPhotoViewController K)
  profile : Option ProfileViewController

inductive Root (K : Platform)
  | login (controller : LoginViewController)
  | instagram (tabs : TabBarController K)

/-- Who put up an action sheet or an image picker. -/
inductive Presenter
  | addPhoto
  | profile
  | editor
deriving DecidableEq

inductive Screen (K : Platform)
  | editor (controller : EditProfileViewController K)
  | alert (title message : String)
  | actionSheet (presenter : Presenter)
  | imagePicker (presenter : Presenter)

/-! ### The whole state -/

structure World (K : Platform) where
  firebase : Firebase K
  /-- Document ids handed out by `document()` so far. -/
  documentIDs : List String
  /-- `Auth.auth().currentUser`; it survives the process. -/
  currentUser : Option UID
  requests : List (Request K)
  /-- Requests sent by a process that has ended. -/
  orphans : List (Request K)
  responses : List (Request K × Answer)
  mainQueue : List (Block K)
  /-- `window.rootViewController`; `none` when the app is not running. -/
  root : Option (Root K)
  /-- What the root presents, topmost first.  The alerts by which the lists of the feed
  and the profile report a failure of their listeners are not among them. -/
  presented : List (Screen K)
  nextController : ControllerID

/-- No account, no document, no object, and the app not running. -/
def World.initial (K : Platform) : World K :=
  { firebase :=
      { accounts := []
        photoURL := fun _ => none
        users := fun _ => none
        posts := fun _ => none
        storage := fun _ => none
        nextVersion := 0 }
    documentIDs := []
    currentUser := none
    requests := []
    orphans := []
    responses := []
    mainQueue := []
    root := none
    presented := []
    nextController := 0 }

inductive ProfileField
  | username
  | userBio
  | userFullName
deriving DecidableEq

inductive Event (K : Platform)
  | launch
  | terminate
  | serve (index : Nat) (outcome : Outcome)
  | serveOrphan (index : Nat) (outcome : Outcome)
  | callback (index : Nat)
  | runBlock
  | dismissTop
  | signUpButtonPressed
  | loginButtonPressed (email password : String)
  | selectTab (index : Fin 3)
  | galleryButtonPressed
  | cameraButtonPressed
  | cancelButtonPressed
  | captionEdited (text : String)
  /-- `documentID` is the id `document()` returns if a post is created. -/
  | nextButtonPressed (documentID : String) (bounds : K.CGRect)
  | sourceChosen
  | imagePicked (originalImage : Option K.Image)
  | editButtonPressed
  | editProfilePictureButtonPressed
  | signOutButtonPressed (error : Option String)
  | fieldEdited (field : ProfileField) (text : String)
  | changeProfilePictureButton
  | doneButtonPressed (bounds : K.CGRect)
  | editorCancelButtonPressed

end InstagramProject
