/-
Passwords go to the authentication service and nowhere else.  If every password
is replaced by another one throughout a run, and the service accepts the same ones
as before, the same things happen, and the store, the screens and the work under way
are the same but for the passwords kept by the service and in the requests to it.
-/

import Mathlib.Data.List.InsertIdx
import Mathlib.Logic.Equiv.Basic
import InstagramProject.Morphisms
import InstagramProject.Outstanding

namespace InstagramProject

open Transition

variable {K : Platform}

/-- Another password for each password, the empty one for itself, and one that the
service accepts for one that it accepts. -/
structure Replacement (K : Platform) where
  password : String → String
  injective : Function.Injective password
  empty : ∀ text, (password text).isEmpty = text.isEmpty
  accepted : ∀ text, K.acceptsPassword (password text) = K.acceptsPassword text

namespace Replacement

variable (replacement : Replacement K)

def account (account : Account) : Account :=
  { account with password := replacement.password account.password }

def request : Request K → Request K
  | .createUser email password login => .createUser email (replacement.password password) login
  | .signIn email password login => .signIn email (replacement.password password) login
  | request => request

def response (response : Request K × Answer) : Request K × Answer :=
  (replacement.request response.1, response.2)

def firebase (firebase : Firebase K) : Firebase K :=
  { firebase with accounts := firebase.accounts.map replacement.account }

def world (world : World K) : World K :=
  { world with
    firebase := replacement.firebase world.firebase
    requests := world.requests.map replacement.request
    orphans := world.orphans.map replacement.request
    responses := world.responses.map replacement.response }

def event : Event K → Event K
  | .loginButtonPressed email password => .loginButtonPressed email (replacement.password password)
  | event => event

/-! ### The service -/

theorem accepts_iff (firebase : Firebase K) (uid : UID) (email password : String) :
    (replacement.firebase firebase).Accepts uid email (replacement.password password) ↔
      firebase.Accepts uid email password := by
  unfold Firebase.Accepts Replacement.firebase
  simp only [List.forall_mem_map, Replacement.account, replacement.accepted]

theorem findAccount_replaced (firebase : Firebase K) (email password : String) :
    (replacement.firebase firebase).findAccount email (replacement.password password) =
      (firebase.findAccount email password).map replacement.account := by
  unfold Firebase.findAccount Replacement.firebase
  rw [List.find?_map]
  congr 2
  funext account
  have same : (replacement.password account.password == replacement.password password) =
      (account.password == password) := by
    rw [Bool.eq_iff_iff, beq_iff_eq, beq_iff_eq, replacement.injective.eq_iff]
  simp only [Function.comp_apply, Replacement.account, same]

theorem carryOut_replaced (firebase : Firebase K) (localUser : UID → Option Document)
    (request : Request K) (newUID : UID) :
    (replacement.firebase firebase).carryOut localUser (replacement.request request) newUID =
      (firebase.carryOut localUser request newUID).map (fun (firebase, answer) =>
        (replacement.firebase firebase, answer)) := by
  cases request with
  | createUser email password login =>
      simp only [Replacement.request, Firebase.carryOut, replacement.accepts_iff]
      split
      · simp only [Option.map_some, Replacement.firebase, List.map_append, List.map_cons,
          List.map_nil, Replacement.account]
      · rfl
  | signIn email password login =>
      simp only [Replacement.request, Firebase.carryOut, replacement.findAccount_replaced,
        Option.map_map]
      rfl
  | updateUser uid fields editor =>
      simp only [Replacement.request, Firebase.carryOut, Option.map_map]
      rfl
  | downloadURL reference caller =>
      simp only [Replacement.request, Firebase.carryOut, Option.map_map]
      rfl
  | updatePost documentID fields screen writer =>
      simp only [Replacement.request, Firebase.carryOut, Option.map_map]
      rfl
  | _ => rfl

theorem losesAnswer_replaced (request : Request K) :
    (replacement.request request).losesAnswer = request.losesAnswer := by
  cases request <;> rfl

theorem perform_replaced (firebase : Firebase K) (localUser : UID → Option Document)
    (request : Request K) (outcome : Outcome) :
    (replacement.firebase firebase).perform localUser (replacement.request request) outcome =
      (firebase.perform localUser request outcome).map (fun (firebase, answer) =>
        (replacement.firebase firebase, answer)) := by
  cases outcome with
  | failure message => rfl
  | success newUID => exact replacement.carryOut_replaced firebase localUser request newUID
  | unconfirmed newUID message =>
      unfold Firebase.perform
      dsimp only
      rw [losesAnswer_replaced, carryOut_replaced]
      split
      · rw [Option.map_map, Option.map_map]
        rfl
      · rfl

theorem writer?_replaced (request : Request K) :
    (replacement.request request).writer? = request.writer? := by
  cases request <;> rfl

theorem mutation?_replaced (request : Request K) :
    (replacement.request request).mutation? = request.mutation? := by
  cases request <;> rfl

theorem localUser_replaced (world : World K) :
    (replacement.world world).localUser = world.localUser := by
  have queued : (replacement.world world).queuedWrites =
      world.queuedWrites.map replacement.request := by
    unfold World.queuedWrites Replacement.world
    rw [← List.map_append, List.filter_map]
    simp only [Function.comp_def, writer?_replaced]
  funext uid
  unfold World.localUser
  rw [queued, List.filterMap_map]
  simp only [Function.comp_def, mutation?_replaced]
  rfl

/-! ### The handlers -/

variable (world : World K)

@[simp] theorem send_replaced (request : Request K) :
    replacement.world (world.send request) =
      (replacement.world world).send (replacement.request request) := by
  simp only [Replacement.world, World.send, List.map_append, List.map_cons, List.map_nil]

@[simp] theorem async_replaced (block : Block K) :
    replacement.world (world.async block) = (replacement.world world).async block := rfl

@[simp] theorem terminate_replaced :
    replacement.world world.terminate = (replacement.world world).terminate := by
  simp only [Replacement.world, World.terminate, List.map_append, List.map_nil]

theorem retainsEditor_replaced (editor : ControllerID) (request : Request K) :
    (replacement.request request).retainsEditor editor = request.retainsEditor editor := by
  cases request <;> rfl

theorem editorAlive_replaced (editor : ControllerID) :
    (replacement.world world).editorAlive editor = world.editorAlive editor := by
  simp only [World.editorAlive, Replacement.world, List.any_map, Function.comp_def,
    Replacement.response, retainsEditor_replaced]

@[simp] theorem presentFromLogin_replaced (login : ControllerID) (screen : Screen K) :
    replacement.world (world.presentFromLogin login screen) =
      (replacement.world world).presentFromLogin login screen := by
  change replacement.world (if _ then _ else _) = if _ then _ else _
  rw [apply_ite replacement.world]
  rfl

@[simp] theorem presentFromTab_replaced (tab : ControllerID) (index : Fin 3) (screen : Screen K) :
    replacement.world (world.presentFromTab tab index screen) =
      (replacement.world world).presentFromTab tab index screen := by
  obtain ⟨_, _, _, _, _, _, _, root, _, _⟩ := world
  unfold World.presentFromTab
  cases root with
  | none => rfl
  | some root =>
      cases root with
      | login controller => rfl
      | instagram tabs =>
          dsimp only
          rw [apply_ite replacement.world]
          rfl

@[simp] theorem presentFromEditor_replaced (editor : ControllerID) (screen : Screen K) :
    replacement.world (world.presentFromEditor editor screen) =
      (replacement.world world).presentFromEditor editor screen := by
  obtain ⟨_, _, _, _, _, _, _, _, presented, _⟩ := world
  unfold World.presentFromEditor
  cases presented with
  | nil => rfl
  | cons top rest =>
      dsimp only
      rw [apply_ite replacement.world]
      rfl

@[simp] theorem dismissFromTab_replaced (tab : ControllerID) :
    replacement.world (world.dismissFromTab tab) =
      (replacement.world world).dismissFromTab tab := by
  unfold World.dismissFromTab
  rw [apply_ite replacement.world]
  rfl

@[simp] theorem dismissFromEditor_replaced (editor : ControllerID) :
    replacement.world (world.dismissFromEditor editor) =
      (replacement.world world).dismissFromEditor editor := by
  obtain ⟨_, _, _, _, _, _, _, _, presented, _⟩ := world
  unfold World.dismissFromEditor
  cases presented with
  | nil => rfl
  | cons top rest =>
      dsimp only
      rw [apply_ite replacement.world, apply_ite replacement.world]
      rfl

@[simp] theorem updateAddPhoto_replaced (screen : ControllerID)
    (change : AddPhotoViewController K → AddPhotoViewController K) :
    replacement.world (world.updateAddPhoto screen change) =
      (replacement.world world).updateAddPhoto screen change := rfl

@[simp] theorem updateEditor_replaced (editor : ControllerID)
    (change : EditProfileViewController K → EditProfileViewController K) :
    replacement.world (world.updateEditor editor change) =
      (replacement.world world).updateEditor editor change := rfl

@[simp] theorem showViewController_replaced (viewcontrollerID : ViewControllerID) :
    replacement.world (world.showViewController viewcontrollerID) =
      (replacement.world world).showViewController viewcontrollerID := rfl

@[simp] theorem sceneWillConnect_replaced :
    replacement.world world.sceneWillConnect = (replacement.world world).sceneWillConnect := by
  obtain ⟨_, _, currentUser, _, _, _, _, _, _, _⟩ := world
  cases currentUser <;> rfl

@[simp] theorem fetchCurrentUser_replaced (caller : FetchCaller) :
    replacement.world (world.fetchCurrentUser caller) =
      (replacement.world world).fetchCurrentUser caller := by
  obtain ⟨_, _, currentUser, _, _, _, _, _, _, _⟩ := world
  cases currentUser with
  | none => rfl
  | some user => exact replacement.send_replaced _ _

@[simp] theorem uploadPhoto_replaced (userId postId : Option String) (image : K.Image)
    (caller : UploadCaller) :
    replacement.world (world.uploadPhoto userId postId image caller) =
      (replacement.world world).uploadPhoto userId postId image caller := by
  unfold World.uploadPhoto
  cases K.jpegData image with
  | none => rfl
  | some imageData =>
      cases photoReference userId postId with
      | none => exact replacement.terminate_replaced world
      | some reference => exact replacement.send_replaced _ _

@[simp] theorem updateUserInfo_replaced (userId username userBio fullname : String)
    (editor : ControllerID) :
    replacement.world (world.updateUserInfo userId username userBio fullname editor) =
      (replacement.world world).updateUserInfo userId username userBio fullname editor := by
  obtain ⟨_, _, currentUser, _, _, _, _, _, _, _⟩ := world
  cases currentUser with
  | none => rfl
  | some user => exact replacement.send_replaced _ _

@[simp] theorem createDatabaseUser_replaced (uid : UID) (email : Option String)
    (login : ControllerID) :
    replacement.world (world.createDatabaseUser uid email login) =
      (replacement.world world).createDatabaseUser uid email login := by
  cases email with
  | none => rfl
  | some email => exact replacement.send_replaced _ _

@[simp] theorem createPost_replaced (documentID username userId caption : String)
    (resizeImage : K.Image) (screen : ControllerID) :
    replacement.world (world.createPost documentID username userId caption resizeImage screen) =
      (replacement.world world).createPost documentID username userId caption resizeImage
        screen :=
  replacement.send_replaced _ _

@[simp] theorem postCreated_replaced (documentID : String) (resizeImage : K.Image)
    (screen : ControllerID) :
    replacement.world (world.postCreated documentID resizeImage screen) =
      (replacement.world world).postCreated documentID resizeImage screen := by
  have alive : (replacement.world world).addPhotoAlive screen = world.addPhotoAlive screen := rfl
  have uploaded := replacement.uploadPhoto_replaced world none (some documentID) resizeImage
    (.post documentID screen)
  unfold World.postCreated World.addPhotoUploadPhoto
  rw [apply_ite replacement.world, alive, ← uploaded]
  rfl

@[simp] theorem resetDraft_replaced (screen : ControllerID) :
    replacement.world (world.resetDraft screen) =
      (replacement.world world).resetDraft screen := by
  have alive : (replacement.world world).addPhotoAlive screen = world.addPhotoAlive screen := rfl
  unfold World.resetDraft
  rw [apply_ite replacement.world, alive, ← dismissFromTab_replaced]
  rfl

@[simp] theorem addPhotoImagePicked_replaced (screen : ControllerID)
    (originalImage : Option K.Image) :
    replacement.world (world.addPhotoImagePicked screen originalImage) =
      (replacement.world world).addPhotoImagePicked screen originalImage := by
  cases originalImage with
  | none => rfl
  | some image => exact replacement.dismissFromTab_replaced _ _

@[simp] theorem showAddPhoto_replaced (tabs : TabBarController K) :
    replacement.world (world.showAddPhoto tabs) =
      (replacement.world world).showAddPhoto tabs := by
  unfold World.showAddPhoto
  cases tabs.addPhoto with
  | some controller => rfl
  | none => exact replacement.fetchCurrentUser_replaced _ _

@[simp] theorem showProfile_replaced (tabs : TabBarController K) :
    replacement.world (world.showProfile tabs) =
      (replacement.world world).showProfile tabs := by
  unfold World.showProfile
  cases tabs.profile with
  | some controller => rfl
  | none => exact replacement.fetchCurrentUser_replaced _ _

@[simp] theorem signOutButtonPressed_replaced (screen : ControllerID) (error : Option String) :
    replacement.world (world.signOutButtonPressed screen error) =
      (replacement.world world).signOutButtonPressed screen error := by
  cases error <;> rfl

@[simp] theorem editButtonPressed_replaced (controller : ProfileViewController) :
    replacement.world (world.editButtonPressed controller) =
      (replacement.world world).editButtonPressed controller := by
  unfold World.editButtonPressed
  cases controller.instaUser with
  | none => exact replacement.terminate_replaced world
  | some user => rfl

@[simp] theorem editorImagePicked_replaced (editor : ControllerID)
    (originalImage : Option K.Image) :
    replacement.world (world.editorImagePicked editor originalImage) =
      (replacement.world world).editorImagePicked editor originalImage := by
  cases originalImage with
  | none => rfl
  | some image => exact replacement.dismissFromEditor_replaced _ _

@[simp] theorem doneButtonPressed_replaced (controller : EditProfileViewController K)
    (bounds : K.CGRect) :
    replacement.world (world.doneButtonPressed controller bounds) =
      (replacement.world world).doneButtonPressed controller bounds := by
  have signedIn : (replacement.world world).currentUser = world.currentUser := rfl
  cases missing : controller.usernameTextfield.isEmpty || controller.bioTextField.isEmpty ||
      controller.fullNameTF.isEmpty with
  | true =>
      simp only [World.doneButtonPressed, missing, if_true]
      exact replacement.presentFromEditor_replaced _ _ _
  | false =>
      simp only [World.doneButtonPressed, missing, if_false, Bool.false_eq_true, signedIn]
      cases world.currentUser with
      | none => rfl
      | some user =>
          dsimp only
          rw [updateUserInfo_replaced]
          cases controller.selectedImage with
          | none => rfl
          | some profilePicture =>
              unfold World.updateProfilePicture
              rw [uploadPhoto_replaced]

@[simp] theorem profilePictureUploaded_replaced (url : URL) (editor : ControllerID) :
    replacement.world (world.profilePictureUploaded url editor) =
      (replacement.world world).profilePictureUploaded url editor := by
  have alive := replacement.editorAlive_replaced world editor
  have signedIn : (replacement.world world).currentUser = world.currentUser := rfl
  unfold World.profilePictureUploaded
  rw [alive, signedIn]
  cases world.currentUser with
  | none => rfl
  | some user => exact replacement.send_replaced _ _

@[simp] theorem signUpButtonPressed_replaced (controller : LoginViewController) :
    replacement.world (world.signUpButtonPressed controller) =
      (replacement.world world).signUpButtonPressed controller := rfl

/-- The press is the one event that takes a password. -/
theorem loginButtonPressed_replaced (controller : LoginViewController) (email password : String) :
    replacement.world (world.loginButtonPressed controller email password) =
      (replacement.world world).loginButtonPressed controller email
        (replacement.password password) := by
  unfold World.loginButtonPressed World.continueLoginFlow World.signExisitingUser
    World.createNewUser
  rw [replacement.empty, apply_ite replacement.world, apply_ite replacement.world,
    presentFromLogin_replaced, send_replaced, send_replaced]
  rfl

theorem nextButtonPressed_replaced (screen : ControllerID)
    (controller : AddPhotoViewController K) (documentID : String) (bounds : K.CGRect) :
    (replacement.world world).nextButtonPressed screen controller documentID bounds =
      (world.nextButtonPressed screen controller documentID bounds).map replacement.world := by
  unfold World.nextButtonPressed
  cases controller.photoPicked with
  | none => rfl
  | some photoPicked =>
      change (if documentID ∉ world.documentIDs ∧ SlashFree documentID then _ else _) = _
      dsimp only
      by_cases fresh : documentID ∉ world.documentIDs ∧ SlashFree documentID
      · rw [if_pos fresh, if_pos fresh, Option.map_some, createPost_replaced,
          updateAddPhoto_replaced]
      · rw [if_neg fresh, if_neg fresh, Option.map_none]

/-! ### Completion handlers and blocks -/

@[simp] theorem photoUploaded_replaced (caller : UploadCaller) (result : Except String URL) :
    replacement.world (world.photoUploaded caller result) =
      (replacement.world world).photoUploaded caller result := by
  cases caller with
  | post documentID screen =>
      cases result with
      | error message => rfl
      | ok url =>
          have alive : (replacement.world world).addPhotoAlive screen =
              world.addPhotoAlive screen := rfl
          have sent := replacement.send_replaced world
            (.updatePost documentID [("photoURL", K.absoluteString url)] screen
              world.currentUser)
          unfold World.photoUploaded World.updateImageURL
          dsimp only
          rw [apply_ite replacement.world, alive, sent]
          rfl
  | profilePicture userId editor =>
      cases result with
      | error message => rfl
      | ok url => exact replacement.profilePictureUploaded_replaced world url editor

theorem callback_replaced (request : Request K) (answer : Answer) :
    replacement.world (world.callback request answer) =
      (replacement.world world).callback (replacement.request request) answer := by
  cases request with
  | createUser email password login => cases answer <;> rfl
  | signIn email password login => cases answer <;> rfl
  | setUser uid fields login writer => cases answer <;> rfl
  | getUser uid caller =>
      cases answer with
      | snapshot data => cases caller <;> rfl
      | _ => rfl
  | updateUser uid fields editor =>
      cases answer with
      | done => exact replacement.dismissFromEditor_replaced _ editor
      | _ => rfl
  | setPost documentID fields resizeImage screen writer =>
      cases answer with
      | done => exact replacement.postCreated_replaced world documentID resizeImage screen
      | _ => rfl
  | putData reference imageData caller =>
      cases answer with
      | error message => exact replacement.photoUploaded_replaced world caller _
      | done => exact replacement.send_replaced world _
      | _ => rfl
  | downloadURL reference caller =>
      cases answer with
      | error message => exact replacement.photoUploaded_replaced world caller _
      | url url => exact replacement.photoUploaded_replaced world caller _
      | _ => rfl
  | updatePost documentID fields screen writer => cases answer <;> rfl
  | commitChanges uid photoURL editor captured => cases answer <;> rfl

theorem runBlock_replaced (block : Block K) :
    replacement.world (world.runBlock block) = (replacement.world world).runBlock block := by
  cases block with
  | createUser login uid email =>
      change replacement.world (if _ then _ else _) = if _ then _ else _
      rw [apply_ite replacement.world, createDatabaseUser_replaced]
      rfl
  | navigateToInstagram login =>
      change replacement.world (if _ then _ else _) = if _ then _ else _
      rw [apply_ite replacement.world]
      rfl
  | loginAlert login title message => exact replacement.presentFromLogin_replaced world _ _
  | addPhotoAlert screen title message documentID =>
      exact replacement.presentFromTab_replaced world _ _ _
  | signOutAlert screen title message => exact replacement.presentFromTab_replaced world _ _ _
  | editorAlert editor title message => exact replacement.presentFromEditor_replaced world _ _
  | pictureAlert editor title message => exact replacement.presentFromEditor_replaced world _ _
  | resetDraft screen documentID => exact replacement.resetDraft_replaced world screen
  | commitAlert editor captured title message =>
      unfold World.runBlock
      dsimp only
      rw [apply_ite replacement.world, apply_ite replacement.world, terminate_replaced,
        presentFromEditor_replaced, editorAlive_replaced]
  | setAddPhotoUser screen user => rfl
  | setProfileUser screen user => rfl
  | previewPost screen => rfl
  | previewProfilePicture editor => rfl

/-! ### One event -/

theorem serve_replaced (index : Nat) (outcome : Outcome) :
    (replacement.world world).serve index outcome =
      (world.serve index outcome).map replacement.world := by
  have requests : (replacement.world world).requests[index]? =
      world.requests[index]?.map replacement.request := List.getElem?_map
  unfold World.serve
  rw [requests]
  cases world.requests[index]? with
  | none => rfl
  | some request =>
      change ((replacement.firebase world.firebase).perform _ _ _).map _ = _
      dsimp only [Option.map_some]
      rw [localUser_replaced, perform_replaced, Option.map_map, Option.map_map]
      congr 1
      funext performed
      obtain ⟨firebase, answer⟩ := performed
      simp only [Function.comp_apply, Replacement.world, Replacement.response, List.map_append,
        List.map_cons, List.map_nil, List.eraseIdx_map]

theorem serveOrphan_replaced (index : Nat) (outcome : Outcome) :
    (replacement.world world).serveOrphan index outcome =
      (world.serveOrphan index outcome).map replacement.world := by
  have orphans : (replacement.world world).orphans[index]? =
      world.orphans[index]?.map replacement.request := List.getElem?_map
  unfold World.serveOrphan
  rw [orphans]
  cases world.orphans[index]? with
  | none => rfl
  | some request =>
      change ((replacement.firebase world.firebase).perform _ _ _).map _ = _
      dsimp only [Option.map_some]
      rw [localUser_replaced, perform_replaced, Option.map_map, Option.map_map]
      congr 1
      funext performed
      obtain ⟨firebase, answer⟩ := performed
      simp only [Function.comp_apply, Replacement.world, List.eraseIdx_map]

theorem imagePicked_replaced (originalImage : Option K.Image) :
    (replacement.world world).imagePicked originalImage =
      (world.imagePicked originalImage).map replacement.world := by
  have picked := fun screen =>
    replacement.addPhotoImagePicked_replaced world screen originalImage
  have edited := fun editor => replacement.editorImagePicked_replaced world editor originalImage
  have dismissed := fun screen => replacement.dismissFromTab_replaced world screen
  have root : (replacement.world world).root = world.root := rfl
  have presented : (replacement.world world).presented = world.presented := rfl
  unfold World.imagePicked
  rw [root, presented]
  split
  · rw [Option.map_some, picked]
  · rw [Option.map_some, apply_ite replacement.world, dismissed]
  · rw [Option.map_some, edited]
  · rfl

/-- A press needs the same screen in front. -/
theorem map_replaced {α : Type*} (front : Option α) {act image : α → World K}
    (same : ∀ screen, replacement.world (act screen) = image screen) :
    front.map image = (front.map act).map replacement.world := by
  rw [Option.map_map]
  congr 1
  funext screen
  exact (same screen).symm

theorem bind_replaced {α : Type*} (front : Option α) {act image : α → Option (World K)}
    (same : ∀ screen, image screen = (act screen).map replacement.world) :
    front.bind image = (front.bind act).map replacement.world := by
  cases front with
  | none => rfl
  | some screen => exact same screen

theorem step_replaced :
    Commutes (step (K := K)) step replacement.world replacement.event := by
  intro before happens
  cases happens with
  | launch =>
      change (if _ then _ else _) = Option.map _ (if _ then _ else _)
      rw [apply_ite (Option.map replacement.world), Option.map_some, Option.map_none,
        sceneWillConnect_replaced]
      rfl
  | terminate =>
      change (if _ then _ else _) = Option.map _ (if _ then _ else _)
      rw [apply_ite (Option.map replacement.world), Option.map_some, Option.map_none,
        terminate_replaced]
      rfl
  | serve index outcome => exact replacement.serve_replaced before index outcome
  | serveOrphan index outcome => exact replacement.serveOrphan_replaced before index outcome
  | callback index =>
      have responses : (replacement.world before).responses[index]? =
          before.responses[index]?.map replacement.response := List.getElem?_map
      unfold step Replacement.event
      dsimp only
      rw [responses]
      cases before.responses[index]? with
      | none => rfl
      | some response =>
          obtain ⟨request, answer⟩ := response
          dsimp only [Option.map_some, Replacement.response]
          rw [callback_replaced]
          simp only [Replacement.world, List.eraseIdx_map]
  | runBlock =>
      have mainQueue : (replacement.world before).mainQueue = before.mainQueue := rfl
      unfold step Replacement.event
      dsimp only
      rw [mainQueue]
      cases before.mainQueue with
      | nil => rfl
      | cons block rest =>
          exact congrArg some (replacement.runBlock_replaced
            { before with mainQueue := rest } block).symm
  | dismissTop =>
      have presented : (replacement.world before).presented = before.presented := rfl
      unfold step Replacement.event
      dsimp only
      rw [presented]
      cases before.presented with
      | nil => rfl
      | cons screen rest => rfl
  | signUpButtonPressed => exact replacement.map_replaced before.loginInFront? (fun _ => rfl)
  | loginButtonPressed email password =>
      exact replacement.map_replaced before.loginInFront?
        (fun controller => replacement.loginButtonPressed_replaced before controller email password)
  | selectTab index =>
      have root : (replacement.world before).root = before.root := rfl
      have presented : (replacement.world before).presented = before.presented := rfl
      unfold step Replacement.event
      dsimp only
      rw [root, presented]
      split
      · rw [Option.map_some]
        congr 1
        split
        · rfl
        · exact (replacement.showAddPhoto_replaced before _).symm
        · exact (replacement.showProfile_replaced before _).symm
      · rfl
  | galleryButtonPressed =>
      exact replacement.map_replaced before.addPhotoInFront? (fun _ => rfl)
  | cameraButtonPressed => exact replacement.map_replaced before.addPhotoInFront? (fun _ => rfl)
  | cancelButtonPressed => exact replacement.map_replaced before.addPhotoInFront? (fun _ => rfl)
  | captionEdited text => exact replacement.map_replaced before.addPhotoInFront? (fun _ => rfl)
  | nextButtonPressed documentID bounds =>
      refine replacement.bind_replaced before.addPhotoInFront? (fun front => ?_)
      dsimp only
      rw [apply_ite (Option.map replacement.world), ← nextButtonPressed_replaced]
      rfl
  | sourceChosen =>
      have presented : (replacement.world before).presented = before.presented := rfl
      change (replacement.world before).sourceChosen = before.sourceChosen.map _
      unfold World.sourceChosen
      rw [presented]
      split <;> rfl
  | imagePicked originalImage => exact replacement.imagePicked_replaced before originalImage
  | editButtonPressed =>
      refine replacement.bind_replaced before.profileInFront? (fun front => ?_)
      dsimp only
      rw [apply_ite (Option.map replacement.world), Option.map_some, editButtonPressed_replaced]
      rfl
  | editProfilePictureButtonPressed =>
      refine replacement.bind_replaced before.profileInFront? (fun front => ?_)
      rw [apply_ite (Option.map replacement.world)]
      rfl
  | signOutButtonPressed error =>
      refine replacement.bind_replaced before.profileInFront? (fun front => ?_)
      dsimp only
      rw [apply_ite (Option.map replacement.world), Option.map_some, signOutButtonPressed_replaced]
      rfl
  | fieldEdited field text => exact replacement.map_replaced before.editorInFront? (fun _ => rfl)
  | changeProfilePictureButton =>
      exact replacement.map_replaced before.editorInFront?
        (fun controller => replacement.presentFromEditor_replaced before controller.id _)
  | doneButtonPressed bounds =>
      exact replacement.map_replaced before.editorInFront?
        (fun controller => replacement.doneButtonPressed_replaced before controller bounds)
  | editorCancelButtonPressed =>
      exact replacement.map_replaced before.editorInFront?
        (fun controller => replacement.dismissFromEditor_replaced before controller.id)

/-- Two nonempty passwords that are accepted alike change places. -/
def swap (old new : String) (nonempty : old.isEmpty = false ∧ new.isEmpty = false)
    (alike : K.acceptsPassword old = K.acceptsPassword new) : Replacement K where
  password := Equiv.swap old new
  injective := (Equiv.swap old new).injective
  empty := by
    intro text
    rw [Equiv.swap_apply_def]
    split
    · rename_i same
      rw [same, nonempty.1, nonempty.2]
    · split
      · rename_i same
        rw [same, nonempty.1, nonempty.2]
      · rfl
  accepted := by
    intro text
    rw [Equiv.swap_apply_def]
    split
    · rename_i same
      rw [same, alike]
    · split
      · rename_i same
        rw [same, alike]
      · rfl

end Replacement

/-- Other passwords in the same presses, accepted as the first ones are: the run goes the
same way, and the store, the session, the screens and the work under way differ in the
passwords kept with the accounts and in the sign-up and sign-in requests only.  The user
can do the same things in the end. -/
theorem passwords_unseen (replacement : Replacement K) {past : Past K} {world : World K}
    (ran : AppRun past world) :
    AppRun (past.map (fun moment => (replacement.world moment.1, replacement.event moment.2)))
        (replacement.world world) ∧
      ∀ happens, (step (replacement.world world) (replacement.event happens)).isSome =
        (step world happens).isSome := by
  constructor
  · exact replacement.step_replaced.run ran
  · exact replacement.step_replaced.possible world

/-- The sign-up of `signUpEvents` under another password leaves the same document. -/
theorem passwords_unseen_signUp :
    let replacement : Replacement Platform.plain :=
      Replacement.swap "secret" "hunter" (by decide) (by decide)
    let world : World Platform.plain :=
      (endOf (.launch :: signUpEvents "alice@mail" "secret" "alice")).2
    (replacement.world world).firebase.users "alice" = world.firebase.users "alice" ∧
      (replacement.world world).firebase.accounts.map Account.password = ["hunter"] ∧
      ∃ past, AppRun past (replacement.world world) := by
  intro replacement world
  have ran : AppRun _ world := appRun_endOf _ (by decide +kernel)
  exact ⟨rfl, by decide +kernel, _, (passwords_unseen replacement ran).1⟩

end InstagramProject
