/-
What one event does to the work under way.  `Work` is the state without the
screens; `WorkStep` lists every way an event changes it, with the facts about
the screens a branch depends on.  Invariants about requests, answers, blocks
and stored data are proved from this list and never from `step` itself.
-/

import InstagramProject.Accounting
import InstagramProject.Acts

namespace InstagramProject

open Accounting

variable {K : Platform} {β : Type}

structure Work (K : Platform) where
  firebase : Firebase K
  documentIDs : List String
  currentUser : Option UID
  requests : List (Request K)
  orphans : List (Request K)
  responses : List (Request K × Answer)
  mainQueue : List (Block K)

namespace Work

def send (work : Work K) (request : Request K) : Work K :=
  { work with requests := work.requests ++ [request] }

def async (work : Work K) (block : Block K) : Work K :=
  { work with mainQueue := work.mainQueue ++ [block] }

def terminate (work : Work K) : Work K :=
  { work with
    requests := []
    orphans := work.orphans ++ work.requests
    responses := []
    mainQueue := [] }

end Work

namespace World

/-- Forget the screens. -/
def work (world : World K) : Work K :=
  { firebase := world.firebase
    documentIDs := world.documentIDs
    currentUser := world.currentUser
    requests := world.requests
    orphans := world.orphans
    responses := world.responses
    mainQueue := world.mainQueue }

variable (world : World K)

@[simp] theorem work_async (block : Block K) :
    (world.async block).work = world.work.async block := rfl

@[simp] theorem work_updateTabs (screen : ControllerID)
    (change : TabBarController K → TabBarController K) :
    (world.updateTabs screen change).work = world.work := rfl

@[simp] theorem work_updateAddPhoto (screen : ControllerID)
    (change : AddPhotoViewController K → AddPhotoViewController K) :
    (world.updateAddPhoto screen change).work = world.work :=
  work_updateTabs _ _ _

@[simp] theorem work_updateProfile (screen : ControllerID)
    (change : ProfileViewController → ProfileViewController) :
    (world.updateProfile screen change).work = world.work :=
  work_updateTabs _ _ _

@[simp] theorem work_updateEditor (editor : ControllerID)
    (change : EditProfileViewController K → EditProfileViewController K) :
    (world.updateEditor editor change).work = world.work := rfl

@[simp] theorem work_presentFromLogin (login : ControllerID) (screen : Screen K) :
    (world.presentFromLogin login screen).work = world.work := by
  unfold presentFromLogin
  split <;> rfl

@[simp] theorem work_presentFromTab (tab : ControllerID) (index : Fin 3) (screen : Screen K) :
    (world.presentFromTab tab index screen).work = world.work := by
  unfold presentFromTab
  split
  · split <;> rfl
  · rfl

@[simp] theorem work_presentFromEditor (editor : ControllerID) (screen : Screen K) :
    (world.presentFromEditor editor screen).work = world.work := by
  unfold presentFromEditor
  split
  · split <;> rfl
  · rfl

@[simp] theorem work_dismissFromTab (tab : ControllerID) :
    (world.dismissFromTab tab).work = world.work := by
  unfold dismissFromTab
  split <;> rfl

@[simp] theorem work_dismissFromEditor (editor : ControllerID) :
    (world.dismissFromEditor editor).work = world.work := by
  unfold dismissFromEditor
  split
  · split
    · rfl
    · split <;> rfl
  · rfl

end World

/-! ### Completion handlers -/

/-- The block a handler puts on the main queue, for the handlers that do only
that. -/
def handlerBlock (request : Request K) (answer : Answer) : Option (Block K) :=
  match request, answer with
  | .createUser _ _ login, .account uid email => some (.createUser login uid email)
  | .signIn _ _ login, .account _ _ => some (.navigateToInstagram login)
  | .setUser _ _ login _, .error message => some (.loginAlert login "unable to create a user" message)
  | .setUser _ _ login _, .done => some (.navigateToInstagram login)
  | .getUser uid caller, .snapshot data =>
      let user : FetchedUser :=
        { user := (data.map InstagramUser.ofDocument).getD InstagramUser.empty
          key := uid
          stored := data.isSome }
      match caller with
      | .addPhoto screen => some (.setAddPhotoUser screen user)
      | .profile screen => some (.setProfileUser screen user)
  | .updateUser _ _ editor, .error message =>
      some (.editorAlert editor "Failed to update profile" message)
  | .updateUser _ _ editor, .done => some (.editorAlert editor "Profile updated!" "")
  | .setPost documentID _ _ screen _, .error message =>
      some (.addPhotoAlert screen "Could not create post" message documentID)
  | .putData _ _ caller, .error message | .downloadURL _ caller, .error message =>
      match caller with
      | .post documentID screen =>
          some (.addPhotoAlert screen "Could not upload photo" message documentID)
      | .profilePicture _ editor => some (.pictureAlert editor "Failed to upload photo" message)
  | .updatePost documentID _ screen _, .error message =>
      some (.addPhotoAlert screen "Failed to update item" message documentID)
  | .updatePost documentID _ screen _, .done => some (.resetDraft screen documentID)
  | .commitChanges _ _ editor captured, .error message =>
      some (.commitAlert editor captured "Could not save changes" message)
  | .commitChanges _ _ editor captured, .done =>
      some (.commitAlert editor captured "Profile Picture Updated" "")
  | _, _ => none

/-- `handlerBlock` as a relation, one constructor for each block a handler queues. -/
inductive Queues : Request K → Answer → Block K → Prop
  | accountCreated {email password : String} {login : ControllerID} {uid : UID}
      {address : Option String} :
      Queues (.createUser email password login) (.account uid address)
        (.createUser login uid address)
  | signedIn {email password : String} {login : ControllerID} {uid : UID}
      {address : Option String} :
      Queues (.signIn email password login) (.account uid address) (.navigateToInstagram login)
  | userNotCreated {uid : UID} {fields : Fields} {login : ControllerID} {writer : Option UID}
      {message : String} :
      Queues (.setUser uid fields login writer) (.error message)
        (.loginAlert login "unable to create a user" message)
  | userCreated {uid : UID} {fields : Fields} {login : ControllerID} {writer : Option UID} :
      Queues (.setUser uid fields login writer) .done (.navigateToInstagram login)
  | addPhotoFetched {uid : UID} {screen : ControllerID} {data : Option Document} :
      Queues (.getUser uid (.addPhoto screen)) (.snapshot data)
        (.setAddPhotoUser screen
          { user := (data.map InstagramUser.ofDocument).getD InstagramUser.empty
            key := uid
            stored := data.isSome })
  | profileFetched {uid : UID} {screen : ControllerID} {data : Option Document} :
      Queues (.getUser uid (.profile screen)) (.snapshot data)
        (.setProfileUser screen
          { user := (data.map InstagramUser.ofDocument).getD InstagramUser.empty
            key := uid
            stored := data.isSome })
  | textsNotSaved {uid : UID} {fields : Fields} {editor : ControllerID} {message : String} :
      Queues (.updateUser uid fields editor) (.error message)
        (.editorAlert editor "Failed to update profile" message)
  | textsSaved {uid : UID} {fields : Fields} {editor : ControllerID} :
      Queues (.updateUser uid fields editor) .done (.editorAlert editor "Profile updated!" "")
  | postNotCreated {documentID : String} {fields : Fields} {resizeImage : K.Image}
      {screen : ControllerID} {writer : Option UID} {message : String} :
      Queues (.setPost documentID fields resizeImage screen writer) (.error message)
        (.addPhotoAlert screen "Could not create post" message documentID)
  | photoNotStored {reference documentID : String} {imageData : K.Data} {screen : ControllerID}
      {message : String} :
      Queues (.putData reference imageData (.post documentID screen)) (.error message)
        (.addPhotoAlert screen "Could not upload photo" message documentID)
  | photoNotLocated {reference documentID : String} {screen : ControllerID} {message : String} :
      Queues (.downloadURL reference (.post documentID screen)) (.error message)
        (.addPhotoAlert screen "Could not upload photo" message documentID)
  | pictureNotStored {reference : String} {userId : UID} {imageData : K.Data}
      {editor : ControllerID} {message : String} :
      Queues (.putData reference imageData (.profilePicture userId editor)) (.error message)
        (.pictureAlert editor "Failed to upload photo" message)
  | pictureNotLocated {reference : String} {userId : UID} {editor : ControllerID}
      {message : String} :
      Queues (.downloadURL reference (.profilePicture userId editor)) (.error message)
        (.pictureAlert editor "Failed to upload photo" message)
  | photoNotLinked {documentID : String} {fields : Fields} {screen : ControllerID}
      {writer : Option UID} {message : String} :
      Queues (.updatePost documentID fields screen writer) (.error message)
        (.addPhotoAlert screen "Failed to update item" message documentID)
  | photoLinked {documentID : String} {fields : Fields} {screen : ControllerID}
      {writer : Option UID} :
      Queues (.updatePost documentID fields screen writer) .done (.resetDraft screen documentID)
  | notCommitted {uid : UID} {photoURL : URL} {editor : ControllerID} {captured : Bool}
      {message : String} :
      Queues (.commitChanges uid photoURL editor captured) (.error message)
        (.commitAlert editor captured "Could not save changes" message)
  | committed {uid : UID} {photoURL : URL} {editor : ControllerID} {captured : Bool} :
      Queues (.commitChanges uid photoURL editor captured) .done
        (.commitAlert editor captured "Profile Picture Updated" "")

theorem queues_of_handlerBlock {request : Request K} {answer : Answer} {block : Block K}
    (handled : handlerBlock request answer = some block) : Queues request answer block := by
  cases request with
  | getUser uid caller => cases answer <;> cases caller <;> cases handled <;> constructor
  | putData reference imageData caller =>
      cases answer <;> cases caller <;> cases handled <;> constructor
  | downloadURL reference caller =>
      cases answer <;> cases caller <;> cases handled <;> constructor
  | _ => cases answer <;> cases handled <;> constructor

/-- Printed failures, and answers no service gives to the request. -/
def Request.ignores (request : Request K) (answer : Answer) : Bool :=
  match request, answer with
  | .setPost _ _ _ _ _, .done => false
  | .putData _ _ _, .done => false
  | .downloadURL _ _, .url _ => false
  | request, answer => (handlerBlock request answer).isNone

/-- What running a completion handler in a state adds to its work. -/
inductive Answered (world : World K) : Request K → Answer → Work K → Prop
  | ignored {request : Request K} {answer : Answer} :
      request.ignores answer = true → Answered world request answer world.work
  | queued {request : Request K} {answer : Answer} {block : Block K} :
      handlerBlock request answer = some block →
      Answered world request answer (world.work.async block)
  | uploading {documentID : String} {fields : Fields} {resizeImage : K.Image}
      {screen : ControllerID} {writer : Option UID} {imageData : K.Data} :
      world.addPhotoAlive screen = true → K.jpegData resizeImage = some imageData →
      Answered world (.setPost documentID fields resizeImage screen writer) .done
        (world.work.send
          (.putData (postPhotoPath documentID) imageData (.post documentID screen)))
  | notUploading {documentID : String} {fields : Fields} {resizeImage : K.Image}
      {screen : ControllerID} {writer : Option UID} :
      world.addPhotoAlive screen = false ∨ K.jpegData resizeImage = none →
      Answered world (.setPost documentID fields resizeImage screen writer) .done world.work
  | locating {reference : String} {imageData : K.Data} {caller : UploadCaller} :
      Answered world (.putData reference imageData caller) .done
        (world.work.send (.downloadURL reference caller))
  | linking {reference documentID : String} {screen : ControllerID} {url : URL} :
      world.addPhotoAlive screen = true →
      Answered world (.downloadURL reference (.post documentID screen)) (.url url)
        (world.work.send
          (.updatePost documentID [("photoURL", K.absoluteString url)] screen
            world.currentUser))
  | notLinking {reference documentID : String} {screen : ControllerID} {url : URL} :
      world.addPhotoAlive screen = false →
      Answered world (.downloadURL reference (.post documentID screen)) (.url url) world.work
  | committing {reference : String} {userId user : UID} {editor : ControllerID} {url : URL}
      {captured : Bool} :
      world.currentUser = some user →
      Answered world (.downloadURL reference (.profilePicture userId editor)) (.url url)
        (world.work.send (.commitChanges user url editor captured))
  | notCommitting {reference : String} {userId : UID} {editor : ControllerID} {url : URL} :
      world.currentUser = none →
      Answered world (.downloadURL reference (.profilePicture userId editor)) (.url url)
        world.work

def Block.createsUser : Block K → Bool
  | .createUser _ _ _ => true
  | _ => false

/-- What running a main-queue block in a state does to its work. -/
inductive Ran (world : World K) : Block K → Work K → Prop
  | creating {login : ControllerID} {uid : UID} {email : String} :
      world.isLogin login = true →
      Ran world (.createUser login uid (some email))
        (world.work.send
          (.setUser uid [("userEmail", email), ("userId", uid)] login world.currentUser))
  | notCreating {login : ControllerID} {uid : UID} {email : Option String} :
      world.isLogin login = false ∨ email = none →
      Ran world (.createUser login uid email) world.work
  | reset {screen : ControllerID} {documentID : String} :
      Ran world (.resetDraft screen documentID) (world.work.async (.previewPost screen))
  | shown {block : Block K} :
      block.createsUser = false → Ran world block world.work

/-! ### What a press starts -/

/-- A publication as its press fixes it. -/
structure Publication (K : Platform) where
  documentID : String
  username : String
  userId : String
  caption : String
  image : K.Image
  screen : ControllerID

def Publication.fields (publication : Publication K) : Fields :=
  [("username", publication.username), ("userId", publication.userId),
    ("caption", publication.caption)]

/-- A profile save as its press fixes it, with the encoded picture to upload. -/
structure Save (K : Platform) where
  user : UID
  username : String
  userBio : String
  userFullName : String
  picture : Option K.Data
  editor : ControllerID

def Save.fields (save : Save K) : Fields :=
  [("username", save.username), ("userBio", save.userBio), ("userFullName", save.userFullName)]

namespace World

/-- The publication an event starts. -/
def publication? (world : World K) (event : Event K) : Option (Publication K) :=
  match event with
  | .nextButtonPressed documentID bounds =>
      world.addPhotoInFront?.bind (fun (tabs, controller) =>
        if controller.nextButtonIsEnabled then
          controller.photoPicked.map (fun photoPicked =>
            { documentID := documentID
              username := controller.username
              userId := controller.userId
              caption := controller.captionTF
              image := K.resizeImage photoPicked bounds
              screen := tabs.id })
        else none)
  | _ => none

/-- The profile save an event starts. -/
def save? (world : World K) (event : Event K) : Option (Save K) :=
  match event with
  | .doneButtonPressed bounds =>
      world.editorInFront?.bind (fun controller =>
        if controller.usernameTextfield.isEmpty || controller.bioTextField.isEmpty ||
            controller.fullNameTF.isEmpty then none
        else
          world.currentUser.map (fun user =>
            { user := user
              username := controller.usernameTextfield
              userBio := controller.bioTextField
              userFullName := controller.fullNameTF
              picture := controller.selectedImage.bind (fun profilePicture =>
                K.jpegData (K.resizeImage profilePicture bounds))
              editor := controller.id }))
  | _ => none

end World

namespace Work

def publish (work : Work K) (publication : Publication K) : Work K :=
  { work with documentIDs := publication.documentID :: work.documentIDs }.send
    (.setPost publication.documentID publication.fields publication.image publication.screen
      work.currentUser)

def save (work : Work K) (save : Save K) : Work K :=
  (match save.picture with
    | none => work
    | some imageData =>
        work.send (.putData (profilePhotoPath save.user) imageData
          (.profilePicture save.user save.editor))).send
    (.updateUser save.user save.fields save.editor)

section Save

variable (work : Work K) (entered : Save K)

@[simp] theorem save_firebase : (work.save entered).firebase = work.firebase := by
  unfold save
  split <;> rfl

@[simp] theorem save_orphans : (work.save entered).orphans = work.orphans := by
  unfold save
  split <;> rfl

@[simp] theorem save_responses : (work.save entered).responses = work.responses := by
  unfold save
  split <;> rfl

@[simp] theorem save_mainQueue : (work.save entered).mainQueue = work.mainQueue := by
  unfold save
  split <;> rfl

@[simp] theorem save_currentUser : (work.save entered).currentUser = work.currentUser := by
  unfold save
  split <;> rfl

end Save

def serve (work : Work K) (index : Nat) (request : Request K) (firebase : Firebase K)
    (answer : Answer) : Work K :=
  { work with
    firebase := firebase
    currentUser :=
      match answer with
      | .account uid _ => some uid
      | _ => work.currentUser
    requests := work.requests.eraseIdx index
    responses := work.responses ++ [(request, answer)] }

def serveOrphan (work : Work K) (index : Nat) (firebase : Firebase K) : Work K :=
  { work with
    firebase := firebase
    orphans := work.orphans.eraseIdx index }

end Work

/-! ### One event -/

/-- Requests that store nothing in a document or an object. -/
def Request.isQuestion : Request K → Bool
  | .createUser _ _ _ | .signIn _ _ _ | .getUser _ _ => true
  | _ => false

/-- Blocks that only show something. -/
def Block.isDisplay : Block K → Bool
  | .previewPost _ | .previewProfilePicture _ | .signOutAlert _ _ _ => true
  | _ => false

/-- A service or the main queue acting, not the user or the system. -/
def Event.isDelivery : Event K → Bool
  | .serve _ _ | .serveOrphan _ _ | .callback _ | .runBlock => true
  | _ => false

/-- The process ends: the system ends it, or a handler traps. -/
def World.endsProcess (world : World K) : Event K → Bool
  | .terminate => true
  | .editButtonPressed =>
      match world.profileInFront? with
      | some (_, controller) => controller.instaUser.isNone
      | none => false
  | .runBlock =>
      match world.mainQueue with
      | .commitAlert editor captured _ _ :: _ => captured && !world.editorAlive editor
      | _ => false
  | _ => false

structure Idle (world : World K) (event : Event K) : Prop where
  noPublication : world.publication? event = none
  noSave : world.save? event = none
  noDelivery : event.isDelivery = false

/-- Every way an event changes the work under way. -/
inductive WorkStep (before : World K) : Event K → Work K → Prop
  | screens {event : Event K} : Idle before event → WorkStep before event before.work
  | ended {event : Event K} :
      before.endsProcess event = true → WorkStep before event before.work.terminate
  | asked {event : Event K} {request : Request K} :
      Idle before event → request.isQuestion = true →
      WorkStep before event (before.work.send request)
  | displayed {event : Event K} {block : Block K} :
      Idle before event → block.isDisplay = true →
      WorkStep before event (before.work.async block)
  | signedOut :
      WorkStep before (.signOutButtonPressed none) { before.work with currentUser := none }
  | published {event : Event K} {publication : Publication K} :
      before.publication? event = some publication → before.save? event = none →
      publication.documentID ∉ before.documentIDs → SlashFree publication.documentID →
      event.isDelivery = false →
      WorkStep before event (before.work.publish publication)
  | saved {event : Event K} {save : Save K} :
      before.save? event = some save → before.publication? event = none →
      event.isDelivery = false →
      WorkStep before event (before.work.save save)
  | served {index : Nat} {outcome : Outcome} {request : Request K} {firebase : Firebase K}
      {answer : Answer} :
      before.requests[index]? = some request →
      before.firebase.perform before.localUser request outcome = some (firebase, answer) →
      WorkStep before (.serve index outcome) (before.work.serve index request firebase answer)
  | servedOrphan {index : Nat} {outcome : Outcome} {request : Request K}
      {firebase : Firebase K} {answer : Answer} :
      before.orphans[index]? = some request →
      before.firebase.perform before.localUser request outcome = some (firebase, answer) →
      WorkStep before (.serveOrphan index outcome) (before.work.serveOrphan index firebase)
  | called {index : Nat} {request : Request K} {answer : Answer} {after : Work K} :
      before.responses[index]? = some (request, answer) →
      Answered { before with responses := before.responses.eraseIdx index } request answer after →
      WorkStep before (.callback index) after
  | ran {block : Block K} {rest : List (Block K)} {after : Work K} :
      before.mainQueue = block :: rest →
      Ran { before with mainQueue := rest } block after →
      WorkStep before .runBlock after

/-! ### Every event is in the list -/

theorem answered_postCreated (world : World K) (documentID : String) (fields : Fields)
    (resizeImage : K.Image) (screen : ControllerID) (writer : Option UID) :
    Answered world (.setPost documentID fields resizeImage screen writer) .done
      (world.postCreated documentID resizeImage screen).work := by
  unfold World.postCreated
  cases alive : world.addPhotoAlive screen with
  | false => exact .notUploading (.inl alive)
  | true =>
      rw [if_pos rfl, World.work_updateTabs]
      unfold World.addPhotoUploadPhoto World.uploadPhoto
      cases encoded : K.jpegData resizeImage with
      | none => exact .notUploading (.inr encoded)
      | some imageData => exact .uploading alive encoded

theorem answered_photoUploaded (world : World K) (reference : String) (caller : UploadCaller)
    (url : URL) :
    Answered world (.downloadURL reference caller) (.url url)
      (world.photoUploaded caller (.ok url)).work := by
  cases caller with
  | post documentID screen =>
      change Answered world _ _ (if world.addPhotoAlive screen then
        world.updateImageURL url documentID screen else world).work
      cases alive : world.addPhotoAlive screen with
      | false => exact .notLinking alive
      | true => exact .linking alive
  | profilePicture userId editor =>
      change Answered world _ _ (world.profilePictureUploaded url editor).work
      unfold World.profilePictureUploaded
      cases signedIn : world.currentUser with
      | none => exact .notCommitting signedIn
      | some user => exact .committing signedIn

theorem answered_callback (world : World K) (request : Request K) (answer : Answer) :
    Answered world request answer (world.callback request answer).work := by
  cases request with
  | createUser email password login =>
      cases answer with
      | account uid email => exact .queued rfl
      | _ => exact .ignored rfl
  | signIn email password login =>
      cases answer with
      | account uid email => exact .queued rfl
      | _ => exact .ignored rfl
  | setUser uid fields login =>
      cases answer with
      | error message => exact .queued rfl
      | done => exact .queued rfl
      | _ => exact .ignored rfl
  | getUser uid caller =>
      cases answer with
      | snapshot data => cases caller <;> exact .queued rfl
      | _ => exact .ignored rfl
  | updateUser uid fields editor =>
      cases answer with
      | error message => exact .queued rfl
      | done =>
          change Answered world _ _ (World.dismissFromEditor _ editor).work
          rw [World.work_dismissFromEditor]
          exact .queued rfl
      | _ => exact .ignored rfl
  | setPost documentID fields resizeImage screen writer =>
      cases answer with
      | error message => exact .queued rfl
      | done => exact answered_postCreated world documentID fields resizeImage screen writer
      | _ => exact .ignored rfl
  | putData reference imageData caller =>
      cases answer with
      | error message => cases caller <;> exact .queued rfl
      | done => exact .locating
      | _ => exact .ignored rfl
  | downloadURL reference caller =>
      cases answer with
      | error message => cases caller <;> exact .queued rfl
      | url url => exact answered_photoUploaded world reference caller url
      | _ => exact .ignored rfl
  | updatePost documentID fields screen =>
      cases answer with
      | error message => exact .queued rfl
      | done => exact .queued rfl
      | _ => exact .ignored rfl
  | commitChanges uid photoURL editor captured =>
      cases answer with
      | error message => exact .queued rfl
      | done => exact .queued rfl
      | _ => exact .ignored rfl

theorem ran_createUser (world : World K) (login : ControllerID) (uid : UID)
    (email : Option String) :
    Ran world (.createUser login uid email)
      (world.runBlock (.createUser login uid email)).work := by
  change Ran world _ (if world.isLogin login then
    world.createDatabaseUser uid email login else world).work
  cases present : world.isLogin login with
  | false => exact .notCreating (.inl present)
  | true =>
      cases email with
      | none => exact .notCreating (.inr rfl)
      | some email => exact .creating present

theorem ran_resetDraft (world : World K) (screen : ControllerID) (documentID : String) :
    Ran world (.resetDraft screen documentID)
      (world.runBlock (.resetDraft screen documentID)).work := by
  change Ran world _ (world.resetDraft screen).work
  unfold World.resetDraft
  split
  · simp only [World.selectPostImage, World.work_updateAddPhoto, World.work_async,
      World.work_dismissFromTab]
    exact .reset
  · exact .shown rfl

theorem ran_commitAlert (world : World K) (editor : ControllerID) (captured : Bool)
    (title message : String) (alive : captured = true → world.editorAlive editor = true) :
    Ran world (.commitAlert editor captured title message)
      (world.runBlock (.commitAlert editor captured title message)).work := by
  change Ran world _ (if captured then
    if world.editorAlive editor then world.presentFromEditor editor (.alert title message)
    else world.terminate else world).work
  split
  · rename_i held
    rw [if_pos (alive held), World.work_presentFromEditor]
    exact .shown rfl
  · exact .shown rfl

theorem ran_runBlock (world : World K) (block : Block K)
    (alive : ∀ editor title message, block = .commitAlert editor true title message →
      world.editorAlive editor = true) :
    Ran world block (world.runBlock block).work := by
  cases block with
  | createUser login uid email => exact ran_createUser world login uid email
  | resetDraft screen documentID => exact ran_resetDraft world screen documentID
  | commitAlert editor captured title message =>
      apply ran_commitAlert world editor captured title message
      rintro rfl
      exact alive editor title message rfl
  | navigateToInstagram login =>
      have same : (world.runBlock (.navigateToInstagram login)).work = world.work := by
        change (if world.isLogin login then world.navigateToInstagram else world).work = _
        split <;> rfl
      rw [same]
      exact .shown rfl
  | _ =>
      simp only [World.runBlock, World.work_presentFromLogin, World.work_updateAddPhoto,
        World.work_updateProfile, World.work_presentFromTab, World.work_updateEditor,
        World.work_presentFromEditor]
      exact .shown rfl

theorem fetchCurrentUser_work (world : World K) (caller : FetchCaller) :
    (world.fetchCurrentUser caller).work = world.work ∨
      ∃ user, (world.fetchCurrentUser caller).work = world.work.send (.getUser user caller) := by
  unfold World.fetchCurrentUser
  split
  · exact .inl rfl
  · exact .inr ⟨_, rfl⟩

theorem createPost_work (world : World K) (publication : Publication K) :
    (world.createPost publication.documentID publication.username publication.userId
      publication.caption publication.image publication.screen).work =
      world.work.publish publication :=
  rfl

private theorem idle_of_event {world : World K} {event : Event K}
    (noPress : ∀ documentID bounds, event ≠ .nextButtonPressed documentID bounds)
    (noDone : ∀ bounds, event ≠ .doneButtonPressed bounds)
    (noDelivery : event.isDelivery = false) : Idle world event := by
  refine ⟨?_, ?_, noDelivery⟩
  · unfold World.publication?
    split
    · exact absurd rfl (noPress _ _)
    · rfl
  · unfold World.save?
    split
    · exact absurd rfl (noDone _)
    · rfl

private theorem idle_selectTab (world : World K) (index : Fin 3) : Idle world (.selectTab index) :=
  idle_of_event (fun _ _ => nofun) (fun _ => nofun) rfl

private theorem workStep_loaded {world before : World K} {index : Fin 3}
    (same : before.work = world.work) (caller : FetchCaller) :
    WorkStep world (.selectTab index) (before.fetchCurrentUser caller).work := by
  rcases fetchCurrentUser_work before caller with unchanged | ⟨user, sent⟩
  · rw [unchanged, same]
    exact .screens (idle_selectTab world index)
  · rw [sent, same]
    exact .asked (idle_selectTab world index) rfl

private theorem workStep_selectTab {world after : World K} {index : Fin 3}
    (acts : Acts world (.selectTab index) after) :
    WorkStep world (.selectTab index) after.work := by
  cases acts with
  | feedSelected _root _presented => exact .screens (idle_selectTab world 0)
  | addPhotoSelected _root _presented =>
      unfold World.showAddPhoto
      split
      · exact .screens (idle_selectTab world 1)
      · refine workStep_loaded ?_ _
        rfl
  | profileSelected _root _presented =>
      unfold World.showProfile
      split
      · exact .screens (idle_selectTab world 2)
      · refine workStep_loaded ?_ _
        rfl

private theorem workStep_nextButtonPressed {world after : World K} {documentID : String}
    {bounds : K.CGRect} (acts : Acts world (.nextButtonPressed documentID bounds) after) :
    WorkStep world (.nextButtonPressed documentID bounds) after.work := by
  cases acts with
  | postIncomplete inFront enabled missing =>
      refine .screens ⟨?_, rfl, rfl⟩
      simp only [World.publication?, inFront, Option.bind_some, enabled, if_true, missing,
        Option.map_none]
  | @postPressed _ _ tabs controller photoPicked inFront enabled picked fresh slashFree =>
      let publication : Publication K :=
        { documentID := documentID
          username := controller.username
          userId := controller.userId
          caption := controller.captionTF
          image := K.resizeImage photoPicked bounds
          screen := tabs.id }
      have started : world.publication? (.nextButtonPressed documentID bounds) =
          some publication := by
        simp only [World.publication?, inFront, Option.bind_some, enabled, if_true, picked,
          Option.map_some, publication]
      rw [createPost_work _ publication, World.work_updateAddPhoto]
      exact .published started rfl fresh slashFree rfl

private theorem updateUserInfo_work {world : World K} {user : UID}
    (signedIn : world.currentUser = some user) (userId username userBio fullname : String)
    (editor : ControllerID) :
    (world.updateUserInfo userId username userBio fullname editor).work =
      world.work.send (.updateUser user
        [("username", username), ("userBio", userBio), ("userFullName", fullname)] editor) := by
  unfold World.updateUserInfo
  rw [signedIn]
  rfl

private theorem updateProfilePicture_work (world : World K) (userId : UID)
    (selectedImage : K.Image) (editor : ControllerID) :
    (world.updateProfilePicture userId selectedImage editor).currentUser = world.currentUser ∧
      (world.updateProfilePicture userId selectedImage editor).work =
        match K.jpegData selectedImage with
        | none => world.work
        | some imageData =>
            world.work.send (.putData (profilePhotoPath userId) imageData
              (.profilePicture userId editor)) := by
  unfold World.updateProfilePicture World.uploadPhoto
  cases K.jpegData selectedImage with
  | none => exact ⟨rfl, rfl⟩
  | some imageData => exact ⟨rfl, rfl⟩

private theorem workStep_doneButtonPressed {world : World K} {bounds : K.CGRect}
    {controller : EditProfileViewController K}
    (inFront : world.editorInFront? = some controller) :
    WorkStep world (.doneButtonPressed bounds)
      (world.doneButtonPressed controller bounds).work := by
  unfold World.doneButtonPressed
  split
  · rename_i missing
    rw [World.work_presentFromEditor]
    refine .screens ⟨rfl, ?_, rfl⟩
    simp only [World.save?, inFront, Option.bind_some, missing, if_true]
  · rename_i complete
    cases signedIn : world.currentUser with
    | none =>
        refine .screens ⟨rfl, ?_, rfl⟩
        simp only [World.save?, inFront, Option.bind_some, complete, if_false, signedIn,
          Option.map_none, Bool.false_eq_true]
    | some user =>
        let save : Save K :=
          { user := user
            username := controller.usernameTextfield
            userBio := controller.bioTextField
            userFullName := controller.fullNameTF
            picture := controller.selectedImage.bind (fun profilePicture =>
              K.jpegData (K.resizeImage profilePicture bounds))
            editor := controller.id }
        have started : world.save? (.doneButtonPressed bounds) = some save := by
          simp only [World.save?, inFront, Option.bind_some, complete, if_false, signedIn,
            Option.map_some, Bool.false_eq_true, save]
        have result : WorkStep world (.doneButtonPressed bounds) (world.work.save save) :=
          .saved started rfl rfl
        dsimp only
        cases selected : controller.selectedImage with
        | none =>
            rw [updateUserInfo_work signedIn]
            simp only [Work.save, save, selected, Option.bind_none] at result
            exact result
        | some profilePicture =>
            obtain ⟨sameUser, uploaded⟩ := updateProfilePicture_work world user
              (K.resizeImage profilePicture bounds) controller.id
            rw [updateUserInfo_work (sameUser.trans signedIn), uploaded]
            simp only [Work.save, save, selected, Option.bind_some] at result
            exact result

/-- A picked image is shown later. -/
theorem work_of_imagePicked {world after : World K} {originalImage : Option K.Image}
    (stepped : step world (.imagePicked originalImage) = some after) :
    after.work = world.work ∨
      ∃ block, block.isDisplay = true ∧ after.work = world.work.async block := by
  cases acts_of_step stepped with
  | @postImagePicked _ tabs rest _root _presented =>
      cases originalImage with
      | none => exact .inl rfl
      | some image =>
          right
          refine ⟨.previewPost tabs.id, rfl, ?_⟩
          simp only [World.addPhotoImagePicked, World.selectPostImage, World.work_dismissFromTab,
            World.work_updateAddPhoto, World.work_async]
  | profileImagePicked _root _presented =>
      left
      split
      · exact World.work_dismissFromTab _ _
      · rfl
  | @editorImagePicked _ controller rest _presented =>
      cases originalImage with
      | none => exact .inl rfl
      | some image =>
          right
          refine ⟨.previewProfilePicture controller.id, rfl, ?_⟩
          simp only [World.editorImagePicked, World.work_dismissFromEditor, World.work_async,
            World.work_updateEditor]

/-- The block about to run does not hold the editor it reports to. -/
theorem World.editorAlive_commitAlert {world : World K} {editor : ControllerID}
    {captured : Bool} {title message : String} {rest : List (Block K)}
    (queued : world.mainQueue = .commitAlert editor captured title message :: rest) :
    world.editorAlive editor = World.editorAlive { world with mainQueue := rest } editor := by
  simp only [World.editorAlive, queued, List.any_cons, Block.retainsEditor, Bool.false_or]

private theorem terminate_of_runBlock {world : World K} {block : Block K} {rest : List (Block K)}
    (queued : world.mainQueue = block :: rest) (ends : world.endsProcess .runBlock = true) :
    World.runBlock { world with mainQueue := rest } block = world.terminate := by
  simp only [World.endsProcess, queued] at ends
  split at ends
  · rename_i editor captured title message tail same
    cases same
    rw [Bool.and_eq_true, Bool.not_eq_true', World.editorAlive_commitAlert queued] at ends
    simp only [World.runBlock, ends.1, ends.2, if_true, Bool.false_eq_true, if_false]
    rfl
  · cases ends

private theorem workStep_runBlock {world : World K} {block : Block K} {rest : List (Block K)}
    (queued : world.mainQueue = block :: rest) :
    WorkStep world .runBlock (World.runBlock { world with mainQueue := rest } block).work := by
  cases ends : world.endsProcess .runBlock with
  | false =>
      refine .ran queued (ran_runBlock _ _ ?_)
      rintro editor title message rfl
      simp only [World.endsProcess, queued, Bool.true_and, Bool.not_eq_false'] at ends
      rw [← World.editorAlive_commitAlert queued]
      exact ends
  | true =>
      rw [terminate_of_runBlock queued ends]
      exact .ended ends

/-- Acts of the user that only move between screens or fill them. -/
def Event.isQuiet : Event K → Bool
  | .launch | .dismissTop | .signUpButtonPressed | .galleryButtonPressed | .cameraButtonPressed
  | .cancelButtonPressed | .captionEdited _ | .sourceChosen | .editProfilePictureButtonPressed
  | .fieldEdited _ _ | .changeProfilePictureButton | .editorCancelButtonPressed => true
  | _ => false

theorem work_of_quiet {world after : World K} {event : Event K}
    (stepped : step world event = some after) (quiet : event.isQuiet = true) :
    after.work = world.work := by
  cases acts_of_step stepped with
  | captioned _inFront => exact World.work_updateAddPhoto _ _ _
  | changePicturePressed _inFront => exact World.work_presentFromEditor _ _ _
  | editorCancelled _inFront => exact World.work_dismissFromEditor _ _
  | feedLaunched | loginLaunched | dismissed | signUpPressed | galleryPressed | cameraPressed
  | cancelled | sourceChosen | editPicturePressed | fieldEdited => rfl
  | _ => cases quiet

theorem workStep_of_step {world after : World K} {event : Event K}
    (stepped : step world event = some after) : WorkStep world event after.work := by
  cases acts_of_step stepped with
  | terminated _running => exact .ended rfl
  | served found performed => exact .served found performed
  | servedOrphan found performed => exact .servedOrphan found performed
  | called found => exact .called found (answered_callback _ _ _)
  | ran queued => exact workStep_runBlock queued
  | loginIncomplete _inFront _missing =>
      rw [World.work_presentFromLogin]
      exact .screens (idle_of_event (fun _ _ => nofun) (fun _ => nofun) rfl)
  | signInAsked _inFront _complete _existing =>
      exact .asked (idle_of_event (fun _ _ => nofun) (fun _ => nofun) rfl) rfl
  | signUpAsked _inFront _complete _new =>
      exact .asked (idle_of_event (fun _ _ => nofun) (fun _ => nofun) rfl) rfl
  | feedSelected | addPhotoSelected | profileSelected =>
      exact workStep_selectTab (acts_of_step stepped)
  | postIncomplete | postPressed => exact workStep_nextButtonPressed (acts_of_step stepped)
  | postImagePicked | profileImagePicked | editorImagePicked =>
      rcases work_of_imagePicked stepped with same | ⟨block, display, queued⟩
      · rw [same]
        exact .screens (idle_of_event (fun _ _ => nofun) (fun _ => nofun) rfl)
      · rw [queued]
        exact .displayed (idle_of_event (fun _ _ => nofun) (fun _ => nofun) rfl) display
  | editTrapped inFront _installed missing =>
      refine .ended ?_
      simp only [World.endsProcess, inFront, missing, Option.isNone_none]
  | signedOut _inFront _installed => exact .signedOut
  | signOutFailed _inFront _installed =>
      exact .displayed (idle_of_event (fun _ _ => nofun) (fun _ => nofun) rfl) rfl
  | donePressed inFront => exact workStep_doneButtonPressed inFront
  | editorOpened _inFront _installed _arrived =>
      exact .screens (idle_of_event (fun _ _ => nofun) (fun _ => nofun) rfl)
  | _ =>
      rw [work_of_quiet stepped rfl]
      exact .screens (idle_of_event (fun _ _ => nofun) (fun _ => nofun) rfl)

theorem terminated_of_step {world after : World K} {event : Event K}
    (stepped : step world event = some after) (ends : world.endsProcess event = true) :
    after = world.terminate := by
  cases acts_of_step stepped with
  | terminated _running => rfl
  | editTrapped _inFront _installed _missing => rfl
  | editorOpened inFront _installed arrived =>
      simp only [World.endsProcess, inFront, arrived, Option.isNone_some, Bool.false_eq_true] at ends
  | ran queued => exact terminate_of_runBlock queued ends
  | _ => cases ends

end InstagramProject
