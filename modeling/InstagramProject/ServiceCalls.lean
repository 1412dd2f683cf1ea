/-
The service operations with the closures they hand to Firebase.  `Services` has
what an operation sends; here is the whole body, to the call of its completion
handler, and what the body does in the app.
-/

import InstagramProject.App
import InstagramProject.Callbacks

namespace InstagramProject

open Callback

variable {K : Platform}

structure AuthDataResult where
  uid : UID
  email : Option String

structure DocumentSnapshot where
  data : Option Document

/-- What the closure of a request gets on success; `Unit` where it looks only at
the error. -/
def Request.Result : Request K → Type
  | .createUser _ _ _ | .signIn _ _ _ => AuthDataResult
  | .getUser _ _ => DocumentSnapshot
  | .downloadURL _ _ => URL
  | _ => Unit

abbrev ServiceBody (K : Platform) (α : Type) := Body (Request K) Request.Result String α

namespace ServiceBody

/-- `if let error = error { completion(.failure(error)) } else if let result = result
{ completion(.success(result)) }`. -/
def completeWith {ρ α : Type} (success : ρ → α) (result : Option ρ) (error : Option String) :
    ServiceBody K α :=
  match error, result with
  | some error, _ => .complete (.error error) .done
  | none, some result => .complete (.ok (success result)) .done
  | none, none => .done

/-- `if let error = error { completion(.failure(error)) } else
{ completion(.success(value)) }`. -/
def completeUnless {α : Type} (value : α) (error : Option String) : ServiceBody K α :=
  match error with
  | some error => .complete (.error error) .done
  | none => .complete (.ok value) .done

end ServiceBody

open ServiceBody

/-! ### AuthenticationSession -/

namespace AuthenticationSession

def createNewUser (email password : String) (login : ControllerID) :
    ServiceBody K AuthDataResult :=
  .send (.createUser email password login)
    (fun authDataResult error => completeWith id authDataResult error) .done

def signExisitingUser (email password : String) (login : ControllerID) :
    ServiceBody K AuthDataResult :=
  .send (.signIn email password login)
    (fun authDataResult error => completeWith id authDataResult error) .done

end AuthenticationSession

/-! ### DatabaseService -/

namespace DatabaseService

/-- Firestore files a write under the account signed in. -/
def createDatabaseUser (currentUser : Option UID) (authDataResult : AuthDataResult)
    (login : ControllerID) : ServiceBody K Bool :=
  match authDataResult.email with
  | none => .done
  | some email =>
      .send (.setUser authDataResult.uid
          [("userEmail", email), ("userId", authDataResult.uid)] login currentUser)
        (fun _ error => completeUnless true error) .done

/-- The record with the document it was asked from. -/
def fetchedUser (user : UID) (snapshot : DocumentSnapshot) : FetchedUser :=
  { user := (snapshot.data.map InstagramUser.ofDocument).getD InstagramUser.empty
    key := user
    stored := snapshot.data.isSome }

def fetchCurrentUser (currentUser : Option UID) (caller : FetchCaller) :
    ServiceBody K FetchedUser :=
  match currentUser with
  | none => .done
  | some user =>
      .send (.getUser user caller)
        (fun snapshot error => completeWith (fetchedUser user) snapshot error) .done

def updateUserInfo (currentUser : Option UID) (_userId username userBio fullname : String)
    (editor : ControllerID) : ServiceBody K Bool :=
  match currentUser with
  | none => .done
  | some user =>
      .send (.updateUser user
          [("username", username), ("userBio", userBio), ("userFullName", fullname)] editor)
        (fun _ error => completeUnless true error) .done

/-- `documentID` is the fresh id `document()` returns. -/
def createPost (currentUser : Option UID) (documentID username userId caption : String)
    (resizeImage : K.Image) (screen : ControllerID) : ServiceBody K String :=
  .send (.setPost documentID
      [("username", username), ("userId", userId), ("caption", caption)] resizeImage screen
      currentUser)
    (fun _ error => completeUnless documentID error) .done

end DatabaseService

/-! ### StorageService -/

namespace StorageService

/-- The closure of `downloadURL`. -/
def located (url : Option URL) (error : Option String) : ServiceBody K URL :=
  completeWith id url error

/-- The closure of `putData`. -/
def stored (photoReference : String) (caller : UploadCaller) (error : Option String) :
    ServiceBody K URL :=
  match error with
  | some error => .complete (.error error) .done
  | none => .send (.downloadURL photoReference caller) (fun url error => located url error) .done

/-- `photoReference` is an implicitly unwrapped variable: using it unassigned traps. -/
def uploadPhoto (userId postId : Option String) (image : K.Image) (caller : UploadCaller) :
    ServiceBody K URL :=
  match K.jpegData image with
  | none => .done
  | some imageData =>
      match photoReference userId postId with
      | none => .trap
      | some reference =>
          .send (.putData reference imageData caller)
            (fun _metadata error => stored reference caller error) .done

end StorageService

/-! ### A call of one of them -/

inductive ServiceCall (K : Platform)
  | createNewUser (email password : String) (login : ControllerID)
  | signExisitingUser (email password : String) (login : ControllerID)
  | createDatabaseUser (authDataResult : AuthDataResult) (login : ControllerID)
  | fetchCurrentUser (caller : FetchCaller)
  | updateUserInfo (userId username userBio fullname : String) (editor : ControllerID)
  | createPost (documentID username userId caption : String) (resizeImage : K.Image)
      (screen : ControllerID)
  | uploadPhoto (userId postId : Option String) (image : K.Image) (caller : UploadCaller)

namespace ServiceCall

/-- The `Success` of the completion handler's `Result`. -/
def Success : ServiceCall K → Type
  | .createNewUser _ _ _ | .signExisitingUser _ _ _ => AuthDataResult
  | .createDatabaseUser _ _ | .updateUserInfo _ _ _ _ _ => Bool
  | .fetchCurrentUser _ => FetchedUser
  | .createPost _ _ _ _ _ _ => String
  | .uploadPhoto _ _ _ _ => URL

def body (currentUser : Option UID) : (call : ServiceCall K) → ServiceBody K call.Success
  | .createNewUser email password login =>
      AuthenticationSession.createNewUser email password login
  | .signExisitingUser email password login =>
      AuthenticationSession.signExisitingUser email password login
  | .createDatabaseUser authDataResult login =>
      DatabaseService.createDatabaseUser currentUser authDataResult login
  | .fetchCurrentUser caller => DatabaseService.fetchCurrentUser currentUser caller
  | .updateUserInfo userId username userBio fullname editor =>
      DatabaseService.updateUserInfo currentUser userId username userBio fullname editor
  | .createPost documentID username userId caption resizeImage screen =>
      DatabaseService.createPost currentUser documentID username userId caption resizeImage screen
  | .uploadPhoto userId postId image caller =>
      StorageService.uploadPhoto userId postId image caller

/-- A guard returns: the account has no email, nobody is signed in, or the image
has no JPEG data. -/
def Stopped (currentUser : Option UID) : ServiceCall K → Prop
  | .createDatabaseUser authDataResult _ => authDataResult.email = none
  | .fetchCurrentUser _ | .updateUserInfo _ _ _ _ _ => currentUser = none
  | .uploadPhoto _ _ image _ => K.jpegData image = none
  | .createNewUser _ _ _ | .signExisitingUser _ _ _ | .createPost _ _ _ _ _ _ => False

/-- A photo is uploaded for a user or for a post, not for both. -/
def OneOwner : ServiceCall K → Prop
  | .uploadPhoto userId postId _ _ => ExactlyOne userId postId
  | _ => True

end ServiceCall

/-! ### The calls in the app -/

/-- Run a body in the app: send its requests, and call the completion handler. -/
def World.resume {α : Type} (completion : World K → Except String α → World K) :
    World K → ServiceBody K α → World K
  | world, .done => world
  | world, .trap => world.terminate
  | world, .complete result rest => resume completion (completion world result) rest
  | world, .send request _ rest => resume completion (world.send request) rest

/-- The completion handler each operation is called with. -/
def ServiceCall.completion :
    (call : ServiceCall K) → World K → Except String call.Success → World K
  | .createNewUser _ _ login, world, result =>
      match (result : Except String AuthDataResult) with
      | .error _ => world
      | .ok authDataResult => world.async (.createUser login authDataResult.uid authDataResult.email)
  | .signExisitingUser _ _ login, world, result =>
      match (result : Except String AuthDataResult) with
      | .error _ => world
      | .ok _ => world.async (.navigateToInstagram login)
  | .createDatabaseUser _ login, world, result =>
      match (result : Except String Bool) with
      | .error message => world.async (.loginAlert login "unable to create a user" message)
      | .ok _ => world.async (.navigateToInstagram login)
  | .fetchCurrentUser caller, world, result =>
      match (result : Except String FetchedUser), caller with
      | .error _, _ => world
      | .ok user, .addPhoto screen => world.async (.setAddPhotoUser screen user)
      | .ok user, .profile screen => world.async (.setProfileUser screen user)
  | .updateUserInfo _ _ _ _ editor, world, result =>
      match (result : Except String Bool) with
      | .error message => world.async (.editorAlert editor "Failed to update profile" message)
      | .ok _ => (world.async (.editorAlert editor "Profile updated!" "")).dismissFromEditor editor
  | .createPost documentID _ _ _ resizeImage screen, world, result =>
      match (result : Except String String) with
      | .error message =>
          world.async (.addPhotoAlert screen "Could not create post" message documentID)
      | .ok docID => world.postCreated docID resizeImage screen
  | .uploadPhoto _ _ _ caller, world, result => world.photoUploaded caller result

/-- The operation as the view controllers of the app call it. -/
def World.callService (world : World K) : ServiceCall K → World K
  | .createNewUser email password login => world.createNewUser email password login
  | .signExisitingUser email password login => world.signExisitingUser email password login
  | .createDatabaseUser authDataResult login =>
      world.createDatabaseUser authDataResult.uid authDataResult.email login
  | .fetchCurrentUser caller => world.fetchCurrentUser caller
  | .updateUserInfo userId username userBio fullname editor =>
      world.updateUserInfo userId username userBio fullname editor
  | .createPost documentID username userId caption resizeImage screen =>
      world.createPost documentID username userId caption resizeImage screen
  | .uploadPhoto userId postId image caller => world.uploadPhoto userId postId image caller

/-- `createPost` first draws its document id. -/
def World.issued (world : World K) : ServiceCall K → World K
  | .createPost documentID _ _ _ _ _ =>
      { world with documentIDs := documentID :: world.documentIDs }
  | _ => world

/-- A call in the app is its body. -/
theorem World.callService_eq (world : World K) (call : ServiceCall K) :
    world.callService call =
      (world.issued call).resume call.completion (call.body world.currentUser) := by
  cases call with
  | createDatabaseUser authDataResult login =>
      change world.createDatabaseUser authDataResult.uid authDataResult.email login =
        world.resume _ (DatabaseService.createDatabaseUser world.currentUser authDataResult login)
      unfold World.createDatabaseUser DatabaseService.createDatabaseUser
      cases authDataResult.email <;> rfl
  | fetchCurrentUser caller =>
      change world.fetchCurrentUser caller =
        world.resume _ (DatabaseService.fetchCurrentUser world.currentUser caller)
      unfold World.fetchCurrentUser DatabaseService.fetchCurrentUser
      cases world.currentUser <;> rfl
  | updateUserInfo userId username userBio fullname editor =>
      change world.updateUserInfo userId username userBio fullname editor =
        world.resume _ (DatabaseService.updateUserInfo world.currentUser userId username userBio
          fullname editor)
      unfold World.updateUserInfo DatabaseService.updateUserInfo
      cases world.currentUser <;> rfl
  | uploadPhoto userId postId image caller =>
      change world.uploadPhoto userId postId image caller =
        world.resume _ (StorageService.uploadPhoto userId postId image caller)
      unfold World.uploadPhoto StorageService.uploadPhoto
      cases K.jpegData image with
      | none => rfl
      | some imageData => cases photoReference userId postId <;> rfl
  | createNewUser email password login => rfl
  | signExisitingUser email password login => rfl
  | createPost documentID username userId caption resizeImage screen => rfl

/-- The error argument of the closure an answer is handed to. -/
def Answer.error? : Answer → Option String
  | .error message => some message
  | _ => none

/-- The result argument. -/
def Answer.result? : (request : Request K) → Answer → Option request.Result
  | .createUser _ _ _, .account uid email | .signIn _ _ _, .account uid email =>
      some { uid := uid, email := email : AuthDataResult }
  | .getUser _ _, .snapshot data => some { data := data : DocumentSnapshot }
  | .downloadURL _ _, .url location => some location
  | .setUser _ _ _ _, .done | .updateUser _ _ _, .done | .setPost _ _ _ _ _, .done
  | .putData _ _ _, .done | .updatePost _ _ _ _, .done | .commitChanges _ _ _ _, .done => some ()
  | _, _ => none

/-- The services of the app call back with exactly one of result and error. -/
theorem Firebase.exactlyOne_of_perform {firebase after : Firebase K}
    {localUser : UID → Option Document} {request : Request K} {outcome : Outcome} {answer : Answer}
    (performed : firebase.perform localUser request outcome = some (after, answer)) :
    ExactlyOne (answer.result? request) answer.error? := by
  cases performed_of_perform performed with
  | refused => cases request <;> rfl
  | unconfirmed _loses _carriedOut => cases request <;> rfl
  | _ => rfl

/-- What the app does with an answer to the first request of a call is what the
closure of that request does. -/
theorem World.callback_eq (world : World K) {call : ServiceCall K} {currentUser : Option UID}
    {asked : Pending (Request K) Request.Result String call.Success}
    (pending : asked ∈ (Session.called (call.body currentUser)).pending)
    {firebase after : Firebase K} {localUser : UID → Option Document} {outcome : Outcome}
    {answer : Answer}
    (performed : firebase.perform localUser asked.request outcome = some (after, answer)) :
    world.callback asked.request answer =
      world.resume call.completion
        (asked.handler (answer.result? asked.request) answer.error?) := by
  cases call with
  | createNewUser email password login =>
      cases List.mem_singleton.mp pending
      cases performed_of_perform performed <;> rfl
  | signExisitingUser email password login =>
      cases List.mem_singleton.mp pending
      cases performed_of_perform performed <;> rfl
  | createDatabaseUser authDataResult login =>
      obtain ⟨uid, email⟩ := authDataResult
      cases email with
      | none => cases pending
      | some email =>
          cases List.mem_singleton.mp pending
          cases performed_of_perform performed <;> rfl
  | fetchCurrentUser caller =>
      cases currentUser with
      | none => cases pending
      | some user =>
          cases List.mem_singleton.mp pending
          cases performed_of_perform performed <;> cases caller <;> rfl
  | updateUserInfo userId username userBio fullname editor =>
      cases currentUser with
      | none => cases pending
      | some user =>
          cases List.mem_singleton.mp pending
          cases performed_of_perform performed <;> rfl
  | createPost documentID username userId caption resizeImage screen =>
      cases List.mem_singleton.mp pending
      cases performed_of_perform performed <;> rfl
  | uploadPhoto userId postId image caller =>
      change asked ∈ (Session.called (StorageService.uploadPhoto userId postId image caller)).pending
        at pending
      unfold StorageService.uploadPhoto at pending
      cases encoded : K.jpegData image with
      | none =>
          rw [encoded] at pending
          cases pending
      | some imageData =>
          rw [encoded] at pending
          cases owner : photoReference userId postId with
          | none =>
              rw [owner] at pending
              cases pending
          | some reference =>
              rw [owner] at pending
              cases List.mem_singleton.mp pending
              cases performed_of_perform performed <;> rfl

/-- The same for the second request of an upload. -/
theorem World.callback_located (world : World K) (userId postId : Option String)
    (image : K.Image) (caller : UploadCaller) {reference : String}
    {firebase after : Firebase K} {localUser : UID → Option Document} {outcome : Outcome}
    {answer : Answer}
    (performed : firebase.perform localUser (.downloadURL reference caller) outcome =
      some (after, answer)) :
    world.callback (.downloadURL reference caller) answer =
      world.resume (ServiceCall.uploadPhoto userId postId image caller).completion
        (StorageService.located (answer.result? (.downloadURL reference caller : Request K))
          answer.error?) := by
  cases performed_of_perform performed <;> rfl

/-! ### Every call reports once, unless a guard stops it -/

theorem ServiceBody.completeWith_tells {ρ α : Type} {failed : Prop} (success : ρ → α)
    {result : Option ρ} {error : Option String} (one : ExactlyOne result error)
    (good : ¬failed) :
    Tells (error.isSome = true ∨ failed) (completeWith success result error : ServiceBody K α) := by
  cases error with
  | some error => exact .complete (iff_of_true rfl (Or.inl rfl))
  | none =>
      cases result with
      | none => cases one
      | some result =>
          refine .complete (iff_of_false nofun ?_)
          rintro (impossible | bad)
          · cases impossible
          · exact good bad

theorem ServiceBody.completeUnless_tells {α : Type} {failed : Prop} (value : α)
    (error : Option String) (good : ¬failed) :
    Tells (error.isSome = true ∨ failed) (completeUnless value error : ServiceBody K α) := by
  cases error with
  | some error => exact .complete (iff_of_true rfl (Or.inl rfl))
  | none =>
      refine .complete (iff_of_false nofun ?_)
      rintro (impossible | bad)
      · cases impossible
      · exact good bad

theorem StorageService.stored_tells (reference : String) (caller : UploadCaller)
    (error : Option String) :
    Tells (error.isSome = true ∨ False)
      (stored reference caller error : ServiceBody K URL) := by
  cases error with
  | some error => exact .complete (iff_of_true rfl (Or.inl rfl))
  | none =>
      refine .send ?_
      intro url error one
      refine completeWith_tells id one ?_
      rintro (impossible | impossible) <;> cases impossible

/-- A call that no guard stops tells whether a request failed. -/
theorem ServiceCall.tells {call : ServiceCall K} {currentUser : Option UID}
    (owner : call.OneOwner) (goes : ¬call.Stopped currentUser) :
    Tells False (call.body currentUser) := by
  cases call with
  | createNewUser email password login =>
      exact .send (fun authDataResult error one => completeWith_tells id one not_false)
  | signExisitingUser email password login =>
      exact .send (fun authDataResult error one => completeWith_tells id one not_false)
  | createDatabaseUser authDataResult login =>
      obtain ⟨email, present⟩ := Option.ne_none_iff_exists'.mp goes
      change Tells False (DatabaseService.createDatabaseUser currentUser authDataResult login)
      unfold DatabaseService.createDatabaseUser
      rw [present]
      exact .send (fun _ error _ => completeUnless_tells true error not_false)
  | fetchCurrentUser caller =>
      obtain ⟨user, signedIn⟩ := Option.ne_none_iff_exists'.mp goes
      rw [signedIn]
      exact .send (fun snapshot error one => completeWith_tells _ one not_false)
  | updateUserInfo userId username userBio fullname editor =>
      obtain ⟨user, signedIn⟩ := Option.ne_none_iff_exists'.mp goes
      rw [signedIn]
      exact .send (fun _ error _ => completeUnless_tells true error not_false)
  | createPost documentID username userId caption resizeImage screen =>
      exact .send (fun _ error _ => completeUnless_tells documentID error not_false)
  | uploadPhoto userId postId image caller =>
      obtain ⟨imageData, encoded⟩ := Option.ne_none_iff_exists'.mp goes
      change Tells False (StorageService.uploadPhoto userId postId image caller)
      unfold StorageService.uploadPhoto
      rw [encoded]
      cases userId with
      | some userId => exact .send (fun _ error _ => StorageService.stored_tells _ caller error)
      | none =>
          cases postId with
          | some postId =>
              exact .send (fun _ error _ => StorageService.stored_tells _ caller error)
          | none => cases owner

/-- A stopped call returns without a word. -/
theorem ServiceCall.body_of_stopped {call : ServiceCall K} {currentUser : Option UID}
    (stopped : call.Stopped currentUser) : call.body currentUser = .done := by
  cases call with
  | createDatabaseUser authDataResult login =>
      change authDataResult.email = none at stopped
      change DatabaseService.createDatabaseUser currentUser authDataResult login = _
      unfold DatabaseService.createDatabaseUser
      rw [stopped]
      rfl
  | fetchCurrentUser caller =>
      cases stopped
      rfl
  | updateUserInfo userId username userBio fullname editor =>
      cases stopped
      rfl
  | uploadPhoto userId postId image caller =>
      change K.jpegData image = none at stopped
      change StorageService.uploadPhoto userId postId image caller = _
      unfold StorageService.uploadPhoto
      rw [stopped]
      rfl
  | createNewUser email password login => cases stopped
  | signExisitingUser email password login => cases stopped
  | createPost documentID username userId caption resizeImage screen => cases stopped

/-- Whatever the backend does, in whatever order it answers: the completion handler
is called exactly once, with a failure if anything failed, if and only if no guard
stops the operation. -/
theorem service_reports_once (call : ServiceCall K) (currentUser : Option UID)
    (owner : call.OneOwner) :
    ReportsOnce (call.Stopped currentUser) (call.body currentUser) ↔
      ¬call.Stopped currentUser := by
  constructor
  · intro reports stopped
    rw [ServiceCall.body_of_stopped stopped] at reports
    exact not_reportsOnce_done reports
  · intro goes
    exact (ServiceCall.tells owner goes).reportsOnce goes

/-- A profile picture is stored and located. -/
theorem service_reports_once_picture :
    let call : ServiceCall Platform.plain :=
      .uploadPhoto (some "alice") none "portrait" (.profilePicture "alice" 0)
    let reference := profilePhotoPath "alice"
    let url : URL := { path := reference, version := 0 }
    ∃ session, Reached (call.body (some "alice")) session ∧
      session.Settled ∧ session.answered.length = 2 ∧ session.reports = [.ok url] ∧
      ReportsOnce (call.Stopped (some "alice")) (call.body (some "alice")) := by
  intro call reference url
  have asked : Reached (call.body (some "alice")) (.called (call.body (some "alice"))) := .called
  have stored := @Reached.answered _ _ _ _ _ _ [] [] _ (some ()) none asked rfl rfl rfl
  have located := @Reached.answered _ _ _ _ _ _ [] [] _ (some url) none stored rfl rfl rfl
  exact ⟨_, located, rfl, rfl, rfl,
    (service_reports_once call (some "alice") rfl).mpr (Option.some_ne_none _)⟩

/-- Nobody is signed in: the fetch is over at once and has reported nothing. -/
theorem fetch_never_reports :
    let call : ServiceCall Platform.plain := .fetchCurrentUser (.profile 0)
    ∃ session, Reached (call.body none) session ∧ session.Settled ∧ session.reports = [] ∧
      ¬ReportsOnce (call.Stopped none) (call.body none) := by
  intro call
  exact ⟨_, .called, rfl, rfl, not_reportsOnce_done⟩

end InstagramProject
