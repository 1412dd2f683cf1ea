/-
AuthenticationSession, DatabaseService and StorageService: each operation sends
its request, or returns at a guard.
-/

import InstagramProject.Screens

namespace InstagramProject.World

variable {K : Platform}

/-! ### AuthenticationSession -/

def createNewUser (world : World K) (email password : String) (login : ControllerID) : World K :=
  world.send (.createUser email password login)

def signExisitingUser (world : World K) (email password : String)
    (login : ControllerID) : World K :=
  world.send (.signIn email password login)

/-! ### DatabaseService -/

def createDatabaseUser (world : World K) (uid : UID) (email : Option String)
    (login : ControllerID) : World K :=
  match email with
  | none => world
  | some email =>
      world.send (.setUser uid [("userEmail", email), ("userId", uid)] login world.currentUser)

def fetchCurrentUser (world : World K) (caller : FetchCaller) : World K :=
  match world.currentUser with
  | none => world
  | some user => world.send (.getUser user caller)

/-- `updateUserInfo` does not look at its `userId` argument. -/
def updateUserInfo (world : World K) (_userId username userBio fullname : String)
    (editor : ControllerID) : World K :=
  match world.currentUser with
  | none => world
  | some user =>
      world.send (.updateUser user
        [("username", username), ("userBio", userBio), ("userFullName", fullname)] editor)

/-- `documentID` is the fresh id `document()` returns; the image and the screen
are what the completion handler captures. -/
def createPost (world : World K) (documentID username userId caption : String)
    (resizeImage : K.Image) (screen : ControllerID) : World K :=
  { world with documentIDs := documentID :: world.documentIDs }.send
    (.setPost documentID
      [("username", username), ("userId", userId), ("caption", caption)] resizeImage screen
      world.currentUser)

/-! ### StorageService -/

def uploadPhoto (world : World K) (userId postId : Option String) (image : K.Image)
    (caller : UploadCaller) : World K :=
  match K.jpegData image with
  | none => world
  | some imageData =>
      match photoReference userId postId with
      | none => world.terminate
      | some reference => world.send (.putData reference imageData caller)

end InstagramProject.World
