/-
What the app takes from UIKit, Firebase Authentication and Firebase Storage: images
and their encoding, what passes for a password and for an address, storage
references, and download URLs.  The image functions and the policies of the
service are parameters.  The reference path follows the vendored `FIRStoragePath`.
-/

import Mathlib.Data.List.Basic

namespace InstagramProject

/-- A download URL names an object and the version of it that was current when
the URL was asked for. -/
structure URL where
  path : String
  version : Nat
deriving DecidableEq

/-- UIKit, AVFoundation and Foundation as far as the screens call them, and the
policies of Firebase Authentication, which are set on its side. -/
structure Platform where
  Image : Type
  Data : Type
  CGRect : Type
  CGSize : Type
  imageSize : Image → CGSize
  AVMakeRect : CGSize → CGRect → CGRect
  rectSize : CGRect → CGSize
  draw : CGSize → Image → Image
  jpegData : Image → Option Data
  absoluteString : URL → String
  /-- A sign-up with any other password fails with `WEAK_PASSWORD`. -/
  acceptsPassword : String → Bool
  /-- What the service keeps of an address that was typed. -/
  keptEmail : String → String

/-- `UIImage.resizeImage(originalImage:rect:)`. -/
def Platform.resizeImage (K : Platform) (originalImage : K.Image) (rect : K.CGRect) : K.Image :=
  let rect := K.AVMakeRect (K.imageSize originalImage) rect
  let size := K.rectSize rect
  K.draw size originalImage

/-- Images that are their own encoding, for runs that are to be evaluated.  Passwords
of six characters or more are strong, and addresses are kept as they are typed. -/
abbrev Platform.plain : Platform where
  Image := String
  Data := String
  CGRect := Unit
  CGSize := Unit
  imageSize _ := ()
  AVMakeRect _ rect := rect
  rectSize _ := ()
  draw _ image := image
  jpegData image := some image
  absoluteString url := url.path ++ "?generation=" ++ toString url.version
  acceptsPassword password := 6 ≤ password.length
  keptEmail email := email

/-! ### Storage references -/

/-- `-[FIRStoragePath standardizedPathForString:]`: empty components go. -/
def standardizedPathForString (string : String) : String :=
  String.ofList (['/'].intercalate
    ((string.toList.splitOn '/').filter (fun component => !component.isEmpty)))

/-- `storageRef.child(path)` on the root reference. -/
def child (path : String) : String := standardizedPathForString path

/-- `storageRef.child("UserProfilePhotos/\(userId).jpg")`. -/
def profilePhotoPath (userId : String) : String :=
  child ("UserProfilePhotos/" ++ userId ++ ".jpg")

/-- `storageRef.child("InstagramPosts/\(postId).jpg")`. -/
def postPhotoPath (postId : String) : String :=
  child ("InstagramPosts/" ++ postId ++ ".jpg")

/-- `photoReference` in `uploadPhoto`; `none` is the unassigned variable. -/
def photoReference (userId postId : Option String) : Option String :=
  match userId, postId with
  | some userId, _ => some (profilePhotoPath userId)
  | none, some postId => some (postPhotoPath postId)
  | none, none => none

def SlashFree (identifier : String) : Prop := '/' ∉ identifier.toList

instance (identifier : String) : Decidable (SlashFree identifier) :=
  inferInstanceAs (Decidable ('/' ∉ identifier.toList))

private theorem child_two_components {folder name : List Char}
    (folderFree : '/' ∉ folder) (nameFree : '/' ∉ name)
    (folderNonempty : folder ≠ []) (nameNonempty : name ≠ []) :
    child (String.ofList (folder ++ '/' :: name)) = String.ofList (folder ++ '/' :: name) := by
  have split : (folder ++ '/' :: name).splitOn '/' = [folder, name] := by
    rw [List.splitOn_append_cons_self_of_not_mem folderFree,
      List.splitOn_eq_singleton nameFree]
  have folderKept : folder.isEmpty = false := by
    rw [List.isEmpty_eq_false_iff]
    exact folderNonempty
  have nameKept : name.isEmpty = false := by
    rw [List.isEmpty_eq_false_iff]
    exact nameNonempty
  unfold child standardizedPathForString
  rw [String.toList_ofList, split]
  simp only [List.filter_cons, folderKept, nameKept, Bool.not_false, if_true, List.filter_nil,
    List.intercalate_cons_cons, List.intercalate_singleton, List.singleton_append,
    List.append_assoc]

private theorem child_photo (folder : String) {identifier : String} (folderFree : SlashFree folder)
    (folderNonempty : folder.toList ≠ []) (free : SlashFree identifier) :
    child (folder ++ "/" ++ identifier ++ ".jpg") = folder ++ "/" ++ identifier ++ ".jpg" := by
  have shape : folder ++ "/" ++ identifier ++ ".jpg" =
      String.ofList (folder.toList ++ '/' :: (identifier.toList ++ ".jpg".toList)) := by
    rw [← String.toList_inj]
    simp only [String.toList_append, String.toList_ofList, List.append_assoc]
    rfl
  rw [shape]
  apply child_two_components folderFree _ folderNonempty
  · intro empty
    have suffixEmpty := (List.append_eq_nil_iff.mp empty).2
    revert suffixEmpty
    decide
  · intro inside
    rcases List.mem_append.mp inside with inIdentifier | inSuffix
    · exact free inIdentifier
    · revert inSuffix
      decide

/-- For a document id without a slash the object is InstagramPosts/<documentId>.jpg. -/
theorem postPhotoPath_eq {postId : String} (free : SlashFree postId) :
    postPhotoPath postId = "InstagramPosts/" ++ postId ++ ".jpg" :=
  child_photo "InstagramPosts" (by decide) (by decide) free

theorem profilePhotoPath_eq {userId : String} (free : SlashFree userId) :
    profilePhotoPath userId = "UserProfilePhotos/" ++ userId ++ ".jpg" :=
  child_photo "UserProfilePhotos" (by decide) (by decide) free

private theorem surrounded_injective {front left right back : String}
    (same : front ++ left ++ back = front ++ right ++ back) : left = right := by
  have lists := congrArg String.toList same
  simp only [String.toList_append, List.append_assoc] at lists
  exact String.toList_inj.mp
    (List.append_cancel_right (List.append_cancel_left lists))

/-- Distinct posts have distinct photo objects. -/
theorem postPhotoPath_injective {left right : String}
    (leftFree : SlashFree left) (rightFree : SlashFree right)
    (same : postPhotoPath left = postPhotoPath right) : left = right := by
  rw [postPhotoPath_eq leftFree, postPhotoPath_eq rightFree] at same
  exact surrounded_injective same

theorem profilePhotoPath_injective {left right : String}
    (leftFree : SlashFree left) (rightFree : SlashFree right)
    (same : profilePhotoPath left = profilePhotoPath right) : left = right := by
  rw [profilePhotoPath_eq leftFree, profilePhotoPath_eq rightFree] at same
  exact surrounded_injective same

theorem postPhotoPath_ne_profilePhotoPath {postId userId : String}
    (postFree : SlashFree postId) (userFree : SlashFree userId) :
    postPhotoPath postId ≠ profilePhotoPath userId := by
  rw [postPhotoPath_eq postFree, profilePhotoPath_eq userFree]
  intro same
  have heads := congrArg (fun path => path.toList.head?) same
  simp only [String.toList_append, List.append_assoc] at heads
  revert heads
  change some 'I' = some 'U' → False
  decide

-- From here on paths are compared by the lemmas above, never computed.
attribute [irreducible] postPhotoPath profilePhotoPath

end InstagramProject
