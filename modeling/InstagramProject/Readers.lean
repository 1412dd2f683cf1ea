/-
What the decoders read back from documents the app has written.  A history of a
document is made of the requests the services send and of their effects on the
store; the keys the writers and the decoders use meet only here.
-/

import InstagramProject.Controllers

namespace InstagramProject

variable {K : Platform}

/-! ### Histories of a document -/

/-- An operation sends one request. -/
def World.Sends (before after : World K) (request : Request K) : Prop :=
  after.requests = before.requests ++ [request]

/-- The request takes effect. -/
def Firebase.Takes (before : Firebase K) (request : Request K) (after : Firebase K) : Prop :=
  ∃ localUser newUID answer,
    before.perform localUser request (.success newUID) = some (after, answer)

/-- The texts of one profile save. -/
structure ProfileTexts where
  username : String
  userBio : String
  fullname : String

/-- A user document after its creation and some saves, the latest first. -/
inductive UserWritten (K : Platform) (uid : UID) (email : String) :
    List ProfileTexts → Document → Prop
  | created {world : World K} {login : ControllerID} {request : Request K}
      {before after : Firebase K} {document : Document} :
      world.Sends (world.createDatabaseUser uid (some email) login) request →
      before.Takes request after → after.users uid = some document →
      UserWritten K uid email [] document
  | saved {world : World K} {userId : String} {editor : ControllerID} {request : Request K}
      {before after : Firebase K} {texts : ProfileTexts} {saves : List ProfileTexts}
      {document written : Document} :
      UserWritten K uid email saves document → before.users uid = some document →
      world.currentUser = some uid →
      world.Sends (world.updateUserInfo userId texts.username texts.userBio texts.fullname editor)
        request →
      before.Takes request after → after.users uid = some written →
      UserWritten K uid email (texts :: saves) written

/-- A post document after its creation and at most one update of its photo URL. -/
inductive PostWritten (K : Platform) (documentID username userId caption : String) :
    Option URL → Document → Prop
  | created {world : World K} {resizeImage : K.Image} {screen : ControllerID}
      {request : Request K} {before after : Firebase K} {document : Document} :
      world.Sends (world.createPost documentID username userId caption resizeImage screen)
        request →
      before.Takes request after → after.posts documentID = some document →
      PostWritten K documentID username userId caption none document
  | linked {world : World K} {url : URL} {screen : ControllerID} {request : Request K}
      {before after : Firebase K} {document written : Document} :
      PostWritten K documentID username userId caption none document →
      before.posts documentID = some document →
      world.Sends (world.updateImageURL url documentID screen) request →
      before.Takes request after → after.posts documentID = some written →
      PostWritten K documentID username userId caption (some url) written

/-! ### What one write leaves -/

section Writes

variable {world : World K} {request : Request K} {before after : Firebase K}
  {document written : Document}

private theorem sent_of_sends {result : World K} {sent : Request K}
    (requests : result.requests = world.requests ++ [sent]) (sends : world.Sends result request) :
    request = sent := by
  unfold World.Sends at sends
  rw [requests, List.append_cancel_left_eq, List.cons.injEq] at sends
  exact sends.1.symm

private theorem performed_of_takes (takes : before.Takes request after) :
    ∃ localUser newUID answer,
      Performed before localUser request (.success newUID) after answer := by
  obtain ⟨localUser, newUID, answer, performed⟩ := takes
  exact ⟨localUser, newUID, answer, performed_of_perform performed⟩

theorem document_of_creation {uid : UID} {email : String} {login : ControllerID}
    (sends : world.Sends (world.createDatabaseUser uid (some email) login) request)
    (takes : before.Takes request after) (stored : after.users uid = some document) :
    document = Document.setData [("userEmail", email), ("userId", uid)] := by
  cases sent_of_sends rfl sends
  obtain ⟨_, newUID, answer, performed⟩ := performed_of_takes takes
  cases performed
  dsimp only at stored
  rw [Function.update_self] at stored
  exact (Option.some.inj stored).symm

theorem document_of_save {uid : UID} {userId : String} {texts : ProfileTexts}
    {editor : ControllerID} (held : before.users uid = some document)
    (signedIn : world.currentUser = some uid)
    (sends : world.Sends
      (world.updateUserInfo userId texts.username texts.userBio texts.fullname editor) request)
    (takes : before.Takes request after) (stored : after.users uid = some written) :
    written = document.updateData [("username", texts.username), ("userBio", texts.userBio),
      ("userFullName", texts.fullname)] := by
  simp only [World.updateUserInfo, signedIn] at sends
  cases sent_of_sends rfl sends
  obtain ⟨_, newUID, answer, performed⟩ := performed_of_takes takes
  cases performed with
  | updateUser found =>
      dsimp only at stored
      rw [Function.update_self] at stored
      cases held.symm.trans found
      exact (Option.some.inj stored).symm

theorem document_of_post {documentID username userId caption : String} {resizeImage : K.Image}
    {screen : ControllerID}
    (sends : world.Sends
      (world.createPost documentID username userId caption resizeImage screen) request)
    (takes : before.Takes request after) (stored : after.posts documentID = some document) :
    document = Document.setData
      [("username", username), ("userId", userId), ("caption", caption)] := by
  cases sent_of_sends rfl sends
  obtain ⟨_, newUID, answer, performed⟩ := performed_of_takes takes
  cases performed
  dsimp only at stored
  rw [Function.update_self] at stored
  exact (Option.some.inj stored).symm

theorem document_of_link {documentID : String} {url : URL} {screen : ControllerID}
    (held : before.posts documentID = some document)
    (sends : world.Sends (world.updateImageURL url documentID screen) request)
    (takes : before.Takes request after) (stored : after.posts documentID = some written) :
    written = document.updateData [("photoURL", K.absoluteString url)] := by
  cases sent_of_sends rfl sends
  obtain ⟨_, newUID, answer, performed⟩ := performed_of_takes takes
  cases performed with
  | updatePost found =>
      dsimp only at stored
      rw [Function.update_self] at stored
      cases held.symm.trans found
      exact (Option.some.inj stored).symm

end Writes

/-! ### What the decoders read -/

/-- The record of a user after some saves. -/
def userRead (uid : UID) (email : String) (saves : List ProfileTexts) : InstagramUser :=
  { username := (saves.head?.map ProfileTexts.username).getD "no username"
    userBio := (saves.head?.map ProfileTexts.userBio).getD "no bio"
    userId := uid
    userFullName := (saves.head?.map ProfileTexts.fullname).getD "no name"
    userEmail := email }

/-- A save sets the three texts and leaves the id and the address. -/
theorem ofDocument_saved (document : Document) (texts : ProfileTexts) :
    InstagramUser.ofDocument (document.updateData [("username", texts.username),
      ("userBio", texts.userBio), ("userFullName", texts.fullname)]) =
      { InstagramUser.ofDocument document with
        username := texts.username
        userBio := texts.userBio
        userFullName := texts.fullname } := rfl

theorem user_read {uid : UID} {email : String} {saves : List ProfileTexts} {document : Document}
    (written : UserWritten K uid email saves document) :
    InstagramUser.ofDocument document = userRead uid email saves := by
  induction written with
  | created sends takes stored =>
      rw [document_of_creation sends takes stored]
      rfl
  | saved _history held signedIn sends takes stored ih =>
      rw [document_of_save held signedIn sends takes stored, ofDocument_saved, ih]
      rfl

theorem post_read {documentID username userId caption : String} {link : Option URL}
    {document : Document} (written : PostWritten K documentID username userId caption link document) :
    InstagramPost.ofDocument document =
      { username := username, userId := userId, caption := caption,
        photoURL := (link.map K.absoluteString).getD "photo" } := by
  cases written with
  | created sends takes stored =>
      rw [document_of_post sends takes stored]
      rfl
  | linked created held sends takes stored =>
      rw [document_of_link held sends takes stored]
      cases created with
      | created sentBefore tookBefore storedBefore =>
          rw [document_of_post sentBefore tookBefore storedBefore]
          rfl

/-- The decoders read back what the writers of a document wrote, over every history
of it, with the stand-ins for what was never written; and a photo URL that is not
the stand-in is read exactly if it was stored. -/
theorem readers_undo_writers (K : Platform) :
    (∀ uid email saves document, UserWritten K uid email saves document →
      InstagramUser.ofDocument document = userRead uid email saves) ∧
    ∀ documentID username userId caption link document,
      PostWritten K documentID username userId caption link document →
      ((InstagramPost.ofDocument document).username = username ∧
        (InstagramPost.ofDocument document).userId = userId ∧
        (InstagramPost.ofDocument document).caption = caption ∧
        (link = none → (InstagramPost.ofDocument document).photoURL = "photo")) ∧
      ∀ url, K.absoluteString url ≠ "photo" → link = none ∨ link = some url →
        ((InstagramPost.ofDocument document).photoURL = K.absoluteString url ↔ link = some url) := by
  constructor
  · intro uid email saves document written
    exact user_read written
  · intro documentID username userId caption link document written
    rw [post_read written]
    refine ⟨⟨rfl, rfl, rfl, ?_⟩, ?_⟩
    · rintro rfl
      rfl
    · rintro url different (rfl | rfl)
      · exact iff_of_false (Ne.symm different) nofun
      · exact iff_of_true rfl rfl

/-- A sign-up and two saves, and a post with its photo. -/
theorem readers_undo_writers_written :
    (∃ document, UserWritten Platform.plain "alice" "alice@mail"
        [⟨"ann", "hello", "Ann A"⟩, ⟨"anna", "hi", "Anna A"⟩] document ∧
      InstagramUser.ofDocument document =
        { username := "ann", userBio := "hello", userId := "alice", userFullName := "Ann A",
          userEmail := "alice@mail" }) ∧
    ∃ document url, PostWritten Platform.plain "post1" "anna" "alice" "sunny" (some url) document ∧
      (InstagramPost.ofDocument document).photoURL = Platform.plain.absoluteString url := by
  let empty : World Platform.plain := World.initial Platform.plain
  let signedIn : World Platform.plain := { empty with currentUser := some "alice" }
  let nothing : UID → Option Document := fun _ => none
  constructor
  · have created : UserWritten Platform.plain "alice" "alice@mail" [] _ :=
      @UserWritten.created _ _ _ empty 0 _ empty.firebase _ _ rfl ⟨nothing, "", _, rfl⟩ rfl
    have saved : UserWritten Platform.plain "alice" "alice@mail" [⟨"anna", "hi", "Anna A"⟩] _ :=
      @UserWritten.saved _ _ _ signedIn "alice" 1 _
        { empty.firebase with users := Function.update empty.firebase.users "alice" (some _) }
        _ _ _ _ _ created rfl rfl rfl ⟨nothing, "", _, rfl⟩ rfl
    have again : UserWritten Platform.plain "alice" "alice@mail"
        [⟨"ann", "hello", "Ann A"⟩, ⟨"anna", "hi", "Anna A"⟩] _ :=
      @UserWritten.saved _ _ _ signedIn "alice" 1 _
        { empty.firebase with users := Function.update empty.firebase.users "alice" (some _) }
        _ _ _ _ _ saved rfl rfl rfl ⟨nothing, "", _, rfl⟩ rfl
    exact ⟨_, again, (readers_undo_writers _).1 _ _ _ _ again⟩
  · have created : PostWritten Platform.plain "post1" "anna" "alice" "sunny" none _ :=
      @PostWritten.created _ _ _ _ _ empty "beach" 0 _ empty.firebase _ _ rfl ⟨nothing, "", _, rfl⟩ rfl
    have linked : PostWritten Platform.plain "post1" "anna" "alice" "sunny"
        (some { path := "InstagramPosts/post1.jpg", version := 0 }) _ :=
      @PostWritten.linked _ _ _ _ _ empty _ 0 _
        { empty.firebase with posts := Function.update empty.firebase.posts "post1" (some _) }
        _ _ _ created rfl rfl ⟨nothing, "", _, rfl⟩ rfl
    refine ⟨_, _, linked, ?_⟩
    exact (((readers_undo_writers _).2 _ _ _ _ _ _ linked).2 _ (by decide +kernel)
      (.inr rfl)).mpr rfl

end InstagramProject
