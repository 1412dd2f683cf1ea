/-
Whose picture an account gets.  The account is read when Done is pressed, for
the place of the picture, and again when its download URL arrives, for the
profile change.
-/

import InstagramProject.Pictures
import InstagramProject.Posts

namespace InstagramProject

open Transition

variable {K : Platform}

/-- The data of an image chosen while the account was signed in. -/
def ChosenBy (past : Past K) (u : UID) (data : K.Data) : Prop :=
  ∃ choice ∈ choices past, choice.user = some u ∧
    ∃ bounds, K.jpegData (K.resizeImage choice.image bounds) = some data

/-- The URL of an object stored at the place of the account, from an image chosen
while the account was signed in. -/
def OwnPicture (past : Past K) (u : UID) (url : URL) : Prop :=
  ∃ object, (profilePhotoPath u, object) ∈ storedObjects past ∧
    url = { path := profilePhotoPath u, version := object.version } ∧
    ChosenBy past u object.data

/-- A press of Done that uploads a picture finds the account signed in that chose
it, and a download URL of a profile picture finds nobody signed in or the account
Done was pressed for. -/
def keepsAccount (past : Past K) (world : World K) (event : Event K) : Bool :=
  (match world.save? event with
    | some save => save.picture.isNone ||
        (latestChoice past save.editor).all (fun choice => choice.user == some save.user)
    | none => true) &&
  match event with
  | .callback index =>
      match world.responses[index]? with
      | some (.downloadURL _ (.profilePicture userId _), .url _) =>
          world.currentUser.all (fun user => user == userId)
      | _ => true
  | _ => true

section Owners

variable {past recent : Past K} {world : World K} {u : UID}

theorem ChosenBy.later {data : K.Data} (chosen : ChosenBy past u data) :
    ChosenBy (recent ++ past) u data := by
  obtain ⟨choice, member, byAccount, encoded⟩ := chosen
  refine ⟨choice, ?_, byAccount, encoded⟩
  unfold choices
  rw [List.filterMap_append]
  exact List.mem_append_right _ member

theorem OwnPicture.later {url : URL} (own : OwnPicture past u url) :
    OwnPicture (recent ++ past) u url := by
  obtain ⟨object, member, isURL, chosen⟩ := own
  refine ⟨object, ?_, isURL, chosen.later⟩
  unfold storedObjects
  rw [List.filterMap_append]
  exact List.mem_append_right _ member

/-! ### What is stored at the place of an account -/

/-- The account at the press is the one that chose the picture. -/
theorem chosen_of_pending (ran : AppRun past world)
    (kept : Throughout (fun past before event => keepsAccount past before event = true) past)
    {reference : String} {imageData : K.Data} {editor : ControllerID}
    (pending : world.Pending (.putData reference imageData (.profilePicture u editor))) :
    ChosenBy past u imageData := by
  obtain ⟨_, _, moment, member, save, started, isUser, pictured, _⟩ :=
    picture_of_pending ran pending
  obtain ⟨recent, earlier, rfl, reached, _, permitted⟩ := ran.recall kept member
  obtain ⟨controller, profilePicture, bounds, present, sameEditor, selects, encoded⟩ :=
    picture_of_save started pictured
  obtain ⟨choice, latest, rfl⟩ := selected_choice reached present selects
  rw [sameEditor] at latest
  simp only [keepsAccount, started, pictured, Option.isNone_some, Bool.false_or, latest,
    Option.all_some, Bool.and_eq_true, beq_iff_eq] at permitted
  rw [List.append_cons]
  refine ChosenBy.later ⟨choice, mem_of_latestChoice latest, ?_, bounds, encoded⟩
  rw [permitted.1, isUser]

theorem chosen_of_stored (ran : AppRun past world)
    (kept : Throughout (fun past before event => keepsAccount past before event = true) past)
    {object : StoredObject K} (free : SlashFree u)
    (member : (profilePhotoPath u, object) ∈ storedObjects past) :
    ChosenBy past u object.data := by
  obtain ⟨moment, logged, stored⟩ := List.mem_filterMap.mp member
  obtain ⟨recent, earlier, rfl, reached, keptEarlier, _⟩ := ran.recall kept logged
  rw [List.append_cons]
  apply ChosenBy.later
  unfold World.stored? at stored
  split at stored
  · rename_i reference imageData caller effect
    simp only [Option.some.injEq, Prod.mk.injEq] at stored
    obtain ⟨samePath, rfl⟩ := stored
    cases caller with
    | post documentID screen =>
        obtain ⟨isPost, postFree⟩ := post_upload reached effect
        exact absurd (isPost.symm.trans samePath) (postPhotoPath_ne_profilePhotoPath postFree free)
    | profilePicture userId editor =>
        have pending := pending_of_effect effect
        obtain ⟨isProfile, userFree, _⟩ := picture_of_pending reached pending
        have same := profilePhotoPath_injective userFree free (isProfile.symm.trans samePath)
        rw [← same]
        exact chosen_of_pending reached keptEarlier pending
  · cases stored

/-! ### What is committed to an account -/

theorem own_of_pending (ran : AppRun past world)
    (kept : Throughout (fun past before event => keepsAccount past before event = true) past)
    {url : URL} {editor : ControllerID} {captured : Bool}
    (pending : world.Pending (.commitChanges u url editor captured)) :
    OwnPicture past u url := by
  obtain ⟨⟨before, event⟩, member, issued⟩ := issued_of_pending ran pending
  obtain ⟨recent, earlier, rfl, reached, keptEarlier, permitted⟩ := ran.recall kept member
  rw [List.append_cons]
  apply OwnPicture.later
  dsimp only at issued permitted reached
  obtain ⟨index, reference, userId, rfl, found, signedIn⟩ := issued.commit
  simp only [keepsAccount, found, signedIn, Option.all_some, Bool.and_eq_true,
    beq_iff_eq] at permitted
  obtain ⟨_, rfl⟩ := permitted
  have answered := List.mem_of_getElem? found
  obtain ⟨rfl, free, _⟩ := picture_of_download reached (.inr (.inr ⟨_, answered⟩))
  obtain ⟨object, logged, isURL⟩ := (stores reached).urls _ _ _ answered
  exact ⟨object, logged, isURL, chosen_of_stored reached keptEarlier free logged⟩

/-- A profile's photo URL was committed by a request. -/
theorem committed_of_photoURL (ran : AppRun past world) {url : URL}
    (committed : world.firebase.photoURL u = some url) :
    ∃ moment ∈ past, ∃ editor captured,
      moment.1.effect? moment.2 = some (.commitChanges u url editor captured) := by
  refine ran.invariant (fun past world => ∀ url, world.firebase.photoURL u = some url →
    ∃ moment ∈ past, ∃ editor captured,
      moment.1.effect? moment.2 = some (.commitChanges u url editor captured)) nofun ?_
    url committed
  intro past before event after _earlier logged stepped url committed
  have older (same : after.firebase.photoURL u = before.firebase.photoURL u) :
      ∃ moment ∈ (before, event) :: past, ∃ editor captured,
        moment.1.effect? moment.2 = some (.commitChanges u url editor captured) := by
    obtain ⟨moment, member, effect⟩ := logged url (same ▸ committed)
    exact ⟨moment, List.mem_cons_of_mem _ member, effect⟩
  rcases firebase_step stepped with ⟨_, same⟩ | ⟨request, newUID, answer, effect, performed⟩
  · exact older (by rw [same])
  · generalize result : after.firebase = firebase at performed
    cases performed with
    | @commitChanges uid _ photoURL editor captured =>
        by_cases same : u = uid
        · subst same
          rw [result] at committed
          dsimp only at committed
          rw [Function.update_self] at committed
          cases committed
          exact ⟨_, List.mem_cons_self, editor, captured, effect⟩
        · apply older
          rw [result]
          exact Function.update_of_ne same _ _
    | _ => exact older (by rw [result])

/-- If every picture is saved by the account that chose it, and every download URL
arrives while that account or nobody is signed in, then an account gets only the
URLs of objects at its own place, each made from an image chosen while the account
was signed in. -/
theorem pictures_stay_with_account (ran : AppRun past world)
    (kept : Throughout (fun past before event => keepsAccount past before event = true) past) :
    (∀ u url editor captured, world.Pending (.commitChanges u url editor captured) →
      OwnPicture past u url) ∧
    (∀ u url, world.firebase.photoURL u = some url → OwnPicture past u url) ∧
    (∀ account ∈ world.firebase.accounts, ∀ object,
      world.firebase.storage (profilePhotoPath account.uid) = some object →
      ChosenBy past account.uid object.data) ∧
    ((storedObjects past).map (fun entry => entry.2.version)).Nodup := by
  have stored := stores ran
  refine ⟨?_, ?_, ?_, stored.once⟩
  · intro u url editor captured pending
    exact own_of_pending ran kept pending
  · intro u url committed
    obtain ⟨moment, member, editor, captured, effect⟩ := committed_of_photoURL ran committed
    obtain ⟨recent, earlier, rfl, reached, keptEarlier, _⟩ := ran.recall kept member
    rw [List.append_cons]
    exact (own_of_pending reached keptEarlier (pending_of_effect effect)).later
  · intro account known object held
    have free := ((directory_integrity ran).usable account known).2
    rw [stored.latest] at held
    obtain ⟨entry, found, rfl⟩ := Option.map_eq_some_iff.mp held
    have matched := List.find?_some found
    have samePath : entry.1 = profilePhotoPath account.uid := beq_iff_eq.mp matched
    apply chosen_of_stored ran kept free
    rw [← samePath]
    exact List.mem_of_find?_eq_some found

end Owners

/-- A new profile picture, all of whose requests succeed. -/
def pictureRun : List (Event Platform.plain) :=
  .launch :: signUpEvents "alice@mail" "secret" "alice" ++ editorEvents ++
    pictureEvents "selfie" () ++ stepEvents ++ stepEvents ++ [.runBlock] ++ stepEvents ++
    stepEvents ++ [.runBlock]

theorem pictures_stay_with_account_saved :
    ∃ url, (endOf pictureRun).2.firebase.photoURL "alice" = some url ∧
      OwnPicture (endOf pictureRun).1 "alice" url := by
  have kept := pictures_stay_with_account (appRun_endOf pictureRun (by decide +kernel))
    (by decide +kernel)
  have committed : ((endOf pictureRun).2.firebase.photoURL "alice").isSome := by decide +kernel
  obtain ⟨url, found⟩ := Option.isSome_iff_exists.mp committed
  exact ⟨url, found, kept.2.1 "alice" url found⟩

/-- Alice saves a picture and signs out; bob signs up; then the upload completes
and bob's profile gets the URL of alice's picture. -/
theorem picture_crosses_accounts :
    let reached := endOf (.launch :: signUpEvents "alice@mail" "secret" "alice" ++
      editorEvents ++ pictureEvents "selfie" () ++
      [.serve 1 (.success ""), .callback 0, .runBlock, .signOutButtonPressed none,
        .signUpButtonPressed, .loginButtonPressed "bob@mail" "hidden", .serve 1 (.success "bob"),
        .callback 0, .runBlock, .serve 1 (.success ""), .callback 0, .runBlock] ++
      stepEvents ++ stepEvents ++ [.serve 0 (.success "")] : List (Event Platform.plain))
    AppRun reached.1 reached.2 ∧
      reached.2.firebase.photoURL "bob" =
        some { path := profilePhotoPath "alice", version := 0 } ∧
      (choices reached.1).map Choice.user = [some "alice"] ∧
      profilePhotoPath "alice" ≠ profilePhotoPath "bob" := by
  intro reached
  exact ⟨appRun_endOf _ (by decide +kernel), by decide +kernel, by decide +kernel,
    by decide +kernel⟩

end InstagramProject
