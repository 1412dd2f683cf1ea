/-
Which account an editor changes.  An editor shows the record it was opened with;
a save goes to the account signed in when Done is pressed, and the profile change
to the account signed in when the download URL arrives.
-/

import InstagramProject.Identities
import InstagramProject.PictureOwners

namespace InstagramProject

open Transition

variable {K : Platform}

/-! ### Editors and the records they were opened with -/

/-- The editors opened so far with their records, the latest first. -/
def openings (past : Past K) : List (ControllerID × FetchedUser) :=
  past.filterMap (fun moment =>
    (moment.1.opened? moment.2).map (fun user => (moment.1.nextController, user)))

/-- An editor on the screen was opened with its record, and every opening made a
new editor. -/
structure OpenedEditors (past : Past K) (world : World K) : Prop where
  editors : ∀ controller, .editor controller ∈ world.presented →
    (controller.id, controller.instaUser) ∈ openings past
  known : ∀ opening ∈ openings past, opening.1 < world.nextController
  once : ((openings past).map Prod.fst).Nodup

private theorem openings_cons (past : Past K) (before : World K) (event : Event K) :
    openings ((before, event) :: past) =
      ((before.opened? event).map (fun user => (before.nextController, user))).toList ++
        openings past := log_cons _ _ _

theorem openedEditors {past : Past K} {world : World K} (ran : AppRun past world) :
    OpenedEditors past world := by
  apply ran.invariant OpenedEditors ⟨nofun, nofun, List.nodup_nil⟩
  intro past before event after _earlier logged stepped
  have identities := identityStep_of_step stepped
  have older {controller : EditProfileViewController K}
      (present : .editor controller ∈ before.presented) :
      (controller.id, controller.instaUser) ∈ openings ((before, event) :: past) := by
    rw [openings_cons]
    exact List.mem_append_right _ (logged.editors controller present)
  refine ⟨?_, ?_, ?_⟩
  · intro controller present
    cases editorStep_of_step stepped present with
    | kept wasPresent => exact older wasPresent
    | @previewed earlier wasPresent => exact @older earlier wasPresent
    | @chosen earlier choice wasPresent => exact @older earlier wasPresent
    | @edited earlier edit wasPresent =>
        have same : (earlier.edit edit.field edit.text).id = earlier.id ∧
            (earlier.edit edit.field edit.text).instaUser = earlier.instaUser := by
          cases edit.field <;> exact ⟨rfl, rfl⟩
        rw [same.1, same.2]
        exact older wasPresent
    | @opened user opening =>
        have same : (EditProfileViewController.loaded before.nextController user
            before.currentUser : EditProfileViewController K).instaUser = user := by
          cases before.currentUser <;> rfl
        rw [openings_cons, opening, loaded_id, same]
        exact List.mem_cons_self
  · intro opening member
    rw [openings_cons] at member
    rcases List.mem_append.mp member with new | old
    · cases opened : before.opened? event with
      | none =>
          rw [opened] at new
          cases new
      | some user =>
          rw [opened] at new
          rw [List.mem_singleton.mp new, (identities.next_of_opened opened).2]
          exact Nat.lt_succ_self _
    · exact Nat.lt_of_lt_of_le (logged.known opening old) identities.grows
  · rw [openings_cons, List.map_append]
    cases opened : before.opened? event with
    | none => exact logged.once
    | some user =>
        refine List.nodup_cons.mpr ⟨?_, logged.once⟩
        intro again
        obtain ⟨opening, member, same⟩ := List.mem_map.mp again
        have below := logged.known opening member
        rw [same] at below
        exact Nat.lt_irrefl _ below

theorem record_unique {past : Past K} {world : World K} (ran : AppRun past world)
    {editor : ControllerID} {record other : FetchedUser}
    (opened : (editor, record) ∈ openings past) (again : (editor, other) ∈ openings past) :
    record = other := by
  have same := List.inj_on_of_nodup_map (openedEditors ran).once opened again rfl
  exact (Prod.mk.inj same).2

/-! ### The account of a save -/

/-- The editor a request was sent from. -/
def Request.editor? : Request K → Option ControllerID
  | .updateUser _ _ editor => some editor
  | .putData _ _ (.profilePicture _ editor) => some editor
  | .downloadURL _ (.profilePicture _ editor) => some editor
  | .commitChanges _ _ editor _ => some editor
  | _ => none

/-- A save is made by the account whose record its editor shows, and a download URL
of a profile picture finds nobody signed in or the account Done was pressed for. -/
def World.keepsTarget (world : World K) (event : Event K) : Bool :=
  (match world.save? event with
    | some save => world.editorInFront?.any (fun controller =>
        controller.instaUser.key == save.user)
    | none => true) &&
  match event with
  | .callback index =>
      match world.responses[index]? with
      | some (.downloadURL _ (.profilePicture userId _), .url _) =>
          world.currentUser.all (fun user => user == userId)
      | _ => true
  | _ => true

section Targets

variable {past : Past K} {world : World K} {editor : ControllerID} {record : FetchedUser}

theorem openings_later {recent earlier : Past K} {opening : ControllerID × FetchedUser}
    (opened : opening ∈ openings earlier) : opening ∈ openings (recent ++ earlier) := by
  unfold openings at opened ⊢
  rw [List.filterMap_append]
  exact List.mem_append_right _ opened

/-- A save goes to the account of the record. -/
theorem key_of_save (ran : AppRun past world)
    (kept : Throughout (fun _ before event => before.keepsTarget event = true) past)
    {moment : World K × Event K} (member : moment ∈ past) {save : Save K}
    (started : moment.1.save? moment.2 = some save)
    (opened : (save.editor, record) ∈ openings past) : save.user = record.key := by
  obtain ⟨recent, earlier, rfl, reached, _, permitted⟩ := ran.recall kept member
  obtain ⟨controller, inFront, isEditor, _⟩ := editor_of_save started
  have shown := (openedEditors reached).editors controller (mem_of_editorInFront inFront)
  rw [← isEditor] at shown
  rw [List.append_cons] at opened ran
  rw [record_unique ran opened (openings_later shown)]
  simp only [World.keepsTarget, started, inFront, Option.any_some, Bool.and_eq_true,
    beq_iff_eq] at permitted
  exact permitted.1.symm

/-- What a request of an editor changes belongs to one account. -/
def Request.changesOnly (u : UID) : Request K → Prop
  | .updateUser uid _ _ => uid = u
  | .putData reference _ _ => reference = profilePhotoPath u ∧ SlashFree u
  | .commitChanges uid _ _ _ => uid = u
  | _ => True

theorem target_of_pending (ran : AppRun past world)
    (kept : Throughout (fun _ before event => before.keepsTarget event = true) past)
    (opened : (editor, record) ∈ openings past) {request : Request K}
    (pending : world.Pending request) (own : request.editor? = some editor) :
    request.changesOnly record.key := by
  cases request with
  | updateUser uid fields editor' =>
      cases own
      obtain ⟨moment, member, save, started, isUser, _, rfl⟩ := saved_of_pending ran pending
      have same := key_of_save ran kept member started opened
      exact isUser.symm.trans same
  | putData reference imageData caller =>
      cases caller with
      | post documentID screen => cases own
      | profilePicture userId editor' =>
          cases own
          obtain ⟨isProfile, free, moment, member, save, started, isUser, _, rfl⟩ :=
            picture_of_pending ran pending
          have same := key_of_save ran kept member started opened
          rw [← same, isUser]
          exact ⟨isProfile, free⟩
  | commitChanges uid url editor' captured =>
      cases own
      obtain ⟨⟨before, event⟩, member, issued⟩ := issued_of_pending ran pending
      obtain ⟨recent, earlier, rfl, reached, _, permitted⟩ := ran.recall kept member
      dsimp only at issued permitted reached
      obtain ⟨index, reference, userId, rfl, found, signedIn⟩ := issued.commit
      simp only [World.keepsTarget, found, signedIn, Option.all_some, Bool.and_eq_true,
        beq_iff_eq] at permitted
      obtain ⟨_, rfl⟩ := permitted
      obtain ⟨_, _, moment, logged, save, started, isUser, rfl⟩ :=
        picture_of_download reached (.inr (.inr ⟨_, List.mem_of_getElem? found⟩))
      change uid = record.key
      rw [← isUser]
      refine key_of_save ran kept ?_ started opened
      exact List.mem_append_right _ (List.mem_cons_of_mem _ logged)
  | _ => trivial

/-- If every save is made by the account whose record its editor shows, and every
download URL arrives while that account or nobody is signed in, then no request of
an editor changes the document, the picture or the photo URL of another account. -/
theorem edits_stay_with_account (ran : AppRun past world)
    (kept : Throughout (fun _ before event => before.keepsTarget event = true) past)
    (opened : (editor, record) ∈ openings past) {event : Event K} {after : World K}
    (stepped : step world event = some after) {request : Request K}
    (effect : world.effect? event = some request) (own : request.editor? = some editor) :
    ∀ account ∈ world.firebase.accounts, account.uid ≠ record.key →
      after.firebase.users account.uid = world.firebase.users account.uid ∧
        after.firebase.photoURL account.uid = world.firebase.photoURL account.uid ∧
        after.firebase.storage (profilePhotoPath account.uid) =
          world.firebase.storage (profilePhotoPath account.uid) := by
  intro account known other
  have target := target_of_pending ran kept opened (pending_of_effect effect) own
  have free := ((directory_integrity ran).usable account known).2
  rcases firebase_step stepped with ⟨quiet, _⟩ | ⟨request', newUID, answer, effect', performed⟩
  · rw [effect] at quiet
    cases quiet
  · cases effect.symm.trans effect'
    generalize after.firebase = firebase at performed
    cases performed with
    | updateUser _stored =>
        change _ = record.key at target
        rw [target]
        exact ⟨Function.update_of_ne other _ _, rfl, rfl⟩
    | putData =>
        obtain ⟨isProfile, keyFree⟩ := target
        refine ⟨rfl, rfl, ?_⟩
        rw [isProfile]
        apply Function.update_of_ne
        intro samePath
        exact other (profilePhotoPath_injective free keyFree samePath)
    | commitChanges =>
        change _ = record.key at target
        rw [target]
        exact ⟨rfl, Function.update_of_ne other _ _, rfl⟩
    | downloadURL _held => exact ⟨rfl, rfl, rfl⟩
    | _ => cases own

end Targets

/-- Bob signs up and out, and alice saves her profile. -/
theorem edits_stay_with_account_saved :
    let reached := endOf (.launch :: signUpEvents "bob@mail" "hidden" "bob" ++ profileEvents ++
      [.signOutButtonPressed none] ++ signUpEvents "alice@mail" "secret" "alice" ++
      editorEvents ++ pictureEvents "selfie" () : List (Event Platform.plain))
    ∃ after, step reached.2 (.serve 1 (.success "")) = some after ∧
      after.firebase.users "bob" = reached.2.firebase.users "bob" := by
  intro reached
  let record : FetchedUser :=
    { user :=
        { username := "no username"
          userBio := "no bio"
          userId := "alice"
          userFullName := "no name"
          userEmail := "alice@mail" }
      key := "alice"
      stored := true }
  have opened : (4, record) ∈ openings reached.1 := by decide +kernel
  obtain ⟨after, stepped⟩ := Option.isSome_iff_exists.mp
    (by decide +kernel : (step reached.2 (.serve 1 (.success ""))).isSome)
  obtain ⟨request, effect, own⟩ := Option.bind_eq_some_iff.mp
    (by decide +kernel :
      (reached.2.effect? (.serve 1 (.success ""))).bind Request.editor? = some 4)
  have bob : { uid := "bob", email := "bob@mail", password := "hidden" } ∈
      reached.2.firebase.accounts := by
    decide +kernel
  have spared := edits_stay_with_account (appRun_endOf _ (by decide +kernel)) (by decide +kernel)
    opened stepped effect own _ bob (by decide +kernel)
  exact ⟨after, stepped, spared.1⟩

/-- Login is pressed for bob and for alice.  Bob's sign-in opens the app and his
editor, alice's is served under it, and Done changes the document of alice. -/
theorem edit_crosses_accounts :
    let reached := endOf (.launch :: signUpEvents "alice@mail" "secret" "alice" ++
      profileEvents ++ [.signOutButtonPressed none] ++ signUpEvents "bob@mail" "hidden" "bob" ++
      profileEvents ++ [.signOutButtonPressed none, .loginButtonPressed "bob@mail" "hidden",
        .loginButtonPressed "alice@mail" "secret", .serve 0 (.success ""), .callback 0,
        .runBlock, .selectTab 2, .serve 1 (.success ""), .callback 0, .runBlock,
        .editButtonPressed, .serve 0 (.success ""), .fieldEdited .username "bobby",
        .fieldEdited .userBio "hi", .fieldEdited .userFullName "Bob",
        .doneButtonPressed (), .serve 0 (.success "")] : List (Event Platform.plain))
    AppRun reached.1 reached.2 ∧
      (openings reached.1).map (fun opening => opening.2.key) = ["bob"] ∧
      reached.2.currentUser = some "alice" ∧
      (reached.2.firebase.users "alice").bind (fun document => document "username") =
        some (.string "bobby") := by
  intro reached
  exact ⟨appRun_endOf _ (by decide +kernel), by decide +kernel, by decide +kernel,
    by decide +kernel⟩

end InstagramProject
