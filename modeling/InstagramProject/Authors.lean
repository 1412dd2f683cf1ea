/-
Who a post names as its author.  The author comes from the record the Add Photo
screen fetched when it was loaded, not from the session.
-/

import InstagramProject.Drafts
import InstagramProject.UserDocuments

namespace InstagramProject

open Transition

variable {K : Platform}

/-! ### Fetched records -/

/-- A fetched record names the account it was asked for, or is empty. -/
structure FetchedUser.Genuine (fetched : FetchedUser) : Prop where
  stored : fetched.stored = true → fetched.user.userId = fetched.key
  missing : fetched.stored = false → fetched.user = InstagramUser.empty

theorem genuine_of_data {uid : UID} {data : Option Document}
    (names : ∀ document, data = some document → document "userId" = some (.string uid)) :
    FetchedUser.Genuine
      { user := (data.map InstagramUser.ofDocument).getD InstagramUser.empty
        key := uid
        stored := data.isSome } := by
  cases data with
  | none => exact ⟨nofun, fun _ => rfl⟩
  | some document =>
      refine ⟨fun _ => ?_, nofun⟩
      have isUid := names document rfl
      simp only [Option.map_some, Option.getD_some, InstagramUser.ofDocument, Document.string?,
        isUid]

/-- Every record on its way to the Add Photo screen or kept by it is genuine. -/
structure Records (world : World K) : Prop where
  answers : ∀ uid caller document,
    (.getUser uid caller, .snapshot (some document)) ∈ world.responses →
    document "userId" = some (.string uid)
  blocks : ∀ screen user, .setAddPhotoUser screen user ∈ world.mainQueue → user.Genuine
  draft : ∀ screen controller user, world.draft? = some (screen, controller) →
    controller.instaUser = some user → user.Genuine

theorem draft_user {before : World K}
    {draft after : Option (ControllerID × AddPhotoViewController K)}
    {image : Option K.Image} {text : Option String} (stepped : DraftStep before draft image text after)
    {screen : ControllerID} {controller : AddPhotoViewController K} {user : FetchedUser}
    (present : after = some (screen, controller)) (kept : controller.instaUser = some user) :
    (∃ earlier, draft = some (screen, earlier) ∧ earlier.instaUser = some user) ∨
      .setAddPhotoUser screen user ∈ before.mainQueue := by
  cases stepped with
  | kept => exact .inl ⟨controller, present, kept⟩
  | closed => cases present
  | pickedNowhere _absent => cases present
  | opened _absent =>
      cases present
      cases kept
  | informed found queued =>
      cases present
      cases kept
      exact .inr queued
  | picked found =>
      cases present
      exact .inl ⟨_, found, kept⟩
  | typed found =>
      cases present
      exact .inl ⟨_, found, kept⟩
  | shown found =>
      cases present
      exact .inl ⟨_, found, kept⟩
  | reset found =>
      cases present
      exact .inl ⟨_, found, kept⟩

private theorem answers_step {past : Past K} {before after : World K} {event : Event K}
    (earlier : AppRun past before) (records : Records before)
    (stepped : step before event = some after) {uid : UID} {caller : FetchCaller}
    {document : Document}
    (member : (.getUser uid caller, .snapshot (some document)) ∈ after.responses) :
    document "userId" = some (.string uid) := by
  rcases (workStep_of_step stepped).responses member with
    old | ⟨index, outcome, _served, _found, performed⟩
  · exact records.answers uid caller document old
  · generalize isAnswer : Answer.snapshot (some document) = answer at performed
    generalize after.work.firebase = firebase at performed
    cases performed_of_perform performed with
    | refused => cases isAnswer
    | getUser => exact (localUser_account earlier (Answer.snapshot.inj isAnswer).symm).1
    | unconfirmed _loses _carriedOut => cases isAnswer

private theorem blocks_step {before after : World K} {event : Event K} (records : Records before)
    (stepped : step before event = some after) {screen : ControllerID} {user : FetchedUser}
    (member : .setAddPhotoUser screen user ∈ after.mainQueue) : user.Genuine := by
  rcases (workStep_of_step stepped).mainQueue member with
    old | display | ⟨request, answer, answered, handled⟩
  · exact records.blocks screen user old
  · cases display
  · cases queues_of_handlerBlock handled with
    | addPhotoFetched =>
        apply genuine_of_data
        rintro document rfl
        exact records.answers _ _ document answered

theorem records {past : Past K} {world : World K} (ran : AppRun past world) : Records world := by
  refine ran.invariant (fun _ world => Records world) ?_ ?_
  · exact ⟨nofun, nofun, nofun⟩
  · intro past before event after earlier records stepped
    refine ⟨?_, ?_, ?_⟩
    · intro uid caller document member
      exact answers_step earlier records stepped member
    · intro screen user member
      exact blocks_step records stepped member
    · intro screen controller user present kept
      rcases draft_user (draftStep_of_step stepped) present kept with
        ⟨old, found, same⟩ | queued
      · exact records.draft screen old user found same
      · exact records.blocks screen user queued

/-! ### The author of a post -/

/-- The Add Photo screen in front holds the stored record of the account. -/
def World.recordsAccount (world : World K) (u : UID) : Bool :=
  match world.addPhotoInFront? with
  | some (_, controller) =>
      controller.instaUser.any (fun fetched => fetched.stored && fetched.key == u)
  | none => false

theorem press_author {past : Past K} {world : World K} (ran : AppRun past world)
    {event : Event K} {press : Publication K} (pressed : world.publication? event = some press)
    {u : UID} (signedIn : world.currentUser = some u) :
    press.userId = u ↔ world.recordsAccount u = true := by
  obtain ⟨tabs, controller, _, _, inFront, _, isUserId, _, _⟩ := press_of_publication pressed
  have nonempty := (usable_of_signedIn ran signedIn).1
  obtain ⟨_, _, present⟩ := world.draft?_of_inFront inFront
  rw [isUserId, AddPhotoViewController.userId, World.recordsAccount, inFront]
  dsimp only
  cases kept : controller.instaUser with
  | none => exact iff_of_false (Ne.symm nonempty) nofun
  | some fetched =>
      have genuine := (records ran).draft tabs.id controller fetched present kept
      simp only [Option.map_some, Option.getD_some, Option.any_some, Bool.and_eq_true, beq_iff_eq]
      cases found : fetched.stored with
      | true => simp only [genuine.stored found, true_and]
      | false =>
          rw [genuine.missing found]
          exact iff_of_false (Ne.symm nonempty) nofun

/-- A post names the account signed in at its press exactly if the record on the
Add Photo screen was then that account's stored record. -/
theorem post_author {past : Past K} {world : World K} (ran : AppRun past world)
    {documentID : String} {document : Document}
    (stored : world.firebase.posts documentID = some document) :
    ∃ moment ∈ past, ∃ press, moment.1.publication? moment.2 = some press ∧
      press.documentID = documentID ∧
      (∀ other ∈ presses past, other.documentID = documentID → other = press) ∧
      ∀ u, moment.1.currentUser = some u →
        (document "userId" = some (.string u) ↔ moment.1.recordsAccount u = true) := by
  obtain ⟨press, logged, rfl, shape⟩ := document_cases ran stored
  obtain ⟨moment, member, pressed⟩ := List.mem_filterMap.mp logged
  obtain ⟨_, earlier, _, reached⟩ := ran.moment member
  refine ⟨moment, member, press, pressed, rfl, ?_, ?_⟩
  · intro other otherLogged same
    exact (publishing_paired ran).publication_unique otherLogged logged same
  · intro u signedIn
    have isUserId : document "userId" = some (.string press.userId) := by
      rcases shape with rfl | ⟨version, rfl, _⟩
      · rfl
      · rfl
    rw [isUserId, Option.some.injEq, FieldValue.string.injEq]
    exact press_author reached pressed signedIn

/-- The publication of `publicationRun` was pressed after the record of alice had
arrived: the post names her. -/
theorem post_author_publication :
    ∃ document, (endOf publicationRun).2.firebase.posts "post1" = some document ∧
      document "userId" = some (.string "alice") ∧
      ∃ moment ∈ (endOf publicationRun).1, ∃ press,
        moment.1.publication? moment.2 = some press ∧ press.documentID = "post1" ∧
        moment.1.currentUser = some "alice" ∧ moment.1.recordsAccount "alice" = true := by
  have posted : ((endOf publicationRun).2.firebase.posts "post1").isSome := by decide +kernel
  obtain ⟨document, stored⟩ := Option.isSome_iff_exists.mp posted
  obtain ⟨moment, member, press, pressed, isPost, _, author⟩ :=
    post_author (appRun_endOf publicationRun (by decide +kernel)) stored
  have atPress : (endOf publicationRun).1.all (fun moment =>
      (moment.1.publication? moment.2).isNone ||
        moment.1.currentUser == some "alice" && moment.1.recordsAccount "alice") = true := by
    decide +kernel
  have facts := List.all_eq_true.mp atPress moment member
  rw [pressed, Option.isNone_some, Bool.false_or, Bool.and_eq_true, beq_iff_eq] at facts
  obtain ⟨signedIn, recorded⟩ := facts
  exact ⟨document, stored, (author "alice" signedIn).mpr recorded, moment, member, press,
    pressed, isPost, signedIn, recorded⟩

/-- A press before the record has arrived: the post of alice names nobody. -/
theorem post_without_author :
    let reached := endOf (.launch :: signUpEvents "alice@mail" "secret" "alice" ++
      [.selectTab 1, .galleryButtonPressed, .sourceChosen, .imagePicked (some "beach"), .runBlock,
        .captionEdited "sunny", .nextButtonPressed "post1" (), .serve 1 (.success "")] :
      List (Event Platform.plain))
    AppRun reached.1 reached.2 ∧
      (∃ moment ∈ reached.1, (moment.1.publication? moment.2).map Publication.documentID =
        some "post1" ∧ moment.1.currentUser = some "alice") ∧
      ∃ document, reached.2.firebase.posts "post1" = some document ∧
        document "userId" = some (.string "") := by
  intro reached
  refine ⟨appRun_endOf _ (by decide +kernel), ?_, _, rfl, rfl⟩
  exact List.any_eq_true.mp (by decide +kernel : reached.1.any (fun moment =>
    (moment.1.publication? moment.2).map Publication.documentID = some "post1" ∧
      moment.1.currentUser = some "alice") = true) |>.imp (fun _ found =>
        ⟨found.1, of_decide_eq_true found.2⟩)

end InstagramProject
