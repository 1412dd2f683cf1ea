/-
Which username a post carries.  The Add Photo screen publishes under the username
it fetched when it was loaded; a profile save changes the document and no screen.
-/

import InstagramProject.Fetches

namespace InstagramProject

open Transition

variable {K : Platform}

/-! ### Usernames over time -/

/-- The username a save stores as it takes effect. -/
def World.savedUsername? (world : World K) (event : Event K) : Option (UID × String) :=
  match world.effect? event with
  | some (.updateUser uid fields _) =>
      (fields.lookup "username").map (fun username => (uid, username))
  | _ => none

/-- The username of a save that is acknowledged to its editor. -/
def World.acknowledgedUsername? (world : World K) : Event K → Option (UID × String)
  | .callback index =>
      match world.responses[index]? with
      | some (.updateUser uid fields _, .done) =>
          (fields.lookup "username").map (fun username => (uid, username))
      | _ => none
  | _ => none

/-- The username a write gives the document of an account. -/
def Request.username? (request : Request K) (u : UID) : Option (Option String) :=
  match request with
  | .setUser uid fields _ _ => if uid = u then some (fields.lookup "username") else none
  | .updateUser uid fields _ => if uid = u then (fields.lookup "username").map some else none
  | _ => none

/-- The username the device shows for an account: the one stored, or that of the writes
of the signed-in account which are still on their way. -/
def World.shownUsername (world : World K) (u : UID) (stored : Option String) : Option String :=
  world.queuedWrites.foldl (fun username request => (request.username? u).getD username) stored

/-- The username stored last for an account. -/
def latestSavedUsername (past : Past K) (u : UID) : Option String :=
  ((past.filterMap (fun moment => moment.1.savedUsername? moment.2)).find?
    (fun entry => entry.1 == u)).map Prod.snd

/-- The username of the save acknowledged last for an account. -/
def latestAcknowledgedUsername (past : Past K) (u : UID) : Option String :=
  ((past.filterMap (fun moment => moment.1.acknowledgedUsername? moment.2)).find?
    (fun entry => entry.1 == u)).map Prod.snd

section Stored

variable {past : Past K} {before after : World K} {event : Event K} {u : UID}

private theorem latestSavedUsername_cons :
    latestSavedUsername ((before, event) :: past) u =
      match before.savedUsername? event with
      | some (uid, username) => if uid = u then some username else latestSavedUsername past u
      | none => latestSavedUsername past u := by
  unfold latestSavedUsername
  rw [log_cons]
  cases saved : before.savedUsername? event with
  | none => rfl
  | some entry =>
      rw [Option.toList_some, List.singleton_append, List.find?_cons]
      by_cases same : entry.1 = u
      · simp only [same, beq_self_eq_true, Option.map_some, if_true]
      · simp only [beq_eq_false_iff_ne.mpr same, same, if_false]

/-- A document has the username stored last. -/
theorem stored_username {world : World K} (ran : AppRun past world) (u : UID) :
    (world.firebase.users u).bind (fun document => document.string? "username") =
      latestSavedUsername past u := by
  refine ran.invariant (fun past world => ∀ u,
    (world.firebase.users u).bind (fun document => document.string? "username") =
      latestSavedUsername past u) (fun _ => rfl) ?_ u
  intro past before event after earlier stored stepped u
  rw [latestSavedUsername_cons]
  rcases firebase_step stepped with ⟨noEffect, same⟩ | ⟨request, newUID, answer, effect, performed⟩
  · simp only [World.savedUsername?, noEffect, same]
    exact stored u
  · simp only [World.savedUsername?, effect]
    generalize after.firebase = firebase at performed
    cases performed with
    | @setUser uid _ fields login writer =>
        obtain ⟨absent, account, _known, _owned, isFields⟩ := creation earlier effect
        by_cases same : u = uid
        · subst same
          have empty := stored u
          rw [absent] at empty
          dsimp only
          rw [Function.update_self, isFields]
          exact empty
        · dsimp only
          rw [Function.update_of_ne same]
          exact stored u
    | @updateUser uid _ fields editor document found =>
        cases looked : fields.lookup "username" with
        | none =>
            by_cases same : u = uid
            · subst same
              have older := stored u
              rw [found] at older
              simp only [Function.update_self, looked, Option.map_none, ← older, Option.bind_some,
                Document.string?, Document.updateData_of_lookup_none looked]
            · simp only [Function.update_of_ne same, looked, Option.map_none]
              exact stored u
        | some username =>
            by_cases same : u = uid
            · subst same
              simp only [Function.update_self, looked, Option.map_some, if_true,
                Option.bind_some, Document.string?, Document.updateData_of_lookup_some looked]
            · simp only [Function.update_of_ne same, looked, Option.map_some, Ne.symm same,
                if_false]
              exact stored u
    | _ => exact stored u

/-- A write that changes the username shown changes it to its own. -/
private theorem username_shown {request : Request K} {data : Option Document}
    {username : Option String}
    (named : ∀ document, data = some document → document.string? "username" = username)
    (document : Document) (shown : request.shown u data = some document) :
    document.string? "username" = (request.username? u).getD username := by
  cases request with
  | setUser uid fields login writer =>
      unfold Request.shown at shown
      unfold Request.username?
      dsimp only at shown ⊢
      by_cases own : uid = u
      · rw [if_pos own] at shown
        rw [if_pos own]
        cases shown
        unfold Document.string? Document.setData
        cases fields.lookup "username" <;> rfl
      · rw [if_neg own] at shown
        rw [if_neg own]
        exact named document shown
  | updateUser uid fields editor =>
      unfold Request.shown at shown
      unfold Request.username?
      dsimp only at shown ⊢
      by_cases own : uid = u
      · rw [if_pos own] at shown
        rw [if_pos own]
        obtain ⟨earlier, known, rfl⟩ := Option.map_eq_some_iff.mp shown
        cases looked : fields.lookup "username" with
        | none =>
            rw [Document.string?, Document.updateData_of_lookup_none looked]
            exact named earlier known
        | some entered =>
            rw [Document.string?, Document.updateData_of_lookup_some looked]
            rfl
      · rw [if_neg own] at shown
        rw [if_neg own]
        exact named document shown
  | _ => exact named document shown

/-- A document shown has the username stored last, unless a write is on its way. -/
theorem shown_username {world : World K} (ran : AppRun past world) {document : Document}
    (shown : world.localUser u = some document) :
    document.string? "username" = world.shownUsername u (latestSavedUsername past u) := by
  have named : ∀ document, world.firebase.users u = some document →
      document.string? "username" = latestSavedUsername past u := by
    intro document stored
    rw [← stored_username ran u, stored]
    rfl
  revert document
  rw [World.localUser_eq_foldl]
  unfold World.shownUsername
  revert named
  -- Write by write, the document shown carries the username counted so far.
  generalize world.firebase.users u = data
  generalize latestSavedUsername past u = username
  induction world.queuedWrites generalizing data username with
  | nil => exact fun named document shown => named document shown
  | cons request rest ih =>
      intro named
      exact ih _ _ (username_shown named)

end Stored

/-! ### The username of a post -/

/-- A press publishes under the username its screen shows. -/
theorem username_of_publication {world : World K} {event : Event K} {press : Publication K}
    (pressed : world.publication? event = some press) {tabs : TabBarController K}
    {controller : AddPhotoViewController K}
    (inFront : world.addPhotoInFront? = some (tabs, controller)) :
    press.username = controller.username ∧ press.screen = tabs.id := by
  unfold World.publication? at pressed
  split at pressed
  · rw [inFront, Option.bind_some] at pressed
    dsimp only at pressed
    split at pressed
    · obtain ⟨photoPicked, _picked, rfl⟩ := Option.map_eq_some_iff.mp pressed
      exact ⟨rfl, rfl⟩
    · cases pressed
  · cases pressed

/-- The record a press finds was fetched once for its screen, and the press
publishes under the username the device showed then. -/
theorem fetched_of_press {past : Past K} {world : World K} (ran : AppRun past world)
    {event : Event K} {press : Publication K} (pressed : world.publication? event = some press)
    {u : UID} (recorded : world.recordsAccount u = true) :
    ∃ between asked fetching older, past = between ++ (asked, fetching) :: older ∧
      asked.effect? fetching = some (.getUser u (.addPhoto press.screen)) ∧
      (∀ other ∈ fetches past, other.caller = .addPhoto press.screen →
        other = { caller := .addPhoto press.screen, uid := u, data := asked.localUser u }) ∧
      press.username = (asked.shownUsername u (latestSavedUsername older u)).getD "no username" := by
  unfold World.recordsAccount at recorded
  split at recorded
  · rename_i tabs controller inFront
    obtain ⟨isUsername, isScreen⟩ := username_of_publication pressed inFront
    obtain ⟨record, kept, held⟩ := (Option.any_eq_true _ _).mp recorded
    obtain ⟨isStored, isKey⟩ := Bool.and_eq_true_iff.mp held
    obtain ⟨_, _, present⟩ := world.draft?_of_inFront inFront
    obtain ⟨⟨caller, uid, data⟩, answered, isCaller, isRecord⟩ :=
      (fetchedRecords ran).draft tabs.id controller record present kept
    cases isCaller
    cases isRecord
    obtain rfl : uid = u := beq_iff_eq.mp isKey
    obtain ⟨between, asked, fetching, older, rfl, reached, effect, isData⟩ :=
      moment_of_fetch ran answered
    dsimp only at effect isData
    rw [isScreen]
    refine ⟨between, asked, fetching, older, rfl, effect, ?_, ?_⟩
    · intro other again same
      rw [← isData]
      exact (fetch_unique ran answered again same.symm).symm
    · rw [isUsername, AddPhotoViewController.username, kept]
      cases data with
      | none => cases isStored
      | some document =>
          rw [← shown_username reached isData.symm]
          rfl
  · cases recorded

/-- A post whose screen held the record of its author names the author as the
latest acknowledged save did exactly if the device already showed that username, as a
stored one or as one on its way, when the screen's fetch was answered. -/
theorem post_username_current {past : Past K} {world : World K} (ran : AppRun past world)
    {documentID : String} {document : Document}
    (stored : world.firebase.posts documentID = some document) :
    ∃ recent before event earlier press,
      past = recent ++ (before, event) :: earlier ∧ before.publication? event = some press ∧
      press.documentID = documentID ∧
      (∀ other ∈ presses past, other.documentID = documentID → other = press) ∧
      ∀ u, before.currentUser = some u → before.recordsAccount u = true →
        ∃ between asked fetching older, earlier = between ++ (asked, fetching) :: older ∧
          asked.effect? fetching = some (.getUser u (.addPhoto press.screen)) ∧
          (∀ other ∈ fetches earlier, other.caller = .addPhoto press.screen → other =
            { caller := .addPhoto press.screen, uid := u, data := asked.localUser u }) ∧
          ∀ username, latestAcknowledgedUsername earlier u = some username →
            (document "username" = some (.string username) ↔
              (asked.shownUsername u (latestSavedUsername older u)).getD "no username" =
                username) := by
  obtain ⟨press, logged, rfl, shape⟩ := document_cases ran stored
  obtain ⟨⟨before, event⟩, member, pressed⟩ := List.mem_filterMap.mp logged
  obtain ⟨recent, earlier, rfl, reached⟩ := ran.moment member
  refine ⟨recent, before, event, earlier, press, rfl, pressed, rfl, ?_, ?_⟩
  · intro other otherLogged same
    exact (publishing_paired ran).publication_unique otherLogged logged same
  · intro u _signedIn recorded
    obtain ⟨between, asked, fetching, older, split, effect, once, isUsername⟩ :=
      fetched_of_press reached pressed recorded
    refine ⟨between, asked, fetching, older, split, effect, once, ?_⟩
    intro username _acknowledged
    have published : document "username" = some (.string press.username) := by
      rcases shape with rfl | ⟨version, rfl, _⟩
      · rfl
      · rfl
    rw [published, Option.some.injEq, FieldValue.string.injEq, isUsername]

/-- Alice saves her profile, then opens the Add Photo screen and publishes. -/
def savedThenPublished : List (Event Platform.plain) :=
  .launch :: signUpEvents "alice@mail" "secret" "alice" ++ profileEvents ++
    sessionEvents [(.username, "alice"), (.userBio, "hello"), (.userFullName, "Alice A")] () ++
    publishEvents "beach" "sunny" "post1" () ++ stepEvents

/-- The Add Photo screen is loaded while a new username is on its way to Firestore;
the save is acknowledged before the press. -/
def publishedWhileSaving : List (Event Platform.plain) :=
  completeProfile ++
    [.editButtonPressed, .fieldEdited .username "anna", .doneButtonPressed (),
      .editorCancelButtonPressed, .selectTab 1, .serve 1 (.success ""), .callback 0, .runBlock] ++
    stepEvents ++
    [.runBlock, .galleryButtonPressed, .sourceChosen, .imagePicked (some "beach"), .runBlock,
      .captionEdited "sunny", .nextButtonPressed "post1" (), .serve 0 (.success "")]

theorem post_username_current_saving :
    ∃ document, (endOf publishedWhileSaving).2.firebase.posts "post1" = some document ∧
      document "username" = some (.string "anna") := by
  have posted : ((endOf publishedWhileSaving).2.firebase.posts "post1").isSome := by
    decide +kernel
  have pressing : Throughout (fun past before event => ((before.publication? event).isNone ||
      before.currentUser == some "alice" && before.recordsAccount "alice" &&
        latestAcknowledgedUsername past "alice" == some "anna") = true)
      (endOf publishedWhileSaving).1 := by
    decide +kernel
  have showing : Throughout (fun past before event => (before.fetch? event).all (fun fetch =>
      fetch.caller == .profile 1 || fetch.caller == .profile 3 ||
        (before.shownUsername "alice" (latestSavedUsername past "alice")).getD "no username" ==
          "anna") = true) (endOf publishedWhileSaving).1 := by
    decide +kernel
  obtain ⟨document, stored⟩ := Option.isSome_iff_exists.mp posted
  obtain ⟨recent, before, event, earlier, press, split, pressed, _, _, current⟩ :=
    post_username_current (appRun_endOf publishedWhileSaving (by decide +kernel)) stored
  rw [split] at pressing showing
  have atPress := pressing.earlier.1
  simp only [pressed, Option.isNone_some, Bool.false_or, Bool.and_eq_true,
    beq_iff_eq] at atPress
  obtain ⟨⟨signedIn, recorded⟩, acknowledged⟩ := atPress
  obtain ⟨between, asked, fetching, older, isEarlier, effect, _, agrees⟩ :=
    current "alice" signedIn recorded
  rw [isEarlier] at showing
  have atFetch := showing.earlier.2.earlier.1
  simp only [World.fetch?, effect, Option.all_some, Bool.or_eq_true, beq_iff_eq,
    reduceCtorEq, false_or] at atFetch
  exact ⟨document, stored, (agrees "anna" acknowledged).mpr atFetch⟩

/-- The Add Photo screen is loaded, then the username is changed and the save
acknowledged: the next post still has the old username. -/
theorem post_username_stale :
    let pressed := endOf (completeProfile ++
      [.selectTab 1, .serve 0 (.success ""), .callback 0, .runBlock, .selectTab 2] ++
      sessionEvents [(.username, "anna")] () ++
      [.selectTab 1, .galleryButtonPressed, .sourceChosen, .imagePicked (some "beach"), .runBlock,
        .captionEdited "sunny"])
    let published := Transition.run step pressed.1 pressed.2
      [.nextButtonPressed "post1" (), .serve 0 (.success "")]
    AppRun pressed.1 pressed.2 ∧ published.isSome ∧
      pressed.2.currentUser = some "alice" ∧ pressed.2.recordsAccount "alice" = true ∧
      (pressed.2.firebase.users "alice").map (fun document => document "username") =
        some (some (.string "anna")) ∧
      latestAcknowledgedUsername pressed.1 "alice" = some "anna" ∧
      published.map (fun reached =>
        (reached.2.firebase.posts "post1").map (fun document => document "username")) =
          some (some (some (.string "alice"))) := by
  intro pressed published
  exact ⟨appRun_endOf _ (by decide +kernel), by decide +kernel, by decide +kernel,
    by decide +kernel, by decide +kernel, by decide +kernel, by decide +kernel⟩

end InstagramProject
