/-
Stand-ins and what the user typed.  An absent field is decoded to a stand-in, an
editor shows it as text, and the test for missing fields lets it through; so does
the username of a post, which is not tested at all.
-/

import InstagramProject.Sessions
import InstagramProject.Usernames

namespace InstagramProject

open Transition

variable {K : Platform}

/-! ### Texts and who typed them -/

/-- The text was typed into the field of an editor while the account was signed in. -/
def TypedBy (past : Past K) (u : UID) (field : ProfileField) (text : String) : Prop :=
  ∃ moment ∈ past, moment.1.currentUser = some u ∧ ∃ edit,
    moment.1.fieldEdit? moment.2 = some edit ∧ edit.field = field ∧ edit.text = text

/-- The account signed in when a field was last typed since an editor was last
opened. -/
def typist : Past K → ProfileField → Option UID
  | [], _ => none
  | (world, event) :: past, field =>
      match world.opened? event, world.fieldEdit? event with
      | some _, _ => none
      | none, some edit => if edit.field = field then world.currentUser else typist past field
      | none, none => typist past field

def Fetch.has (fetch : Fetch) (field : ProfileField) : Bool :=
  (fetch.data.bind (fun document => document.string? field.name)).isSome

/-- The record was decoded from a document of the account that had the field. -/
def decoded (past : Past K) (u : UID) (record : FetchedUser) (field : ProfileField) : Bool :=
  record.key == u &&
    (fetches past).any (fun fetch => decide (fetch.user = record) && fetch.has field)

/-- Each text a save writes was typed in its session by the account that saves, or
was left as the document of that account had it. -/
def suppliesTexts (past : Past K) (world : World K) (event : Event K) : Bool :=
  match world.save? event, world.editorInFront? with
  | some save, some controller => ProfileField.all.all (fun field =>
      typist past field == some save.user ||
        (typed past field).isNone && decoded past save.user controller.instaUser field)
  | _, _ => true

/-- A post is published with the record of the signed-in account, decoded from a
document that had a username. -/
def suppliesUsername (past : Past K) (world : World K) (event : Event K) : Bool :=
  match world.publication? event, world.currentUser, world.addPhotoInFront? with
  | some _, some u, some (_, controller) =>
      controller.instaUser.any (fun record => decoded past u record .username)
  | _, _, _ => true

def supplies (past : Past K) (world : World K) (event : Event K) : Bool :=
  suppliesTexts past world event && suppliesUsername past world event

section Texts

variable {past : Past K} {u : UID} {field : ProfileField} {text : String}

theorem TypedBy.later (wasTyped : TypedBy past u field text) (recent : Past K) :
    TypedBy (recent ++ past) u field text := by
  obtain ⟨moment, member, typing⟩ := wasTyped
  exact ⟨moment, List.mem_append_right _ member, typing⟩

/-- What was last typed into a field was typed by its typist. -/
theorem typed_of_typist (isTypist : typist past field = some u) :
    ∃ text, typed past field = some text ∧ TypedBy past u field text := by
  induction past with
  | nil => cases isTypist
  | cons moment past ih =>
      obtain ⟨world, event⟩ := moment
      rw [typed_cons]
      simp only [typist] at isTypist
      cases opening : world.opened? event with
      | some user =>
          rw [opening] at isTypist
          cases isTypist
      | none =>
          rw [opening] at isTypist
          cases edited : world.fieldEdit? event with
          | none =>
              rw [edited] at isTypist
              obtain ⟨text, isText, wasTyped⟩ := ih isTypist
              exact ⟨text, isText, wasTyped.later [_]⟩
          | some edit =>
              rw [edited] at isTypist
              dsimp only at isTypist ⊢
              by_cases same : edit.field = field
              · rw [if_pos same] at isTypist ⊢
                exact ⟨edit.text, rfl, (world, event), List.mem_cons_self, isTypist, edit, edited,
                  same, rfl⟩
              · rw [if_neg same] at isTypist ⊢
                obtain ⟨text, isText, wasTyped⟩ := ih isTypist
                exact ⟨text, isText, wasTyped.later [_]⟩

end Texts

/-! ### Every run -/

/-- A text is that of its account: not empty, and typed by its user. -/
def Supplied (past : Past K) (u : UID) (field : ProfileField) (text : String) : Prop :=
  text ≠ "" ∧ TypedBy past u field text

/-- What is stored, saved, fetched and published is what users typed. -/
structure NoStandIns (past : Past K) (world : World K) : Prop where
  documents : ∀ uid document, world.firebase.users uid = some document →
    ∀ field : ProfileField, ∀ value, document field.name = some value →
      ∃ text, value = .string text ∧ Supplied past uid field text
  saves : ∀ moment ∈ past, ∀ save, moment.1.save? moment.2 = some save →
    ∀ field, Supplied past save.user field (save.text field)
  fetched : ∀ fetch ∈ fetches past, ∀ document, fetch.data = some document →
    ∀ field : ProfileField, ∀ value, document field.name = some value →
      ∃ text, value = .string text ∧ Supplied past fetch.uid field text
  presses : ∀ moment ∈ past, ∀ press, moment.1.publication? moment.2 = some press →
    ∃ u, moment.1.currentUser = some u ∧ Supplied past u .username press.username

section Runs

variable {past : Past K} {before after : World K} {event : Event K}

theorem Supplied.later {u : UID} {field : ProfileField} {text : String}
    (supplied : Supplied past u field text) (recent : Past K) :
    Supplied (recent ++ past) u field text :=
  ⟨supplied.1, supplied.2.later recent⟩

theorem text_of_present {document : Document} {field : ProfileField} {text : String}
    (present : document.string? field.name = some text) :
    (InstagramUser.ofDocument document).text field = text := by
  cases field with
  | username => exact congrArg (fun found => Option.getD found "no username") present
  | userBio => exact congrArg (fun found => Option.getD found "no bio") present
  | userFullName => exact congrArg (fun found => Option.getD found "no name") present

theorem value_of_string? {document : Document} {key text : String}
    (present : document.string? key = some text) : document key = some (.string text) := by
  unfold Document.string? at present
  split at present
  · rename_i found
    cases present
    exact found
  · cases present

/-- A field decoded from what the user had typed is what the user had typed. -/
theorem supplied_of_decoded (sources : NoStandIns past before) {u : UID} {record : FetchedUser}
    {field : ProfileField} (isDecoded : decoded past u record field = true) :
    Supplied past u field (record.user.text field) := by
  obtain ⟨isKey, fetched⟩ := Bool.and_eq_true_iff.mp isDecoded
  obtain ⟨fetch, answered, found⟩ := List.any_eq_true.mp fetched
  obtain ⟨isRecord, present⟩ := Bool.and_eq_true_iff.mp found
  obtain rfl := of_decide_eq_true isRecord
  obtain rfl : fetch.uid = u := beq_iff_eq.mp isKey
  obtain ⟨text, has⟩ := Option.isSome_iff_exists.mp present
  obtain ⟨document, isData, isText⟩ := Option.bind_eq_some_iff.mp has
  obtain ⟨value, same, supplied⟩ :=
    sources.fetched fetch answered document isData field _ (value_of_string? isText)
  cases same
  have decodedText : fetch.user.user.text field = text := by
    unfold Fetch.user
    rw [isData]
    exact text_of_present isText
  rw [decodedText]
  exact supplied

private theorem saves_step (ran : AppRun past before) (sources : NoStandIns past before)
    (supplies : suppliesTexts past before event = true) {save : Save K}
    (started : before.save? event = some save) (field : ProfileField) :
    Supplied past save.user field (save.text field) := by
  obtain ⟨controller, inFront, _isEditor, _signedIn⟩ := editor_of_save started
  obtain ⟨isText, nonempty⟩ := text_of_save inFront started field
  refine ⟨isText ▸ nonempty, ?_⟩
  have entered : session? past before event = some
      { save := save, record := controller.instaUser.user, typed := typed past } := by
    simp only [session?, started, inFront, Option.bind_some, Option.map_some]
  have writes := text_of_session ran entered field
  dsimp only at writes
  unfold suppliesTexts at supplies
  rw [started, inFront] at supplies
  have source := List.all_eq_true.mp supplies field field.mem_all
  rcases Bool.or_eq_true_iff.mp source with retyped | left
  · obtain ⟨text, isTyped, wasTyped⟩ := typed_of_typist (beq_iff_eq.mp retyped)
    rw [writes, isTyped]
    exact wasTyped
  · obtain ⟨untyped, isDecoded⟩ := Bool.and_eq_true_iff.mp left
    rw [writes, Option.isNone_iff_eq_none.mp untyped]
    exact (supplied_of_decoded sources isDecoded).2

private theorem presses_step (ran : AppRun past before) (sources : NoStandIns past before)
    (supplies : suppliesUsername past before event = true) {press : Publication K}
    (pressed : before.publication? event = some press) :
    ∃ u, before.currentUser = some u ∧ Supplied past u .username press.username := by
  obtain ⟨tabs, controller, _, _, inFront, _, _, _, _⟩ := press_of_publication pressed
  obtain ⟨isRoot, _, _⟩ := before.draft?_of_inFront inFront
  have inside : before.currentUser ≠ none :=
    (signedInside ran).tabs tabs.id (World.rootIdentity_of_some isRoot)
  obtain ⟨u, signedIn⟩ := Option.ne_none_iff_exists'.mp inside
  refine ⟨u, signedIn, ?_⟩
  unfold suppliesUsername at supplies
  rw [pressed, signedIn, inFront] at supplies
  obtain ⟨record, kept, isDecoded⟩ := (Option.any_eq_true _ _).mp supplies
  rw [(username_of_publication pressed inFront).1, AddPhotoViewController.username, kept]
  exact supplied_of_decoded sources isDecoded

private theorem documents_step (ran : AppRun past before) (sources : NoStandIns past before)
    (stepped : step before event = some after) {uid : UID} {document : Document}
    (stored : after.firebase.users uid = some document) {field : ProfileField} {value : FieldValue}
    (present : document field.name = some value) :
    ∃ text, value = .string text ∧ Supplied past uid field text := by
  by_cases changed : after.firebase.users uid = before.firebase.users uid
  · rw [changed] at stored
    exact sources.documents uid document stored field value present
  · rcases users_change stepped changed with
      ⟨fields, login, writer, effect, created⟩ | ⟨fields, editor, older, effect, found, updated⟩
    · obtain ⟨_, account, _, _, rfl⟩ := creation ran effect
      rw [created] at stored
      cases stored
      cases field <;> cases present
    · rw [updated] at stored
      cases stored
      obtain ⟨moment, member, save, started, rfl, rfl, rfl⟩ :=
        saved_of_pending ran (pending_of_effect effect)
      rw [Document.updateData_of_lookup_some (save.lookup_name field)] at present
      cases present
      exact ⟨_, rfl, sources.saves moment member save started field⟩

/-- What the device shows of a document was stored or is being saved. -/
private theorem shown_supplied (ran : AppRun past before) (sources : NoStandIns past before)
    {uid : UID} {document : Document} (shown : before.localUser uid = some document)
    {field : ProfileField} {value : FieldValue} (present : document field.name = some value) :
    ∃ text, value = .string text ∧ Supplied past uid field text := by
  refine World.localUser_of_writes
    (P := fun data => ∀ document, data = some document → ∀ value,
      document field.name = some value → ∃ text, value = .string text ∧
        Supplied past uid field text) ?_ ?_ ?_ document shown value present
  · intro document stored value present
    exact sources.documents uid document stored field value present
  · rintro fields login writer sent _ ⟨⟩ value present
    obtain ⟨_, account, _, _, matching⟩ :=
      (directory_integrity ran).pending _ (signUp_of_sent sent)
    change fields = _ at matching
    rw [matching] at present
    cases field <;> cases present
  · rintro fields editor sent _ _ _ ⟨⟩ value present
    obtain ⟨moment, member, save, started, rfl, rfl, rfl⟩ :=
      saved_of_pending ran (pending_of_sent sent)
    rw [Document.updateData_of_lookup_some (save.lookup_name field)] at present
    cases present
    exact ⟨_, rfl, sources.saves moment member save started field⟩

end Runs

theorem noStandIns {past : Past K} {world : World K} (ran : AppRun past world)
    (supplied : Throughout (fun past before event => supplies past before event = true) past) :
    NoStandIns past world := by
  apply ran.invariant_throughout supplied NoStandIns
  · exact
      { documents := fun _ _ stored => absurd stored.symm (Option.some_ne_none _)
        saves := fun _ member => absurd member List.not_mem_nil
        fetched := fun _ member => absurd member List.not_mem_nil
        presses := fun _ member => absurd member List.not_mem_nil }
  intro past before event after earlier sources permitted stepped
  obtain ⟨texts, username⟩ := Bool.and_eq_true_iff.mp permitted
  refine ⟨?_, ?_, ?_, ?_⟩
  · intro uid document stored field value present
    obtain ⟨text, isText, source⟩ := documents_step earlier sources stepped stored present
    exact ⟨text, isText, source.later [_]⟩
  · intro moment member save started field
    rcases List.mem_cons.mp member with rfl | old
    · exact (saves_step earlier sources texts started field).later [_]
    · exact (sources.saves moment old save started field).later [_]
  · intro fetch answered document isData field value present
    have source : ∃ text, value = .string text ∧ Supplied past fetch.uid field text := by
      rcases mem_log.mp answered with new | old
      · rw [(fetch?_data new).2] at isData
        exact shown_supplied earlier sources isData present
      · exact sources.fetched fetch old document isData field value present
    obtain ⟨text, isText, supplied⟩ := source
    exact ⟨text, isText, supplied.later [_]⟩
  · intro moment member press pressed
    have source : ∃ u, moment.1.currentUser = some u ∧
        Supplied past u .username press.username := by
      rcases List.mem_cons.mp member with rfl | old
      · exact presses_step earlier sources username pressed
      · exact sources.presses moment old press pressed
    obtain ⟨u, signedIn, supplied⟩ := source
    exact ⟨u, signedIn, supplied.later [_]⟩

/-- If every text a save leaves alone was in the document its record was decoded
from, and every post is published with a record that had a username, then what is
stored was typed by the users of the accounts. -/
theorem stored_texts_typed {past : Past K} {world : World K} (ran : AppRun past world)
    (supplied : Throughout (fun past before event => supplies past before event = true) past) :
    (∀ uid document, world.firebase.users uid = some document →
      ∀ field : ProfileField, ∀ value, document field.name = some value →
        ∃ text, value = .string text ∧ Supplied past uid field text) ∧
    ∀ documentID document, world.firebase.posts documentID = some document →
      ∃ text, document "username" = some (.string text) ∧
        ∃ moment ∈ past, ∃ press, moment.1.publication? moment.2 = some press ∧
          press.documentID = documentID ∧
          (∀ other ∈ presses past, other.documentID = documentID → other = press) ∧
          ∃ u, moment.1.currentUser = some u ∧ Supplied past u .username text := by
  have sources := noStandIns ran supplied
  refine ⟨sources.documents, ?_⟩
  intro documentID document stored
  obtain ⟨press, logged, rfl, shape⟩ := document_cases ran stored
  obtain ⟨moment, member, pressed⟩ := List.mem_filterMap.mp logged
  refine ⟨press.username, ?_, moment, member, press, pressed, rfl, ?_,
    sources.presses moment member press pressed⟩
  · rcases shape with rfl | ⟨version, rfl, _⟩
    · rfl
    · rfl
  · intro other otherLogged same
    exact (publishing_paired ran).publication_unique otherLogged logged same

theorem stored_texts_typed_saved :
    ∃ document, (endOf savedThenPublished).2.firebase.posts "post1" = some document ∧
      (∃ text, document "username" = some (.string text) ∧ text ≠ "") ∧
      ∀ uid document, (endOf savedThenPublished).2.firebase.users uid = some document →
        ∀ field : ProfileField, ∀ value, document field.name = some value →
          ∃ text, value = .string text ∧ Supplied (endOf savedThenPublished).1 uid field text := by
  have posted : ((endOf savedThenPublished).2.firebase.posts "post1").isSome := by decide +kernel
  obtain ⟨document, stored⟩ := Option.isSome_iff_exists.mp posted
  have supplied : Throughout (fun past before event => supplies past before event = true)
      (endOf savedThenPublished).1 := by decide +kernel
  obtain ⟨documents, posts⟩ :=
    stored_texts_typed (appRun_endOf savedThenPublished (by decide +kernel)) supplied
  obtain ⟨text, isText, _, _, _, _, _, _, _, _, nonempty, _⟩ := posts "post1" document stored
  exact ⟨document, stored, ⟨text, isText, nonempty⟩, documents⟩

/-- Alice types a username only, and her saved document says "no bio"; she also
publishes before her record has arrived, and her post has the empty username. -/
theorem stand_ins_stored :
    let saved := endOf (.launch :: signUpEvents "alice@mail" "secret" "alice" ++ profileEvents ++
      sessionEvents [(.username, "alice")] () : List (Event Platform.plain))
    let published := endOf (.launch :: signUpEvents "alice@mail" "secret" "alice" ++
      [.selectTab 1, .galleryButtonPressed, .sourceChosen, .imagePicked (some "beach"), .runBlock,
        .captionEdited "sunny", .nextButtonPressed "post1" (), .serve 1 (.success "")] :
      List (Event Platform.plain))
    AppRun saved.1 saved.2 ∧
      (saved.2.firebase.users "alice").map (fun document => document "userBio") =
        some (some (.string "no bio")) ∧
      ¬ TypedBy saved.1 "alice" .userBio "no bio" ∧
      AppRun published.1 published.2 ∧
      (published.2.firebase.posts "post1").map (fun document => document "username") =
        some (some (.string "")) ∧
      ¬ TypedBy published.1 "alice" .username "" := by
  intro saved published
  have neverTyped {past : Past Platform.plain} {field : ProfileField} {text : String}
      (never : past.all (fun moment => (moment.1.fieldEdit? moment.2).all (fun edit =>
        edit.field ≠ field)) = true) : ¬ TypedBy past "alice" field text := by
    rintro ⟨moment, member, _, edit, edited, isField, _⟩
    have other := List.all_eq_true.mp never moment member
    rw [edited] at other
    exact of_decide_eq_true other isField
  exact ⟨appRun_endOf _ (by decide +kernel), by decide +kernel, neverTyped (by decide +kernel),
    appRun_endOf _ (by decide +kernel), by decide +kernel, neverTyped (by decide +kernel)⟩

end InstagramProject
