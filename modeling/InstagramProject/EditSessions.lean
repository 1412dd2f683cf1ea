/-
Edit sessions over time.  An editor is filled from the record the Profile screen
loaded, and a save writes all three texts, so a field left alone is written back
as it was loaded.
-/

import InstagramProject.Editors
import InstagramProject.UserDocuments

namespace InstagramProject

open Transition

variable {K : Platform}

/-! ### The three fields -/

def ProfileField.all : List ProfileField := [.username, .userBio, .userFullName]

theorem ProfileField.mem_all (field : ProfileField) : field ∈ ProfileField.all := by
  cases field <;> decide

def ProfileField.name : ProfileField → String
  | .username => "username"
  | .userBio => "userBio"
  | .userFullName => "userFullName"

def EditProfileViewController.text (controller : EditProfileViewController K) :
    ProfileField → String
  | .username => controller.usernameTextfield
  | .userBio => controller.bioTextField
  | .userFullName => controller.fullNameTF

def InstagramUser.text (user : InstagramUser) : ProfileField → String
  | .username => user.username
  | .userBio => user.userBio
  | .userFullName => user.userFullName

def Save.text (save : Save K) : ProfileField → String
  | .username => save.username
  | .userBio => save.userBio
  | .userFullName => save.userFullName

theorem Save.lookup_name (save : Save K) (field : ProfileField) :
    save.fields.lookup field.name = some (save.text field) := by
  cases field <;> rfl

theorem Save.lookup_other (save : Save K) {key : String}
    (other : ∀ field : ProfileField, key ≠ field.name) : save.fields.lookup key = none := by
  have username : (key == "username") = false := beq_eq_false_iff_ne.mpr (other .username)
  have userBio : (key == "userBio") = false := beq_eq_false_iff_ne.mpr (other .userBio)
  have userFullName : (key == "userFullName") = false :=
    beq_eq_false_iff_ne.mpr (other .userFullName)
  simp only [Save.fields, List.lookup_cons, username, userBio, userFullName, List.lookup_nil]

theorem text_edit (controller : EditProfileViewController K) (edited field : ProfileField)
    (text : String) :
    (controller.edit edited text).text field =
      if edited = field then text else controller.text field := by
  cases edited <;> cases field <;> rfl

/-! ### Logs -/

/-- What was last typed into a field since an editor was last opened. -/
def typed : Past K → ProfileField → Option String
  | [], _ => none
  | (world, event) :: past, field =>
      match world.opened? event, world.fieldEdit? event with
      | some _, _ => none
      | none, some edit => if edit.field = field then some edit.text else typed past field
      | none, none => typed past field

/-- A press of Done that saves, with the record its editor was opened with and
what was typed into it. -/
structure Session (K : Platform) where
  save : Save K
  record : InstagramUser
  typed : ProfileField → Option String

def session? (past : Past K) (world : World K) (event : Event K) : Option (Session K) :=
  (world.save? event).bind (fun save => world.editorInFront?.map (fun controller =>
    { save := save, record := controller.instaUser.user, typed := typed past }))

/-- The presses of Done that save, the latest first. -/
def sessions : Past K → List (Session K)
  | [] => []
  | (world, event) :: past => (session? past world event).toList ++ sessions past

/-- The session whose save takes effect in the event. -/
def saved? (past : Past K) (world : World K) (event : Event K) : Option (Session K) :=
  match world.effect? event with
  | some (.updateUser _ _ _) => (sessions past).head?
  | _ => none

/-- The sessions whose saves took effect, the latest first. -/
def savedSessions : Past K → List (Session K)
  | [] => []
  | (world, event) :: past => (saved? past world event).toList ++ savedSessions past

/-- The session of an account whose save took effect last. -/
def latestSaved (past : Past K) (u : UID) : Option (Session K) :=
  (savedSessions past).find? (fun session => session.save.user == u)

namespace World

def isSave : Request K → Bool
  | .updateUser _ _ _ => true
  | _ => false

/-- Done saves only when no earlier save is still to take effect. -/
def sequential (world : World K) (event : Event K) : Bool :=
  (world.save? event).isNone || !(world.requests ++ world.orphans).any isSave

end World

/-! ### What a save writes -/

/-- There is one editor, with the texts typed since it was opened and, for the
other fields, those of its record. -/
structure EditorTexts (past : Past K) (world : World K) : Prop where
  one : ∀ controller other, .editor controller ∈ world.presented →
    .editor other ∈ world.presented → controller.id = other.id
  texts : ∀ controller, .editor controller ∈ world.presented → ∀ field,
    controller.text field = (typed past field).getD (controller.instaUser.user.text field) ∨
      controller.text field = (typed past field).getD ""

theorem typed_cons (past : Past K) (before : World K) (event : Event K) (field : ProfileField) :
    typed ((before, event) :: past) field =
      match before.opened? event, before.fieldEdit? event with
      | some _, _ => none
      | none, some edit => if edit.field = field then some edit.text else typed past field
      | none, none => typed past field := rfl

theorem fieldEdit_front {world : World K} {event : Event K} {edit : FieldEdit}
    (edited : world.fieldEdit? event = some edit) :
    ∃ front, .editor front ∈ world.presented ∧ edit.editor = front.id := by
  unfold World.fieldEdit? at edited
  split at edited
  · obtain ⟨front, inFront, rfl⟩ := Option.map_eq_some_iff.mp edited
    exact ⟨front, mem_of_editorInFront inFront, rfl⟩
  · cases edited

/-- An editor that was not just opened was on the screen before under the same
identity. -/
theorem older_of_editorStep {before : World K} {event : Event K}
    {controller : EditProfileViewController K} (origin : EditorStep before event controller)
    (noOpening : before.opened? event = none) :
    ∃ earlier, .editor earlier ∈ before.presented ∧ earlier.id = controller.id := by
  cases origin with
  | kept older => exact ⟨_, older, rfl⟩
  | previewed older => exact ⟨_, older, rfl⟩
  | chosen older => exact ⟨_, older, rfl⟩
  | @edited earlier edit older =>
      refine ⟨earlier, older, ?_⟩
      cases edit.field <;> rfl
  | opened opening =>
      rw [noOpening] at opening
      cases opening

theorem loaded_id (id : ControllerID) (user : FetchedUser) (currentUser : Option UID) :
    (EditProfileViewController.loaded id user currentUser : EditProfileViewController K).id = id := by
  cases currentUser <;> rfl

theorem loaded_text (id : ControllerID) (user : FetchedUser) (currentUser : Option UID)
    (field : ProfileField) :
    let controller : EditProfileViewController K := .loaded id user currentUser
    controller.text field = controller.instaUser.user.text field ∨ controller.text field = "" := by
  cases currentUser with
  | none =>
      right
      cases field <;> rfl
  | some _ =>
      left
      cases field <;> rfl

theorem fresh_of_editorStep {before : World K} {event : Event K}
    {controller : EditProfileViewController K} {user : FetchedUser}
    (origin : EditorStep before event controller) (opening : before.opened? event = some user) :
    controller.id = before.nextController := by
  cases origin with
  | opened _ => exact loaded_id _ _ _
  | kept _ noOpening => rw [opening] at noOpening; cases noOpening
  | previewed _ noOpening => rw [opening] at noOpening; cases noOpening
  | chosen _ noOpening => rw [opening] at noOpening; cases noOpening
  | edited _ noOpening => rw [opening] at noOpening; cases noOpening

private theorem oneEditor_step {past : Past K} {before after : World K} {event : Event K}
    (editors : EditorTexts past before) (stepped : step before event = some after)
    {controller other : EditProfileViewController K}
    (present : .editor controller ∈ after.presented)
    (presentOther : .editor other ∈ after.presented) : controller.id = other.id := by
  have origin := editorStep_of_step stepped present
  have originOther := editorStep_of_step stepped presentOther
  cases opening : before.opened? event with
  | none =>
      obtain ⟨earlier, older, same⟩ := older_of_editorStep origin opening
      obtain ⟨earlierOther, olderOther, sameOther⟩ := older_of_editorStep originOther opening
      rw [← same, ← sameOther]
      exact editors.one earlier earlierOther older olderOther
  | some user =>
      rw [fresh_of_editorStep origin opening, fresh_of_editorStep originOther opening]

private theorem texts_step {past : Past K} {before after : World K} {event : Event K}
    (editors : EditorTexts past before) (stepped : step before event = some after)
    {controller : EditProfileViewController K} (present : .editor controller ∈ after.presented)
    (field : ProfileField) :
    controller.text field = (typed ((before, event) :: past) field).getD
        (controller.instaUser.user.text field) ∨
      controller.text field = (typed ((before, event) :: past) field).getD "" := by
  rw [typed_cons]
  cases editorStep_of_step stepped present with
  | kept older noOpening _others edits =>
      have noEdit : before.fieldEdit? event = none := by
        cases edited : before.fieldEdit? event with
        | none => rfl
        | some edit =>
            obtain ⟨front, inFront, sameEditor⟩ := fieldEdit_front edited
            exact absurd (sameEditor.trans (editors.one front controller inFront older))
              (edits edit edited)
      rw [noOpening, noEdit]
      exact editors.texts controller older field
  | @previewed earlier older noOpening _noChoice noEdit =>
      rw [noOpening, noEdit]
      have texts := editors.texts earlier older field
      cases field <;> exact texts
  | @chosen earlier choice older noOpening _chosen _sameEditor noEdit =>
      rw [noOpening, noEdit]
      have texts := editors.texts earlier older field
      cases field <;> exact texts
  | @edited earlier edit older noOpening edited _sameEditor _noChoice =>
      rw [noOpening, edited, text_edit]
      have sameRecord : (earlier.edit edit.field edit.text).instaUser = earlier.instaUser := by
        cases edit.field <;> rfl
      rw [sameRecord]
      dsimp only
      by_cases same : edit.field = field
      · rw [if_pos same, if_pos same]
        exact .inl rfl
      · rw [if_neg same, if_neg same]
        exact editors.texts earlier older field
  | opened opening =>
      rw [opening]
      exact loaded_text _ _ _ field

theorem editorTexts {past : Past K} {world : World K} (ran : AppRun past world) :
    EditorTexts past world := by
  have base : EditorTexts [] (World.initial K) := by
    constructor
    · intro _ _ present
      cases present
    · intro _ present
      cases present
  apply ran.invariant EditorTexts base
  intro past before event after _earlier editors stepped
  exact
    { one := fun _ _ present other => oneEditor_step editors stepped present other
      texts := fun _ present field => texts_step editors stepped present field }

/-- A save writes the three texts of the editor, none of them empty. -/
theorem text_of_save {world : World K} {event : Event K} {save : Save K}
    {controller : EditProfileViewController K} (inFront : world.editorInFront? = some controller)
    (started : world.save? event = some save) (field : ProfileField) :
    save.text field = controller.text field ∧ controller.text field ≠ "" := by
  unfold World.save? at started
  split at started
  · rw [inFront, Option.bind_some] at started
    split at started
    · cases started
    · rename_i nonempty
      obtain ⟨user, _signedIn, rfl⟩ := Option.map_eq_some_iff.mp started
      simp only [Bool.or_eq_true, String.isEmpty_iff, not_or] at nonempty
      cases field with
      | username => exact ⟨rfl, nonempty.1.1⟩
      | userBio => exact ⟨rfl, nonempty.1.2⟩
      | userFullName => exact ⟨rfl, nonempty.2⟩
  · cases started

/-- A save writes what was typed, and for the rest the record its editor was
opened with. -/
theorem text_of_session {past : Past K} {world : World K} (ran : AppRun past world)
    {event : Event K} {session : Session K} (entered : session? past world event = some session)
    (field : ProfileField) :
    session.save.text field = (session.typed field).getD (session.record.text field) := by
  obtain ⟨save, started, completed⟩ := Option.bind_eq_some_iff.mp entered
  obtain ⟨controller, inFront, rfl⟩ := Option.map_eq_some_iff.mp completed
  dsimp only
  obtain ⟨isText, nonempty⟩ := text_of_save inFront started field
  rw [isText]
  rcases (editorTexts ran).texts controller (mem_of_editorInFront inFront) field with
    same | blank
  · exact same
  · cases entry : typed past field with
    | none =>
        rw [entry] at blank
        exact absurd blank nonempty
    | some text =>
        rw [entry] at blank
        exact blank

theorem session_of_save (past : Past K) {world : World K} {event : Event K} {save : Save K}
    (started : world.save? event = some save) :
    ∃ session, session? past world event = some session ∧ session.save = save := by
  have pressed := started
  unfold World.save? at pressed
  split at pressed
  · obtain ⟨controller, inFront, _entered⟩ := Option.bind_eq_some_iff.mp pressed
    refine ⟨{ save := save, record := controller.instaUser.user, typed := typed past }, ?_, rfl⟩
    simp only [session?, started, inFront, Option.bind_some, Option.map_some]
  · cases pressed

/-! ### Which save takes effect -/

/-- The texts of every session are typed or loaded, and a save still to take effect
is that of the latest session. -/
structure SessionLog (past : Past K) (world : World K) : Prop where
  texts : ∀ session ∈ sessions past, ∀ field,
    session.save.text field = (session.typed field).getD (session.record.text field)
  underway : ∀ uid fields editor, .updateUser uid fields editor ∈ world.requests ++ world.orphans →
    ∃ session, (sessions past).head? = some session ∧ session.save.user = uid ∧
      session.save.fields = fields

private theorem sessions_cons (past : Past K) (before : World K) (event : Event K) :
    sessions ((before, event) :: past) =
      (session? past before event).toList ++ sessions past := rfl

/-- While a save is still to take effect there is no other session. -/
private theorem noSession_of_underway (past : Past K) {before : World K} {event : Event K}
    (permitted : before.sequential event = true) {uid : UID} {fields : Fields}
    {editor : ControllerID}
    (underway : .updateUser uid fields editor ∈ before.requests ++ before.orphans) :
    session? past before event = none := by
  have noSave : before.save? event = none := by
    simp only [World.sequential, Bool.or_eq_true, Option.isNone_iff_eq_none,
      Bool.not_eq_true', List.any_eq_false] at permitted
    apply permitted.resolve_right
    intro nothing
    exact nothing _ underway rfl
  unfold session?
  rw [noSave]
  rfl

theorem sessionLog {past : Past K} {world : World K} (ran : AppRun past world)
    (oneByOne : Throughout (fun _ before event => before.sequential event = true) past) :
    SessionLog past world := by
  apply ran.invariant_throughout oneByOne SessionLog ⟨nofun, nofun⟩
  intro past before event after earlier log permitted stepped
  constructor
  · intro session member
    rcases List.mem_append.mp member with fresh | old
    · exact text_of_session earlier (Option.mem_toList.mp fresh)
    · exact log.texts session old
  · intro uid fields editor member
    have worked := workStep_of_step stepped
    have older (underway : .updateUser uid fields editor ∈ before.requests ++ before.orphans) :
        ∃ session, (sessions ((before, event) :: past)).head? = some session ∧
          session.save.user = uid ∧ session.save.fields = fields := by
      rw [sessions_cons, noSession_of_underway past permitted underway]
      exact log.underway uid fields editor underway
    rcases List.mem_append.mp member with sent | orphaned
    · rcases worked.requests sent with old | issued
      · exact older (List.mem_append_left _ old)
      · generalize isRequest : Request.updateUser uid fields editor = request at issued
        cases issued with
        | question question =>
            rw [← isRequest] at question
            cases question
        | info started =>
            cases isRequest
            obtain ⟨session, entered, rfl⟩ := session_of_save past started
            rw [sessions_cons, entered]
            exact ⟨session, rfl, rfl, rfl⟩
        | called _found asks => cases asks <;> cases isRequest
        | _ => cases isRequest
    · rcases worked.orphans orphaned with old | ⟨_ends, old⟩
      · exact older (List.mem_append_right _ old)
      · exact older (List.mem_append_left _ old)

theorem effect_of_saved {past : Past K} {world : World K} {event : Event K} {session : Session K}
    (saved : saved? past world event = some session) :
    ∃ uid fields editor, world.effect? event = some (.updateUser uid fields editor) ∧
      (sessions past).head? = some session := by
  unfold saved? at saved
  split at saved
  · rename_i uid fields editor effect
    exact ⟨uid, fields, editor, effect, saved⟩
  · cases saved

theorem session_of_saved {past : Past K} {world : World K} {event : Event K} {session : Session K}
    (saved : saved? past world event = some session) : session ∈ sessions past := by
  obtain ⟨_, _, _, _effect, isHead⟩ := effect_of_saved saved
  exact List.mem_of_mem_head? isHead

/-- A session's save overwrites the three fields of its account's document. -/
theorem saved_effect {past : Past K} {before after : World K} {event : Event K}
    (log : SessionLog past before) (stepped : step before event = some after)
    {session : Session K} (saved : saved? past before event = some session) :
    ∃ document, before.firebase.users session.save.user = some document ∧
      after.firebase.users = Function.update before.firebase.users session.save.user
        (some (document.updateData session.save.fields)) := by
  obtain ⟨uid, fields, editor, effect, isSession⟩ := effect_of_saved saved
  obtain ⟨head, isHead, rfl, rfl⟩ := log.underway uid fields editor (List.mem_append.mpr (underway_of_effect effect))
  cases isHead.symm.trans isSession
  rcases firebase_step stepped with ⟨noEffect, _⟩ | ⟨request, _, _, isRequest, performed⟩
  · rw [effect] at noEffect
    cases noEffect
  · cases effect.symm.trans isRequest
    generalize after.firebase = firebase at performed ⊢
    cases performed with
    | updateUser stored => exact ⟨_, stored, rfl⟩

/-- Without a saved session a document changes only by being created. -/
private theorem created_of_unsaved {past : Past K} {before after : World K} {event : Event K}
    (ran : AppRun past before) (log : SessionLog past before)
    (stepped : step before event = some after) (unsaved : saved? past before event = none)
    {uid : UID} (changed : after.firebase.users uid ≠ before.firebase.users uid) :
    before.firebase.users uid = none ∧ ∃ email, after.firebase.users uid =
      some (Document.setData [("userEmail", email), ("userId", uid)]) := by
  rcases users_change stepped changed with ⟨fields, login, writer, effect, now⟩ |
    ⟨fields, editor, document, effect, _held, _now⟩
  · obtain ⟨absent, account, _known, _owned, rfl⟩ := creation ran effect
    exact ⟨absent, account.email, now⟩
  · obtain ⟨session, isHead, _⟩ := log.underway uid fields editor
      (List.mem_append.mpr (underway_of_effect effect))
    unfold saved? at unsaved
    rw [effect] at unsaved
    cases isHead.symm.trans unsaved

/-! ### What is stored -/

/-- The document of an account has the texts of the latest save that took effect,
and no texts before the first. -/
structure SavedLog (past : Past K) (world : World K) : Prop where
  pressed : ∀ session ∈ savedSessions past, session ∈ sessions past
  stored : ∀ session ∈ savedSessions past, world.firebase.users session.save.user ≠ none
  texts : ∀ uid document, world.firebase.users uid = some document → ∀ field : ProfileField,
    document field.name =
      (latestSaved past uid).map (fun session => .string (session.save.text field))

theorem latestSaved_cons (past : Past K) (before : World K) (event : Event K) (u : UID) :
    latestSaved ((before, event) :: past) u =
      match saved? past before event with
      | some session => if session.save.user = u then some session else latestSaved past u
      | none => latestSaved past u := by
  unfold latestSaved
  change List.find? _ ((saved? past before event).toList ++ savedSessions past) = _
  cases saved? past before event with
  | none => rfl
  | some session =>
      rw [Option.toList_some, List.singleton_append, List.find?_cons]
      by_cases same : session.save.user = u
      · simp only [same, beq_self_eq_true, if_true]
      · simp only [beq_eq_false_iff_ne.mpr same, same, if_false]

theorem mem_of_latestSaved {past : Past K} {u : UID} {session : Session K}
    (latest : latestSaved past u = some session) :
    session ∈ savedSessions past ∧ session.save.user = u := by
  have matched := List.find?_some latest
  exact ⟨List.mem_of_find?_eq_some latest, beq_iff_eq.mp matched⟩

private theorem savedSessions_cons (past : Past K) (before : World K) (event : Event K) :
    savedSessions ((before, event) :: past) =
      (saved? past before event).toList ++ savedSessions past := rfl

private theorem savedLog_saved {past : Past K} {before after : World K} {event : Event K}
    {session : Session K} (sessionLog : SessionLog past before) (log : SavedLog past before)
    (stepped : step before event = some after) (saved : saved? past before event = some session) :
    SavedLog ((before, event) :: past) after := by
  obtain ⟨document, _held, written⟩ := saved_effect sessionLog stepped saved
  have isLog : savedSessions ((before, event) :: past) = session :: savedSessions past := by
    rw [savedSessions_cons, saved]
    rfl
  refine ⟨?_, ?_, ?_⟩
  · rw [isLog]
    intro other member
    apply List.mem_append_right _
    rcases List.mem_cons.mp member with rfl | old
    · exact session_of_saved saved
    · exact log.pressed other old
  · rw [isLog, written]
    intro other member
    by_cases same : other.save.user = session.save.user
    · rw [same, Function.update_self]
      exact Option.some_ne_none _
    · rw [Function.update_of_ne same]
      rcases List.mem_cons.mp member with rfl | old
      · exact absurd rfl same
      · exact log.stored other old
  · intro uid current stored field
    rw [latestSaved_cons, saved]
    rw [written] at stored
    dsimp only
    by_cases same : session.save.user = uid
    · subst same
      rw [Function.update_self, Option.some.injEq] at stored
      rw [if_pos rfl, ← stored, Option.map_some]
      exact Document.updateData_of_lookup_some (session.save.lookup_name field)
    · rw [Function.update_of_ne (Ne.symm same)] at stored
      rw [if_neg same]
      exact log.texts uid current stored field

private theorem savedLog_unsaved {past : Past K} {before after : World K} {event : Event K}
    (ran : AppRun past before) (sessionLog : SessionLog past before) (log : SavedLog past before)
    (stepped : step before event = some after) (unsaved : saved? past before event = none) :
    SavedLog ((before, event) :: past) after := by
  have isLog : savedSessions ((before, event) :: past) = savedSessions past := by
    rw [savedSessions_cons, unsaved]
    rfl
  refine ⟨?_, ?_, ?_⟩
  · rw [isLog]
    exact fun session member => List.mem_append_right _ (log.pressed session member)
  · rw [isLog]
    intro session member
    by_cases same : after.firebase.users session.save.user =
        before.firebase.users session.save.user
    · rw [same]
      exact log.stored session member
    · exact absurd (created_of_unsaved ran sessionLog stepped unsaved same).1
        (log.stored session member)
  · intro uid document stored field
    rw [latestSaved_cons, unsaved]
    dsimp only
    by_cases same : after.firebase.users uid = before.firebase.users uid
    · exact log.texts uid document (same ▸ stored) field
    · obtain ⟨absent, email, now⟩ := created_of_unsaved ran sessionLog stepped unsaved same
      cases latest : latestSaved past uid with
      | some session =>
          obtain ⟨member, isUser⟩ := mem_of_latestSaved latest
          exact absurd (isUser ▸ absent) (log.stored session member)
      | none =>
          cases stored.symm.trans now
          cases field <;> rfl

theorem savedLog_step {past : Past K} {before after : World K} {event : Event K}
    (ran : AppRun past before) (sessionLog : SessionLog past before) (log : SavedLog past before)
    (stepped : step before event = some after) : SavedLog ((before, event) :: past) after := by
  cases saved : saved? past before event with
  | some session => exact savedLog_saved sessionLog log stepped saved
  | none => exact savedLog_unsaved ran sessionLog log stepped saved

theorem savedLog {past : Past K} {world : World K} (ran : AppRun past world)
    (oneByOne : Throughout (fun _ before event => before.sequential event = true) past) :
    SavedLog past world := by
  induction ran with
  | start => exact ⟨nofun, nofun, nofun⟩
  | next earlier stepped ih =>
      exact savedLog_step earlier (sessionLog earlier oneByOne.2) (ih oneByOne.2) stepped

/-! ### When nothing is lost -/

/-- If the event lets the save of a session take effect, and the document had the
three fields, then only those typed in the session change. -/
def KeepsUntouched (past : Past K) (world : World K) (event : Event K) : Prop :=
  ∀ after, step world event = some after → ∀ session,
    saved? past world event = some session → ∀ document,
    world.firebase.users session.save.user = some document →
    (∀ field : ProfileField, ∃ text, document field.name = some (.string text)) →
    ∃ document', after.firebase.users session.save.user = some document' ∧
      (∀ field, session.typed field = none → document' field.name = document field.name) ∧
      (∀ field text, session.typed field = some text →
        document' field.name = some (.string text)) ∧
      ∀ key, (∀ field : ProfileField, key ≠ field.name) → document' key = document key

/-- If the event lets the save of a session take effect, then every field left
alone in it was, by the latest earlier session, left at or typed as the text the
editor was opened with. -/
def upToDate (past : Past K) (world : World K) (event : Event K) : Bool :=
  (saved? past world event).all (fun session =>
    (latestSaved past session.save.user).all (fun earlier =>
      ProfileField.all.all (fun field => (session.typed field).isSome ||
        (earlier.typed field).getD (earlier.record.text field) == session.record.text field)))

section Saving

variable {past : Past K} {before after : World K} {event : Event K} {session earlier : Session K}
  {document : Document}

/-- The text a save puts into a field. -/
theorem savedText (sessionLog : SessionLog past before)
    (saved : saved? past before event = some session) (document : Document)
    (field : ProfileField) :
    document.updateData session.save.fields field.name =
      some (.string ((session.typed field).getD (session.record.text field))) := by
  rw [Document.updateData_of_lookup_some (session.save.lookup_name field),
    sessionLog.texts session (session_of_saved saved) field]

/-- The text the latest earlier save left in a field. -/
theorem earlierText (sessionLog : SessionLog past before) (log : SavedLog past before) {u : UID}
    (held : before.firebase.users u = some document) (latest : latestSaved past u = some earlier)
    (field : ProfileField) :
    document field.name =
      some (.string ((earlier.typed field).getD (earlier.record.text field))) := by
  have member := log.pressed earlier (mem_of_latestSaved latest).1
  rw [log.texts u document held, latest, Option.map_some, sessionLog.texts earlier member field]

theorem keeps_iff_upToDate (sessionLog : SessionLog past before) (log : SavedLog past before)
    (stepped : step before event = some after) :
    KeepsUntouched past before event ↔ upToDate past before event = true := by
  unfold KeepsUntouched upToDate
  cases saved : saved? past before event with
  | none => exact iff_of_true (fun _ _ _ absent => by cases absent) rfl
  | some session =>
      obtain ⟨document, held, written⟩ := saved_effect sessionLog stepped saved
      have now : after.firebase.users session.save.user =
          some (document.updateData session.save.fields) := by
        rw [written, Function.update_self]
      have becomes := savedText sessionLog saved document
      rw [Option.all_some]
      cases latest : latestSaved past session.save.user with
      | none =>
          -- The document has none of the fields yet.
          refine iff_of_true ?_ rfl
          intro _after _stepped other same current stored complete
          cases same
          cases held.symm.trans stored
          obtain ⟨text, present⟩ := complete .username
          rw [log.texts session.save.user document held, latest] at present
          cases present
      | some earlier =>
          have was := earlierText sessionLog log held latest
          simp only [Option.all_some, List.all_eq_true, Bool.or_eq_true, beq_iff_eq]
          constructor
          · intro keeps field _member
            cases entry : session.typed field with
            | some text => exact .inl rfl
            | none =>
                right
                obtain ⟨document', nowAlso, untouched, _⟩ := keeps after stepped session rfl
                  document held (fun field => ⟨_, was field⟩)
                cases now.symm.trans nowAlso
                have same := untouched field entry
                rw [becomes, was, entry] at same
                exact (FieldValue.string.inj (Option.some.inj same)).symm
          · intro agrees other steppedOther same isSession current stored _complete
            cases stepped.symm.trans steppedOther
            cases isSession
            cases held.symm.trans stored
            refine ⟨_, now, ?_, ?_, ?_⟩
            · intro field entry
              rw [becomes, was, entry]
              have typedOrEqual := agrees field field.mem_all
              rw [entry] at typedOrEqual
              rw [typedOrEqual.resolve_left nofun]
              rfl
            · intro field text entry
              rw [becomes, entry]
              rfl
            · intro key notField
              exact Document.updateData_of_lookup_none (session.save.lookup_other notField)

end Saving

/-- In every run whose saves do not overlap, each save changes only the fields
typed in its session exactly if, at each, every field left alone still has the text
the editor was opened with. -/
theorem edits_keep_untouched {past : Past K} {world : World K} (ran : AppRun past world)
    (oneByOne : Throughout (fun _ before event => before.sequential event = true) past) :
    Throughout KeepsUntouched past ↔
      Throughout (fun past before event => upToDate past before event = true) past := by
  induction ran with
  | start => exact Iff.rfl
  | next earlier stepped ih =>
      simp only [Throughout]
      rw [keeps_iff_upToDate (sessionLog earlier oneByOne.2) (savedLog earlier oneByOne.2) stepped,
        ih oneByOne.2]

/-- One session from the profile in front, with nothing else under way. -/
def sessionEvents (edits : List (ProfileField × String)) (bounds : K.CGRect) : List (Event K) :=
  .editButtonPressed :: edits.map (fun edit => .fieldEdited edit.1 edit.2) ++
    [.doneButtonPressed bounds] ++ stepEvents ++ [.runBlock]

/-- Alice has a complete document, and the Profile screen has loaded it. -/
def completeProfile : List (Event Platform.plain) :=
  .launch :: signUpEvents "alice@mail" "secret" "alice" ++ profileEvents ++
    sessionEvents [(.username, "alice"), (.userBio, "hello"), (.userFullName, "Alice A")] () ++
    [.terminate, .launch] ++ profileEvents

/-- Two sessions, the second of which types again what the first changed. -/
def retypedRun : List (Event Platform.plain) :=
  completeProfile ++ sessionEvents [(.username, "anna")] () ++
    sessionEvents [(.username, "anna"), (.userBio, "hi")] ()

theorem edits_keep_untouched_retyped : Throughout KeepsUntouched (endOf retypedRun).1 :=
  (edits_keep_untouched (appRun_endOf retypedRun (by decide +kernel)) (by decide +kernel)).mpr
    (by decide +kernel)

/-- The first session changes the username and the second the bio: the second save
brings the old username back. -/
theorem username_lost :
    let reached := endOf (completeProfile ++ sessionEvents [(.username, "anna")] () ++
      [.editButtonPressed, .fieldEdited .userBio "hi", .doneButtonPressed ()])
    let username := fun world : World Platform.plain =>
      (world.firebase.users "alice").bind (fun document => document "username")
    AppRun reached.1 reached.2 ∧
      Throughout (fun _ before event => before.sequential event = true) reached.1 ∧
      username reached.2 = some (.string "anna") ∧
      (saved? reached.1 reached.2 (.serve 0 (.success ""))).map
        (fun session => (session.typed .username, session.typed .userBio)) =
          some (none, some "hi") ∧
      (step reached.2 (.serve 0 (.success ""))).map username = some (some (.string "alice")) ∧
      ¬ KeepsUntouched reached.1 reached.2 (.serve 0 (.success "")) := by
  intro reached username
  have ran : AppRun reached.1 reached.2 := appRun_endOf _ (by decide +kernel)
  have oneByOne : Throughout (fun _ before event => before.sequential event = true) reached.1 := by
    decide +kernel
  have reverted : (step reached.2 (.serve 0 (.success ""))).map username =
      some (some (.string "alice")) := by
    decide +kernel
  refine ⟨ran, oneByOne, by decide +kernel, by decide +kernel, reverted, ?_⟩
  intro keeps
  obtain ⟨after, stepped, _⟩ := Option.map_eq_some_iff.mp reverted
  have stale : upToDate reached.1 reached.2 (.serve 0 (.success "")) = false := by decide +kernel
  rw [(keeps_iff_upToDate (sessionLog ran oneByOne) (savedLog ran oneByOne) stepped).mp keeps]
    at stale
  cases stale

end InstagramProject
