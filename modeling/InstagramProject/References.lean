/-
What the stored data refers to.  Documents, objects and photo URLs name accounts,
posts and objects; in every state what they name is there, and since nothing is
ever taken out of the store, it stays there.
-/

import InstagramProject.Authors
import InstagramProject.Fetches
import InstagramProject.PictureOwners
import InstagramProject.UserDocuments

namespace InstagramProject

open Transition

variable {K : Platform}

/-! ### The store only grows -/

/-- Everything stored earlier is still there, in the same version or a later one. -/
structure Firebase.Extends (older newer : Firebase K) : Prop where
  accounts : older.accounts <+: newer.accounts
  photoURL : ∀ uid, older.photoURL uid ≠ none → newer.photoURL uid ≠ none
  users : ∀ uid field document, older.users uid = some document → document field ≠ none →
    ∃ document', newer.users uid = some document' ∧ document' field ≠ none
  posts : ∀ documentID, older.posts documentID ≠ none → newer.posts documentID ≠ none
  storage : ∀ reference object, older.storage reference = some object →
    ∃ object', newer.storage reference = some object' ∧ object.version ≤ object'.version

section Growth

variable {past : Past K} {before after : World K} {event : Event K}

private theorem update_ne_none {κ α : Type} [DecidableEq κ] {stored : κ → Option α} {key other : κ}
    {value : α} (present : stored other ≠ none) :
    Function.update stored key (some value) other ≠ none := by
  by_cases same : other = key
  · rw [same, Function.update_self]
    exact Option.some_ne_none value
  · rw [Function.update_of_ne same]
    exact present

theorem Firebase.Extends.refl (firebase : Firebase K) : firebase.Extends firebase where
  accounts := List.prefix_refl _
  photoURL _ present := present
  users _ _ document stored present := ⟨document, stored, present⟩
  posts _ present := present
  storage _ object stored := ⟨object, stored, Nat.le_refl _⟩

theorem Firebase.Extends.trans {first second third : Firebase K} (earlier : first.Extends second)
    (later : second.Extends third) : first.Extends third where
  accounts := earlier.accounts.trans later.accounts
  photoURL uid present := later.photoURL uid (earlier.photoURL uid present)
  users uid field document stored present := by
    obtain ⟨document', stored', present'⟩ := earlier.users uid field document stored present
    exact later.users uid field document' stored' present'
  posts documentID present := later.posts documentID (earlier.posts documentID present)
  storage reference object stored := by
    obtain ⟨object', stored', newer⟩ := earlier.storage reference object stored
    obtain ⟨object'', stored'', newest⟩ := later.storage reference object' stored'
    exact ⟨object'', stored'', Nat.le_trans newer newest⟩

/-- What is stored has a version that was handed out. -/
theorem version_lt_next (ran : AppRun past before) {reference : String} {object : StoredObject K}
    (stored : before.firebase.storage reference = some object) :
    object.version < before.firebase.nextVersion := by
  rw [(stores ran).latest] at stored
  obtain ⟨entry, found, rfl⟩ := Option.map_eq_some_iff.mp stored
  exact (stores ran).used entry (List.mem_of_find?_eq_some found)

/-- A document is never made again for an account that has one, and no update drops
a field. -/
theorem store_grows_step (ran : AppRun past before) (stepped : step before event = some after) :
    before.firebase.Extends after.firebase := by
  rcases firebase_step stepped with ⟨_noEffect, same⟩ | ⟨request, newUID, answer, effect, performed⟩
  · rw [same]
    exact .refl _
  · have unchanged := Firebase.Extends.refl before.firebase
    generalize after.firebase = firebase at performed
    cases performed with
    | createUser _accepted =>
        exact { unchanged with accounts := List.prefix_append _ _ }
    | signIn _known => exact unchanged
    | @setUser uid newUID fields login =>
        refine { unchanged with users := ?_ }
        intro other field document stored present
        have different : other ≠ uid := by
          rintro rfl
          rw [(creation ran effect).1] at stored
          cases stored
        refine ⟨document, ?_, present⟩
        rw [← stored]
        exact Function.update_of_ne different _ _
    | getUser => exact unchanged
    | @updateUser uid newUID fields editor current found =>
        refine { unchanged with users := ?_ }
        intro other field document stored present
        by_cases same : other = uid
        · subst same
          rw [found] at stored
          cases stored
          exact ⟨_, Function.update_self _ _ _, Document.updateData_ne_none fields present⟩
        · refine ⟨document, ?_, present⟩
          rw [← stored]
          exact Function.update_of_ne same _ _
    | setPost => exact { unchanged with posts := fun _ present => update_ne_none present }
    | @putData reference newUID imageData caller =>
        refine { unchanged with storage := ?_ }
        intro other object stored
        by_cases same : other = reference
        · subst same
          exact ⟨_, Function.update_self _ _ _, Nat.le_of_lt (version_lt_next ran stored)⟩
        · refine ⟨object, ?_, Nat.le_refl _⟩
          rw [← stored]
          exact Function.update_of_ne same _ _
    | downloadURL _held => exact unchanged
    | updatePost _stored => exact { unchanged with posts := fun _ present => update_ne_none present }
    | commitChanges => exact { unchanged with photoURL := fun _ present => update_ne_none present }

theorem store_grows {recent : Past K} {world later : World K} (ran : AppRun past world)
    (longer : AppRun (recent ++ past) later) : world.firebase.Extends later.firebase := by
  refine ran.persists longer (fun state => world.firebase.Extends state.firebase) (.refl _) ?_
  intro past before event after earlier grown stepped
  exact grown.trans (store_grows_step earlier stepped)

theorem Firebase.Extends.known {older newer : Firebase K} (extended : older.Extends newer)
    {uid : UID} (known : ∃ account ∈ older.accounts, account.uid = uid) :
    ∃ account ∈ newer.accounts, account.uid = uid := by
  obtain ⟨account, member, owned⟩ := known
  exact ⟨account, extended.accounts.subset member, owned⟩

end Growth

/-! ### References -/

namespace Firebase

/-- The document or the account an object was stored for. -/
def OwnsObject (firebase : Firebase K) (reference : String) : Prop :=
  (∃ documentID, firebase.posts documentID ≠ none ∧ SlashFree documentID ∧
      reference = postPhotoPath documentID) ∨
    ∃ account ∈ firebase.accounts, reference = profilePhotoPath account.uid

/-- The object a download URL names is there, in its version or a later one. -/
def Resolves (firebase : Firebase K) (url : URL) : Prop :=
  ∃ object, firebase.storage url.path = some object ∧ url.version ≤ object.version

/-- No object is without an owner, and no document or photo URL names anything that
is not there. -/
structure Referential (firebase : Firebase K) : Prop where
  objects : ∀ reference, firebase.storage reference ≠ none → firebase.OwnsObject reference
  pictures : ∀ uid url, firebase.photoURL uid = some url →
    (∃ account ∈ firebase.accounts, account.uid = uid) ∧
      (∃ owner ∈ firebase.accounts, url.path = profilePhotoPath owner.uid) ∧
      firebase.Resolves url
  users : ∀ uid, firebase.users uid ≠ none → ∃ account ∈ firebase.accounts, account.uid = uid
  authors : ∀ documentID document, firebase.posts documentID = some document →
    document "userId" = some (.string "") ∨
      ∃ account ∈ firebase.accounts, document "userId" = some (.string account.uid)
  links : ∀ documentID document value, firebase.posts documentID = some document →
    document "photoURL" = some value → ∃ url : URL, url.path = postPhotoPath documentID ∧
      value = .string (K.absoluteString url) ∧ firebase.Resolves url

end Firebase

section References

variable {past : Past K} {world : World K}

/-- An object is in its place when it has been stored. -/
theorem held_of_stored {before after : World K} {event : Event K}
    (stepped : step before event = some after) {reference : String} {object : StoredObject K}
    (stored : before.stored? event = some (reference, object)) :
    after.firebase.storage reference = some object := by
  unfold World.stored? at stored
  split at stored
  · rename_i imageData caller effect
    cases stored
    rcases firebase_step stepped with ⟨noEffect, _same⟩ | ⟨_, _, _, isEffect, performed⟩
    · rw [effect] at noEffect
      cases noEffect
    · rw [effect] at isEffect
      cases isEffect
      generalize after.firebase = firebase at performed
      cases performed with
      | putData => exact Function.update_self _ _ _
  · cases stored

/-- What was stored once still answers to its URL. -/
theorem resolves_of_stored (ran : AppRun past world) {reference : String} {object : StoredObject K}
    (logged : (reference, object) ∈ storedObjects past) :
    world.firebase.Resolves { path := reference, version := object.version } := by
  obtain ⟨⟨before, event⟩, member, stored⟩ := List.mem_filterMap.mp logged
  obtain ⟨recent, earlier, rfl⟩ := List.append_of_mem member
  obtain ⟨after, first, _later⟩ := ran.split
  cases first with
  | next reached stepped =>
      have grown := store_grows (.next reached stepped) ran
      exact grown.storage reference object (held_of_stored stepped stored)

/-- Who was signed in at some time has an account. -/
theorem known_of_signedIn (ran : AppRun past world) {moment : World K × Event K}
    (member : moment ∈ past) {uid : UID} (signedIn : moment.1.currentUser = some uid) :
    ∃ account ∈ world.firebase.accounts, account.uid = uid := by
  obtain ⟨recent, earlier, rfl, reached⟩ := ran.moment member
  rw [List.append_cons] at ran
  exact (store_grows reached ran).known (signedIn_known reached signedIn)

/-- Every object was stored for a post or for an account. -/
theorem owns_object (ran : AppRun past world) {reference : String}
    (stored : world.firebase.storage reference ≠ none) : world.firebase.OwnsObject reference := by
  obtain ⟨object, held⟩ := Option.ne_none_iff_exists'.mp stored
  rw [(stores ran).latest] at held
  obtain ⟨entry, found, _isObject⟩ := Option.map_eq_some_iff.mp held
  have isPlace := List.find?_some found
  have matched : entry.1 = reference := beq_iff_eq.mp isPlace
  obtain ⟨⟨before, event⟩, member, isStored⟩ :=
    List.mem_filterMap.mp (List.mem_of_find?_eq_some found)
  obtain ⟨recent, earlier, rfl, reached⟩ := ran.moment member
  unfold World.stored? at isStored
  split at isStored
  · rename_i path imageData caller effect
    have samePath : path = reference := by
      rw [← matched, ← Option.some.inj isStored]
    cases caller with
    | post documentID screen =>
        left
        obtain ⟨isPost, free⟩ := post_upload reached effect
        rw [samePath] at isPost
        refine ⟨documentID, ?_, free, isPost⟩
        have paired := publishing_paired ran
        rw [isPost] at stored
        have known := paired.objects documentID free stored
        rw [paired.ids] at known
        obtain ⟨publication, logged, rfl⟩ := List.mem_map.mp known
        obtain ⟨milestone, at_, _tickets⟩ := paired.progress publication logged
        cases milestone with
        | nothing => exact absurd at_.2 stored
        | document => exact absurd at_.2 stored
        | photo version => exact fun none => Option.some_ne_none _ (at_.1.symm.trans none)
        | linked version => exact fun none => Option.some_ne_none _ (at_.1.symm.trans none)
    | profilePicture userId editor =>
        right
        obtain ⟨isProfile, _free, moment, logged, save, started, isUser, _⟩ :=
          picture_of_pending reached (pending_of_effect effect)
        have signedIn := save?_user started
        rw [isUser] at signedIn
        obtain ⟨account, known, owned⟩ := known_of_signedIn ran
          (List.mem_append_right _ (List.mem_cons_of_mem _ logged)) signedIn
        refine ⟨account, known, ?_⟩
        rw [owned, ← isProfile, samePath]
  · cases isStored

/-- A committed photo URL came back for the picture of an account, to an account. -/
theorem picture_of_photoURL (ran : AppRun past world) {uid : UID} {url : URL}
    (committed : world.firebase.photoURL uid = some url) :
    (∃ account ∈ world.firebase.accounts, account.uid = uid) ∧
      (∃ owner ∈ world.firebase.accounts, url.path = profilePhotoPath owner.uid) ∧
      world.firebase.Resolves url := by
  obtain ⟨moment, member, editor, captured, effect⟩ := committed_of_photoURL ran committed
  obtain ⟨recent, earlier, rfl, reached⟩ := ran.moment member
  obtain ⟨⟨before, event⟩, sent, issued⟩ := issued_of_pending reached (pending_of_effect effect)
  have inPast : (before, event) ∈ recent ++ moment :: earlier :=
    List.mem_append_right _ (List.mem_cons_of_mem _ sent)
  obtain ⟨between, older, rfl, asked⟩ := reached.moment sent
  dsimp only at issued asked
  obtain ⟨index, reference, userId, _isCallback, found, signedIn⟩ := issued.commit
  have answered := List.mem_of_getElem? found
  obtain ⟨isProfile, _free, press, logged, save, started, isUser, _⟩ :=
    picture_of_download asked (.inr (.inr ⟨_, answered⟩))
  obtain ⟨object, isStored, isURL⟩ := (stores asked).urls _ _ _ answered
  refine ⟨known_of_signedIn ran inPast signedIn, ?_, ?_⟩
  · have pressed := save?_user started
    rw [isUser] at pressed
    obtain ⟨owner, known, owned⟩ := known_of_signedIn ran
      (List.mem_append_right _ (List.mem_cons_of_mem _
        (List.mem_append_right _ (List.mem_cons_of_mem _ logged)))) pressed
    refine ⟨owner, known, ?_⟩
    rw [isURL, isProfile, owned]
  · rw [isURL]
    apply resolves_of_stored ran
    unfold storedObjects at isStored ⊢
    obtain ⟨stored, early, isObject⟩ := List.mem_filterMap.mp isStored
    refine List.mem_filterMap.mpr ⟨stored, ?_, isObject⟩
    exact List.mem_append_right _ (List.mem_cons_of_mem _
      (List.mem_append_right _ (List.mem_cons_of_mem _ early)))

/-- The record of the Add Photo screen names nobody or an account. -/
theorem known_author (ran : AppRun past world) {tabs : TabBarController K}
    {controller : AddPhotoViewController K}
    (inFront : world.addPhotoInFront? = some (tabs, controller)) :
    controller.userId = "" ∨ ∃ account ∈ world.firebase.accounts, account.uid = controller.userId := by
  obtain ⟨_, _, present⟩ := world.draft?_of_inFront inFront
  unfold AddPhotoViewController.userId
  cases kept : controller.instaUser with
  | none => exact .inl rfl
  | some user =>
      obtain ⟨fetch, answered, _isCaller, rfl⟩ :=
        (fetchedRecords ran).draft tabs.id controller user present kept
      obtain ⟨between, asked, event, older, rfl, reached, _effect, isData⟩ :=
        moment_of_fetch ran answered
      rw [Option.map_some, Option.getD_some]
      cases found : fetch.data with
      | none =>
          left
          unfold Fetch.user
          rw [found]
          rfl
      | some document =>
          right
          rw [isData] at found
          obtain ⟨isUid, account, known, owned⟩ := localUser_account reached found
          rw [List.append_cons] at ran
          have later := (store_grows reached ran).accounts.subset known
          refine ⟨account, later, ?_⟩
          unfold Fetch.user
          rw [isData, found, owned]
          simp only [Option.map_some, Option.getD_some, InstagramUser.ofDocument, Document.string?,
            isUid]

/-- In every state what the store refers to is there, and in every later state what
was stored is still there. -/
theorem references_kept (ran : AppRun past world) :
    world.firebase.Referential ∧
      ∀ recent later, AppRun (recent ++ past) later → world.firebase.Extends later.firebase := by
  refine ⟨⟨fun reference stored => owns_object ran stored,
    fun uid url committed => picture_of_photoURL ran committed, ?_, ?_, ?_⟩,
    fun recent later longer => store_grows ran longer⟩
  · intro uid stored
    obtain ⟨document, found⟩ := Option.ne_none_iff_exists'.mp stored
    obtain ⟨account, known, owned, _⟩ := (directory_integrity ran).documents uid document found
    exact ⟨account, known, owned⟩
  · intro documentID document stored
    obtain ⟨press, logged, _same, cases⟩ := document_cases ran stored
    have isAuthor : document "userId" = some (.string press.userId) := by
      rcases cases with rfl | ⟨version, rfl, _held⟩
      · rfl
      · rfl
    obtain ⟨⟨before, event⟩, member, pressed⟩ := List.mem_filterMap.mp logged
    obtain ⟨recent, earlier, rfl, reached⟩ := ran.moment member
    obtain ⟨tabs, controller, _, _, inFront, _, isUserId, _⟩ := press_of_publication pressed
    rw [isAuthor, isUserId]
    rw [List.append_cons] at ran
    rcases known_author reached inFront with nobody | known
    · rw [nobody]
      exact .inl rfl
    · obtain ⟨account, member, owned⟩ := (store_grows reached ran).known known
      rw [← owned]
      exact .inr ⟨account, member, rfl⟩
  · intro documentID document value stored linked
    obtain ⟨press, _logged, rfl, rfl | ⟨version, rfl, imageData, _encoded, held⟩⟩ :=
      document_cases ran stored
    · cases linked
    · refine ⟨press.photoURL version, rfl, ?_, _, held, Nat.le_refl _⟩
      exact (Option.some.inj linked).symm

end References

/-- The photo of a finished publication belongs to its post. -/
theorem references_kept_publication :
    (endOf publicationRun).2.firebase.Referential ∧
      (endOf publicationRun).2.firebase.OwnsObject (postPhotoPath "post1") := by
  have ran := appRun_endOf publicationRun (by decide +kernel)
  have references := (references_kept ran).1
  exact ⟨references, references.objects _ (by decide +kernel)⟩

end InstagramProject
