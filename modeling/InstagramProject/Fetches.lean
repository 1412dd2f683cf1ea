/-
Records the screens fetched.  Each screen asks Firestore for the record of the
signed-in account once, when it is loaded, and keeps the answer as long as it
lives.
-/

import InstagramProject.Authors
import InstagramProject.EditTargets
import InstagramProject.Roots

namespace InstagramProject

open Accounting Transition

variable {K : Platform}

/-! ### Answered fetches -/

/-- A fetch as Firestore answered it. -/
structure Fetch where
  caller : FetchCaller
  uid : UID
  data : Option Document

def Fetch.user (fetch : Fetch) : FetchedUser :=
  { user := (fetch.data.map InstagramUser.ofDocument).getD InstagramUser.empty
    key := fetch.uid
    stored := fetch.data.isSome }

def World.fetch? (world : World K) (event : Event K) : Option Fetch :=
  match world.effect? event with
  | some (.getUser uid caller) =>
      some { caller := caller, uid := uid, data := world.localUser uid }
  | _ => none

/-- The fetches answered so far, the latest first. -/
def fetches (past : Past K) : List Fetch :=
  past.filterMap (fun moment => moment.1.fetch? moment.2)

/-- The fetches still to be served, by their callers. -/
def fetching : Marking K FetchCaller where
  request
    | .getUser _ caller => some caller
    | _ => none
  response _ _ := none
  block _ := none

namespace World

/-- The screen of the caller is loaded in the tab bar that is the root. -/
def loads (world : World K) (caller : FetchCaller) : Bool :=
  match world.root with
  | some (.instagram tabs) =>
      tabs.id == caller.controller &&
        match caller with
        | .addPhoto _ => tabs.addPhoto.isSome
        | .profile _ => tabs.profile.isSome
  | _ => false

/-- The caller of the fetch an event asks for. -/
def fetchAsked? (world : World K) (event : Event K) : Option FetchCaller :=
  (world.question? event).bind fetching.request

end World

section Steps

variable {before after : World K} {event : Event K}

private theorem fetches_cons (past : Past K) (before : World K) (event : Event K) :
    fetches ((before, event) :: past) = (before.fetch? event).toList ++ fetches past :=
  log_cons _ _ _

private theorem noFetch (noEffect : before.effect? event = none) :
    one ((before.fetch? event).map Fetch.caller) = 0 := by
  unfold World.fetch?
  rw [noEffect]
  rfl

private theorem fetched_le {request : Request K} (effect : before.effect? event = some request) :
    one ((before.fetch? event).map Fetch.caller) ≤ one (fetching.request request) := by
  unfold World.fetch?
  rw [effect]
  cases request with
  | getUser uid caller => exact le_refl _
  | _ => exact Multiset.zero_le _

private theorem marks_answered {world : World K} {request : Request K} {answer : Answer}
    {work : Work K} (answered : Answered world request answer work) :
    work.marks fetching = world.work.marks fetching := by
  cases answered with
  | queued _handled => exact Work.marks_async_unmarked _ _ rfl
  | uploading _alive _encoded => exact Work.marks_send_unmarked _ _ rfl
  | locating => exact Work.marks_send_unmarked _ _ rfl
  | linking _alive => exact Work.marks_send_unmarked _ _ rfl
  | committing _signedIn => exact Work.marks_send_unmarked _ _ rfl
  | _ => rfl

private theorem unmarked_of_change (request : Request K) (change : request.isQuestion = false) :
    fetching.request request = none := by
  cases request <;> first | rfl | cases change

/-- What is asked for at an act of the user. -/
theorem question_of_sent (stepped : step before event = some after)
    (idle : Idle before event) {request : Request K} (question : request.isQuestion = true)
    (sent : after.work = before.work.send request) : before.question? event = some request := by
  have running : before.endsProcess event = false := by
    cases ends : before.endsProcess event with
    | false => rfl
    | true =>
        have requests := congrArg Work.requests sent
        rw [terminated_of_step stepped ends] at requests
        exact absurd requests.symm (List.append_ne_nil_of_right_ne_nil _ (List.cons_ne_nil _ _))
  have asked := questions_of_act stepped idle.noDelivery running
  have same : after.questions = before.questions ++ [request] := by
    have requests : after.requests = before.requests ++ [request] := congrArg Work.requests sent
    unfold World.questions
    rw [requests, List.filter_append, List.filter_singleton, question]
    rfl
  rw [same] at asked
  exact Option.toList_eq_singleton_iff.mp (List.append_cancel_left asked).symm

/-- A fetch is asked for, served and then answered; it may be lost on the way. -/
theorem fetching_step (stepped : step before event = some after) :
    one ((before.fetch? event).map Fetch.caller) + after.work.marks fetching ≤
      one (before.fetchAsked? event) + before.work.marks fetching := by
  have quiet (noEffect : before.effect? event = none)
      (fewer : after.work.marks fetching ≤ before.work.marks fetching) :
      one ((before.fetch? event).map Fetch.caller) + after.work.marks fetching ≤
        one (before.fetchAsked? event) + before.work.marks fetching := by
    rw [noFetch noEffect, zero_add]
    exact fewer.trans (Multiset.le_add_left _ _)
  have worked := workStep_of_step stepped
  generalize result : after.work = work at worked
  rw [result] at quiet
  cases worked with
  | screens idle => exact quiet (effect_of_noDelivery idle.noDelivery) (le_refl _)
  | ended ends => exact quiet (noEffect_of_ends ends) (Work.marks_terminate _ _)
  | @asked event request idle question =>
      rw [noFetch (effect_of_noDelivery idle.noDelivery), zero_add, World.fetchAsked?,
        question_of_sent stepped idle question result, Work.marks_send]
      exact le_refl _
  | displayed idle _display =>
      apply quiet (effect_of_noDelivery idle.noDelivery)
      rw [Work.marks_async_unmarked _ _ rfl]
  | signedOut => exact quiet rfl (le_refl _)
  | published _started _noSave _fresh _free noDelivery =>
      apply quiet (effect_of_noDelivery noDelivery)
      exact le_of_eq (Work.marks_send_unmarked fetching _ rfl)
  | saved _started _noPublication noDelivery =>
      apply quiet (effect_of_noDelivery noDelivery)
      rw [Work.marks_save_unmarked _ _ unmarked_of_change]
  | @served index outcome request firebase answer found performed =>
      obtain ⟨rest, isBefore, isAfter⟩ :=
        Work.marks_serve fetching before.work found firebase answer
      rw [isAfter, isBefore]
      change one _ + (one none + rest) ≤ one none + (one (fetching.request request) + rest)
      rw [one_none, zero_add, zero_add]
      apply add_le_add_left
      cases outcome with
      | failure message => exact Multiset.zero_le _
      | success newUID => exact fetched_le found
      | unconfirmed newUID message => exact fetched_le found
  | @servedOrphan index outcome request firebase answer found performed =>
      rw [Work.marks_serveOrphan fetching before.work found firebase]
      change one _ + _ ≤ one none + (one (fetching.request request) + _)
      rw [one_none, zero_add]
      apply add_le_add_left
      cases outcome with
      | failure message => exact Multiset.zero_le _
      | success newUID => exact fetched_le found
      | unconfirmed newUID message => exact fetched_le found
  | @called index request answer work found answered =>
      apply quiet rfl
      rw [marks_answered answered]
      exact le_of_eq (Work.marks_takeResponse_unmarked fetching before.work found rfl)
  | @ran block rest work queued ran =>
      apply quiet rfl
      rw [Work.marks_ran_unmarked _ _ ran unmarked_of_change (fun _ => rfl)]
      exact le_of_eq (Work.marks_takeBlock_unmarked fetching before.work queued rfl)

/-! ### Once for each screen -/

/-- The callers whose fetch has been answered or is still to be served. -/
def askedFetches (past : Past K) (world : World K) : Multiset FetchCaller :=
  ↑((fetches past).map Fetch.caller) + world.work.marks fetching

/-- A screen asks once, when it is loaded. -/
structure AskedOnce (past : Past K) (world : World K) : Prop where
  once : (askedFetches past world).Nodup
  known : ∀ caller ∈ askedFetches past world, caller.controller < world.nextController
  loaded : ∀ caller ∈ askedFetches past world,
    world.rootIdentity = some (.instagram caller.controller) → world.loads caller = true

private theorem askedFetches_step {past : Past K} (stepped : step before event = some after) :
    askedFetches ((before, event) :: past) after ≤
      one (before.fetchAsked? event) + askedFetches past before := by
  have moved := fetching_step stepped
  unfold askedFetches
  rw [fetches_cons, List.map_append, ← Multiset.coe_add]
  have head : (↑(List.map Fetch.caller (before.fetch? event).toList) : Multiset FetchCaller) =
      one ((before.fetch? event).map Fetch.caller) := by
    cases before.fetch? event <;> rfl
  rw [head]
  calc one ((before.fetch? event).map Fetch.caller) + ↑((fetches past).map Fetch.caller) +
        after.work.marks fetching
      = ↑((fetches past).map Fetch.caller) +
        (one ((before.fetch? event).map Fetch.caller) + after.work.marks fetching) := by abel
    _ ≤ ↑((fetches past).map Fetch.caller) +
        (one (before.fetchAsked? event) + before.work.marks fetching) :=
      add_le_add_right moved _
    _ = _ := by abel

/-- The press that asks for a record loads the screen that keeps it. -/
theorem loads_of_fetchAsked (stepped : step before event = some after) {caller : FetchCaller}
    (asked : before.fetchAsked? event = some caller) :
    before.rootIdentity = some (.instagram caller.controller) ∧ before.loads caller = false ∧
      after.loads caller = true := by
  obtain ⟨request, question, isFetch⟩ := Option.bind_eq_some_iff.mp asked
  cases acts_of_step stepped with
  | @addPhotoSelected tabs root presented =>
      simp only [World.question?, root, presented, true_and, show ¬ ((1 : Fin 3) = 2) from by decide,
        false_and, if_false] at question
      obtain ⟨first, asking⟩ := Option.ite_none_right_eq_some.mp question
      obtain ⟨user, _signedIn, rfl⟩ := Option.map_eq_some_iff.mp asking
      cases isFetch
      have absent := Option.isNone_iff_eq_none.mp first
      refine ⟨World.rootIdentity_of_some root, ?_, ?_⟩
      · simp only [World.loads, root, absent, Option.isSome_none, Bool.and_false]
      · simp only [World.showAddPhoto, absent, World.loads, World.root_fetchCurrentUser]
        exact Bool.and_eq_true_iff.mpr ⟨beq_self_eq_true tabs.id, rfl⟩
  | @profileSelected tabs root presented =>
      simp only [World.question?, root, presented, true_and, show ¬ ((2 : Fin 3) = 1) from by decide,
        false_and, if_false] at question
      obtain ⟨first, asking⟩ := Option.ite_none_right_eq_some.mp question
      obtain ⟨user, _signedIn, rfl⟩ := Option.map_eq_some_iff.mp asking
      cases isFetch
      have absent := Option.isNone_iff_eq_none.mp first
      refine ⟨World.rootIdentity_of_some root, ?_, ?_⟩
      · simp only [World.loads, root, absent, Option.isSome_none, Bool.and_false]
      · simp only [World.showProfile, absent, World.loads, World.root_fetchCurrentUser]
        exact Bool.and_eq_true_iff.mpr ⟨beq_self_eq_true tabs.id, rfl⟩
  | feedSelected root presented =>
      simp only [World.question?, root, presented, show ¬ ((0 : Fin 3) = 1) from by decide,
        show ¬ ((0 : Fin 3) = 2) from by decide, false_and, if_false, reduceCtorEq] at question
  | loginIncomplete inFront missing =>
      simp only [World.question?, inFront, Option.bind_some, missing, if_true, reduceCtorEq]
        at question
  | signInAsked inFront complete existing =>
      simp only [World.question?, inFront, Option.bind_some, complete, existing, if_true, if_false,
        Bool.false_eq_true] at question
      cases question
      cases isFetch
  | signUpAsked inFront complete new =>
      simp only [World.question?, inFront, Option.bind_some, complete, new, if_false,
        Bool.false_eq_true] at question
      cases question
      cases isFetch
  | _ => cases question

/-- A loaded screen stays as long as its tab bar is the root. -/
theorem loads_stays (rooted : RootStep before event after.root) {caller : FetchCaller}
    (known : caller.controller < before.nextController)
    (isRoot : after.rootIdentity = some (.instagram caller.controller))
    (loaded : before.rootIdentity = some (.instagram caller.controller) →
      before.loads caller = true) : after.loads caller = true := by
  unfold World.rootIdentity at isRoot loaded
  unfold World.loads at loaded ⊢
  generalize after.root = root at rooted isRoot ⊢
  cases rooted with
  | same => exact loaded isRoot
  | toggled _wasRoot => cases isRoot
  | closed => cases isRoot
  | loginOpened => cases isRoot
  | instagramOpened =>
      have isNext : before.nextController = caller.controller :=
        RootIdentity.instagram.inj (Option.some.inj isRoot)
      rw [isNext] at known
      exact absurd known (Nat.lt_irrefl _)
  | tabs wasRoot changed =>
      rw [wasRoot] at loaded
      cases changed with
      | selected index => exact loaded isRoot
      | addPhotoLoaded _absent _alone =>
          have earlier := loaded isRoot
          cases caller with
          | addPhoto screen =>
              have same := (Bool.and_eq_true_iff.mp earlier).1
              exact Bool.and_eq_true_iff.mpr ⟨same, rfl⟩
          | profile screen => exact earlier
      | profileLoaded _absent _alone =>
          have earlier := loaded isRoot
          cases caller with
          | addPhoto screen => exact earlier
          | profile screen =>
              have same := (Bool.and_eq_true_iff.mp earlier).1
              exact Bool.and_eq_true_iff.mpr ⟨same, rfl⟩
      | addPhotoChanged same =>
          have earlier := loaded isRoot
          cases caller with
          | addPhoto screen =>
              dsimp only at earlier ⊢
              rw [same]
              exact earlier
          | profile screen => exact earlier
      | profileInformed _queued =>
          have earlier := loaded isRoot
          cases caller with
          | addPhoto screen => exact earlier
          | profile screen =>
              dsimp only at earlier ⊢
              rw [Option.isSome_map]
              exact earlier

theorem AskedOnce.step {past : Past K} (fresh : Fresh before) (asked : AskedOnce past before)
    (stepped : step before event = some after) : AskedOnce ((before, event) :: past) after := by
  have fewer := @askedFetches_step _ _ _ _ past stepped
  have grows := (identityStep_of_step stepped).grows
  have origin {caller : FetchCaller}
      (member : caller ∈ askedFetches ((before, event) :: past) after) :
      before.fetchAsked? event = some caller ∨ caller ∈ askedFetches past before :=
    mem_one_add.mp (Multiset.mem_of_le fewer member)
  refine ⟨?_, ?_, ?_⟩
  · apply Multiset.nodup_of_le fewer
    cases new : before.fetchAsked? event with
    | none =>
        rw [one_none, zero_add]
        exact asked.once
    | some caller =>
        obtain ⟨isRoot, unloaded, _⟩ := loads_of_fetchAsked stepped new
        rw [one_some, Multiset.singleton_add, Multiset.nodup_cons]
        refine ⟨?_, asked.once⟩
        intro again
        rw [asked.loaded caller again isRoot] at unloaded
        cases unloaded
  · intro caller member
    rcases origin member with new | old
    · obtain ⟨isRoot, _, _⟩ := loads_of_fetchAsked stepped new
      exact Nat.lt_of_lt_of_le (fresh.root _ isRoot) grows
    · exact Nat.lt_of_lt_of_le (asked.known caller old) grows
  · intro caller member isRoot
    rcases origin member with new | old
    · exact (loads_of_fetchAsked stepped new).2.2
    · exact loads_stays (rootStep_of_step stepped) (asked.known caller old) isRoot
        (asked.loaded caller old)

theorem askedOnce_initial : AskedOnce [] (World.initial K) :=
  ⟨Multiset.nodup_zero, fun _ member => absurd member (Multiset.notMem_zero _),
    fun _ member => absurd member (Multiset.notMem_zero _)⟩

theorem askedOnce {past : Past K} {world : World K} (ran : AppRun past world) :
    AskedOnce past world :=
  ran.invariant AskedOnce askedOnce_initial
    (fun _past _before _event _after earlier asked stepped => asked.step (fresh earlier) stepped)

/-- Of a screen's fetch there is one answer. -/
theorem fetch_unique {past : Past K} {world : World K} (ran : AppRun past world)
    {fetch other : Fetch} (answered : fetch ∈ fetches past) (again : other ∈ fetches past)
    (same : fetch.caller = other.caller) : fetch = other := by
  have once := Multiset.nodup_of_le (Multiset.le_add_right _ _) (askedOnce ran).once
  exact List.inj_on_of_nodup_map (Multiset.coe_nodup.mp once) answered again same

end Steps

/-! ### Where records come from -/

/-- The record is what Firestore answered to the caller. -/
def FetchedFor (past : Past K) (caller : FetchCaller) (user : FetchedUser) : Prop :=
  ∃ fetch ∈ fetches past, fetch.caller = caller ∧ fetch.user = user

/-- The record the Profile screen of the root keeps, with the identity of its tab
bar. -/
def World.profileRecord? (world : World K) : Option (ControllerID × FetchedUser) :=
  match world.root with
  | some (.instagram tabs) =>
      (tabs.profile.bind ProfileViewController.instaUser).map (fun user => (tabs.id, user))
  | _ => none

namespace World

variable {world : World K} {tabs : TabBarController K} {controller : ProfileViewController}

theorem profile_of_front (inFront : world.profileInFront? = some (tabs, controller)) :
    world.root = some (.instagram tabs) ∧ tabs.profile = some controller := by
  unfold profileInFront? at inFront
  split at inFront
  · rename_i root _presented
    split at inFront
    · obtain ⟨present, isProfile, isFront⟩ := Option.map_eq_some_iff.mp inFront
      cases isFront
      exact ⟨root, isProfile⟩
    · cases inFront
  · cases inFront

theorem record_of_front (inFront : world.profileInFront? = some (tabs, controller)) :
    world.profileRecord? = controller.instaUser.map (fun user => (tabs.id, user)) := by
  obtain ⟨root, present⟩ := profile_of_front inFront
  rw [profileRecord?, root]
  dsimp only
  rw [present, Option.bind_some]

end World

theorem fetch?_data {world : World K} {event : Event K} {fetch : Fetch}
    (answered : world.fetch? event = some fetch) :
    world.effect? event = some (.getUser fetch.uid fetch.caller) ∧
      fetch.data = world.localUser fetch.uid := by
  unfold World.fetch? at answered
  split at answered
  · rename_i effect
    cases answered
    exact ⟨effect, rfl⟩
  · cases answered

/-- The moment at which Firestore answered a fetch. -/
theorem moment_of_fetch {past : Past K} {world : World K} (ran : AppRun past world) {fetch : Fetch}
    (answered : fetch ∈ fetches past) :
    ∃ between asked event older, past = between ++ (asked, event) :: older ∧
      AppRun older asked ∧ asked.effect? event = some (.getUser fetch.uid fetch.caller) ∧
      fetch.data = asked.localUser fetch.uid := by
  obtain ⟨⟨asked, event⟩, member, isFetch⟩ := List.mem_filterMap.mp answered
  obtain ⟨between, older, split, reached⟩ := ran.moment member
  exact ⟨between, asked, event, older, split, reached, fetch?_data isFetch⟩

/-- Every record on its way to a screen, or kept by one, was fetched for it. -/
structure FetchedRecords (past : Past K) (world : World K) : Prop where
  answers : ∀ uid caller data, (.getUser uid caller, .snapshot data) ∈ world.responses →
    { caller := caller, uid := uid, data := data } ∈ fetches past
  addPhotoBlocks : ∀ screen user, .setAddPhotoUser screen user ∈ world.mainQueue →
    FetchedFor past (.addPhoto screen) user
  profileBlocks : ∀ screen user, .setProfileUser screen user ∈ world.mainQueue →
    FetchedFor past (.profile screen) user
  draft : ∀ screen controller user, world.draft? = some (screen, controller) →
    controller.instaUser = some user → FetchedFor past (.addPhoto screen) user
  profile : ∀ screen user, world.profileRecord? = some (screen, user) →
    FetchedFor past (.profile screen) user

section Records

variable {past : Past K} {before after : World K} {event : Event K}

theorem FetchedFor.later {caller : FetchCaller} {user : FetchedUser}
    (fetched : FetchedFor past caller user) (recent : Past K) :
    FetchedFor (recent ++ past) caller user := by
  obtain ⟨fetch, answered, isCaller, isUser⟩ := fetched
  refine ⟨fetch, ?_, isCaller, isUser⟩
  unfold fetches
  rw [List.filterMap_append]
  exact List.mem_append_right _ answered

private theorem answers_fetched (records : FetchedRecords past before)
    (stepped : step before event = some after) {uid : UID} {caller : FetchCaller}
    {data : Option Document} (member : (.getUser uid caller, .snapshot data) ∈ after.responses) :
    { caller := caller, uid := uid, data := data } ∈ fetches ((before, event) :: past) := by
  rcases (workStep_of_step stepped).responses member with
    old | ⟨index, outcome, rfl, found, performed⟩
  · exact mem_log.mpr (.inr (records.answers uid caller data old))
  · refine mem_log.mpr (.inl ?_)
    cases outcome with
    | failure message => cases (Prod.mk.inj (Option.some.inj performed)).2
    | success newUID =>
        have isData : before.localUser uid = data :=
          Answer.snapshot.inj (Prod.mk.inj (Option.some.inj performed)).2
        have effect : before.effect? (.serve index (.success newUID)) =
            some (.getUser uid caller) := found
        simp only [World.fetch?, effect, isData]
    | unconfirmed newUID message => cases performed

private theorem block_fetched (records : FetchedRecords past before)
    (stepped : step before event = some after) {block : Block K} {caller : FetchCaller}
    {user : FetchedUser} (shape : block = match caller with
      | .addPhoto screen => .setAddPhotoUser screen user
      | .profile screen => .setProfileUser screen user)
    (member : block ∈ after.mainQueue) :
    block ∈ before.mainQueue ∨ FetchedFor ((before, event) :: past) caller user := by
  rcases (workStep_of_step stepped).mainQueue member with
    old | display | ⟨request, answer, answered, handled⟩
  · exact .inl old
  · rw [shape] at display
    cases caller <;> cases display
  · right
    have queued := queues_of_handlerBlock handled
    rw [shape] at queued
    cases caller with
    | addPhoto screen =>
        cases queued with
        | addPhotoFetched =>
            have logged := records.answers _ _ _ answered
            exact ⟨_, mem_log.mpr (.inr logged), rfl, rfl⟩
    | profile screen =>
        cases queued with
        | profileFetched =>
            have logged := records.answers _ _ _ answered
            exact ⟨_, mem_log.mpr (.inr logged), rfl, rfl⟩

private theorem profile_fetched (records : FetchedRecords past before)
    (rooted : RootStep before event after.root) {screen : ControllerID} {user : FetchedUser}
    (kept : after.profileRecord? = some (screen, user)) : FetchedFor past (.profile screen) user := by
  have earlier := records.profile screen user
  unfold World.profileRecord? at kept earlier
  generalize after.root = root at rooted kept
  cases rooted with
  | same => exact earlier kept
  | toggled _wasRoot => cases kept
  | closed => cases kept
  | loginOpened => cases kept
  | instagramOpened => cases kept
  | @tabs tabs after' wasRoot changed =>
      rw [wasRoot] at earlier
      cases changed with
      | selected index => exact earlier kept
      | addPhotoLoaded _absent _alone => exact earlier kept
      | profileLoaded _absent _alone => cases kept
      | addPhotoChanged _same => exact earlier kept
      | profileInformed queued =>
          cases present : tabs.profile with
          | none =>
              rw [present] at kept
              cases kept
          | some controller =>
              rw [present] at kept
              cases kept
              exact records.profileBlocks _ _ queued

end Records

theorem fetchedRecords {past : Past K} {world : World K} (ran : AppRun past world) :
    FetchedRecords past world := by
  refine ran.invariant FetchedRecords ⟨nofun, nofun, nofun, nofun, nofun⟩ ?_
  intro past before event after _earlier records stepped
  refine ⟨?_, ?_, ?_, ?_, ?_⟩
  · intro uid caller data member
    exact answers_fetched records stepped member
  · intro screen user member
    rcases @block_fetched _ _ _ _ _ records stepped _ (.addPhoto screen) user rfl member with
      old | fetched
    · exact (records.addPhotoBlocks screen user old).later [_]
    · exact fetched
  · intro screen user member
    rcases @block_fetched _ _ _ _ _ records stepped _ (.profile screen) user rfl member with
      old | fetched
    · exact (records.profileBlocks screen user old).later [_]
    · exact fetched
  · intro screen controller user present kept
    rcases draft_user (draftStep_of_step stepped) present kept with
      ⟨older, found, same⟩ | queued
    · exact (records.draft screen older user found same).later [_]
    · exact (records.addPhotoBlocks screen user queued).later [_]
  · intro screen user kept
    exact (profile_fetched records (rootStep_of_step stepped) kept).later [_]

/-- Every editor was opened with a record fetched for the Profile screen. -/
theorem fetched_of_opening {past : Past K} {world : World K} (ran : AppRun past world)
    {editor : ControllerID} {record : FetchedUser} (opened : (editor, record) ∈ openings past) :
    ∃ screen, FetchedFor past (.profile screen) record := by
  obtain ⟨⟨before, event⟩, member, opening⟩ := List.mem_filterMap.mp opened
  obtain ⟨recent, earlier, rfl, reached⟩ := ran.moment member
  obtain ⟨user, isOpened, same⟩ := Option.map_eq_some_iff.mp opening
  cases same
  have kept : ∃ screen, before.profileRecord? = some (screen, record) := by
    cases event with
    | editButtonPressed =>
        obtain ⟨⟨tabs, controller⟩, inFront, loaded⟩ := Option.bind_eq_some_iff.mp isOpened
        obtain ⟨_installed, isUser⟩ := Option.ite_none_right_eq_some.mp loaded
        refine ⟨tabs.id, ?_⟩
        rw [World.record_of_front inFront, isUser, Option.map_some]
    | _ => cases isOpened
  obtain ⟨screen, isRecord⟩ := kept
  have fetched := (fetchedRecords reached).profile screen record isRecord
  rw [List.append_cons]
  exact ⟨screen, fetched.later _⟩

end InstagramProject
