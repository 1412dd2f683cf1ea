/-
The record of the Profile screen on its way from Firestore.  An answered fetch
waits as an answer, then as a block on the main queue, and is kept by the screen
once the block has run.
-/

import InstagramProject.Fetches

namespace InstagramProject

open Accounting Transition

variable {K : Platform}

/-! ### The way of a record -/

/-- The screen a block brings its record to. -/
def Block.informs? : Block K → Option ControllerID
  | .setProfileUser screen _ => some screen
  | _ => none

namespace World

/-- The Profile screen whose fetch an event answers with a snapshot. -/
def recordServed? (world : World K) : Event K → Option ControllerID
  | .serve index (.success _) =>
      match world.requests[index]? with
      | some (.getUser _ (.profile screen)) => some screen
      | _ => none
  | _ => none

/-- The Profile screen an event brings its record to. -/
def recordBrought? (world : World K) : Event K → Option ControllerID
  | .runBlock => world.mainQueue.head?.bind Block.informs?
  | _ => none

end World

/-- The Profile screens whose fetch has been answered with a snapshot. -/
def recordsServed (past : Past K) : List ControllerID :=
  past.filterMap (fun moment => moment.1.recordServed? moment.2)

/-- The Profile screens that have got their record. -/
def recordsBrought (past : Past K) : List ControllerID :=
  past.filterMap (fun moment => moment.1.recordBrought? moment.2)

/-- The records under way, by their screens. -/
def bringing : Marking K ControllerID where
  request _ := none
  response
    | .getUser _ (.profile screen), .snapshot _ => some screen
    | _, _ => none
  block := Block.informs?

namespace World

/-- The record has been answered, and its handler or its block is still to run. -/
def recordWaits (world : World K) (screen : ControllerID) : Prop :=
  (∃ uid data, (.getUser uid (.profile screen), .snapshot data) ∈ world.responses) ∨
    ∃ user, .setProfileUser screen user ∈ world.mainQueue

theorem recordWaits_iff (world : World K) (screen : ControllerID) :
    world.recordWaits screen ↔ screen ∈ world.work.marks bringing := by
  rw [Work.mem_marks]
  constructor
  · rintro (⟨uid, data, answered⟩ | ⟨user, queued⟩)
    · exact .inr (.inr (.inl ⟨_, answered, rfl⟩))
    · exact .inr (.inr (.inr ⟨_, queued, rfl⟩))
  · rintro (⟨_, _, asked⟩ | ⟨_, _, orphaned⟩ | ⟨⟨request, answer⟩, answered, marked⟩ |
      ⟨block, queued, marked⟩)
    · cases asked
    · cases orphaned
    · left
      simp only [bringing] at marked
      split at marked
      · cases marked
        exact ⟨_, _, answered⟩
      · cases marked
    · right
      cases block <;> cases marked
      exact ⟨_, queued⟩

instance (world : World K) (screen : ControllerID) : Decidable (world.recordWaits screen) :=
  decidable_of_iff _ (world.recordWaits_iff screen).symm

end World

section Steps

variable {before after : World K} {event : Event K}

private theorem brought_of_noDelivery (world : World K) (noDelivery : event.isDelivery = false) :
    world.recordBrought? event = none := by
  cases event <;> first | rfl | cases noDelivery

private theorem brought_of_ends {world : World K} (ends : world.endsProcess event = true) :
    world.recordBrought? event = none := by
  cases event with
  | runBlock =>
      simp only [World.endsProcess] at ends
      split at ends
      · rename_i queued
        simp only [World.recordBrought?, queued, List.head?_cons, Option.bind_some, Block.informs?]
      · cases ends
  | _ => rfl

private theorem bringing_answered {world : World K} {index : Nat} {request : Request K}
    {answer : Answer} {work : Work K}
    (found : world.work.responses[index]? = some (request, answer))
    (answered : Answered { world with responses := world.responses.eraseIdx index } request answer
      work) :
    work.marks bringing = world.work.marks bringing := by
  have taken (unmarked : bringing.response request answer = none) :
      Work.marks bringing { world.work with responses := world.responses.eraseIdx index } =
        world.work.marks bringing :=
    Work.marks_takeResponse_unmarked bringing world.work found unmarked
  cases answered with
  | ignored ignores =>
      apply taken
      cases request with
      | getUser uid caller => cases answer <;> cases caller <;> first | rfl | cases ignores
      | _ => cases answer <;> rfl
  | queued handled =>
      refine Work.marks_queued bringing world.work found ?_
      cases queues_of_handlerBlock handled <;> rfl
  | uploading _alive _encoded => exact (Work.marks_send_unmarked _ _ rfl).trans (taken rfl)
  | notUploading _reason => exact taken rfl
  | locating => exact (Work.marks_send_unmarked _ _ rfl).trans (taken rfl)
  | linking _alive => exact (Work.marks_send_unmarked _ _ rfl).trans (taken rfl)
  | notLinking _released => exact taken rfl
  | committing _signedIn => exact (Work.marks_send_unmarked _ _ rfl).trans (taken rfl)
  | notCommitting _signedOut => exact taken rfl

/-- A record is served, waits and is brought; it may be lost on the way. -/
theorem bringing_step (stepped : step before event = some after) :
    one (before.recordBrought? event) + after.work.marks bringing ≤
      one (before.recordServed? event) + before.work.marks bringing := by
  have quiet (notBrought : before.recordBrought? event = none)
      (fewer : after.work.marks bringing ≤ before.work.marks bringing) :
      one (before.recordBrought? event) + after.work.marks bringing ≤
        one (before.recordServed? event) + before.work.marks bringing := by
    rw [notBrought, one_none, zero_add]
    exact fewer.trans (Multiset.le_add_left _ _)
  have worked := workStep_of_step stepped
  generalize result : after.work = work at worked
  rw [result] at quiet
  cases worked with
  | screens idle => exact quiet (brought_of_noDelivery before idle.noDelivery) (le_refl _)
  | ended ends => exact quiet (brought_of_ends ends) (Work.marks_terminate _ _)
  | asked idle _question =>
      refine quiet (brought_of_noDelivery before idle.noDelivery) ?_
      exact le_of_eq (Work.marks_send_unmarked bringing _ rfl)
  | @displayed event block idle display =>
      refine quiet (brought_of_noDelivery before idle.noDelivery) ?_
      apply le_of_eq
      apply Work.marks_async_unmarked
      cases block <;> first | rfl | cases display
  | signedOut => exact quiet rfl (le_refl _)
  | published _started _noSave _fresh _free noDelivery =>
      refine quiet (brought_of_noDelivery before noDelivery) ?_
      exact le_of_eq (Work.marks_send_unmarked bringing _ rfl)
  | saved _started _noPublication noDelivery =>
      refine quiet (brought_of_noDelivery before noDelivery) ?_
      rw [Work.marks_save_unmarked _ _ (fun _ _ => rfl)]
  | @served index outcome request firebase answer found performed =>
      obtain ⟨rest, isBefore, isAfter⟩ :=
        Work.marks_serve bringing before.work found firebase answer
      rw [isAfter, isBefore]
      change one none + (one (bringing.response request answer) + rest) ≤
        one (before.recordServed? (.serve index outcome)) + (one none + rest)
      rw [one_none, zero_add, zero_add]
      apply add_le_add_left
      have unmarked (message : String) : bringing.response request (.error message) = none := by
        cases request with
        | getUser uid caller => cases caller <;> rfl
        | _ => rfl
      cases performed_of_perform performed with
      | refused =>
          rw [unmarked]
          exact Multiset.zero_le _
      | unconfirmed _loses _carriedOut =>
          rw [unmarked]
          exact Multiset.zero_le _
      | @getUser uid newUID caller =>
          cases caller with
          | addPhoto screen => exact Multiset.zero_le _
          | profile screen =>
              have served : before.recordServed? (.serve index (.success newUID)) =
                  some screen := by
                simp only [World.recordServed?]
                rw [show before.requests[index]? = _ from found]
              rw [served]
              exact le_refl _
      | _ => exact Multiset.zero_le _
  | @servedOrphan index outcome request firebase answer found _performed =>
      refine quiet rfl ?_
      exact le_of_eq (Work.marks_serveOrphan_unmarked bringing before.work found rfl firebase)
  | called found answered => exact quiet rfl (le_of_eq (bringing_answered found answered))
  | @ran block rest work queued ran =>
      rw [Work.marks_ran_unmarked _ _ ran (fun _ _ => rfl) (fun _ => rfl)]
      have head : before.recordBrought? .runBlock = block.informs? := by
        simp only [World.recordBrought?, queued, List.head?_cons, Option.bind_some]
      rw [head, Work.marks_takeBlock bringing before.work queued]
      exact Multiset.le_add_left _ _

/-! ### The record a screen keeps -/

/-- A root has the record it had, or a block has brought it. -/
private theorem record_of_rootStep {root : Option (Root K)} (rooted : RootStep before event root)
    {screen : ControllerID} {user : FetchedUser}
    (kept : World.profileRecord? { before with root := root } = some (screen, user)) :
    before.profileRecord? = some (screen, user) ∨
      event = .runBlock ∧ .setProfileUser screen user ∈ before.mainQueue := by
  cases rooted with
  | same => exact .inl kept
  | toggled _wasRoot => cases kept
  | closed => cases kept
  | loginOpened => cases kept
  | instagramOpened => cases kept
  | @tabs tabs _ wasRoot changed =>
      rw [World.profileRecord?, wasRoot]
      cases changed with
      | selected index => exact .inl kept
      | addPhotoLoaded _absent _alone => exact .inl kept
      | profileLoaded _absent _alone => cases kept
      | addPhotoChanged _same => exact .inl kept
      | profileInformed queued =>
          right
          refine ⟨rfl, ?_⟩
          obtain ⟨record, informed, same⟩ := Option.map_eq_some_iff.mp kept
          cases same
          cases present : tabs.profile with
          | none =>
              rw [present] at informed
              cases informed
          | some controller =>
              rw [present] at informed
              cases informed
              exact queued

/-- A screen has the record it had, or has just got it. -/
theorem record_of_step (stepped : step before event = some after) {screen : ControllerID}
    {user : FetchedUser} (kept : after.profileRecord? = some (screen, user)) :
    before.profileRecord? = some (screen, user) ∨
      before.recordBrought? event = some screen := by
  by_cases delivers : event = .runBlock
  · subst delivers
    cases acts_of_step stepped with
    | @ran block rest queued =>
        -- Only the block that runs is looked at.
        rcases record_of_rootStep rootStep_runBlock kept with earlier | ⟨_delivers, isBlock⟩
        · exact .inl earlier
        · right
          rw [World.recordBrought?, queued, ← List.mem_singleton.mp isBlock]
          rfl
  · rcases record_of_rootStep (rootStep_of_step stepped) kept with earlier | ⟨delivered, _⟩
    · exact .inl earlier
    · exact absurd delivered delivers

/-- A record that is kept stays as long as its tab bar is the root. -/
theorem record_stays (stepped : step before event = some after) {screen : ControllerID}
    {user : FetchedUser} (kept : before.profileRecord? = some (screen, user))
    (isRoot : after.rootIdentity = some (.instagram screen))
    (known : screen < before.nextController) : ∃ user, after.profileRecord? = some (screen, user) := by
  have rooted := rootStep_of_step stepped
  unfold World.profileRecord? at kept ⊢
  unfold World.rootIdentity at isRoot
  generalize after.root = root at rooted isRoot ⊢
  cases rooted with
  | same => exact ⟨user, kept⟩
  | toggled _wasRoot => cases isRoot
  | closed => cases isRoot
  | loginOpened => cases isRoot
  | instagramOpened =>
      have isNext : before.nextController = screen :=
        RootIdentity.instagram.inj (Option.some.inj isRoot)
      rw [isNext] at known
      exact absurd known (Nat.lt_irrefl _)
  | @tabs tabs after' wasRoot changed =>
      rw [wasRoot] at kept
      dsimp only at kept
      cases changed with
      | selected index => exact ⟨user, kept⟩
      | addPhotoLoaded _absent _alone => exact ⟨user, kept⟩
      | profileLoaded absent _alone =>
          rw [absent] at kept
          cases kept
      | addPhotoChanged _same => exact ⟨user, kept⟩
      | @profileInformed arrived _queued =>
          cases present : tabs.profile with
          | none =>
              rw [present] at kept
              cases kept
          | some controller =>
              rw [present] at kept
              obtain ⟨_, _, same⟩ := Option.map_eq_some_iff.mp kept
              cases same
              exact ⟨arrived, rfl⟩

/-- A block that runs in front of its own tab bar brings its record. -/
theorem record_of_block {user : FetchedUser} {screen : ControllerID} {rest : List (Block K)}
    (queued : before.mainQueue = .setProfileUser screen user :: rest)
    (stepped : step before .runBlock = some after)
    (loaded : before.loads (.profile screen) = true) :
    after.profileRecord? = some (screen, user) := by
  simp only [step, queued, Option.some.injEq] at stepped
  subst stepped
  unfold World.loads at loaded
  split at loaded
  · rename_i tabs root
    obtain ⟨isScreen, present⟩ := Bool.and_eq_true_iff.mp loaded
    obtain ⟨controller, isController⟩ := Option.isSome_iff_exists.mp present
    cases beq_iff_eq.mp isScreen
    simp only [World.runBlock, World.updateProfile, World.updateTabs, World.profileRecord?, root,
      Option.map_some, Root.updateTabs, if_true, isController, Option.bind_some]
  · cases loaded

/-! ### Served, waiting, kept -/

private theorem fetch?_of_recordServed {world : World K} {screen : ControllerID}
    (served : world.recordServed? event = some screen) :
    ∃ fetch, world.fetch? event = some fetch ∧ fetch.caller = .profile screen := by
  unfold World.recordServed? at served
  split at served
  · rename_i index newUID
    split at served
    · rename_i uid asking found
      cases served
      refine ⟨{ caller := .profile screen, uid := uid, data := world.localUser uid }, ?_, rfl⟩
      simp only [World.fetch?, World.effect?, found]
    · cases served
  · cases served

private theorem served_sublist (past : Past K) :
    ((recordsServed past).map FetchCaller.profile).Sublist ((fetches past).map Fetch.caller) := by
  induction past with
  | nil => exact List.Sublist.refl _
  | cons moment past ih =>
      unfold recordsServed fetches at ih ⊢
      rw [log_cons, log_cons, List.map_append, List.map_append]
      refine List.Sublist.append ?_ ih
      cases served : moment.1.recordServed? moment.2 with
      | none => exact List.nil_sublist _
      | some screen =>
          obtain ⟨fetch, answered, isCaller⟩ := fetch?_of_recordServed served
          rw [answered]
          simp only [Option.toList_some, List.map_cons, List.map_nil, isCaller]
          exact List.Sublist.refl _

theorem recordsServed_nodup {past : Past K} {world : World K} (asked : AskedOnce past world) :
    (recordsServed past).Nodup := by
  have once := Multiset.nodup_of_le (Multiset.le_add_right _ _) asked.once
  exact ((served_sublist past).nodup (Multiset.coe_nodup.mp once)).of_map _

theorem asked_of_served {past : Past K} {world : World K} {screen : ControllerID}
    (served : screen ∈ recordsServed past) : .profile screen ∈ askedFetches past world := by
  have fetched := (served_sublist past).subset (List.mem_map_of_mem served)
  exact Multiset.mem_add.mpr (.inl (Multiset.mem_coe.mpr fetched))

/-- Of the records served, those brought are kept by their screens, and the others
wait as long as their screens are there. -/
structure RecordArrivals (past : Past K) (world : World K) : Prop where
  brought : ∀ screen user, world.profileRecord? = some (screen, user) →
    screen ∈ recordsBrought past
  counted : ↑(recordsBrought past) + world.work.marks bringing ≤
    (↑(recordsServed past) : Multiset ControllerID)
  arrives : ∀ screen ∈ recordsServed past, world.rootIdentity = some (.instagram screen) →
    world.recordWaits screen ∨ ∃ user, world.profileRecord? = some (screen, user)

theorem recordArrivals_initial : RecordArrivals [] (World.initial K) :=
  ⟨nofun, le_refl _, nofun⟩

/-- A tab bar that is the root was the root before, unless it is new. -/
private theorem rootIdentity_before (stepped : step before event = some after)
    {screen : ControllerID} (known : screen < before.nextController)
    (isRoot : after.rootIdentity = some (.instagram screen)) :
    before.rootIdentity = some (.instagram screen) := by
  have identified := identityStep_of_step stepped
  rw [isRoot] at identified
  generalize isIdentity : some (RootIdentity.instagram screen) = identity at identified
  generalize after.nextController = next at identified
  cases identified with
  | kept _stays _noSignOut _noOpening => rfl
  | opened _opening => rfl
  | launched _closed =>
      have isNew := Option.some.inj isIdentity
      split at isNew
      · cases isNew
        exact absurd known (Nat.lt_irrefl _)
      · cases isNew
  | ended _ends => cases isIdentity
  | navigated _navigates =>
      cases isIdentity
      exact absurd known (Nat.lt_irrefl _)
  | signedOut => cases isIdentity

/-- A served record waits, at first as an answer. -/
private theorem waits_of_served (stepped : step before event = some after) {screen : ControllerID}
    (served : before.recordServed? event = some screen) : after.recordWaits screen := by
  unfold World.recordServed? at served
  split at served
  · rename_i index newUID
    split at served
    · rename_i uid asking found
      cases served
      simp only [step, World.serve, found, Firebase.perform, Firebase.carryOut, Option.map_some,
        Option.some.injEq] at stepped
      subst stepped
      exact .inl ⟨uid, _, List.mem_append_right _ (List.mem_singleton_self _)⟩
    · cases served
  · cases served

/-- A waiting record goes on waiting, or its block runs and the screen keeps it. -/
private theorem waits_step (stepped : step before event = some after) {screen : ControllerID}
    (waits : before.recordWaits screen) (isRoot : after.rootIdentity = some (.instagram screen))
    (loaded : before.loads (.profile screen) = true) :
    after.recordWaits screen ∨ ∃ user, after.profileRecord? = some (screen, user) := by
  have worked := workStep_of_step stepped
  have running : before.endsProcess event ≠ true := by
    intro ends
    rw [terminated_of_step stepped ends] at isRoot
    cases isRoot
  rcases waits with ⟨uid, data, answered⟩ | ⟨user, queued⟩
  · rcases worked.response_stays answered with stays | ends | ⟨index, _isCallback, _found, handled⟩
    · exact .inl (.inl ⟨uid, data, stays⟩)
    · exact absurd ends running
    · let fetch : Fetch := { caller := .profile screen, uid := uid, data := data }
      have isBlock : handlerBlock (K := K) (.getUser uid (.profile screen)) (.snapshot data) =
          some (.setProfileUser screen fetch.user) := rfl
      have queued := congrArg Work.mainQueue (answered_handlerBlock handled isBlock)
      refine .inl (.inr ⟨fetch.user, ?_⟩)
      change _ ∈ after.work.mainQueue
      rw [queued]
      exact List.mem_append_right _ (List.mem_singleton_self _)
  · rcases worked.block_stays queued with stays | ends | ⟨rest, isRun, isHead, _ran⟩
    · exact .inl (.inr ⟨user, stays⟩)
    · exact absurd ends running
    · subst isRun
      exact .inr ⟨user, record_of_block isHead stepped loaded⟩

theorem RecordArrivals.step {past : Past K} (asked : AskedOnce past before)
    (arrivals : RecordArrivals past before) (stepped : step before event = some after) :
    RecordArrivals ((before, event) :: past) after := by
  refine ⟨?_, ?_, ?_⟩
  · intro screen user kept
    rcases record_of_step stepped kept with earlier | brought
    · exact mem_log.mpr (.inr (arrivals.brought screen user earlier))
    · exact mem_log.mpr (.inl brought)
  · have moved := bringing_step stepped
    have counted := arrivals.counted
    unfold recordsBrought recordsServed at counted ⊢
    rw [log_cons, log_cons, ← Multiset.coe_add, ← Multiset.coe_add]
    change one (before.recordBrought? event) + _ + _ ≤ one (before.recordServed? event) + _
    calc one (before.recordBrought? event) + ↑(recordsBrought past) + after.work.marks bringing
        = ↑(recordsBrought past) +
          (one (before.recordBrought? event) + after.work.marks bringing) := by abel
      _ ≤ ↑(recordsBrought past) +
          (one (before.recordServed? event) + before.work.marks bringing) :=
        add_le_add_right moved _
      _ = one (before.recordServed? event) +
          (↑(recordsBrought past) + before.work.marks bringing) := by abel
      _ ≤ _ := add_le_add_right counted _
  · intro screen served isRoot
    rcases mem_log.mp served with new | old
    · exact .inl (waits_of_served stepped new)
    · have caller := @asked_of_served _ _ before _ old
      have known := asked.known _ caller
      have wasRoot := rootIdentity_before stepped known isRoot
      rcases arrivals.arrives screen old wasRoot with waits | ⟨user, kept⟩
      · exact waits_step stepped waits isRoot (asked.loaded _ caller wasRoot)
      · exact .inr (record_stays stepped kept isRoot known)

/-- A screen has its record exactly if its fetch was answered and neither the
handler nor the block of the answer is still to run. -/
theorem RecordArrivals.kept_iff {past : Past K} {world : World K} (asked : AskedOnce past world)
    (arrivals : RecordArrivals past world) {screen : ControllerID}
    (isRoot : world.rootIdentity = some (.instagram screen)) :
    (∃ user, world.profileRecord? = some (screen, user)) ↔
      screen ∈ recordsServed past ∧ ¬world.recordWaits screen := by
  constructor
  · rintro ⟨user, kept⟩
    have brought := Multiset.mem_coe.mpr (arrivals.brought screen user kept)
    have once := Multiset.nodup_of_le arrivals.counted
      (Multiset.coe_nodup.mpr (recordsServed_nodup asked))
    refine ⟨?_, ?_⟩
    · exact Multiset.mem_coe.mp (Multiset.mem_of_le arrivals.counted
        (Multiset.mem_add.mpr (.inl brought)))
    · intro waits
      exact Multiset.disjoint_left.mp (Multiset.nodup_add.mp once).2.2 brought ((world.recordWaits_iff screen).mp waits)
  · rintro ⟨served, settled⟩
    exact (arrivals.arrives screen served isRoot).resolve_left settled

end Steps

end InstagramProject
