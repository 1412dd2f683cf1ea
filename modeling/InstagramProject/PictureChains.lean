/-
The chains of profile pictures of one account: each press of Done with a picture
uploads it, asks for its URL and commits the URL.  A mark is the place one chain
has reached; `ChainStep` lists what an undisturbed event does to the marks.
-/

import InstagramProject.PictureOwners

namespace InstagramProject

open Accounting Transition

variable {K : Platform}

inductive PictureStage (K : Platform)
  | uploading (imageData : K.Data)
  | uploaded
  | locating
  | located (url : URL)
  | committing (url : URL)

/-- The chains whose press was made while `u` was signed in, and the commits to
`u`. -/
def chains (u : UID) : Marking K (PictureStage K) where
  request
    | .putData _ imageData (.profilePicture userId _) =>
        if userId = u then some (.uploading imageData) else none
    | .downloadURL _ (.profilePicture userId _) => if userId = u then some .locating else none
    | .commitChanges uid url _ _ => if uid = u then some (.committing url) else none
    | _ => none
  response
    | .putData _ _ (.profilePicture userId _), .done =>
        if userId = u then some .uploaded else none
    | .downloadURL _ (.profilePicture userId _), .url url =>
        if userId = u then some (.located url) else none
    | _, _ => none
  block _ := none

namespace World

/-- The picture a press of Done uploads for the account. -/
def pressed? (world : World K) (u : UID) (event : Event K) : Option K.Data :=
  (world.save? event).bind (fun save => if save.user = u then save.picture else none)

/-- The object an upload of the account's picture stores. -/
def uploaded? (world : World K) (u : UID) (event : Event K) : Option (StoredObject K) :=
  match world.effect? event with
  | some (.putData _ imageData (.profilePicture userId _)) =>
      if userId = u then some { data := imageData, version := world.firebase.nextVersion }
      else none
  | _ => none

/-- The URL a commit gives to the account. -/
def committed? (world : World K) (u : UID) (event : Event K) : Option URL :=
  match world.effect? event with
  | some (.commitChanges uid url _ _) => if uid = u then some url else none
  | _ => none

/-- A request of a chain of the account, or an answer its chain goes on from, is
outstanding. -/
def pictureOutstanding (world : World K) (u : UID) : Bool :=
  world.requests.any (fun request => ((chains u).request request).isSome) ||
    world.orphans.any (fun request => ((chains u).request request).isSome) ||
    world.responses.any (fun response => ((chains u).response response.1 response.2).isSome)

/-- No request of the account's chains fails, the account stays signed in for
them and gets no URL of another account's chain, and the process does not end
while one is outstanding. -/
def undisturbed (world : World K) (u : UID) (event : Event K) : Bool :=
  !(world.endsProcess event && world.pictureOutstanding u) &&
    match event with
    | .serve index (.failure _) | .serve index (.unconfirmed _ _) =>
        match world.requests[index]? with
        | some request => ((chains u).request request).isNone
        | none => true
    | .callback index =>
        match world.responses[index]? with
        | some (.downloadURL _ (.profilePicture userId _), .url _) =>
            decide (world.currentUser = some u ↔ userId = u)
        | _ => true
    | _ => true

end World

/-- Every way an undisturbed event changes the chains of an account.  The event
presses Done with a picture, stores an object for the account, or commits a URL
to it, as its indices say. -/
inductive ChainStep (place : String) (object : Option (StoredObject K))
    (view : Multiset (PictureStage K)) :
    Option K.Data → Option (StoredObject K) → Option URL → Multiset (PictureStage K) → Prop
  | idle : ChainStep place object view none none none view
  | pressed {imageData : K.Data} :
      ChainStep place object view (some imageData) none none ({.uploading imageData} + view)
  | uploaded {fresh : StoredObject K} {rest : Multiset (PictureStage K)} :
      view = {.uploading fresh.data} + rest →
      ChainStep place object view none (some fresh) none ({.uploaded} + rest)
  | locate {rest : Multiset (PictureStage K)} :
      view = {.uploaded} + rest → ChainStep place object view none none none ({.locating} + rest)
  | located {held : StoredObject K} {rest : Multiset (PictureStage K)} :
      view = {.locating} + rest → object = some held →
      ChainStep place object view none none none
        ({.located { path := place, version := held.version }} + rest)
  | commit {url : URL} {rest : Multiset (PictureStage K)} :
      view = {.located url} + rest →
      ChainStep place object view none none none ({.committing url} + rest)
  | committed {url : URL} {rest : Multiset (PictureStage K)} :
      view = {.committing url} + rest → ChainStep place object view none none (some url) rest

/-! ### Every undisturbed event is in the list -/

section Chains

variable {before : World K} {event : Event K} {u : UID}

private theorem noSave_of_ends (ends : before.endsProcess event = true) :
    before.save? event = none := by
  cases event <;> first | rfl | cases ends

private theorem nothing_of_noEffect (noEffect : before.effect? event = none) :
    before.uploaded? u event = none ∧ before.committed? u event = none := by
  unfold World.uploaded? World.committed?
  rw [noEffect]
  exact ⟨rfl, rfl⟩

private theorem nothing_of_unmarked {request : Request K} (effect : before.effect? event = some request)
    (unmarked : (chains u).request request = none) :
    before.uploaded? u event = none ∧ before.committed? u event = none := by
  unfold World.uploaded? World.committed?
  rw [effect]
  cases request with
  | putData reference imageData caller =>
      cases caller with
      | post documentID screen => exact ⟨rfl, rfl⟩
      | profilePicture userId editor =>
          simp only [chains, ite_eq_right_iff, reduceCtorEq, imp_false] at unmarked
          exact ⟨if_neg unmarked, rfl⟩
  | commitChanges uid url editor captured =>
      simp only [chains, ite_eq_right_iff, reduceCtorEq, imp_false] at unmarked
      exact ⟨rfl, if_neg unmarked⟩
  | _ => exact ⟨rfl, rfl⟩

private theorem chains_handled {request : Request K} {answer : Answer} {block : Block K}
    (handled : handlerBlock request answer = some block) :
    (chains u).response request answer = none := by
  cases queues_of_handlerBlock handled <;> rfl

private theorem chains_ignored {request : Request K} {answer : Answer}
    (ignored : request.ignores answer = true) : (chains u).response request answer = none := by
  cases request with
  | putData reference imageData caller =>
      cases answer with
      | done => cases ignored
      | _ => cases caller <;> rfl
  | downloadURL reference caller =>
      cases answer with
      | url url => cases ignored
      | _ => cases caller <;> rfl
  | _ => rfl

private theorem chains_error (request : Request K) (message : String) :
    (chains u).response request (.error message) = none := by
  cases request with
  | putData reference imageData caller => cases caller <;> rfl
  | downloadURL reference caller => cases caller <;> rfl
  | _ => rfl

theorem marks_of_settled (settled : before.pictureOutstanding u = false) :
    before.work.marks (chains u) = 0 := by
  simp only [World.pictureOutstanding, Bool.or_eq_false_iff, List.any_eq_false,
    Option.isSome_iff_ne_none, not_not] at settled
  obtain ⟨⟨requests, orphans⟩, responses⟩ := settled
  rw [Multiset.eq_zero_iff_forall_notMem]
  intro stage member
  rcases (Work.mem_marks _ _).mp member with
    ⟨request, sent, marked⟩ | ⟨request, sent, marked⟩ | ⟨response, sent, marked⟩ | ⟨_, _, marked⟩
  · rw [requests request sent] at marked
    cases marked
  · rw [orphans request sent] at marked
    cases marked
  · rw [responses response sent] at marked
    cases marked
  · cases marked

private theorem idle_of_same {place : String} {object : Option (StoredObject K)}
    {view after : Multiset (PictureStage K)} (noPress : before.pressed? u event = none)
    (noEffect : before.uploaded? u event = none ∧ before.committed? u event = none)
    (same : after = view) :
    ChainStep place object view (before.pressed? u event) (before.uploaded? u event)
      (before.committed? u event) after := by
  rw [noPress, noEffect.1, noEffect.2, same]
  exact .idle

private theorem noPress_of_noSave (noSave : before.save? event = none) :
    before.pressed? u event = none := by
  unfold World.pressed?
  rw [noSave]
  rfl

private theorem chainStep_saved {place : String} {object : Option (StoredObject K)} {save : Save K}
    (started : before.save? event = some save) (quiet : event.isDelivery = false) :
    ChainStep place object (before.work.marks (chains u)) (before.pressed? u event)
      (before.uploaded? u event) (before.committed? u event)
      ((before.work.save save).marks (chains u)) := by
  obtain ⟨noUpload, noCommit⟩ := nothing_of_noEffect (u := u) (effect_of_noDelivery quiet)
  have isPress : before.pressed? u event = if save.user = u then save.picture else none := by
    unfold World.pressed?
    rw [started]
    rfl
  rw [noUpload, noCommit, isPress]
  unfold Work.save
  rw [Work.marks_send]
  change ChainStep _ _ _ _ _ _ (one none + _)
  rw [one_none, zero_add]
  cases pictured : save.picture with
  | none =>
      rw [ite_self]
      exact .idle
  | some imageData =>
      dsimp only
      rw [Work.marks_send]
      change ChainStep _ _ _ _ _ _ (one (if save.user = u then _ else none) + _)
      by_cases own : save.user = u
      · rw [if_pos own, if_pos own]
        exact .pressed
      · rw [if_neg own, if_neg own, one_none, zero_add]
        exact .idle

private theorem chainStep_served {index : Nat} {outcome : Outcome} {request : Request K}
    {firebase : Firebase K} {answer : Answer}
    (found : before.requests[index]? = some request)
    (performed : Performed before.firebase before.localUser request outcome firebase answer)
    (calm : before.undisturbed u (.serve index outcome) = true)
    (place : ∀ reference editor,
      before.Pending (.downloadURL reference (.profilePicture u editor)) →
      reference = profilePhotoPath u) :
    ChainStep (profilePhotoPath u) (before.firebase.storage (profilePhotoPath u))
      (before.work.marks (chains u)) (before.pressed? u (.serve index outcome))
      (before.uploaded? u (.serve index outcome)) (before.committed? u (.serve index outcome))
      ((before.work.serve index request firebase answer).marks (chains u)) := by
  obtain ⟨rest, marksBefore, marksAfter⟩ :=
    Work.marks_serve (chains u) before.work found firebase answer
  rw [marksBefore, marksAfter]
  have effect {newUID : UID} (success : outcome = .success newUID) :
      before.effect? (.serve index outcome) = some request := by
    rw [success]
    exact found
  have unmarked (noMark : (chains u).request request = none)
      (noAnswer : (chains u).response request answer = none)
      (noEffect : before.uploaded? u (.serve index outcome) = none ∧
        before.committed? u (.serve index outcome) = none) :
      ChainStep (profilePhotoPath u) (before.firebase.storage (profilePhotoPath u))
        (one ((chains u).request request) + rest) (before.pressed? u (.serve index outcome))
        (before.uploaded? u (.serve index outcome)) (before.committed? u (.serve index outcome))
        (one ((chains u).response request answer) + rest) :=
    idle_of_same rfl noEffect (by rw [noMark, noAnswer])
  cases performed with
  | @refused _ message =>
      simp only [World.undisturbed, found, Bool.and_eq_true, Option.isNone_iff_eq_none] at calm
      exact unmarked calm.2 (chains_error request message) (nothing_of_noEffect rfl)
  | @unconfirmed _ newUID message _ _ loses carriedOut =>
      simp only [World.undisturbed, found, Bool.and_eq_true, Option.isNone_iff_eq_none] at calm
      have lost : before.effect? (.serve index (.unconfirmed newUID message)) =
          some request := found
      exact unmarked calm.2 (chains_error request message) (nothing_of_unmarked lost calm.2)
  | @putData reference newUID imageData caller =>
      cases caller with
      | post documentID screen => exact unmarked rfl rfl (nothing_of_unmarked (effect rfl) rfl)
      | profilePicture userId editor =>
          by_cases own : userId = u
          · have stores : before.uploaded? u (.serve index (.success newUID)) =
                some { data := imageData, version := before.firebase.nextVersion } := by
              simp only [World.uploaded?, effect rfl, own, if_true]
            have commits : before.committed? u (.serve index (.success newUID)) = none := by
              simp only [World.committed?, effect rfl]
            rw [stores, commits]
            simp only [chains, own, if_true, one_some]
            exact .uploaded rfl
          · have noMark : (chains u).request
                (.putData reference imageData (.profilePicture userId editor)) = none := if_neg own
            exact unmarked noMark (if_neg own) (nothing_of_unmarked (effect rfl) noMark)
  | @downloadURL reference newUID caller object stored =>
      cases caller with
      | post documentID screen => exact unmarked rfl rfl (nothing_of_unmarked (effect rfl) rfl)
      | profilePicture userId editor =>
          have noEffect : before.uploaded? u (.serve index (.success newUID)) = none ∧
              before.committed? u (.serve index (.success newUID)) = none := by
            simp only [World.uploaded?, World.committed?, effect rfl, and_self]
          by_cases own : userId = u
          · subst own
            have isPlace := place reference editor (.inl (List.mem_of_getElem? found))
            subst isPlace
            rw [noEffect.1, noEffect.2]
            simp only [chains, if_true, one_some]
            exact .located rfl stored
          · exact unmarked (if_neg own) (if_neg own) noEffect
  | @commitChanges uid newUID url editor captured =>
      by_cases own : uid = u
      · have stores : before.uploaded? u (.serve index (.success newUID)) = none := by
          simp only [World.uploaded?, effect rfl]
        have commits : before.committed? u (.serve index (.success newUID)) = some url := by
          simp only [World.committed?, effect rfl, own, if_true]
        rw [stores, commits]
        simp only [chains, own, if_true, one_some, one_none, zero_add]
        exact .committed rfl
      · have noMark : (chains u).request
            (.commitChanges uid url editor captured : Request K) = none := if_neg own
        exact unmarked noMark rfl (nothing_of_unmarked (effect rfl) noMark)
  | _ => exact unmarked rfl rfl (nothing_of_unmarked (effect rfl) rfl)

private theorem chainStep_called {index : Nat} {request : Request K} {answer : Answer}
    {after : Work K} {place : String} {object : Option (StoredObject K)}
    (found : before.responses[index]? = some (request, answer))
    (answered : Answered { before with responses := before.responses.eraseIdx index }
      request answer after)
    (calm : before.undisturbed u (.callback index) = true) :
    ChainStep place object (before.work.marks (chains u)) (before.pressed? u (.callback index))
      (before.uploaded? u (.callback index)) (before.committed? u (.callback index))
      (after.marks (chains u)) := by
  have marks := Work.marks_takeResponse (chains u) before.work found
  have idle {work : Work K} (same : work.marks (chains u) = before.work.marks (chains u)) :
      ChainStep place object (before.work.marks (chains u)) (before.pressed? u (.callback index))
        (before.uploaded? u (.callback index)) (before.committed? u (.callback index))
        (work.marks (chains u)) := idle_of_same rfl (nothing_of_noEffect rfl) same
  have taken (noMark : (chains u).response request answer = none) :
      Work.marks (chains u) { before.work with responses := before.responses.eraseIdx index } =
        before.work.marks (chains u) :=
    Work.marks_takeResponse_unmarked (chains u) before.work found noMark
  have sent {next : Request K} (noMark : (chains u).response request answer = none)
      (noNext : (chains u).request next = none) :
      Work.marks (chains u) (Work.send
        { before.work with responses := before.responses.eraseIdx index } next) =
        before.work.marks (chains u) :=
    (Work.marks_send_unmarked (chains u) _ noNext).trans (taken noMark)
  cases answered with
  | ignored ignored => exact idle (taken (chains_ignored ignored))
  | queued handled =>
      exact idle
        (Work.marks_queued (chains u) before.work found (chains_handled handled).symm)
  | uploading _alive _encoded => exact idle (sent rfl rfl)
  | notUploading _cut => exact idle (taken rfl)
  | @locating reference imageData caller =>
      cases caller with
      | post documentID screen => exact idle (sent rfl rfl)
      | profilePicture userId editor =>
          by_cases own : userId = u
          · have quiet : before.uploaded? u (.callback index) = none ∧
                before.committed? u (.callback index) = none := nothing_of_noEffect rfl
            rw [quiet.1, quiet.2, Work.marks_send]
            simp only [chains, own, if_true, one_some] at marks ⊢
            exact .locate marks
          · exact idle (sent (if_neg own) (if_neg own))
  | linking _alive => exact idle (sent rfl rfl)
  | notLinking _gone => exact idle (taken rfl)
  | @committing reference userId user editor url captured signedIn =>
      have current : before.currentUser = some user := signedIn
      simp only [World.undisturbed, found, current, Bool.and_eq_true, decide_eq_true_eq,
        Option.some.injEq] at calm
      by_cases own : userId = u
      · have quiet : before.uploaded? u (.callback index) = none ∧
            before.committed? u (.callback index) = none := nothing_of_noEffect rfl
        rw [quiet.1, quiet.2, Work.marks_send]
        simp only [chains, own, calm.2.mpr own, if_true, one_some] at marks ⊢
        exact .commit marks
      · exact idle (sent (if_neg own) (if_neg (fun same => own (calm.2.mp same))))
  | @notCommitting reference userId editor url signedOut =>
      have current : before.currentUser = none := signedOut
      simp only [World.undisturbed, found, current, Bool.and_eq_true, decide_eq_true_eq,
        reduceCtorEq, false_iff] at calm
      exact idle (taken (if_neg calm.2))

theorem chainStep_of_workStep {after : Work K} (stepped : WorkStep before event after)
    (calm : before.undisturbed u event = true)
    (noOrphan : ∀ request ∈ before.orphans, (chains u).request request = none)
    (place : ∀ reference editor,
      before.Pending (.downloadURL reference (.profilePicture u editor)) →
      reference = profilePhotoPath u) :
    ChainStep (profilePhotoPath u) (before.firebase.storage (profilePhotoPath u))
      (before.work.marks (chains u)) (before.pressed? u event) (before.uploaded? u event)
      (before.committed? u event) (after.marks (chains u)) := by
  have idle {other : Work K} (noSave : before.save? event = none)
      (noEffect : before.effect? event = none)
      (same : other.marks (chains u) = before.work.marks (chains u)) :
      ChainStep (profilePhotoPath u) (before.firebase.storage (profilePhotoPath u))
        (before.work.marks (chains u)) (before.pressed? u event) (before.uploaded? u event)
        (before.committed? u event) (other.marks (chains u)) :=
    idle_of_same (noPress_of_noSave noSave) (nothing_of_noEffect noEffect) same
  have sent {work : Work K} {request : Request K} (noMark : (chains u).request request = none) :
      (work.send request).marks (chains u) = work.marks (chains u) :=
    Work.marks_send_unmarked (chains u) work noMark
  cases stepped with
  | screens quiet => exact idle quiet.noSave (effect_of_noDelivery quiet.noDelivery) rfl
  | ended ends =>
      simp only [World.undisturbed, ends, Bool.true_and, Bool.and_eq_true,
        Bool.not_eq_true'] at calm
      apply idle (noSave_of_ends ends) (noEffect_of_ends ends)
      have nothing := marks_of_settled calm.1
      have fewer := Work.marks_terminate (chains u) before.work
      rw [nothing] at fewer ⊢
      exact Multiset.le_zero.mp fewer
  | asked quiet question =>
      refine idle quiet.noSave (effect_of_noDelivery quiet.noDelivery) (sent ?_)
      rename_i request
      cases request <;> first | rfl | cases question
  | displayed quiet display =>
      exact idle quiet.noSave (effect_of_noDelivery quiet.noDelivery)
        (Work.marks_async_unmarked (chains u) before.work rfl)
  | signedOut => exact idle rfl rfl rfl
  | published _started noSave _fresh _free quiet =>
      exact idle noSave (effect_of_noDelivery quiet) (sent rfl)
  | saved started _noPublication quiet => exact chainStep_saved started quiet
  | served found performed =>
      exact chainStep_served found (performed_of_perform performed) calm place
  | @servedOrphan index outcome request firebase answer found performed =>
      have noMark := noOrphan request (List.mem_of_getElem? found)
      refine idle_of_same rfl ?_
        (Work.marks_serveOrphan_unmarked (chains u) before.work found noMark firebase)
      cases outcome with
      | failure message => exact nothing_of_noEffect rfl
      | success newUID => exact nothing_of_unmarked found noMark
      | unconfirmed newUID message => exact nothing_of_unmarked found noMark
  | called found answered => exact chainStep_called found answered calm
  | @ran block rest _ queued result =>
      have taken : Work.marks (chains u) { before.work with mainQueue := rest } =
          before.work.marks (chains u) :=
        Work.marks_takeBlock_unmarked (chains u) before.work queued rfl
      apply idle rfl rfl
      rw [← taken]
      cases result with
      | creating _present => exact sent rfl
      | notCreating _missing => rfl
      | reset => exact Work.marks_async_unmarked (chains u) _ rfl
      | shown _other => rfl

end Chains

end InstagramProject
