/-
Work under way, seen through a marking.  A marking says which requests,
answers and blocks matter to a property and reduces each to a value.  The
marks of a state form a multiset, and each kind of event moves one mark.  The
second part says where requests, answers and blocks come from.
-/

import InstagramProject.Work
import Mathlib.Tactic.Abel

namespace InstagramProject

open Accounting

variable {K : Platform} {β : Type}

/-- Orphaned requests are marked as the requests they were. -/
structure Marking (K : Platform) (β : Type) where
  request : Request K → Option β
  response : Request K → Answer → Option β
  block : Block K → Option β

namespace Work

def marks (marking : Marking K β) (work : Work K) : Multiset β :=
  tally marking.request work.requests + tally marking.request work.orphans +
    (tally (fun response => marking.response response.1 response.2) work.responses +
      tally marking.block work.mainQueue)

variable (marking : Marking K β) (work : Work K)

theorem marks_send (request : Request K) :
    (work.send request).marks marking =
      one (marking.request request) + work.marks marking := by
  simp only [marks, send, tally_append, tally_singleton]
  abel

theorem marks_async (block : Block K) :
    (work.async block).marks marking = one (marking.block block) + work.marks marking := by
  simp only [marks, async, tally_append, tally_singleton]
  abel

/-- The end of the process loses answers and blocks, and keeps requests. -/
theorem marks_terminate : work.terminate.marks marking ≤ work.marks marking := by
  simp only [marks, terminate, tally_append, tally_nil, zero_add, add_zero]
  rw [add_comm (tally marking.request work.orphans)]
  exact Multiset.le_add_right _ _

theorem marks_terminate_of_noMark
    (noResponse : ∀ response ∈ work.responses, marking.response response.1 response.2 = none)
    (noBlock : ∀ block ∈ work.mainQueue, marking.block block = none) :
    work.terminate.marks marking = work.marks marking := by
  simp only [marks, terminate, tally_append, tally_nil, zero_add, add_zero,
    tally_eq_zero_iff.mpr noResponse, tally_eq_zero_iff.mpr noBlock]
  exact add_comm _ _

theorem mem_marks {mark : β} :
    mark ∈ work.marks marking ↔
      (∃ request ∈ work.requests, marking.request request = some mark) ∨
        (∃ request ∈ work.orphans, marking.request request = some mark) ∨
          (∃ response ∈ work.responses,
            marking.response response.1 response.2 = some mark) ∨
            ∃ block ∈ work.mainQueue, marking.block block = some mark := by
  simp only [marks, Multiset.mem_add, mem_tally, or_assoc]

theorem marks_serve {index : Nat} {request : Request K}
    (found : work.requests[index]? = some request) (firebase : Firebase K) (answer : Answer) :
    ∃ rest, work.marks marking = one (marking.request request) + rest ∧
      (work.serve index request firebase answer).marks marking =
        one (marking.response request answer) + rest := by
  refine ⟨tally marking.request (work.requests.eraseIdx index) +
    tally marking.request work.orphans +
      (tally (fun response => marking.response response.1 response.2) work.responses +
        tally marking.block work.mainQueue), ?_, ?_⟩
  · simp only [marks, tally_take marking.request found]
    abel
  · simp only [marks, serve, tally_append, tally_singleton]
    abel

theorem marks_serveOrphan {index : Nat} {request : Request K}
    (found : work.orphans[index]? = some request) (firebase : Firebase K) :
    work.marks marking =
      one (marking.request request) + (work.serveOrphan index firebase).marks marking := by
  simp only [marks, serveOrphan, tally_take marking.request found]
  abel

theorem marks_takeResponse {index : Nat} {request : Request K} {answer : Answer}
    (found : work.responses[index]? = some (request, answer)) :
    work.marks marking = one (marking.response request answer) +
      marks marking { work with responses := work.responses.eraseIdx index } := by
  simp only [marks, tally_take (fun response => marking.response response.1 response.2) found]
  abel

theorem marks_takeBlock {block : Block K} {rest : List (Block K)}
    (queued : work.mainQueue = block :: rest) :
    work.marks marking = one (marking.block block) +
      marks marking { work with mainQueue := rest } := by
  simp only [marks, queued, tally_cons]
  abel

/-! What carries no mark comes and goes unseen. -/

theorem marks_send_unmarked {request : Request K} (unmarked : marking.request request = none) :
    (work.send request).marks marking = work.marks marking := by
  rw [marks_send, unmarked, one_none, zero_add]

theorem marks_async_unmarked {block : Block K} (unmarked : marking.block block = none) :
    (work.async block).marks marking = work.marks marking := by
  rw [marks_async, unmarked, one_none, zero_add]

theorem marks_serveOrphan_unmarked {index : Nat} {request : Request K}
    (found : work.orphans[index]? = some request) (unmarked : marking.request request = none)
    (firebase : Firebase K) :
    (work.serveOrphan index firebase).marks marking = work.marks marking := by
  rw [marks_serveOrphan marking work found firebase, unmarked, one_none, zero_add]

theorem marks_takeResponse_unmarked {index : Nat} {request : Request K} {answer : Answer}
    (found : work.responses[index]? = some (request, answer))
    (unmarked : marking.response request answer = none) :
    marks marking { work with responses := work.responses.eraseIdx index } =
      work.marks marking := by
  rw [marks_takeResponse marking work found, unmarked, one_none, zero_add]

theorem marks_takeBlock_unmarked {block : Block K} {rest : List (Block K)}
    (queued : work.mainQueue = block :: rest) (unmarked : marking.block block = none) :
    marks marking { work with mainQueue := rest } = work.marks marking := by
  rw [marks_takeBlock marking work queued, unmarked, one_none, zero_add]

theorem marks_save_unmarked {save : Save K}
    (unmarked : ∀ request : Request K, request.isQuestion = false → marking.request request = none) :
    (work.save save).marks marking = work.marks marking := by
  unfold Work.save
  rw [marks_send_unmarked marking _ (unmarked _ rfl)]
  split
  · rfl
  · exact marks_send_unmarked _ _ (unmarked _ rfl)

theorem marks_ran_unmarked {world : World K} {block : Block K} (ran : Ran world block work)
    (unmarked : ∀ request : Request K, request.isQuestion = false → marking.request request = none)
    (unseen : ∀ screen, marking.block (.previewPost screen) = none) :
    work.marks marking = world.work.marks marking := by
  cases ran with
  | creating _isRoot => exact marks_send_unmarked _ _ (unmarked _ rfl)
  | reset => exact marks_async_unmarked _ _ (unseen _)
  | _ => rfl

/-- A handler that only queues a block hands its mark on. -/
theorem marks_queued {index : Nat} {request : Request K} {answer : Answer} {block : Block K}
    (found : work.responses[index]? = some (request, answer))
    (handed : marking.block block = marking.response request answer) :
    (async { work with responses := work.responses.eraseIdx index } block).marks marking =
      work.marks marking := by
  rw [marks_async, handed]
  exact (marks_takeResponse marking work found).symm

end Work

/-! ### Logs of the past -/

theorem log_cons {α : Type} (mark : World K × Event K → Option α) (moment : World K × Event K)
    (past : Past K) :
    (moment :: past).filterMap mark = (mark moment).toList ++ past.filterMap mark := by
  rw [List.filterMap_cons]
  cases mark moment <;> rfl

theorem mem_log {α : Type} {mark : World K × Event K → Option α} {past : Past K}
    {moment : World K × Event K} {value : α} :
    value ∈ (moment :: past).filterMap mark ↔
      mark moment = some value ∨ value ∈ past.filterMap mark := by
  rw [List.filterMap_cons]
  split
  · rename_i unmarked
    rw [unmarked]
    simp only [reduceCtorEq, false_or]
  · rename_i other marked
    rw [marked, List.mem_cons, Option.some.injEq, eq_comm]

/-! ### Origins -/

/-- The request a completion handler sends. -/
inductive Asks (world : World K) : Request K → Answer → Request K → Prop
  | uploading {documentID : String} {fields : Fields} {resizeImage : K.Image}
      {screen : ControllerID} {writer : Option UID} {imageData : K.Data} :
      K.jpegData resizeImage = some imageData →
      Asks world (.setPost documentID fields resizeImage screen writer) .done
        (.putData (postPhotoPath documentID) imageData (.post documentID screen))
  | locating {reference : String} {imageData : K.Data} {caller : UploadCaller} :
      Asks world (.putData reference imageData caller) .done (.downloadURL reference caller)
  | linking {reference documentID : String} {screen : ControllerID} {url : URL} :
      Asks world (.downloadURL reference (.post documentID screen)) (.url url)
        (.updatePost documentID [("photoURL", K.absoluteString url)] screen world.currentUser)
  | committing {reference : String} {userId user : UID} {editor : ControllerID} {url : URL}
      {captured : Bool} :
      world.currentUser = some user →
      Asks world (.downloadURL reference (.profilePicture userId editor)) (.url url)
        (.commitChanges user url editor captured)

/-- The requests an event sends. -/
inductive Issued (before : World K) : Event K → Request K → Prop
  | question {event : Event K} {request : Request K} :
      request.isQuestion = true → Issued before event request
  | post {event : Event K} {publication : Publication K} :
      before.publication? event = some publication →
      Issued before event (.setPost publication.documentID publication.fields publication.image
        publication.screen before.currentUser)
  | picture {event : Event K} {save : Save K} {imageData : K.Data} :
      before.save? event = some save → save.picture = some imageData →
      Issued before event (.putData (profilePhotoPath save.user) imageData
        (.profilePicture save.user save.editor))
  | info {event : Event K} {save : Save K} :
      before.save? event = some save →
      Issued before event (.updateUser save.user save.fields save.editor)
  | called {index : Nat} {request next : Request K} {answer : Answer} :
      before.responses[index]? = some (request, answer) → Asks before request answer next →
      Issued before (.callback index) next
  | ran {login : ControllerID} {uid : UID} {email : String} :
      .createUser login uid (some email) ∈ before.mainQueue →
      Issued before .runBlock
        (.setUser uid [("userEmail", email), ("userId", uid)] login before.currentUser)

/-- A commit is sent by the handler of a download URL, to the account then signed in. -/
theorem Issued.commit {before : World K} {event : Event K} {uid : UID} {url : URL}
    {editor : ControllerID} {captured : Bool}
    (issued : Issued before event (.commitChanges uid url editor captured)) :
    ∃ index reference userId, event = .callback index ∧
      before.responses[index]? =
        some (.downloadURL reference (.profilePicture userId editor), .url url) ∧
      before.currentUser = some uid := by
  generalize sent : Request.commitChanges uid url editor captured = request at issued
  cases issued with
  | question question =>
      rw [← sent] at question
      cases question
  | called found asks =>
      cases asks with
      | committing signedIn =>
          cases sent
          exact ⟨_, _, _, rfl, found, signedIn⟩
      | _ => cases sent
  | _ => cases sent

namespace WorkStep

variable {before : World K} {event : Event K} {after : Work K}

private theorem mem_send {work : Work K} {sent request : Request K}
    (member : request ∈ (work.send sent).requests) :
    request ∈ work.requests ∨ request = sent := by
  simpa only [Work.send, List.mem_append, List.mem_singleton] using member

private theorem answered_requests {world : World K} {request next : Request K} {answer : Answer}
    {work : Work K} (answered : Answered world request answer work)
    (member : next ∈ work.requests) :
    next ∈ world.requests ∨ Asks world request answer next := by
  cases answered with
  | uploading _alive encoded =>
      rcases mem_send member with old | rfl
      · exact .inl old
      · exact .inr (.uploading encoded)
  | locating =>
      rcases mem_send member with old | rfl
      · exact .inl old
      · exact .inr .locating
  | linking _alive =>
      rcases mem_send member with old | rfl
      · exact .inl old
      · exact .inr .linking
  | committing signedIn =>
      rcases mem_send member with old | rfl
      · exact .inl old
      · exact .inr (.committing signedIn)
  | _ => exact .inl member

theorem requests (stepped : WorkStep before event after) {request : Request K}
    (member : request ∈ after.requests) :
    request ∈ before.requests ∨ Issued before event request := by
  cases stepped with
  | ended _ends => cases member
  | asked _idle question =>
      rcases mem_send member with old | rfl
      · exact .inl old
      · exact .inr (.question question)
  | published started _noSave _fresh _free _noDelivery =>
      rcases mem_send member with old | rfl
      · exact .inl old
      · exact .inr (.post started)
  | @saved _ save started _noPublication _noDelivery =>
      rcases mem_send member with earlier | rfl
      · cases pictured : save.picture with
        | none =>
            rw [pictured] at earlier
            exact .inl earlier
        | some imageData =>
            rw [pictured] at earlier
            rcases mem_send earlier with old | rfl
            · exact .inl old
            · exact .inr (.picture started pictured)
      · exact .inr (.info started)
  | served _found _performed => exact .inl (List.mem_of_mem_eraseIdx member)
  | called found answered =>
      rcases answered_requests answered member with old | asks
      · exact .inl old
      · refine .inr (.called found ?_)
        cases asks with
        | uploading encoded => exact .uploading encoded
        | locating => exact .locating
        | linking => exact .linking
        | committing signedIn => exact .committing signedIn
  | @ran block rest _ queued result =>
      cases result with
      | creating _present =>
          rcases mem_send member with old | rfl
          · exact .inl old
          · refine .inr (.ran ?_)
            rw [queued]
            exact List.mem_cons_self
      | _ => exact .inl member
  | _ => exact .inl member

/-- Only the end of the process orphans a request. -/
theorem orphans (stepped : WorkStep before event after) {request : Request K}
    (member : request ∈ after.orphans) :
    request ∈ before.orphans ∨
      before.endsProcess event = true ∧ request ∈ before.requests := by
  cases stepped with
  | ended ends =>
      rcases List.mem_append.mp member with old | sent
      · exact .inl old
      · exact .inr ⟨ends, sent⟩
  | saved _started _noPublication _noDelivery =>
      rw [Work.save_orphans] at member
      exact .inl member
  | servedOrphan _found _performed => exact .inl (List.mem_of_mem_eraseIdx member)
  | called _found answered => cases answered <;> exact .inl member
  | ran _queued result => cases result <;> exact .inl member
  | _ => exact .inl member

theorem responses (stepped : WorkStep before event after) {request : Request K}
    {answer : Answer} (member : (request, answer) ∈ after.responses) :
    (request, answer) ∈ before.responses ∨
      ∃ index outcome, event = .serve index outcome ∧
        before.requests[index]? = some request ∧
        before.firebase.perform before.localUser request outcome =
          some (after.firebase, answer) := by
  cases stepped with
  | ended _ends => cases member
  | saved _started _noPublication _noDelivery =>
      rw [Work.save_responses] at member
      exact .inl member
  | served found performed =>
      rcases List.mem_append.mp member with old | fresh
      · exact .inl old
      · cases List.mem_singleton.mp fresh
        exact .inr ⟨_, _, rfl, found, performed⟩
  | called _found answered =>
      cases answered <;> exact .inl (List.mem_of_mem_eraseIdx member)
  | ran _queued result => cases result <;> exact .inl member
  | _ => exact .inl member

theorem mainQueue (stepped : WorkStep before event after) {block : Block K}
    (member : block ∈ after.mainQueue) :
    block ∈ before.mainQueue ∨ block.isDisplay = true ∨
      ∃ request answer, (request, answer) ∈ before.responses ∧
        handlerBlock request answer = some block := by
  cases stepped with
  | ended _ends => cases member
  | displayed _idle display =>
      rcases List.mem_append.mp member with old | fresh
      · exact .inl old
      · cases List.mem_singleton.mp fresh
        exact .inr (.inl display)
  | saved _started _noPublication _noDelivery =>
      rw [Work.save_mainQueue] at member
      exact .inl member
  | called found answered =>
      cases answered with
      | queued handled =>
          rcases List.mem_append.mp member with old | fresh
          · exact .inl old
          · cases List.mem_singleton.mp fresh
            exact .inr (.inr ⟨_, _, List.mem_of_getElem? found, handled⟩)
      | _ => exact .inl member
  | @ran block rest _ queued result =>
      rw [queued]
      cases result with
      | reset =>
          rcases List.mem_append.mp member with old | fresh
          · exact .inl (List.mem_cons_of_mem _ old)
          · cases List.mem_singleton.mp fresh
            exact .inr (.inl rfl)
      | _ => exact .inl (List.mem_cons_of_mem _ member)
  | _ => exact .inl member

/-! What is under way stays so until it is served, handled or run. -/

private theorem mem_eraseIdx_or {α : Type} {item : α} {items : List α} (member : item ∈ items)
    (index : Nat) : item ∈ items.eraseIdx index ∨ items[index]? = some item := by
  obtain ⟨place, found⟩ := List.mem_iff_getElem?.mp member
  by_cases same : place = index
  · rw [← same]
    exact .inr found
  · exact .inl (List.mem_eraseIdx_iff_getElem?.mpr ⟨place, same, found⟩)

private theorem mem_send_of_mem {work : Work K} {sent request : Request K}
    (member : request ∈ work.requests) : request ∈ (work.send sent).requests :=
  List.mem_append_left _ member

theorem request_stays (stepped : WorkStep before event after) {request : Request K}
    (member : request ∈ before.requests) :
    request ∈ after.requests ∨ before.endsProcess event = true ∨
      ∃ index outcome answer, event = .serve index outcome ∧
        before.requests[index]? = some request ∧
        before.firebase.perform before.localUser request outcome = some (after.firebase, answer) ∧
        (request, answer) ∈ after.responses := by
  cases stepped with
  | ended ends => exact .inr (.inl ends)
  | asked _idle _question => exact .inl (mem_send_of_mem member)
  | published _started _noSave _fresh _free _noDelivery => exact .inl (mem_send_of_mem member)
  | saved _started _noPublication _noDelivery =>
      left
      apply mem_send_of_mem
      split
      · exact member
      · exact mem_send_of_mem member
  | @served index outcome other firebase answer found performed =>
      rcases mem_eraseIdx_or member index with stays | taken
      · exact .inl stays
      · cases found.symm.trans taken
        refine .inr (.inr ⟨index, outcome, answer, rfl, found, performed, ?_⟩)
        exact List.mem_append_right _ (List.mem_singleton_self _)
  | called _found answered =>
      cases answered with
      | uploading _alive _encoded => exact .inl (mem_send_of_mem member)
      | locating => exact .inl (mem_send_of_mem member)
      | linking _alive => exact .inl (mem_send_of_mem member)
      | committing _signedIn => exact .inl (mem_send_of_mem member)
      | _ => exact .inl member
  | ran _queued result =>
      cases result with
      | creating _isRoot => exact .inl (mem_send_of_mem member)
      | _ => exact .inl member
  | _ => exact .inl member

theorem response_stays (stepped : WorkStep before event after) {request : Request K}
    {answer : Answer} (member : (request, answer) ∈ before.responses) :
    (request, answer) ∈ after.responses ∨ before.endsProcess event = true ∨
      ∃ index, event = .callback index ∧ before.responses[index]? = some (request, answer) ∧
        Answered { before with responses := before.responses.eraseIdx index } request answer
          after := by
  cases stepped with
  | ended ends => exact .inr (.inl ends)
  | saved _started _noPublication _noDelivery =>
      left
      rw [Work.save_responses]
      exact member
  | served _found _performed => exact .inl (List.mem_append_left _ member)
  | @called index other reply work found answered =>
      rcases mem_eraseIdx_or member index with stays | taken
      · left
        cases answered <;> exact stays
      · cases found.symm.trans taken
        exact .inr (.inr ⟨index, rfl, found, answered⟩)
  | ran _queued result =>
      left
      cases result <;> exact member
  | _ => exact .inl member

theorem block_stays (stepped : WorkStep before event after) {block : Block K}
    (member : block ∈ before.mainQueue) :
    block ∈ after.mainQueue ∨ before.endsProcess event = true ∨
      ∃ rest, event = .runBlock ∧ before.mainQueue = block :: rest ∧
        Ran { before with mainQueue := rest } block after := by
  cases stepped with
  | ended ends => exact .inr (.inl ends)
  | displayed _idle _display => exact .inl (List.mem_append_left _ member)
  | saved _started _noPublication _noDelivery =>
      left
      rw [Work.save_mainQueue]
      exact member
  | called _found answered =>
      left
      cases answered with
      | queued _handled => exact List.mem_append_left _ member
      | _ => exact member
  | @ran head rest work queued result =>
      rw [queued] at member
      rcases List.mem_cons.mp member with same | waits
      · subst same
        exact .inr (.inr ⟨rest, rfl, queued, result⟩)
      · left
        cases result with
        | reset => exact List.mem_append_left _ waits
        | _ => exact waits
  | _ => exact .inl member

/-- The session changes when somebody signs out, and when a sign-up or sign-in is
served. -/
theorem currentUser (stepped : WorkStep before event after) :
    after.currentUser = before.currentUser ∨
      event = .signOutButtonPressed none ∧ after.currentUser = none ∨
      ∃ index outcome request uid email, event = .serve index outcome ∧
        before.requests[index]? = some request ∧
        before.firebase.perform before.localUser request outcome =
          some (after.firebase, .account uid email) ∧
        after.currentUser = some uid ∧ (request, .account uid email) ∈ after.responses := by
  cases stepped with
  | signedOut => exact .inr (.inl ⟨rfl, rfl⟩)
  | saved _started _noPublication _noDelivery => exact .inl (Work.save_currentUser _ _)
  | @served index outcome request firebase answer found performed =>
      cases answer with
      | account uid email =>
          refine .inr (.inr ⟨index, outcome, request, uid, email, rfl, found, performed, rfl, ?_⟩)
          exact List.mem_append_right _ (List.mem_singleton_self _)
      | _ => exact .inl rfl
  | called _found answered =>
      left
      cases answered <;> rfl
  | ran _queued result =>
      left
      cases result <;> rfl
  | _ => exact .inl rfl

end WorkStep

theorem currentUser_of_serve {before after : World K} {index : Nat} {outcome : Outcome}
    (stepped : step before (.serve index outcome) = some after) {request : Request K}
    {firebase : Firebase K} {uid : UID} {email : Option String}
    (found : before.requests[index]? = some request)
    (performed : before.firebase.perform before.localUser request outcome =
      some (firebase, .account uid email)) :
    after.currentUser = some uid := by
  simp only [step, World.serve, found, performed, Option.map_some, Option.some.injEq] at stepped
  rw [← stepped]

/-- A handler that queues a block does nothing else. -/
theorem answered_handlerBlock {world : World K} {request : Request K} {answer : Answer}
    {work : Work K} {block : Block K} (answered : Answered world request answer work)
    (isBlock : handlerBlock request answer = some block) : work = world.work.async block := by
  cases answered with
  | queued handled =>
      cases handled.symm.trans isBlock
      rfl
  | ignored ignores =>
      have noBlock : (handlerBlock request answer).isNone = true := by
        unfold Request.ignores at ignores
        split at ignores
        · cases ignores
        · cases ignores
        · cases ignores
        · exact ignores
      rw [isBlock] at noBlock
      cases noBlock
  | _ => cases isBlock

/-- A request that may still take effect or whose answer is on its way. -/
def World.Pending (world : World K) (request : Request K) : Prop :=
  request ∈ world.requests ∨ request ∈ world.orphans ∨
    ∃ answer, (request, answer) ∈ world.responses

theorem effect_of_noDelivery {world : World K} {event : Event K}
    (quiet : event.isDelivery = false) : world.effect? event = none := by
  cases event <;> first | rfl | cases quiet

theorem noEffect_of_ends {world : World K} {event : Event K}
    (ends : world.endsProcess event = true) : world.effect? event = none := by
  cases event <;> first | rfl | cases ends

/-- A request that takes effect was under way. -/
theorem underway_of_effect {world : World K} {event : Event K} {request : Request K}
    (effect : world.effect? event = some request) :
    request ∈ world.requests ∨ request ∈ world.orphans := by
  unfold World.effect? at effect
  split at effect
  · exact .inl (List.mem_of_getElem? effect)
  · exact .inl (List.mem_of_getElem? effect)
  · exact .inr (List.mem_of_getElem? effect)
  · exact .inr (List.mem_of_getElem? effect)
  · cases effect

theorem pending_of_effect {world : World K} {event : Event K} {request : Request K}
    (effect : world.effect? event = some request) : world.Pending request :=
  (underway_of_effect effect).imp_right .inl

theorem mark_of_effect {β : Type} (marking : Marking K β) {world : World K} {event : Event K}
    {request : Request K} {mark : β} (effect : world.effect? event = some request)
    (marked : marking.request request = some mark) : mark ∈ world.work.marks marking := by
  rw [Work.mem_marks]
  rcases underway_of_effect effect with sent | orphaned
  · exact .inl ⟨request, sent, marked⟩
  · exact .inr (.inl ⟨request, orphaned, marked⟩)

private theorem firebase_same {before : World K} {event : Event K} {after : Work K}
    (stepped : WorkStep before event after) (quiet : ∀ index outcome,
      event ≠ .serve index outcome ∧ event ≠ .serveOrphan index outcome) :
    after.firebase = before.firebase := by
  cases stepped with
  | saved _started _noPublication _noDelivery => exact Work.save_firebase _ _
  | served _found _performed => exact absurd rfl (quiet _ _).1
  | servedOrphan _found _performed => exact absurd rfl (quiet _ _).2
  | called _found answered => cases answered <;> rfl
  | ran _queued result => cases result <;> rfl
  | _ => rfl

/-- The stored data changes only by a request taking effect. -/
theorem firebase_step {before after : World K} {event : Event K}
    (stepped : step before event = some after) :
    before.effect? event = none ∧ after.firebase = before.firebase ∨
      ∃ request newUID answer, before.effect? event = some request ∧
        Performed before.firebase before.localUser request (.success newUID) after.firebase
          answer := by
  have performed {request : Request K} {outcome : Outcome} {answer : Answer}
      (effect : ∀ newUID, outcome = .success newUID → before.effect? event = some request)
      (lost : ∀ newUID message, outcome = .unconfirmed newUID message →
        before.effect? event = some request)
      (failed : ∀ message, outcome = .failure message → before.effect? event = none)
      (result : before.firebase.perform before.localUser request outcome =
        some (after.firebase, answer)) :
      before.effect? event = none ∧ after.firebase = before.firebase ∨
        ∃ request newUID answer, before.effect? event = some request ∧
          Performed before.firebase before.localUser request (.success newUID) after.firebase
            answer := by
    cases outcome with
    | failure message =>
        exact .inl ⟨failed message rfl, (Prod.mk.inj (Option.some.inj result)).1.symm⟩
    | success newUID =>
        exact .inr ⟨request, newUID, answer, effect newUID rfl, performed_of_perform result⟩
    | unconfirmed newUID message =>
        cases performed_of_perform result with
        | unconfirmed _loses performed =>
            exact .inr ⟨request, newUID, _, lost newUID message rfl, performed⟩
  cases acts_of_step stepped with
  | served found result =>
      refine performed ?_ ?_ ?_ result
      · rintro newUID rfl
        exact found
      · rintro newUID message rfl
        exact found
      · rintro message rfl
        rfl
  | servedOrphan found result =>
      refine performed ?_ ?_ ?_ result
      · rintro newUID rfl
        exact found
      · rintro newUID message rfl
        exact found
      · rintro message rfl
        rfl
  | _ => exact .inl ⟨rfl, firebase_same (workStep_of_step stepped) (fun _ _ => ⟨nofun, nofun⟩)⟩

/-- Every pending request was sent by some earlier event. -/
theorem issued_of_pending {past : Past K} {world : World K} (ran : AppRun past world)
    {request : Request K} (pending : world.Pending request) :
    ∃ moment ∈ past, Issued moment.1 moment.2 request := by
  refine ran.invariant (fun past world => ∀ request, world.Pending request →
    ∃ moment ∈ past, Issued moment.1 moment.2 request) ?_ ?_ request pending
  · rintro request (live | orphaned | ⟨answer, answered⟩)
    · cases live
    · cases orphaned
    · cases answered
  · intro past before event after _earlier remembered stepped request pending
    have later {old : Request K} (held : before.Pending old) :
        ∃ moment ∈ (before, event) :: past, Issued moment.1 moment.2 old := by
      obtain ⟨moment, member, issued⟩ := remembered old held
      exact ⟨moment, List.mem_cons_of_mem _ member, issued⟩
    have worked := workStep_of_step stepped
    rcases pending with live | orphaned | ⟨answer, answered⟩
    · rcases worked.requests live with old | issued
      · exact later (.inl old)
      · exact ⟨(before, event), List.mem_cons_self, issued⟩
    · rcases worked.orphans orphaned with old | ⟨_ends, old⟩
      · exact later (.inr (.inl old))
      · exact later (.inl old)
    · rcases worked.responses answered with old | ⟨index, outcome, _served, found, _performed⟩
      · exact later (.inr (.inr ⟨answer, old⟩))
      · exact later (.inl (List.mem_of_getElem? found))

end InstagramProject
