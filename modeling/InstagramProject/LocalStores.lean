/-
The Firestore client's store beside the app.  A store mirrors the app when its
queues hold the app's writes, account by account, and its cache holds what the
backend has stored.  While the writes are answered in order, the client's own
operations keep its store a mirror of the app, and a fetch is answered with what
the store shows.
-/

import InstagramProject.EditSessions
import InstagramProject.Firestore.LocalQueries
import Mathlib.Logic.Relation

namespace InstagramProject

open Firestore (DocumentKey LocalStore MaybeDocumentMap Mutation MutationBatch
  MutationBatchResult Query dataOf dataOverlay isImmediateParentOf mutationsOf visible)
open Transition

variable {K : Platform}

/-! ### Documents and writes by key -/

namespace Firebase

def stored (firebase : Firebase K) : DocumentKey → Option Document
  | ["users", uid] => firebase.users uid
  | ["posts", documentID] => firebase.posts documentID
  | _ => none

theorem stored_users (firebase : Firebase K) (uid : UID) (data : Option Document)
    (key : DocumentKey) :
    ({ firebase with users := Function.update firebase.users uid data } : Firebase K).stored key =
      if userKey uid = key then data else firebase.stored key := by
  split
  · rename_i isKey
    subst isKey
    exact Function.update_self _ _ _
  · rename_i other
    unfold stored
    split
    · rename_i u
      refine Function.update_of_ne ?_ _ _
      rintro rfl
      exact other rfl
    · rfl
    · rfl

theorem stored_posts (firebase : Firebase K) (documentID : String) (data : Option Document)
    (key : DocumentKey) :
    ({ firebase with
        posts := Function.update firebase.posts documentID data } : Firebase K).stored key =
      if postKey documentID = key then data else firebase.stored key := by
  split
  · rename_i isKey
    subst isKey
    exact Function.update_self _ _ _
  · rename_i other
    unfold stored
    split
    · rfl
    · rename_i d
      refine Function.update_of_ne ?_ _ _
      rintro rfl
      exact other rfl
    · rfl

end Firebase

namespace Request

theorem writer_of_mutation {request : Request K} {write : Mutation fieldValues}
    (isWrite : request.mutation? = some write) : ∃ writer, request.writer? = some writer := by
  cases request <;> first | exact ⟨_, rfl⟩ | cases isWrite

theorem mutation_of_writer {request : Request K} {writer : Option UID}
    (isWriter : request.writer? = some writer) : ∃ write, request.mutation? = some write := by
  cases request <;> first | exact ⟨_, rfl⟩ | cases isWriter

/-- Firestore sends a write until it is answered. -/
theorem keepsAnswer {request : Request K} {write : Mutation fieldValues}
    (isWrite : request.mutation? = some write) : request.losesAnswer = false := by
  cases request <;> first | rfl | cases isWrite

theorem issued_mutation {request : Request K} {write : Mutation fieldValues}
    (isWrite : request.mutation? = some write) : write.Issued := by
  cases request with
  | setUser uid fields login writer =>
      cases isWrite
      rfl
  | updateUser uid fields editor =>
      cases isWrite
      exact .inr rfl
  | setPost documentID fields resizeImage screen writer =>
      cases isWrite
      rfl
  | updatePost documentID fields screen writer =>
      cases isWrite
      exact .inr rfl
  | _ => cases isWrite

end Request

private theorem overlaid {V : Firestore.Values} (write : Mutation V) (key : DocumentKey)
    (data : Option V.ObjectValue) :
    dataOverlay ([write].filter (fun write => write.key = key)) data =
      if write.key = key then write.dataEffect data else data := by
  rw [List.filter_cons]
  by_cases isKey : write.key = key
  · rw [if_pos isKey, if_pos (decide_eq_true isKey)]
    rfl
  · rw [if_neg isKey, if_neg (by rw [decide_eq_true_iff]; exact isKey)]
    rfl

/-- A request takes effect on the documents as its mutation, if it is a write. -/
theorem Performed.stored {firebase after : Firebase K} {localUser : UID → Option Document}
    {request : Request K} {newUID : UID} {answer : Answer}
    (performed : Performed firebase localUser request (.success newUID) after answer)
    (key : DocumentKey) :
    after.stored key =
      @dataOverlay fieldValues (request.mutation?.toList.filter (fun write => write.key = key))
        (firebase.stored key) := by
  cases performed with
  | setUser =>
      refine Eq.trans (Firebase.stored_users _ _ _ _) (Eq.symm ?_)
      exact @overlaid fieldValues _ key _
  | updateUser found =>
      refine Eq.trans (Firebase.stored_users _ _ _ _) (Eq.symm ?_)
      refine Eq.trans (@overlaid fieldValues _ key _) ?_
      refine if_ctx_congr Iff.rfl ?_ (fun _ => rfl)
      rintro rfl
      change (firebase.users _).map _ = _
      rw [found]
      rfl
  | setPost =>
      refine Eq.trans (Firebase.stored_posts _ _ _ _) (Eq.symm ?_)
      exact @overlaid fieldValues _ key _
  | updatePost found =>
      refine Eq.trans (Firebase.stored_posts _ _ _ _) (Eq.symm ?_)
      refine Eq.trans (@overlaid fieldValues _ key _) ?_
      refine if_ctx_congr Iff.rfl ?_ (fun _ => rfl)
      rintro rfl
      change (firebase.posts _).map _ = _
      rw [found]
      rfl
  | _ => rfl

/-! ### The mirror -/

namespace Work

/-- The writes in the queue of an account, those of ended processes first. -/
def writesOf (work : Work K) (user : Option UID) : List (Mutation fieldValues) :=
  ((work.orphans ++ work.requests).filter (fun request =>
    request.writer? = some user)).filterMap Request.mutation?

theorem writesOf_send (work : Work K) (request : Request K) (user : Option UID) :
    (work.send request).writesOf user =
      work.writesOf user ++
        if request.writer? = some user then request.mutation?.toList else [] := by
  unfold writesOf send
  dsimp only
  rw [← List.append_assoc, List.filter_append, List.filterMap_append, List.filter_cons]
  congr 1
  by_cases isWriter : request.writer? = some user
  · rw [if_pos isWriter, if_pos (decide_eq_true isWriter)]
    exact List.filterMap_cons
  · rw [if_neg isWriter, if_neg (by rw [decide_eq_true_iff]; exact isWriter)]
    rfl

theorem issued_writesOf {work : Work K} {user : Option UID} {write : Mutation fieldValues}
    (member : write ∈ work.writesOf user) : write.Issued := by
  obtain ⟨request, _queued, isWrite⟩ := List.mem_filterMap.mp member
  exact Request.issued_mutation isWrite

end Work

/-- The store's queues hold the writes under way, and its cache what is stored. -/
structure Mirrors (work : Work K) (store : LocalStore fieldValues) : Prop where
  sound : store.Sound
  user : store.user = work.currentUser
  queues : ∀ user, (store.mutationQueues user).queue.map MutationBatch.mutations =
    (work.writesOf user).map (fun write => [write])
  cached : ∀ key, dataOf (visible (store.remoteDocument key)) = work.firebase.stored key

namespace Mirrors

section Reading

variable {work : Work K} {store : LocalStore fieldValues}

theorem queue (mirrors : Mirrors work store) :
    store.mutationQueue.queue.map MutationBatch.mutations =
      (work.writesOf work.currentUser).map (fun write => [write]) := by
  rw [← mirrors.user]
  exact mirrors.queues store.user

theorem mutationsOf (mirrors : Mirrors work store) (key : DocumentKey) :
    mutationsOf key store.mutationQueue.queue =
      (work.writesOf work.currentUser).filter (fun write => write.key = key) := by
  have flattened (batches : List (MutationBatch fieldValues)) :
      Firestore.mutationsOf key batches = (batches.map MutationBatch.mutations).flatMap
        (fun writes => writes.filter (fun write => write.key = key)) := by
    rw [List.flatMap_map]
    rfl
  rw [flattened, mirrors.queue, ← List.filter_flatMap, List.flatMap_map, List.flatMap_singleton']

theorem issued (mirrors : Mirrors work store) : store.IssuedWrites := by
  intro batch queued write within
  have isBatch := List.mem_map_of_mem (f := MutationBatch.mutations) queued
  rw [mirrors.queue] at isBatch
  obtain ⟨single, member, same⟩ := List.mem_map.mp isBatch
  rw [← same, List.mem_singleton] at within
  subst within
  exact Work.issued_writesOf member

end Reading

end Mirrors

namespace World

/-- A document as the device shows it. -/
def localDocument (world : World K) (key : DocumentKey) : Option Document :=
  @dataOverlay fieldValues
    ((world.queuedWrites.filterMap Request.mutation?).filter (fun write => write.key = key))
    (world.firebase.stored key)

end World

section Reading

variable {world : World K} {store : LocalStore fieldValues}

theorem Mirrors.seen (mirrors : Mirrors world.work store) (key : DocumentKey) :
    dataOf (store.seen key) = world.localDocument key := by
  rw [LocalStore.seen, Firestore.dataOf_overlay (mirrors.issued.mutationsOf key),
    mirrors.mutationsOf, mirrors.cached]
  rfl

/-- The client reads a document as the app is shown it. -/
theorem Mirrors.getDocument (mirrors : Mirrors world.work store) (key : DocumentKey) :
    ∃ document, store.getDocument key = .ok document ∧
      dataOf (visible document) = world.localDocument key := by
  obtain ⟨document, read, isSeen⟩ := LocalStore.getDocument_spec mirrors.sound key
  refine ⟨document, read, ?_⟩
  rw [isSeen, mirrors.seen]

/-- So does a query of a collection. -/
theorem Mirrors.query (mirrors : Mirrors world.work store) (query : Query fieldValues) :
    ∃ docs, store.getDocumentsMatchingCollectionQuery query 0 = .ok docs ∧
      ∀ (key : DocumentKey), dataOf docs[key]? = (world.localDocument key).filter (fun data =>
        isImmediateParentOf query.path key && query.matchesFields data) := by
  obtain ⟨docs, read, isSeen⟩ := LocalStore.collectionQuery_spec mirrors.sound mirrors.issued
  refine ⟨docs, read, ?_⟩
  intro key
  rw [isSeen, Firestore.dataOf_filter, mirrors.seen]

end Reading

/-! ### The operations of the client -/

/-- A write of the user, an answer of the backend, or another user. -/
inductive StoreStep (store : LocalStore fieldValues) : LocalStore fieldValues → Prop
  | written {mutations : List (Mutation fieldValues)} {after : LocalStore fieldValues}
      {batch : MutationBatch fieldValues} {changes : MaybeDocumentMap fieldValues} :
      store.writeLocally mutations = .ok (after, batch, changes) → StoreStep store after
  | acknowledged {result : MutationBatchResult fieldValues} {after : LocalStore fieldValues}
      {changes : MaybeDocumentMap fieldValues} :
      0 < result.commitVersion → store.acknowledgeBatch result = .ok (after, changes) →
      StoreStep store after
  | rejected {batchId : Int} {after : LocalStore fieldValues}
      {changes : MaybeDocumentMap fieldValues} :
      store.rejectBatch batchId = .ok (after, changes) → StoreStep store after
  | switched {user : Firestore.User} {after : LocalStore fieldValues}
      {changes : MaybeDocumentMap fieldValues} :
      store.handleUserChange user = .ok (after, changes) → StoreStep store after

namespace Mirrors

section Operations

variable {work after : Work K} {store : LocalStore fieldValues}

/-- A step of the app that is none of the store. -/
theorem unchanged (mirrors : Mirrors work store) (user : after.currentUser = work.currentUser)
    (queues : ∀ user, after.writesOf user = work.writesOf user)
    (stored : ∀ key, after.firebase.stored key = work.firebase.stored key) :
    Mirrors after store where
  sound := mirrors.sound
  user := mirrors.user.trans user.symm
  queues other := by rw [queues, mirrors.queues]
  cached key := by rw [stored, mirrors.cached]

theorem switched (mirrors : Mirrors work store)
    (queues : ∀ user, after.writesOf user = work.writesOf user)
    (stored : ∀ key, after.firebase.stored key = work.firebase.stored key) :
    ∃ next, Relation.ReflTransGen StoreStep store next ∧ Mirrors after next := by
  by_cases same : after.currentUser = work.currentUser
  · exact ⟨store, .refl, mirrors.unchanged same queues stored⟩
  · obtain ⟨changes, changed, sound, _reports⟩ :=
      LocalStore.handleUserChange_spec mirrors.sound after.currentUser
    refine ⟨_, .single (.switched changed), ?_⟩
    constructor
    · exact sound
    · rfl
    · intro user
      rw [queues, ← mirrors.queues]
      unfold LocalStore.switched
      dsimp only
      by_cases isUser : user = after.currentUser
      · rw [isUser, Function.update_self]
        unfold Firestore.MutationQueue.start
        split <;> rfl
      · rw [Function.update_of_ne isUser]
    · intro key
      rw [stored, ← mirrors.cached]
      rfl

/-- The queues when the queue of the signed-in account has changed. -/
private theorem queues_changed (mirrors : Mirrors work store)
    {queue : Firestore.MutationQueue fieldValues} {writes : List (Mutation fieldValues)}
    (isQueue : queue.queue.map MutationBatch.mutations = writes.map (fun write => [write]))
    (changed : ∀ user, after.writesOf user =
      if user = work.currentUser then writes else work.writesOf user) (user : Firestore.User) :
    ((store.withMutationQueue queue).mutationQueues user).queue.map MutationBatch.mutations =
      (after.writesOf user).map (fun write => [write]) := by
  unfold LocalStore.withMutationQueue
  dsimp only
  rw [changed, mirrors.user]
  by_cases isUser : user = work.currentUser
  · rw [isUser, Function.update_self, if_pos rfl, isQueue]
  · rw [Function.update_of_ne isUser, if_neg isUser, mirrors.queues]

theorem written (mirrors : Mirrors work store) (user : after.currentUser = work.currentUser)
    {write : Mutation fieldValues}
    (queues : ∀ user, after.writesOf user =
      if user = work.currentUser then work.writesOf work.currentUser ++ [write]
      else work.writesOf user)
    (stored : ∀ key, after.firebase.stored key = work.firebase.stored key) :
    ∃ next, Relation.ReflTransGen StoreStep store next ∧ Mirrors after next := by
  have nonempty : [write] ≠ [] := List.cons_ne_nil write []
  obtain ⟨changes, added, _reports⟩ := LocalStore.writeLocally_spec mirrors.sound nonempty
  refine ⟨_, .single (.written added), ?_⟩
  constructor
  · exact LocalStore.sound_written mirrors.sound nonempty
  · exact mirrors.user.trans user.symm
  · refine queues_changed mirrors ?_ queues
    change (store.mutationQueue.queue ++ [_]).map MutationBatch.mutations = _
    rw [List.map_append, List.map_append, mirrors.queue]
    rfl
  · intro key
    rw [stored, ← mirrors.cached]
    rfl

/-- The first write of the signed-in account is the first batch of its queue. -/
private theorem first (mirrors : Mirrors work store) {write : Mutation fieldValues}
    {later : List (Mutation fieldValues)}
    (queued : work.writesOf work.currentUser = write :: later) :
    ∃ batch rest, store.mutationQueue.queue = batch :: rest ∧ batch.mutations = [write] ∧
      rest.map MutationBatch.mutations = later.map (fun write => [write]) := by
  have isQueue := mirrors.queue
  rw [queued] at isQueue
  cases queue : store.mutationQueue.queue with
  | nil =>
      rw [queue] at isQueue
      cases isQueue
  | cons batch rest =>
      rw [queue, List.map_cons, List.map_cons] at isQueue
      obtain ⟨isFirst, isRest⟩ := List.cons.inj isQueue
      exact ⟨batch, rest, rfl, isFirst, isRest⟩

theorem rejected (mirrors : Mirrors work store) (user : after.currentUser = work.currentUser)
    {write : Mutation fieldValues} {later : List (Mutation fieldValues)}
    (queued : work.writesOf work.currentUser = write :: later)
    (queues : ∀ user, after.writesOf user =
      if user = work.currentUser then later else work.writesOf user)
    (stored : ∀ key, after.firebase.stored key = work.firebase.stored key) :
    ∃ next, Relation.ReflTransGen StoreStep store next ∧ Mirrors after next := by
  obtain ⟨batch, rest, queue, _isFirst, isRest⟩ := mirrors.first queued
  obtain ⟨changes, refused, sound, _reports⟩ := LocalStore.rejectBatch_spec mirrors.sound queue
  refine ⟨_, .single (.rejected refused), ?_⟩
  constructor
  · exact sound
  · exact mirrors.user.trans user.symm
  · exact queues_changed mirrors isRest queues
  · intro key
    rw [stored, ← mirrors.cached]
    rfl

private theorem below_next {V : Firestore.Values} (cached : Option (Firestore.MaybeDocument V)) :
    cached.all (fun doc =>
      doc.version < (cached.map Firestore.MaybeDocument.version).getD 0 + 1) = true := by
  cases cached with
  | none => rfl
  | some doc => exact decide_eq_true (Nat.lt_succ_self _)

/-- An accepted write leaves the queue and is in the cache what it was over the cache. -/
theorem acknowledged (mirrors : Mirrors work store) (user : after.currentUser = work.currentUser)
    {write : Mutation fieldValues} {later : List (Mutation fieldValues)}
    (queued : work.writesOf work.currentUser = write :: later)
    (queues : ∀ user, after.writesOf user =
      if user = work.currentUser then later else work.writesOf user)
    (stored : ∀ key, after.firebase.stored key =
      @dataOverlay fieldValues ([write].filter (fun write => write.key = key))
        (work.firebase.stored key)) :
    ∃ next, Relation.ReflTransGen StoreStep store next ∧ Mirrors after next := by
  obtain ⟨batch, rest, queue, isFirst, isRest⟩ := mirrors.first queued
  -- newer than anything the cache holds of the document
  let version := ((store.remoteDocument write.key).map Firestore.MaybeDocument.version).getD 0 + 1
  let result : MutationBatchResult fieldValues :=
    { batch := batch
      commitVersion := version
      mutationResults := [version]
      sized := by rw [isFirst]; rfl }
  have committed : 0 < result.commitVersion := Nat.succ_pos _
  obtain ⟨remoteDocuments, changes, accepted, isSettled, sound, _reports⟩ :=
    LocalStore.acknowledgeBatch_spec mirrors.sound (show _ = result.batch :: rest from queue)
      committed
  refine ⟨_, .single (.acknowledged committed accepted), ?_⟩
  constructor
  · exact sound
  · exact mirrors.user.trans user.symm
  · exact queues_changed mirrors
      (show (store.mutationQueue.pop rest batch).queue.map MutationBatch.mutations = _ from isRest)
      queues
  · intro key
    have isMutations : Firestore.mutationsOf key [batch] =
        [write].filter (fun write => write.key = key) := by
      rw [Firestore.mutationsOf, List.flatMap_singleton, isFirst]
    have issued : ∀ mutation ∈ result.batch.mutations, mutation.Issued := by
      intro mutation member
      exact mirrors.issued batch (by rw [queue]; exact List.mem_cons_self) mutation member
    rw [stored, ← mirrors.cached, ← isMutations]
    change dataOf (visible (remoteDocuments[key]?.map Prod.fst)) = _
    rw [isSettled]
    refine Firestore.LocalStore.dataOf_acknowledged issued _ key ?_
    intro affected
    obtain ⟨mutation, member, isKey⟩ := (result.batch.affects_iff key).mp affected
    rw [show result.batch.mutations = [write] from isFirst, List.mem_singleton] at member
    subst member
    subst isKey
    have isVersion : result.docVersion mutation.key = version := by
      unfold MutationBatchResult.docVersion
      rw [show result.batch.mutations = [mutation] from isFirst]
      exact if_pos rfl
    rw [isVersion]
    exact below_next (store.remoteDocument mutation.key)

end Operations

end Mirrors

/-! ### Steps of the app -/

/-- The earlier writes of an account are answered first, and none while the account is
signed out or the app is not running. -/
def World.answersNext (world : World K) (earlier : List (Request K)) (request : Request K) : Bool :=
  !world.held request &&
    earlier.all (fun other => request.writer?.isNone || other.writer? ≠ request.writer?)

def World.answersInOrder (world : World K) (event : Event K) : Bool :=
  match event with
  | .serve index _ =>
      world.requests[index]?.all (fun request =>
        world.answersNext (world.orphans ++ world.requests.take index) request)
  | .serveOrphan index _ =>
      world.orphans[index]?.all (fun request =>
        world.answersNext (world.orphans.take index) request)
  | _ => true

section Steps

variable {before : World K} {store : LocalStore fieldValues}

private theorem split_at {requests : List (Request K)} {position : Nat} {request : Request K}
    (found : requests[position]? = some request) :
    ∃ earlier later, requests.take position = earlier ∧
      requests = earlier ++ request :: later ∧ requests.eraseIdx position = earlier ++ later := by
  obtain ⟨bound, isRequest⟩ := List.getElem?_eq_some_iff.mp found
  refine ⟨_, requests.drop (position + 1), rfl, ?_, List.eraseIdx_eq_take_drop_succ _ _⟩
  rw [← isRequest, List.getElem_cons_drop, List.take_append_drop]

section Answers

variable {before : World K} {after : Work K} {position : Nat} {request : Request K}

/-- An answered request was in the queue of its writer, and no other. -/
private theorem writesOf_others
    (found : (before.orphans ++ before.requests)[position]? = some request)
    (rest : after.orphans ++ after.requests = (before.orphans ++ before.requests).eraseIdx position)
    {user : Option UID} (notWriter : request.writer? ≠ some user) :
    after.writesOf user = before.work.writesOf user := by
  obtain ⟨earlier, later, _isEarlier, whole, erased⟩ := split_at found
  unfold Work.writesOf
  change _ = ((before.orphans ++ before.requests).filter _).filterMap _
  rw [rest, erased, whole, List.filter_append, List.filter_append, List.filter_cons,
    if_neg (by rw [decide_eq_true_iff]; exact notWriter)]

/-- There it was the first one, if it was next. -/
private theorem writesOf_writer
    (found : (before.orphans ++ before.requests)[position]? = some request)
    (rest : after.orphans ++ after.requests = (before.orphans ++ before.requests).eraseIdx position)
    (isNext : before.answersNext ((before.orphans ++ before.requests).take position) request = true)
    {write : Mutation fieldValues} (isWrite : request.mutation? = some write) :
    request.writer? = some before.currentUser ∧
      before.work.writesOf before.currentUser = write :: after.writesOf before.currentUser := by
  obtain ⟨writer, isWriter⟩ := request.writer_of_mutation isWrite
  obtain ⟨notHeld, first⟩ := Bool.and_eq_true_iff.mp isNext
  have isUser : request.writer? = some before.currentUser := by
    rw [World.held, isWriter, Option.any_some, Bool.not_eq_true', Bool.or_eq_false_iff,
      decide_eq_false_iff_not, not_not] at notHeld
    rw [isWriter, notHeld.1]
  obtain ⟨earlier, later, isEarlier, whole, erased⟩ := split_at found
  have nothing : earlier.filter (fun other => other.writer? = some before.currentUser) = [] := by
    rw [List.filter_eq_nil_iff]
    intro other member same
    have different := List.all_eq_true.mp first other (isEarlier ▸ member)
    rw [isUser, Option.isNone_some, Bool.false_or, decide_eq_true_iff] at different
    exact different (of_decide_eq_true same)
  refine ⟨isUser, ?_⟩
  unfold Work.writesOf
  change ((before.orphans ++ before.requests).filter _).filterMap _ = _
  rw [rest, erased, whole, List.filter_append, List.filter_append, nothing, List.filter_cons,
    if_pos (decide_eq_true isUser), List.nil_append, List.nil_append,
    List.filterMap_cons_some isWrite]

theorem Mirrors.answered {store : LocalStore fieldValues} (mirrors : Mirrors before.work store)
    (found : (before.orphans ++ before.requests)[position]? = some request)
    (rest : after.orphans ++ after.requests = (before.orphans ++ before.requests).eraseIdx position)
    (isNext : before.answersNext ((before.orphans ++ before.requests).take position) request = true)
    {outcome : Outcome} {answer : Answer}
    (performed : before.firebase.perform before.localUser request outcome =
      some (after.firebase, answer))
    (user : ∀ write, request.mutation? = some write → after.currentUser = before.currentUser) :
    ∃ next, Relation.ReflTransGen StoreStep store next ∧ Mirrors after next := by
  cases isWrite : request.mutation? with
  | none =>
      refine mirrors.switched ?_ ?_
      · intro other
        refine writesOf_others found rest ?_
        intro isWriter
        obtain ⟨write, isWriter⟩ := request.mutation_of_writer isWriter
        rw [isWrite] at isWriter
        cases isWriter
      · intro key
        have effect (newUID : UID) (carriedOut : Answer) (result : Performed before.firebase
            before.localUser request (.success newUID) after.firebase carriedOut) :
            after.firebase.stored key = before.firebase.stored key := by
          rw [result.stored, isWrite]
          rfl
        cases outcome with
        | failure message =>
            rw [(Prod.mk.inj (Option.some.inj performed)).1.symm]
            rfl
        | success newUID => exact effect newUID answer (performed_of_perform performed)
        | unconfirmed newUID message =>
            cases performed_of_perform performed with
            | unconfirmed _loses carriedOut => exact effect newUID _ carriedOut
  | some write =>
      obtain ⟨isUser, queued⟩ := writesOf_writer found rest isNext isWrite
      have queues (other : Option UID) : after.writesOf other =
          if other = before.work.currentUser then after.writesOf before.currentUser
          else before.work.writesOf other := by
        split
        · rename_i same
          rw [same]
          rfl
        · rename_i different
          refine writesOf_others found rest ?_
          rw [isUser]
          intro same
          exact different (Option.some.inj same).symm
      cases outcome with
      | failure message =>
          refine mirrors.rejected (user write isWrite) queued queues ?_
          intro key
          rw [(Prod.mk.inj (Option.some.inj performed)).1.symm]
          rfl
      | success newUID =>
          refine mirrors.acknowledged (user write isWrite) queued queues ?_
          intro key
          rw [(performed_of_perform performed).stored, isWrite]
          rfl
      | unconfirmed newUID message =>
          obtain ⟨loses, _result⟩ := Option.ite_none_right_eq_some.mp performed
          rw [Request.keepsAnswer isWrite] at loses
          cases loses

end Answers

/-- A request that is sent is written, if it is a write. -/
theorem Mirrors.sent {work : Work K} {store : LocalStore fieldValues} (mirrors : Mirrors work store)
    {request : Request K} (own : ∀ writer, request.writer? = some writer →
      writer = work.currentUser) :
    ∃ next, Relation.ReflTransGen StoreStep store next ∧ Mirrors (work.send request) next := by
  cases isWrite : request.mutation? with
  | none =>
      refine ⟨store, .refl, mirrors.unchanged rfl ?_ (fun _ => rfl)⟩
      intro user
      rw [Work.writesOf_send, isWrite]
      split <;> exact List.append_nil _
  | some write =>
      obtain ⟨writer, isWriter⟩ := request.writer_of_mutation isWrite
      have isUser := own writer isWriter
      subst isUser
      have queues (user : Option UID) : (work.send request).writesOf user =
          if user = work.currentUser then work.writesOf work.currentUser ++ [write]
          else work.writesOf user := by
        rw [Work.writesOf_send, isWrite, isWriter]
        by_cases same : user = work.currentUser
        · rw [same, if_pos rfl, if_pos rfl]
          rfl
        · rw [if_neg same, if_neg (fun other => same (Option.some.inj other).symm),
            List.append_nil]
      exact mirrors.written rfl queues (fun _ => rfl)

/-- The client follows each step in which the writes are answered in order. -/
theorem Mirrors.step {before : World K} {event : Event K} {after : Work K}
    {store : LocalStore fieldValues} (mirrors : Mirrors before.work store)
    (stepped : WorkStep before event after) (inOrder : before.answersInOrder event = true) :
    ∃ next, Relation.ReflTransGen StoreStep store next ∧ Mirrors after next := by
  have same {work : Work K} (user : work.currentUser = before.currentUser)
      (sent : work.orphans ++ work.requests = before.orphans ++ before.requests)
      (firebase : work.firebase = before.firebase) : Mirrors work store := by
    refine mirrors.unchanged user ?_ ?_
    · intro other
      unfold Work.writesOf
      rw [sent]
      rfl
    · intro key
      rw [firebase]
      rfl
  cases stepped with
  | screens _idle => exact ⟨store, .refl, mirrors⟩
  | ended _ends => exact ⟨store, .refl, same rfl (List.append_nil _) rfl⟩
  | @asked _ request _idle question =>
      refine mirrors.sent ?_
      intro writer isWriter
      cases request <;> first | cases isWriter; done | cases question
  | displayed _idle _display => exact ⟨store, .refl, same rfl rfl rfl⟩
  | signedOut => exact mirrors.switched (fun _ => rfl) (fun _ => rfl)
  | @published _ publication _started _noSave _fresh _free _noDelivery =>
      have named : Mirrors { before.work with
          documentIDs := publication.documentID :: before.work.documentIDs } store :=
        same rfl rfl rfl
      refine named.sent ?_
      rintro writer ⟨⟩
      rfl
  | @saved _ save started _noPublication _noDelivery =>
      have signedIn := save?_user started
      have own : ∀ writer, (Request.updateUser save.user save.fields save.editor :
          Request K).writer? = some writer → writer = before.currentUser := by
        rintro writer ⟨⟩
        exact signedIn.symm
      unfold Work.save
      cases save.picture with
      | none => exact mirrors.sent own
      | some imageData =>
          obtain ⟨middle, first, between⟩ := @Mirrors.sent K before.work store mirrors
            (.putData (profilePhotoPath save.user) imageData
              (.profilePicture save.user save.editor)) (fun _ isWriter => nomatch isWriter)
          obtain ⟨next, second, reached⟩ := between.sent own
          exact ⟨next, first.trans second, reached⟩
  | @served index outcome request firebase answer found performed =>
      have position : (before.orphans ++ before.requests)[before.orphans.length + index]? =
          some request := by
        rw [List.getElem?_append_right (Nat.le_add_right _ _), Nat.add_sub_cancel_left]
        exact found
      refine mirrors.answered position ?_ ?_ performed ?_
      · rw [List.eraseIdx_append_of_length_le (Nat.le_add_right _ _), Nat.add_sub_cancel_left]
        rfl
      · rw [List.take_length_add_append]
        rw [World.answersInOrder, found, Option.all_some] at inOrder
        exact inOrder
      · intro write isWrite
        cases answer with
        | account uid email => cases performed_of_perform performed <;> cases isWrite
        | _ => rfl
  | @servedOrphan index outcome request firebase answer found performed =>
      have bound := (List.getElem?_eq_some_iff.mp found).1
      have position : (before.orphans ++ before.requests)[index]? = some request := by
        rw [List.getElem?_append_left bound]
        exact found
      refine mirrors.answered position ?_ ?_ performed (fun _ _ => rfl)
      · rw [List.eraseIdx_append_of_lt_length bound]
        rfl
      · rw [List.take_append_of_le_length (Nat.le_of_lt bound)]
        rw [World.answersInOrder, found, Option.all_some] at inOrder
        exact inOrder
  | @called index request answer _ _found answered =>
      have taken : Mirrors { before with
          responses := before.responses.eraseIdx index }.work store := same rfl rfl rfl
      cases answered with
      | ignored _ignores => exact ⟨store, .refl, taken⟩
      | queued _handled => exact ⟨store, .refl, same rfl rfl rfl⟩
      | notUploading _gone => exact ⟨store, .refl, taken⟩
      | notLinking _gone => exact ⟨store, .refl, taken⟩
      | notCommitting _signedOut => exact ⟨store, .refl, taken⟩
      | uploading _alive _encoded => exact taken.sent (fun _ isWriter => nomatch isWriter)
      | locating => exact taken.sent (fun _ isWriter => nomatch isWriter)
      | committing _signedIn => exact taken.sent (fun _ isWriter => nomatch isWriter)
      | linking _alive =>
          refine taken.sent ?_
          rintro writer ⟨⟩
          rfl
  | @ran block rest _ _queued result =>
      have taken : Mirrors { before with mainQueue := rest }.work store := same rfl rfl rfl
      cases result with
      | creating _present =>
          refine taken.sent ?_
          rintro writer ⟨⟩
          rfl
      | notCreating _gone => exact ⟨store, .refl, taken⟩
      | reset => exact ⟨store, .refl, same rfl rfl rfl⟩
      | shown _display => exact ⟨store, .refl, taken⟩

end Steps

/-! ### Runs -/

end InstagramProject
