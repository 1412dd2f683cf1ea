/-
What readers see of the local store.  Each operation reports every document whose
local view it changes, with its new view; the views of all others stay.
-/

import InstagramProject.Firestore.LocalStore
import InstagramProject.Firestore.Maps

namespace InstagramProject.Firestore

open Std Maps

variable {V : Values}

/-! ### Pending mutations -/

theorem mutationsOf_append (key : DocumentKey) (earlier later : List (MutationBatch V)) :
    mutationsOf key (earlier ++ later) = mutationsOf key earlier ++ mutationsOf key later :=
  List.flatMap_append

theorem mutationsOf_cons (key : DocumentKey) (batch : MutationBatch V)
    (rest : List (MutationBatch V)) :
    mutationsOf key (batch :: rest) = mutationsOf key [batch] ++ mutationsOf key rest := by
  rw [← List.singleton_append, mutationsOf_append]

theorem overlay_append (earlier later : List (Mutation V)) (seen : Option (Document V)) :
    overlay (earlier ++ later) seen = overlay later (overlay earlier seen) :=
  List.foldl_append

theorem mutationsOf_of_not_affects {batch : MutationBatch V} {key : DocumentKey}
    (spares : batch.affects key = false) : mutationsOf key [batch] = [] := by
  rw [mutationsOf, List.flatMap_singleton, List.filter_eq_nil_iff]
  intro mutation member isKey
  have affected := (batch.affects_iff key).mpr ⟨mutation, member, of_decide_eq_true isKey⟩
  rw [spares] at affected
  cases affected

/-- Batches that do not affect a document can be left out. -/
theorem mutationsOf_filter (key : DocumentKey) (batches : List (MutationBatch V))
    {test : MutationBatch V → Bool} (keeps : ∀ batch, batch.affects key = true → test batch = true) :
    mutationsOf key (batches.filter test) = mutationsOf key batches := by
  induction batches with
  | nil => rfl
  | cons batch rest ih =>
      rw [mutationsOf_cons, List.filter_cons]
      split
      · rw [mutationsOf_cons, ih]
      · rename_i dropped
        have spares : batch.affects key = false :=
          Bool.eq_false_iff.mpr (fun affected => dropped (keeps batch affected))
        rw [ih, mutationsOf_of_not_affects spares, List.nil_append]

theorem visible_foldl (key : DocumentKey) (batches : List (MutationBatch V))
    (maybeDoc : Option (MaybeDocument V)) :
    visible (batches.foldl (fun document batch => batch.applyToLocalDocument document key)
      maybeDoc) = overlay (mutationsOf key batches) (visible maybeDoc) := by
  induction batches generalizing maybeDoc with
  | nil => rfl
  | cons batch rest ih =>
      rw [List.foldl_cons, ih, MutationBatch.visible_applyToLocalDocument,
        mutationsOf_cons key batch rest, overlay_append]

namespace LocalStore

/-- The document as the pending writes leave it. -/
def seen (store : LocalStore V) (key : DocumentKey) : Option (Document V) :=
  overlay (mutationsOf key store.mutationQueue.queue) (visible (store.remoteDocument key))

structure Sound (store : LocalStore V) : Prop where
  queues : ∀ user, (store.mutationQueues user).Coherent
  readTimes : ∀ (key : DocumentKey) (entry : MaybeDocument V × SnapshotVersion),
    store.remoteDocuments[key]? = some entry → 0 < entry.2

theorem Sound.queue {store : LocalStore V} (sound : store.Sound) : store.mutationQueue.Coherent :=
  sound.queues store.user

/-- The reported documents are seen as reported, and the others as before. -/
structure Reports (before after : LocalStore V) (changes : MaybeDocumentMap V) : Prop where
  reported : ∀ (key : DocumentKey) (doc : MaybeDocument V), changes[key]? = some doc →
    doc.document? = after.seen key
  others : ∀ (key : DocumentKey), changes[key]? = none → after.seen key = before.seen key

@[simp] theorem mutationQueue_withMutationQueue (store : LocalStore V) (queue : MutationQueue V) :
    (store.withMutationQueue queue).mutationQueue = queue :=
  Function.update_self _ _ _

@[simp] theorem remoteDocument_withMutationQueue (store : LocalStore V) (queue : MutationQueue V) :
    (store.withMutationQueue queue).remoteDocument = store.remoteDocument := rfl

theorem sound_withMutationQueue {store : LocalStore V} (sound : store.Sound)
    {queue : MutationQueue V} (coherent : queue.Coherent) :
    (store.withMutationQueue queue).Sound := by
  refine ⟨?_, sound.readTimes⟩
  intro user
  unfold withMutationQueue
  dsimp only
  by_cases same : user = store.user
  · rw [same, Function.update_self]
    exact coherent
  · rw [Function.update_of_ne same]
    exact sound.queues user

theorem getElem?_tabulate {β : Type} (keys : ExtTreeSet DocumentKey) (value : DocumentKey → β)
    (key : DocumentKey) : (tabulate keys value)[key]? = if key ∈ keys then some (value key) else none := by
  unfold tabulate
  split
  · rename_i member
    exact (getElem?_foldl_insert _ _ _).1 (ExtTreeSet.mem_toList.mpr member)
  · rename_i absent
    exact (getElem?_foldl_insert _ _ _).2 (fun member => absent (ExtTreeSet.mem_toList.mp member))

/-! ### Reading -/

section Reading

variable {store : LocalStore V}

/-- A read finds the document as the pending writes leave it; no assertion fails. -/
theorem getDocument_spec (sound : store.Sound) (key : DocumentKey) :
    ∃ document, store.getDocument key = .ok document ∧ visible document = store.seen key := by
  unfold getDocument
  rw [sound.queue.affectingDocumentKey]
  refine ⟨_, rfl, ?_⟩
  rw [visible_foldl, mutationsOf_filter key _ (fun _ affects => affects)]
  rfl

theorem getLocalViewOfDocuments_spec (sound : store.Sound)
    (baseDocs : ExtTreeMap DocumentKey (Option (MaybeDocument V))) :
    ∃ docs, store.getLocalViewOfDocuments baseDocs = .ok docs ∧
      ∀ (key : DocumentKey), docs[key]?.map MaybeDocument.document? = baseDocs[key]?.map (fun baseDoc =>
        overlay (mutationsOf key store.mutationQueue.queue) (visible baseDoc)) := by
  unfold getLocalViewOfDocuments
  rw [sound.queue.affectingDocumentKeys]
  refine ⟨_, rfl, ?_⟩
  intro key
  rw [ExtTreeMap.getElem?_map, Option.map_map]
  cases found : baseDocs[key]? with
  | none => rfl
  | some baseDoc =>
      have keeps : ∀ batch : MutationBatch V, batch.affects key = true →
          (ExtTreeSet.ofList baseDocs.keys).toList.any batch.affects = true := by
        intro batch affects
        refine List.any_eq_true.mpr ⟨key, ?_, affects⟩
        rw [ExtTreeSet.mem_toList, ExtTreeSet.mem_ofList, List.contains_iff_mem,
          ExtTreeMap.mem_keys, ExtTreeMap.mem_iff_isSome_getElem?, found]
        rfl
      rw [Option.map_some, Option.map_some, Function.comp_apply, ← mutationsOf_filter key _ keeps,
        ← visible_foldl]
      congr 1
      cases List.foldl _ baseDoc _ <;> rfl

theorem getDocuments_spec (sound : store.Sound) (keys : ExtTreeSet DocumentKey) :
    ∃ docs, store.getDocuments keys = .ok docs ∧
      ∀ (key : DocumentKey), docs[key]?.map MaybeDocument.document? =
        if key ∈ keys then some (store.seen key) else none := by
  obtain ⟨docs, loaded, isView⟩ :=
    getLocalViewOfDocuments_spec sound (tabulate keys store.remoteDocument)
  refine ⟨docs, loaded, ?_⟩
  intro key
  rw [isView, getElem?_tabulate]
  split <;> rfl

end Reading

theorem mem_keysOf {mutations : List (Mutation V)} {key : DocumentKey} :
    key ∈ keysOf mutations ↔ ∃ mutation ∈ mutations, mutation.key = key := by
  rw [keysOf, ExtTreeSet.mem_ofList, List.contains_iff_mem, List.mem_map]

/-- Reading the documents of some keys again reports them. -/
theorem reports_of_getDocuments {before after : LocalStore V} {changes : MaybeDocumentMap V}
    {keys : ExtTreeSet DocumentKey}
    (read : ∀ (key : DocumentKey), changes[key]?.map MaybeDocument.document? =
      if key ∈ keys then some (after.seen key) else none)
    (others : ∀ (key : DocumentKey), key ∉ keys → after.seen key = before.seen key) :
    Reports before after changes := by
  constructor
  · intro key doc reported
    have isRead := read key
    rw [reported, Option.map_some] at isRead
    split at isRead
    · exact Option.some.inj isRead
    · cases isRead
  · intro key absent
    apply others
    intro member
    have isRead := read key
    rw [absent, if_pos member] at isRead
    cases isRead

/-! ### Writing -/

section Writing

variable {store : LocalStore V}

private theorem applyToLocalView_some (mutation : Mutation V) (doc : MaybeDocument V) :
    ∃ result, mutation.applyToLocalView (some doc) = some result := by
  unfold Mutation.applyToLocalView
  split
  · cases mutation.operation <;> exact ⟨_, rfl⟩
  · exact ⟨doc, rfl⟩

private theorem applyToLocalDocument_some (batch : MutationBatch V) (doc : MaybeDocument V)
    (key : DocumentKey) : ∃ result, batch.applyToLocalDocument (some doc) key = some result := by
  rw [MutationBatch.applyToLocalDocument_eq]
  generalize batch.mutations.filter (fun mutation => mutation.key = key) = mutations
  induction mutations generalizing doc with
  | nil => exact ⟨doc, rfl⟩
  | cons mutation rest ih =>
      obtain ⟨result, applied⟩ := applyToLocalView_some mutation doc
      rw [List.foldl_cons, applied]
      exact ih result

private theorem own_mutateDocument (batch : MutationBatch V) :
    Own Mutation.key (mutateDocument batch) := by
  intro map item other different
  unfold mutateDocument
  split
  · rw [getElem?_insert_self_or_ne, if_neg different]
  · rfl

/-- A batch that changes each of its documents once is applied once to each of them. -/
private theorem applyToLocalDocumentSet_spec {batch : MutationBatch V}
    (distinct : (batch.mutations.map Mutation.key).Nodup) {documentSet : MaybeDocumentMap V}
    {key : DocumentKey} {doc : MaybeDocument V} (loaded : documentSet[key]? = some doc)
    (affected : ∃ mutation ∈ batch.mutations, mutation.key = key) :
    ∃ result, (applyToLocalDocumentSet batch documentSet)[key]? = some result ∧
      result.document? = overlay (mutationsOf key [batch]) doc.document? := by
  obtain ⟨mutation, member, rfl⟩ := affected
  obtain ⟨earlier, same, result⟩ := @Own.touched _ _ _ _ _ _ _ (own_mutateDocument batch)
    batch.mutations documentSet (List.pairwise_map.mp distinct) mutation member
  obtain ⟨mutated, applied⟩ := applyToLocalDocument_some batch doc mutation.key
  refine ⟨mutated, ?_, ?_⟩
  · rw [applyToLocalDocumentSet, result, mutateDocument, same, loaded, applied]
    dsimp only
    rw [getElem?_insert_self_or_ne, if_pos rfl]
  · have seen := batch.visible_applyToLocalDocument (some doc) mutation.key
    rw [applied] at seen
    exact seen

/-- The batch that `mutations` become. -/
def nextBatch (store : LocalStore V) (mutations : List (Mutation V)) (nonempty : mutations ≠ []) :
    MutationBatch V :=
  { batchId := store.mutationQueue.nextBatchId, mutations := mutations, nonempty := nonempty }

def written (store : LocalStore V) (batch : MutationBatch V) : LocalStore V :=
  store.withMutationQueue (store.mutationQueue.push batch)

theorem seen_written (store : LocalStore V) (batch : MutationBatch V) (key : DocumentKey) :
    (store.written batch).seen key = overlay (mutationsOf key [batch]) (store.seen key) := by
  unfold seen written
  rw [mutationQueue_withMutationQueue, remoteDocument_withMutationQueue, ← overlay_append,
    ← mutationsOf_append]
  rfl

theorem sound_written (sound : store.Sound) {mutations : List (Mutation V)}
    (nonempty : mutations ≠ []) : (store.written (store.nextBatch mutations nonempty)).Sound :=
  sound_withMutationQueue sound (sound.queue.push rfl)

theorem writeLocally_eq (sound : store.Sound) {mutations : List (Mutation V)}
    (nonempty : mutations ≠ []) {existing : MaybeDocumentMap V}
    (loaded : store.getDocuments (keysOf mutations) = .ok existing) :
    store.writeLocally mutations =
      .ok (store.written (store.nextBatch mutations nonempty), store.nextBatch mutations nonempty,
        applyToLocalDocumentSet (store.nextBatch mutations nonempty) existing) := by
  unfold writeLocally
  rw [loaded, sound.queue.add nonempty]
  rfl

/-- A write succeeds, and if it changes each document once, it reports what it changes. -/
theorem writeLocally_spec (sound : store.Sound) {mutations : List (Mutation V)}
    (nonempty : mutations ≠ []) :
    ∃ changes, store.writeLocally mutations =
        .ok (store.written (store.nextBatch mutations nonempty),
          store.nextBatch mutations nonempty, changes) ∧
      ((mutations.map Mutation.key).Nodup →
        Reports store (store.written (store.nextBatch mutations nonempty)) changes) := by
  obtain ⟨existing, loaded, isExisting⟩ := getDocuments_spec sound (keysOf mutations)
  refine ⟨_, writeLocally_eq sound nonempty loaded, fun distinct => ?_⟩
  have others : ∀ key : DocumentKey, ¬(∃ mutation ∈ mutations, mutation.key = key) →
      (applyToLocalDocumentSet (store.nextBatch mutations nonempty) existing)[key]? = none := by
    intro key spared
    have isLoaded := isExisting key
    rw [if_neg (fun member => spared (mem_keysOf.mp member)), Option.map_eq_none_iff] at isLoaded
    rw [applyToLocalDocumentSet, (own_mutateDocument _).untouched, isLoaded]
    intro mutation member isKey
    exact spared ⟨mutation, member, isKey⟩
  have affectedResult : ∀ key : DocumentKey, (∃ mutation ∈ mutations, mutation.key = key) →
      ∃ result, (applyToLocalDocumentSet (store.nextBatch mutations nonempty)
          existing)[key]? = some result ∧
        result.document? = overlay (mutationsOf key [store.nextBatch mutations nonempty])
          (store.seen key) := by
    intro key affected
    have isLoaded := isExisting key
    rw [if_pos (mem_keysOf.mpr affected)] at isLoaded
    obtain ⟨old, found, isSeen⟩ := Option.map_eq_some_iff.mp isLoaded
    rw [← isSeen]
    exact @applyToLocalDocumentSet_spec _ (store.nextBatch mutations nonempty) distinct _ key old
      found affected
  constructor
  · intro key doc reported
    by_cases affected : ∃ mutation ∈ mutations, mutation.key = key
    · obtain ⟨result, isResult, resultSeen⟩ := affectedResult key affected
      rw [isResult, Option.some.injEq] at reported
      rw [seen_written, ← reported, resultSeen]
    · rw [others key affected] at reported
      cases reported
  · intro key absent
    have spared : ¬∃ mutation ∈ mutations, mutation.key = key := by
      intro affected
      obtain ⟨result, isResult, _⟩ := affectedResult key affected
      rw [absent] at isResult
      cases isResult
    rw [seen_written, mutationsOf_of_not_affects]
    · rfl
    · rw [← Bool.not_eq_true, MutationBatch.affects_iff]
      exact spared

end Writing

/-! ### The backend's answers -/

section Answers

variable {store : LocalStore V} {result : MutationBatchResult V} {rest : List (MutationBatch V)}

/-- What the cache holds of a document after an acknowledged write of it: what it
held, if that is as new as the write. -/
def settled (result : MutationBatchResult V) (cached : Option (MaybeDocument V × SnapshotVersion))
    (key : DocumentKey) : Option (MaybeDocument V × SnapshotVersion) :=
  if (cached.map Prod.fst).all (fun doc => doc.version < result.docVersion key) then
    (result.applyToRemoteDocument (cached.map Prod.fst) key).map
      (fun doc => (doc, result.commitVersion))
  else cached

theorem applyToRemoteDocument_isSome {key : DocumentKey}
    (affected : result.batch.affects key = true) (maybeDoc : Option (MaybeDocument V)) :
    (result.applyToRemoteDocument maybeDoc key).isSome = true := by
  have stays : ∀ (answers : List (Mutation V × SnapshotVersion)) (doc : MaybeDocument V),
      (answers.foldl (fun maybeDoc answer =>
        if answer.1.key = key then some (answer.1.applyToRemoteDocument maybeDoc answer.2)
        else maybeDoc) (some doc)).isSome = true := by
    intro answers
    induction answers with
    | nil => exact fun _ => rfl
    | cons answer rest ih =>
        intro doc
        rw [List.foldl_cons]
        split <;> exact ih _
  obtain ⟨mutation, member, isKey⟩ := (result.batch.affects_iff key).mp affected
  obtain ⟨index, bound, isMutation⟩ := List.mem_iff_getElem.mp member
  have boundToo : index < result.mutationResults.length := by
    rw [result.sized]
    exact bound
  have answered : (mutation, result.mutationResults[index]) ∈
      result.batch.mutations.zip result.mutationResults := by
    rw [List.mem_iff_getElem]
    refine ⟨index, ?_, ?_⟩
    · rw [List.length_zip]
      exact lt_min bound boundToo
    · rw [List.getElem_zip, isMutation]
  unfold MutationBatchResult.applyToRemoteDocument
  generalize result.batch.mutations.zip result.mutationResults = answers at answered
  induction answers generalizing maybeDoc with
  | nil => cases answered
  | cons answer later ih =>
      rw [List.foldl_cons]
      rcases List.mem_cons.mp answered with rfl | answeredLater
      · rw [if_pos isKey]
        exact stays later _
      · exact ih _ answeredLater

private theorem applyResult_spec {key : DocumentKey} (affected : result.batch.affects key = true)
    (remoteDocuments : ExtTreeMap DocumentKey (MaybeDocument V × SnapshotVersion)) :
    ∃ after, applyResult result remoteDocuments key = .ok after ∧
      ∀ (other : DocumentKey), after[other]? =
        if other = key then settled result remoteDocuments[key]? key
        else remoteDocuments[other]? := by
  unfold applyResult settled
  dsimp only
  split
  · obtain ⟨doc, applied⟩ := Option.isSome_iff_exists.mp
      (applyToRemoteDocument_isSome affected (remoteDocuments[key]?.map Prod.fst))
    rw [applied]
    exact ⟨_, rfl, fun _ => getElem?_insert_self_or_ne⟩
  · refine ⟨remoteDocuments, rfl, ?_⟩
    intro other
    split
    · rename_i same
      rw [same]
    · rfl

private theorem applyResults_spec {keys : List DocumentKey}
    (affected : ∀ key ∈ keys, result.batch.affects key = true) (distinct : keys.Nodup)
    (remoteDocuments : ExtTreeMap DocumentKey (MaybeDocument V × SnapshotVersion)) :
    ∃ after, keys.foldlM (applyResult result) remoteDocuments = .ok after ∧
      ∀ (key : DocumentKey), after[key]? =
        if key ∈ keys then settled result remoteDocuments[key]? key else remoteDocuments[key]? := by
  induction keys generalizing remoteDocuments with
  | nil => exact ⟨remoteDocuments, rfl, fun _ => rfl⟩
  | cons first later ih =>
      rw [List.forall_mem_cons] at affected
      rw [List.nodup_cons] at distinct
      obtain ⟨next, applied, isNext⟩ := applyResult_spec affected.1 remoteDocuments
      obtain ⟨after, appliedLater, isAfter⟩ := ih affected.2 distinct.2 next
      refine ⟨after, ?_, ?_⟩
      · rw [List.foldlM_cons, applied]
        exact appliedLater
      · intro key
        rw [isAfter, isNext]
        by_cases same : key = first
        · rw [same, if_neg distinct.1, if_pos rfl, if_pos List.mem_cons_self]
        · rw [if_neg same]
          exact if_congr (by rw [List.mem_cons, or_iff_right same]) rfl rfl

/-- The store without the first batch of the queue. -/
def popped (store : LocalStore V) (batch : MutationBatch V) (rest : List (MutationBatch V)) :
    LocalStore V :=
  store.withMutationQueue (store.mutationQueue.pop rest batch)

theorem seen_popped (store : LocalStore V) (batch : MutationBatch V)
    (rest : List (MutationBatch V)) (key : DocumentKey) :
    (store.popped batch rest).seen key =
      overlay (mutationsOf key rest) (visible (store.remoteDocument key)) := by
  unfold seen popped
  rw [mutationQueue_withMutationQueue]
  rfl

/-- An acknowledged batch leaves the queue for the cache; no assertion fails. -/
theorem acknowledgeBatch_spec (sound : store.Sound)
    (queued : store.mutationQueue.queue = result.batch :: rest)
    (committed : 0 < result.commitVersion) :
    ∃ remoteDocuments changes,
      store.acknowledgeBatch result =
        .ok ({ store with remoteDocuments := remoteDocuments }.popped result.batch rest, changes) ∧
      (∀ (key : DocumentKey), remoteDocuments[key]? =
        if result.batch.affects key then settled result store.remoteDocuments[key]? key
        else store.remoteDocuments[key]?) ∧
      ({ store with remoteDocuments := remoteDocuments }.popped result.batch rest).Sound ∧
      Reports store ({ store with remoteDocuments := remoteDocuments }.popped result.batch rest)
        changes := by
  have affectedKeys : ∀ key : DocumentKey, key ∈ (keysOf result.batch.mutations).toList ↔
      result.batch.affects key = true := by
    intro key
    rw [ExtTreeSet.mem_toList, mem_keysOf, MutationBatch.affects_iff]
  have distinct : (keysOf result.batch.mutations).toList.Nodup := by
    refine (keysOf result.batch.mutations).distinct_toList.imp ?_
    rintro left right different rfl
    exact different ReflOrd.compare_self
  obtain ⟨remoteDocuments, applied, isRemote⟩ := applyResults_spec
    (fun key member => (affectedKeys key).mp member) distinct store.remoteDocuments
  have isSettled : ∀ (key : DocumentKey), remoteDocuments[key]? =
      if result.batch.affects key then settled result store.remoteDocuments[key]? key
      else store.remoteDocuments[key]? := by
    intro key
    rw [isRemote]
    exact if_congr (affectedKeys key) rfl rfl
  have soundRemote : ({ store with remoteDocuments := remoteDocuments } : LocalStore V).Sound := by
    refine ⟨sound.queues, ?_⟩
    intro key entry cached
    dsimp only at cached
    rw [isSettled] at cached
    split at cached
    · unfold settled at cached
      split at cached
      · obtain ⟨doc, _, rfl⟩ := Option.map_eq_some_iff.mp cached
        exact committed
      · exact sound.readTimes key entry cached
    · exact sound.readTimes key entry cached
  have soundAfter : ({ store with remoteDocuments := remoteDocuments }.popped result.batch
      rest).Sound := sound_withMutationQueue soundRemote (sound.queue.pop queued)
  obtain ⟨changes, read, isRead⟩ := getDocuments_spec soundAfter (keysOf result.batch.mutations)
  refine ⟨remoteDocuments, changes, ?_, isSettled, soundAfter, reports_of_getDocuments isRead ?_⟩
  · have head : store.mutationQueue.acknowledgeBatch result.batch = .ok () := by
      simp only [MutationQueue.acknowledgeBatch, queued, hardAssert, decide_true, if_true]
    have consistent := soundAfter.queue.consistent
    have popped : store.mutationQueue.removeMutationBatch result.batch =
        .ok (({ store with remoteDocuments := remoteDocuments } :
          LocalStore V).mutationQueue.pop rest result.batch) :=
      MutationQueue.removeMutationBatch_head queued
    unfold LocalStore.popped at consistent read ⊢
    simp only [acknowledgeBatch, head, applied, popped, consistent, read, bind, Except.bind, pure,
      Except.pure]
  · intro key spared
    have spared : result.batch.affects key = false := by
      rw [← Bool.not_eq_true, ← affectedKeys, ExtTreeSet.mem_toList]
      exact spared
    have sameRemote : ({ store with remoteDocuments := remoteDocuments } :
        LocalStore V).remoteDocument key = store.remoteDocument key := by
      unfold remoteDocument
      dsimp only
      rw [isSettled, if_neg (by rw [spared]; exact Bool.false_ne_true)]
    rw [seen_popped, sameRemote, seen, queued, mutationsOf_cons, mutationsOf_of_not_affects spared,
      List.nil_append]

/-- A rejected batch leaves the queue and nothing else; no assertion fails. -/
theorem rejectBatch_spec (sound : store.Sound) {head : MutationBatch V}
    (queued : store.mutationQueue.queue = head :: rest) :
    ∃ changes, store.rejectBatch head.batchId = .ok (store.popped head rest, changes) ∧
      (store.popped head rest).Sound ∧ Reports store (store.popped head rest) changes := by
  have soundAfter : (store.popped head rest).Sound :=
    sound_withMutationQueue sound (sound.queue.pop queued)
  obtain ⟨changes, read, isRead⟩ := getDocuments_spec soundAfter (keysOf head.mutations)
  refine ⟨changes, ?_, soundAfter, reports_of_getDocuments isRead ?_⟩
  · obtain ⟨found, lookup, isFound⟩ := sound.queue.lookup head.batchId
    have isHead := (isFound head).mpr ⟨by rw [queued]; exact List.mem_cons_self, rfl⟩
    rw [isHead] at lookup
    have consistent := soundAfter.queue.consistent
    have popped := MutationQueue.removeMutationBatch_head queued
    unfold LocalStore.popped at consistent read ⊢
    simp only [rejectBatch, lookup, popped, consistent, read, bind, Except.bind, pure, Except.pure]
  · intro key spared
    have spared : head.affects key = false := by
      rw [← Bool.not_eq_true, MutationBatch.affects_iff, ← mem_keysOf]
      exact spared
    rw [seen_popped, seen, queued, mutationsOf_cons, mutationsOf_of_not_affects spared,
      List.nil_append]

end Answers

/-! ### The watch stream -/

section Watch

variable {store : LocalStore V} {event : RemoteEvent V}

/-- What the cache holds of a document after an event. -/
def watched (store : LocalStore V) (event : RemoteEvent V) (key : DocumentKey) :
    Option (MaybeDocument V × SnapshotVersion) :=
  match (store.changedDocs event)[key]? with
  | some doc => if isManufactured doc then none else some (doc, event.snapshotVersion)
  | none => store.remoteDocuments[key]?

private theorem cached_of_event (key : DocumentKey) :
    ((store.changedDocs event).toList.foldl (fun remoteDocuments entry =>
      if isManufactured entry.2 then remoteDocuments.erase entry.1
      else remoteDocuments.insert entry.1 (entry.2, event.snapshotVersion))
        store.remoteDocuments)[key]? = store.watched event key := by
  have own : Own Prod.fst (fun (remoteDocuments : ExtTreeMap DocumentKey
      (MaybeDocument V × SnapshotVersion)) (entry : DocumentKey × MaybeDocument V) =>
      if isManufactured entry.2 then remoteDocuments.erase entry.1
      else remoteDocuments.insert entry.1 (entry.2, event.snapshotVersion)) := by
    intro map entry other different
    dsimp only
    split
    · rw [getElem?_erase_self_or_ne, if_neg different]
    · rw [getElem?_insert_self_or_ne, if_neg different]
  unfold watched
  cases found : (store.changedDocs event)[key]? with
  | some doc =>
      have member : (key, doc) ∈ (store.changedDocs event).toList :=
        ExtTreeMap.mem_toList_iff_getElem?_eq_some.mpr found
      have distinct : (store.changedDocs event).toList.Pairwise
          (fun left right => left.1 ≠ right.1) := by
        refine (store.changedDocs event).distinct_keys_toList.imp ?_
        intro left right different same
        rw [same] at different
        exact different ReflOrd.compare_self
      obtain ⟨earlier, _, result⟩ := own.touched distinct member
      dsimp only at result ⊢
      rw [result]
      split
      · rw [getElem?_erase_self_or_ne, if_pos rfl]
      · rw [getElem?_insert_self_or_ne, if_pos rfl]
  | none =>
      dsimp only
      rw [own.untouched]
      rintro ⟨other, doc⟩ member rfl
      rw [ExtTreeMap.mem_toList_iff_getElem?_eq_some.mp member] at found
      cases found

/-- An event that is not older than the last one is taken over; no assertion fails. -/
theorem applyRemoteEvent_spec (sound : store.Sound)
    (inOrder : event.snapshotVersion = 0 ∨
      store.lastRemoteSnapshotVersion ≤ event.snapshotVersion) :
    ∃ after changes, store.applyRemoteEvent event = .ok (after, changes) ∧
      after.mutationQueues = store.mutationQueues ∧ after.user = store.user ∧
      (∀ (key : DocumentKey), after.remoteDocuments[key]? = store.watched event key) ∧
      after.lastRemoteSnapshotVersion = max store.lastRemoteSnapshotVersion event.snapshotVersion ∧
      after.Sound ∧ Reports store after changes := by
  have added : ((store.changedDocs event).toList.all
      (fun entry => isManufactured entry.2 || event.snapshotVersion ≠ 0)) = true := by
    rw [List.all_eq_true]
    rintro ⟨key, doc⟩ member
    rw [Bool.or_eq_true, decide_eq_true_iff, or_iff_not_imp_right, not_not]
    intro isZero
    have updated := ExtTreeMap.mem_toList_iff_getElem?_eq_some.mp member
    rw [changedDocs, ExtTreeMap.getElem?_filter', Option.filter_eq_some_iff] at updated
    obtain ⟨hasCommittedMutations, rfl⟩ := event.manufactured isZero key doc updated.1
    rfl
  have monotone : (event.snapshotVersion = 0 ||
      store.lastRemoteSnapshotVersion ≤ event.snapshotVersion) = true := by
    rw [Bool.or_eq_true, decide_eq_true_iff, decide_eq_true_iff]
    exact inOrder
  let after : LocalStore V :=
    { store with
      remoteDocuments := (store.changedDocs event).toList.foldl (fun remoteDocuments entry =>
        if isManufactured entry.2 then remoteDocuments.erase entry.1
        else remoteDocuments.insert entry.1 (entry.2, event.snapshotVersion)) store.remoteDocuments
      lastRemoteSnapshotVersion :=
        if event.snapshotVersion = 0 then store.lastRemoteSnapshotVersion
        else event.snapshotVersion }
  have soundAfter : after.Sound := by
    refine ⟨sound.queues, ?_⟩
    intro key entry cached
    have isWatched : store.watched event key = some entry := by
      rw [← cached_of_event]
      exact cached
    unfold watched at isWatched
    split at isWatched
    · rename_i doc found
      split at isWatched
      · cases isWatched
      · rename_i notManufactured
        cases isWatched
        have member := ExtTreeMap.mem_toList_iff_getElem?_eq_some.mpr found
        have positive := List.all_eq_true.mp added _ member
        rw [Bool.or_eq_true, decide_eq_true_iff] at positive
        exact Nat.pos_of_ne_zero (positive.resolve_left notManufactured)
    · exact sound.readTimes key entry isWatched
  obtain ⟨changes, read, isRead⟩ := getLocalViewOfDocuments_spec soundAfter
    ((store.changedDocs event).map (fun _ doc => some doc))
  refine ⟨after, changes, ?_, rfl, rfl, cached_of_event, ?_, soundAfter, ?_⟩
  · unfold applyRemoteEvent
    simp only [added, monotone, hardAssert, if_true]
    change (after.getLocalViewOfDocuments _ >>= fun changes => pure (after, changes)) = _
    rw [read]
    rfl
  · dsimp only [after]
    split
    · rename_i isZero
      rw [isZero, Nat.max_zero]
    · rename_i notZero
      rw [Nat.max_eq_right (inOrder.resolve_left notZero)]
  · constructor
    · intro key doc reported
      have isView := isRead key
      rw [reported, ExtTreeMap.getElem?_map, Option.map_map, Option.map_some] at isView
      obtain ⟨update, updated, isUpdate⟩ := Option.map_eq_some_iff.mp isView.symm
      have cached : after.remoteDocuments[key]? = store.watched event key := cached_of_event key
      have isVisible : visible (after.remoteDocument key) = visible (some update) := by
        unfold remoteDocument
        rw [cached, watched, updated]
        dsimp only
        split
        · rename_i manufactured
          unfold isManufactured at manufactured
          split at manufactured
          · rfl
          · cases manufactured
        · rfl
      rw [seen, isVisible]
      exact isUpdate.symm
    · intro key absent
      have isView := isRead key
      rw [absent, ExtTreeMap.getElem?_map, Option.map_map, Option.map_none] at isView
      have notUpdated := Option.map_eq_none_iff.mp isView.symm
      have cached : after.remoteDocuments[key]? = store.watched event key := cached_of_event key
      unfold seen remoteDocument
      rw [cached, watched, notUpdated]
      rfl

end Watch

/-! ### Another user -/

def switched (store : LocalStore V) (user : User) : LocalStore V :=
  { store with
    mutationQueues := Function.update store.mutationQueues user (store.mutationQueues user).start
    user := user }

/-- The queue of the user takes the place of the other one; no assertion fails. -/
theorem handleUserChange_spec {store : LocalStore V} (sound : store.Sound) (user : User) :
    ∃ changes, store.handleUserChange user = .ok (store.switched user, changes) ∧
      (store.switched user).Sound ∧ Reports store (store.switched user) changes := by
  have soundAfter : (store.switched user).Sound := by
    refine ⟨?_, sound.readTimes⟩
    intro other
    unfold switched
    dsimp only
    by_cases same : other = user
    · rw [same, Function.update_self]
      exact (sound.queues user).start
    · rw [Function.update_of_ne same]
      exact sound.queues other
  obtain ⟨changes, read, isRead⟩ := getDocuments_spec soundAfter (keysOf
    ((store.mutationQueue.queue ++ (store.switched user).mutationQueue.queue).flatMap
      MutationBatch.mutations))
  refine ⟨changes, ?_, soundAfter, reports_of_getDocuments isRead ?_⟩
  · unfold handleUserChange
    change ((store.switched user).getDocuments (keysOf
      ((store.mutationQueue.queue ++ (store.switched user).mutationQueue.queue).flatMap
        MutationBatch.mutations)) >>= fun changes => pure (store.switched user, changes)) = _
    rw [read]
    rfl
  · intro key spared
    have none : ∀ batches : List (MutationBatch V),
        (∀ batch ∈ batches, batch ∈ store.mutationQueue.queue ++
          (store.switched user).mutationQueue.queue) → mutationsOf key batches = [] := by
      intro batches within
      rw [mutationsOf, List.flatMap_eq_nil_iff]
      intro batch member
      rw [List.filter_eq_nil_iff]
      intro mutation isMutation isKey
      apply spared
      rw [mem_keysOf]
      exact ⟨mutation, List.mem_flatMap.mpr ⟨batch, within batch member, isMutation⟩,
        of_decide_eq_true isKey⟩
    rw [seen, seen, none _ (fun _ member => List.mem_append_right _ member),
      none _ (fun _ member => List.mem_append_left _ member)]
    rfl

end LocalStore

end InstagramProject.Firestore
