/-
What documents hold.  For the mutations the services send, an acknowledged write
shows the same data as the pending write before it, and the scan of a collection
finds what reading its documents one by one finds.
-/

import InstagramProject.Firestore.LocalViews

namespace InstagramProject.Firestore

open Std Maps

variable {V : Values}

/-! ### Data -/

def dataOf (seen : Option (Document V)) : Option V.ObjectValue := seen.map Document.data

theorem dataOf_effect {mutation : Mutation V} (issued : mutation.Issued)
    (seen : Option (Document V)) :
    dataOf (mutation.effect seen) = mutation.dataEffect (dataOf seen) := by
  obtain ⟨key, precondition, operation⟩ := mutation
  unfold Mutation.Issued at issued
  cases operation with
  | set value =>
      cases issued
      rfl
  | delete =>
      cases issued
      rfl
  | patch patch =>
      rcases issued with rfl | rfl
      · cases seen <;> rfl
      · cases seen <;> rfl

theorem dataOf_applyToRemoteDocument {mutation : Mutation V} (issued : mutation.Issued)
    (maybeDoc : Option (MaybeDocument V)) (version : SnapshotVersion) :
    dataOf (mutation.applyToRemoteDocument maybeDoc version).document? =
      mutation.dataEffect (dataOf (visible maybeDoc)) := by
  obtain ⟨key, precondition, operation⟩ := mutation
  unfold Mutation.Issued at issued
  unfold Mutation.applyToRemoteDocument Mutation.dataEffect Mutation.patchDocument
  cases operation with
  | set value => rfl
  | delete => rfl
  | patch patch =>
      rcases issued with rfl | rfl
      · rfl
      · have valid : Precondition.isValidFor (.existsIs true) maybeDoc =
            (visible maybeDoc).isSome := by
          unfold Precondition.isValidFor
          cases visible maybeDoc <;> rfl
        dsimp only
        rw [valid]
        cases visible maybeDoc <;> rfl

theorem dataOf_overlay {mutations : List (Mutation V)}
    (issued : ∀ mutation ∈ mutations, mutation.Issued) (seen : Option (Document V)) :
    dataOf (overlay mutations seen) = dataOverlay mutations (dataOf seen) := by
  induction mutations generalizing seen with
  | nil => rfl
  | cons mutation rest ih =>
      rw [List.forall_mem_cons] at issued
      unfold overlay dataOverlay
      rw [List.foldl_cons, List.foldl_cons, ← dataOf_effect issued.1]
      exact ih issued.2 _

theorem dataOf_filter (query : Query V) (key : DocumentKey) (seen : Option (Document V)) :
    dataOf (seen.filter (query.matches key)) = (dataOf seen).filter (fun data =>
      isImmediateParentOf query.path key && query.matchesFields data) := by
  cases seen with
  | none => rfl
  | some document =>
      unfold dataOf Query.matches
      rw [Option.filter_some, Option.map_some, Option.filter_some]
      split <;> rfl

/-- Sets and deletes do not depend on what was there. -/
theorem dataOverlay_of_noPatch {mutations : List (Mutation V)} (nonempty : mutations ≠ [])
    (noPatch : ∀ mutation ∈ mutations, mutation.operation.isPatch = false)
    (data other : Option V.ObjectValue) :
    dataOverlay mutations data = dataOverlay mutations other := by
  cases mutations with
  | nil => exact absurd rfl nonempty
  | cons mutation rest =>
      have constant : mutation.dataEffect data = mutation.dataEffect other := by
        have kind := noPatch mutation List.mem_cons_self
        unfold Mutation.dataEffect
        cases operation : mutation.operation with
        | set value => rfl
        | delete => rfl
        | patch patch =>
            rw [operation] at kind
            cases kind
      unfold dataOverlay
      rw [List.foldl_cons, List.foldl_cons, constant]

theorem mem_mutationsOf {key : DocumentKey} {batches : List (MutationBatch V)}
    {mutation : Mutation V} :
    mutation ∈ mutationsOf key batches ↔
      (∃ batch ∈ batches, mutation ∈ batch.mutations) ∧ mutation.key = key := by
  rw [mutationsOf, List.mem_flatMap]
  constructor
  · rintro ⟨batch, member, isMutation⟩
    obtain ⟨within, isKey⟩ := List.mem_filter.mp isMutation
    exact ⟨⟨batch, member, within⟩, of_decide_eq_true isKey⟩
  · rintro ⟨⟨batch, member, within⟩, isKey⟩
    exact ⟨batch, member, List.mem_filter.mpr ⟨within, decide_eq_true isKey⟩⟩

namespace LocalStore

/-- All pending writes of the current user are as the services send them. -/
def IssuedWrites (store : LocalStore V) : Prop :=
  ∀ batch ∈ store.mutationQueue.queue, ∀ mutation ∈ batch.mutations, mutation.Issued

theorem IssuedWrites.mutationsOf {store : LocalStore V} (issued : store.IssuedWrites)
    (key : DocumentKey) :
    ∀ mutation ∈ mutationsOf key store.mutationQueue.queue, mutation.Issued := by
  intro mutation member
  obtain ⟨⟨batch, queued, within⟩, _⟩ := mem_mutationsOf.mp member
  exact issued batch queued mutation within

/-! ### Acknowledged writes -/

section Acknowledged

variable {store : LocalStore V} {result : MutationBatchResult V} {rest : List (MutationBatch V)}

theorem dataOf_settled (issued : ∀ mutation ∈ result.batch.mutations, mutation.Issued)
    (maybeDoc : Option (MaybeDocument V)) (key : DocumentKey) :
    dataOf (visible (result.applyToRemoteDocument maybeDoc key)) =
      dataOverlay (mutationsOf key [result.batch]) (dataOf (visible maybeDoc)) := by
  obtain ⟨batch, commitVersion, mutationResults, sized⟩ := result
  dsimp only at issued sized
  unfold MutationBatchResult.applyToRemoteDocument
  rw [mutationsOf, List.flatMap_singleton]
  dsimp only
  generalize batch.mutations = mutations at issued sized
  induction mutations generalizing maybeDoc mutationResults with
  | nil => rfl
  | cons mutation later ih =>
      cases mutationResults with
      | nil => cases sized
      | cons version versions =>
          rw [List.forall_mem_cons] at issued
          rw [List.zip_cons_cons, List.foldl_cons, List.filter_cons]
          split
          · rename_i isKey
            rw [if_pos (decide_eq_true isKey), ih _ _ issued.2 (Nat.succ.inj sized)]
            unfold dataOverlay
            rw [List.foldl_cons, ← dataOf_applyToRemoteDocument issued.1 maybeDoc version]
            rfl
          · rename_i notKey
            rw [if_neg (fun isKey => notKey (of_decide_eq_true isKey)),
              ih _ _ issued.2 (Nat.succ.inj sized)]

/-- An acknowledged write is in the cache what it was over the cache, if the cache was
not already as new. -/
theorem dataOf_acknowledged (issued : ∀ mutation ∈ result.batch.mutations, mutation.Issued)
    (cached : Option (MaybeDocument V × SnapshotVersion)) (key : DocumentKey)
    (newer : result.batch.affects key = true →
      (cached.map Prod.fst).all (fun doc => doc.version < result.docVersion key)) :
    dataOf (visible ((if result.batch.affects key then settled result cached key
        else cached).map Prod.fst)) =
      dataOverlay (mutationsOf key [result.batch]) (dataOf (visible (cached.map Prod.fst))) := by
  cases affected : result.batch.affects key with
  | true =>
      rw [if_pos rfl, settled, if_pos (newer affected), Option.map_map, ← dataOf_settled issued]
      congr 2
      cases result.applyToRemoteDocument _ key <;> rfl
  | false =>
      rw [if_neg Bool.false_ne_true, mutationsOf_of_not_affects affected]
      rfl

/-- An acknowledgment does not change what readers see, if the cache is not already as
new as the write. -/
theorem dataOf_seen_acknowledged (issued : store.IssuedWrites)
    (queued : store.mutationQueue.queue = result.batch :: rest)
    {remoteDocuments : ExtTreeMap DocumentKey (MaybeDocument V × SnapshotVersion)}
    (isSettled : ∀ (key : DocumentKey), remoteDocuments[key]? =
      if result.batch.affects key then settled result store.remoteDocuments[key]? key
      else store.remoteDocuments[key]?) (key : DocumentKey)
    (newer : result.batch.affects key = true →
      (store.remoteDocument key).all (fun doc => doc.version < result.docVersion key)) :
    dataOf (({ store with remoteDocuments := remoteDocuments }.popped result.batch rest).seen key) =
      dataOf (store.seen key) := by
  have ofStore := issued.mutationsOf key
  rw [queued, mutationsOf_cons, List.forall_mem_append] at ofStore
  rw [seen_popped, seen, queued, mutationsOf_cons key result.batch rest, overlay_append,
    dataOf_overlay ofStore.2, dataOf_overlay ofStore.2, dataOf_overlay ofStore.1]
  congr 1
  unfold remoteDocument at newer ⊢
  dsimp only
  rw [isSettled]
  refine dataOf_acknowledged ?_ _ key newer
  intro mutation member
  exact issued result.batch (by rw [queued]; exact List.mem_cons_self) mutation member

end Acknowledged

/-! ### Collections -/

section Collections

variable {store : LocalStore V} {query : Query V}

private theorem getMatching_eq (query : Query V) (sound : store.Sound) (key : DocumentKey) :
    (store.getMatching query 0)[key]? =
      (visible (store.remoteDocument key)).filter (query.matches key) := by
  unfold getMatching remoteDocument
  rw [ExtTreeMap.getElem?_filterMap']
  cases cached : store.remoteDocuments[key]? with
  | none => rfl
  | some entry =>
      have positive := sound.readTimes key entry cached
      rw [Option.bind_some, if_neg (Nat.not_le.mpr positive)]
      rfl

/-- A document that some pending mutation patches is found whether or not it matches. -/
private theorem addMissingBaseDocuments_eq (sound : store.Sound)
    (batches : List (MutationBatch V)) (key : DocumentKey) :
    (store.addMissingBaseDocuments batches (store.getMatching query 0))[key]? =
      if (mutationsOf key batches).any (fun mutation => mutation.operation.isPatch) then
        visible (store.remoteDocument key)
      else (visible (store.remoteDocument key)).filter (query.matches key) := by
  have own : Own id store.addMissingBaseDocument := by
    intro map item other different
    change other ≠ item at different
    unfold addMissingBaseDocument
    split
    · rw [getElem?_insert_self_or_ne, if_neg different]
    · rfl
  have missing : key ∈ (missingDocKeys batches (store.getMatching query 0)).toList ↔
      (mutationsOf key batches).any (fun mutation => mutation.operation.isPatch) = true ∧
        (store.getMatching query 0)[key]? = none := by
    rw [ExtTreeSet.mem_toList, missingDocKeys, ExtTreeSet.mem_ofList, List.contains_iff_mem,
      List.mem_map, List.any_eq_true]
    constructor
    · rintro ⟨mutation, member, rfl⟩
      obtain ⟨within, isMissing⟩ := List.mem_filter.mp member
      rw [Bool.and_eq_true, Bool.not_eq_true', ExtTreeMap.contains_eq_isSome_getElem?,
        Option.isSome_eq_false_iff, Option.isNone_iff_eq_none] at isMissing
      exact ⟨⟨mutation, mem_mutationsOf.mpr ⟨List.mem_flatMap.mp within, rfl⟩, isMissing.1⟩,
        isMissing.2⟩
    · rintro ⟨⟨mutation, member, isPatch⟩, absent⟩
      obtain ⟨within, rfl⟩ := mem_mutationsOf.mp member
      refine ⟨mutation, List.mem_filter.mpr ⟨List.mem_flatMap.mpr within, ?_⟩, rfl⟩
      rw [Bool.and_eq_true, Bool.not_eq_true', ExtTreeMap.contains_eq_isSome_getElem?, absent]
      exact ⟨isPatch, rfl⟩
  have matching := getMatching_eq query sound key
  by_cases isMissing : key ∈ (missingDocKeys batches (store.getMatching query 0)).toList
  · have distinct : (missingDocKeys batches (store.getMatching query 0)).toList.Pairwise
        (fun left right => id left ≠ id right) := by
      refine (missingDocKeys batches (store.getMatching query 0)).distinct_toList.imp ?_
      rintro left right different rfl
      exact different ReflOrd.compare_self
    obtain ⟨earlier, same, result⟩ :=
      @Own.touched _ _ _ _ _ _ _ own _ (store.getMatching query 0) distinct key isMissing
    obtain ⟨patched, absent⟩ := missing.mp isMissing
    unfold addMissingBaseDocuments
    rw [if_pos patched]
    change ((missingDocKeys batches (store.getMatching query 0)).toList.foldl
      store.addMissingBaseDocument (store.getMatching query 0))[id key]? = _
    rw [result, addMissingBaseDocument]
    split
    · rename_i document found
      exact (getElem?_insert_self_or_ne.trans (if_pos rfl)).trans found.symm
    · rename_i notFound
      rw [same, notFound]
      exact absent
  · have absent : ∀ item ∈ (missingDocKeys batches (store.getMatching query 0)).toList,
        id item ≠ key := by
      rintro item member rfl
      exact isMissing member
    unfold addMissingBaseDocuments
    rw [own.untouched absent, matching]
    split
    · rename_i patched
      rw [missing, not_and, matching] at isMissing
      have present := isMissing patched
      cases found : visible (store.remoteDocument key) with
      | none =>
          rw [found] at present
          exact absurd rfl present
      | some document =>
          rw [found, Option.filter_some] at present
          rw [Option.filter_some]
          split
          · rfl
          · rename_i unmatched
            rw [if_neg unmatched] at present
            exact absurd rfl present
    · rfl

private theorem results_eq (mutations : List (Mutation V)) (results : DocumentMap V)
    {key : DocumentKey} (child : isImmediateParentOf query.path key = true) :
    (mutations.foldl (applyToResults query) results)[key]? =
      overlay (mutations.filter (fun mutation => mutation.key = key)) results[key]? := by
  induction mutations generalizing results with
  | nil => rfl
  | cons mutation rest ih =>
      rw [List.foldl_cons, ih, List.filter_cons]
      by_cases isKey : mutation.key = key
      · rw [if_pos (decide_eq_true isKey)]
        unfold overlay
        rw [List.foldl_cons]
        congr 1
        rw [applyToResults, isKey, if_pos child]
        change _ = visible (mutation.applyToLocalView (results[key]?.map .existing))
        split
        · rename_i document found
          exact (getElem?_insert_self_or_ne.trans (if_pos rfl)).trans found.symm
        · rename_i notFound
          exact (getElem?_erase_self_or_ne.trans (if_pos rfl)).trans notFound.symm
      · rw [if_neg (fun same => isKey (of_decide_eq_true same))]
        congr 1
        have different : key ≠ mutation.key := fun same => isKey same.symm
        unfold applyToResults
        split
        · split
          · rw [getElem?_insert_self_or_ne, if_neg different]
          · rw [getElem?_erase_self_or_ne, if_neg different]
        · rfl

/-- The scan of a collection finds the data of each of its documents as readers see it. -/
theorem collectionQuery_spec (sound : store.Sound) (issued : store.IssuedWrites) :
    ∃ docs, store.getDocumentsMatchingCollectionQuery query 0 = .ok docs ∧
      ∀ (key : DocumentKey), dataOf docs[key]? =
        dataOf ((store.seen key).filter (query.matches key)) := by
  unfold getDocumentsMatchingCollectionQuery
  rw [sound.queue.affectingQuery]
  refine ⟨_, rfl, ?_⟩
  intro key
  rw [ExtTreeMap.getElem?_filter']
  cases child : isImmediateParentOf query.path key with
  | false =>
      have unmatched : query.matches key = fun _ => false := by
        funext document
        rw [Query.matches, child, Bool.false_and]
      have nothing (seen : Option (Document V)) : seen.filter (fun _ => false) = none := by
        cases seen <;> rfl
      rw [unmatched, nothing, nothing]
  | true =>
      have keeps : ∀ batch : MutationBatch V, batch.affects key = true →
          batch.mutations.any (fun mutation => isImmediateParentOf query.path mutation.key) =
            true := by
        intro batch affects
        obtain ⟨mutation, member, isKey⟩ := (batch.affects_iff key).mp affects
        exact List.any_eq_true.mpr ⟨mutation, member, by rw [isKey]; exact child⟩
      have pending := mutationsOf_filter key store.mutationQueue.queue keeps
      have issuedOf := issued.mutationsOf key
      rw [results_eq _ _ child, List.filter_flatMap]
      change dataOf ((overlay (mutationsOf key _) _).filter _) = _
      rw [addMissingBaseDocuments_eq sound, pending, seen, dataOf_filter, dataOf_filter,
        dataOf_overlay issuedOf, dataOf_overlay issuedOf]
      cases patched : (mutationsOf key store.mutationQueue.queue).any
          (fun mutation => mutation.operation.isPatch) with
      | true => rw [if_pos rfl]
      | false =>
          rw [if_neg Bool.false_ne_true]
          by_cases none : mutationsOf key store.mutationQueue.queue = []
          · rw [none]
            change (dataOf _).filter _ = (dataOf _).filter _
            rw [← dataOf_filter, ← dataOf_filter, Option.filter_filter]
            simp only [Bool.and_self]
          · congr 1
            apply dataOverlay_of_noPatch none
            intro mutation member
            rw [List.any_eq_false] at patched
            exact Bool.eq_false_iff.mpr (patched mutation member)

end Collections

end LocalStore

end InstagramProject.Firestore
