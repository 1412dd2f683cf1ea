/-
The queue of the writes the backend has not answered, with an index from documents
to the batches that change them.  It is `MemoryMutationQueue`; the queue on disk keeps
a user's batches in the same order.  A failed `HARD_ASSERT` is an error with its text.
-/

import InstagramProject.Firestore.Mutations
import InstagramProject.Firestore.Scans
import Mathlib.Data.List.ReduceOption
import Mathlib.Data.List.Sort

namespace InstagramProject.Firestore

open Std Scans

abbrev Checked := Except String

def hardAssert (condition : Bool) (message : String) : Checked Unit :=
  if condition then .ok () else .error message

/-! ### The index -/

structure DocumentKeyReference where
  key : DocumentKey
  refId : Int
deriving DecidableEq

/-- `DocumentKeyReference::ByKey`. -/
instance documentKeyReference_ord : Ord DocumentKeyReference where
  compare := compareLex (compareOn DocumentKeyReference.key) (compareOn DocumentKeyReference.refId)

instance documentKeyReference_transOrd : TransOrd DocumentKeyReference :=
  inferInstanceAs (TransCmp (compareLex _ _))

theorem compare_reference (left right : DocumentKeyReference) :
    compare left right = (compare left.key right.key).then (compare left.refId right.refId) := rfl

instance documentKeyReference_lawfulEqOrd : LawfulEqOrd DocumentKeyReference where
  eq_of_compare := by
    intro left right same
    rw [compare_reference, Ordering.then_eq_eq] at same
    obtain ⟨leftKey, leftId⟩ := left
    obtain ⟨rightKey, rightId⟩ := right
    rw [DocumentKeyReference.mk.injEq]
    exact ⟨LawfulEqCmp.eq_of_compare same.1, LawfulEqCmp.eq_of_compare same.2⟩

structure MutationQueue (V : Values) where
  queue : List (MutationBatch V)
  nextBatchId : Int
  batchesByDocumentKey : ExtTreeSet DocumentKeyReference

variable {V : Values}

namespace MutationQueue

def empty : MutationQueue V :=
  { queue := [], nextBatchId := 1, batchesByDocumentKey := ∅ }

def isEmpty (pending : MutationQueue V) : Bool := pending.queue.isEmpty

def start (pending : MutationQueue V) : MutationQueue V :=
  if pending.isEmpty then { pending with nextBatchId := 1 } else pending

/-- Only the head of the queue can be acknowledged. -/
def acknowledgeBatch (pending : MutationQueue V) (batch : MutationBatch V) : Checked Unit :=
  match pending.queue with
  | [] => .error "Cannot acknowledge batch on an empty queue"
  | check :: _ =>
      hardAssert (batch.batchId = check.batchId)
        "Queue ordering failure: expected batch %s, got batch %s"

/-- `push_back`, with the references of the batch. -/
def push (pending : MutationQueue V) (batch : MutationBatch V) : MutationQueue V :=
  { queue := pending.queue ++ [batch]
    nextBatchId := pending.nextBatchId + 1
    batchesByDocumentKey := batch.mutations.foldl (fun references mutation =>
      references.insert { key := mutation.key, refId := batch.batchId })
      pending.batchesByDocumentKey }

def addMutationBatch (pending : MutationQueue V) (mutations : List (Mutation V)) :
    Checked (MutationQueue V × MutationBatch V) :=
  if nonempty : mutations ≠ [] then do
    let batch : MutationBatch V :=
      { batchId := pending.nextBatchId, mutations := mutations, nonempty := nonempty }
    hardAssert (pending.queue.getLast?.all (fun prior => prior.batchId < batch.batchId))
      "Mutation batch_ids must be in monotonically increasing order"
    pure (pending.push batch, batch)
  else .error "Mutation batches should not be empty"

/-- The queue behind its first batch, without the references of a batch. -/
def pop (pending : MutationQueue V) (rest : List (MutationBatch V))
    (batch : MutationBatch V) : MutationQueue V :=
  { pending with
    queue := rest
    batchesByDocumentKey := batch.mutations.foldl (fun references mutation =>
      references.erase { key := mutation.key, refId := batch.batchId })
      pending.batchesByDocumentKey }

def removeMutationBatch (pending : MutationQueue V) (batch : MutationBatch V) :
    Checked (MutationQueue V) :=
  match pending.queue with
  | [] => .error "Trying to remove batch from empty queue"
  | head :: rest => do
      hardAssert (head.batchId = batch.batchId)
        "Can only remove the first entry of the mutation queue"
      pure (pending.pop rest batch)

def performConsistencyCheck (pending : MutationQueue V) : Checked Unit :=
  hardAssert (!pending.queue.isEmpty || pending.batchesByDocumentKey.isEmpty)
    "Document leak -- detected dangling mutation references when queue is empty."

def indexOfBatchId (pending : MutationQueue V) (batchId : Int) : Int :=
  match pending.queue with
  | [] => 0
  | firstBatch :: _ => batchId - firstBatch.batchId

def lookupMutationBatch (pending : MutationQueue V) (batchId : Int) :
    Checked (Option (MutationBatch V)) :=
  let index := pending.indexOfBatchId batchId
  if index < 0 then .ok none
  else
    match pending.queue[index.toNat]? with
    | none => .ok none
    | some batch => do
        hardAssert (batch.batchId = batchId) "If found, batch must match"
        pure (some batch)

def nextMutationBatchAfterBatchId (pending : MutationQueue V) (batchId : Int) :
    Option (MutationBatch V) :=
  let rawIndex := pending.indexOfBatchId (batchId + 1)
  pending.queue[rawIndex.toNat]?

/-- `none` is `kBatchIdUnknown`. -/
def getHighestUnacknowledgedBatchId (pending : MutationQueue V) : Option Int :=
  if pending.isEmpty then none else some (pending.nextBatchId - 1)

def allMutationBatchesWithIds (pending : MutationQueue V) (batchIds : ExtTreeSet Int) :
    Checked (List (MutationBatch V)) :=
  (batchIds.toList.mapM pending.lookupMutationBatch).map List.reduceOption

/-- The references found from a document on, as long as the test holds. -/
def referencesFrom (pending : MutationQueue V) (start : DocumentKey)
    (within : DocumentKeyReference → Bool) : List DocumentKeyReference :=
  (valuesFrom pending.batchesByDocumentKey.toList { key := start, refId := 0 }).takeWhile within

def allMutationBatchesAffectingDocumentKey (pending : MutationQueue V) (key : DocumentKey) :
    Checked (List (MutationBatch V)) :=
  (pending.referencesFrom key (fun reference => reference.key = key)).mapM (fun reference => do
    match ← pending.lookupMutationBatch reference.refId with
    | some batch => pure batch
    | none => .error "Batches in the index must exist in the main table")

def allMutationBatchesAffectingDocumentKeys (pending : MutationQueue V)
    (documentKeys : ExtTreeSet DocumentKey) : Checked (List (MutationBatch V)) :=
  pending.allMutationBatchesWithIds (ExtTreeSet.ofList (documentKeys.toList.flatMap (fun key =>
    (pending.referencesFrom key (fun reference => reference.key = key)).map
      DocumentKeyReference.refId)))

/-- For the query of all documents of a collection.  A collection's path is no
document's key, so the scan starts at its path with an empty segment. -/
def allMutationBatchesAffectingQuery (pending : MutationQueue V) (collection : ResourcePath) :
    Checked (List (MutationBatch V)) :=
  pending.allMutationBatchesWithIds (ExtTreeSet.ofList
    (((pending.referencesFrom (collection ++ [""])
      (fun reference => collection.isPrefixOf reference.key)).filter
        (fun reference => reference.key.length = collection.length + 1)).map
          DocumentKeyReference.refId))

/-! ### Ids and index -/

/-- The ids count up to the next one, and the index has the documents of each batch
and nothing else. -/
structure Coherent (pending : MutationQueue V) : Prop where
  ids : ∀ (index : Nat) (batch : MutationBatch V), pending.queue[index]? = some batch →
    batch.batchId = pending.nextBatchId - pending.queue.length + index
  positive : 0 < pending.nextBatchId - pending.queue.length
  references : ∀ reference, reference ∈ pending.batchesByDocumentKey ↔
    ∃ batch ∈ pending.queue, batch.batchId = reference.refId ∧ batch.affects reference.key = true

section Lookups

variable {pending : MutationQueue V}

theorem Coherent.sorted (coherent : pending.Coherent) :
    pending.queue.Pairwise (fun earlier later => earlier.batchId < later.batchId) := by
  rw [List.pairwise_iff_getElem]
  intro earlier later earlierBound laterBound order
  rw [coherent.ids earlier _ (List.getElem?_eq_getElem earlierBound),
    coherent.ids later _ (List.getElem?_eq_getElem laterBound)]
  omega

theorem Coherent.indexOfBatchId_eq (coherent : pending.Coherent) (batchId : Int)
    (nonempty : pending.queue ≠ []) :
    pending.indexOfBatchId batchId = batchId - (pending.nextBatchId - pending.queue.length) := by
  unfold indexOfBatchId
  cases queued : pending.queue with
  | nil => exact absurd queued nonempty
  | cons firstBatch rest =>
      have isFirst := coherent.ids 0 firstBatch (by rw [queued]; rfl)
      rw [queued] at isFirst
      dsimp only
      omega

/-- A lookup finds the batch with the id, wherever it is in the queue, and no other. -/
theorem Coherent.lookup (coherent : pending.Coherent) (batchId : Int) :
    ∃ found, pending.lookupMutationBatch batchId = .ok found ∧
      ∀ batch, found = some batch ↔ batch ∈ pending.queue ∧ batch.batchId = batchId := by
  have idOf : ∀ batch ∈ pending.queue, ∃ index : Nat, pending.queue[index]? = some batch ∧
      batch.batchId = pending.nextBatchId - pending.queue.length + index := by
    intro batch member
    obtain ⟨index, at'⟩ := List.mem_iff_getElem?.mp member
    exact ⟨index, at', coherent.ids index batch at'⟩
  unfold lookupMutationBatch
  by_cases noBatch : pending.queue = []
  · refine ⟨none, ?_, ?_⟩
    · simp only [indexOfBatchId, noBatch, List.getElem?_nil, ite_self]
    · intro batch
      rw [noBatch]
      exact iff_of_false (Option.some_ne_none _).symm (fun found => by cases found.1)
  · have index := coherent.indexOfBatchId_eq batchId noBatch
    dsimp only
    split
    · rename_i negative
      refine ⟨none, rfl, ?_⟩
      intro batch
      refine iff_of_false (Option.some_ne_none _).symm ?_
      rintro ⟨member, rfl⟩
      obtain ⟨position, _, isId⟩ := idOf batch member
      omega
    · rename_i within
      split
      · rename_i missing
        refine ⟨none, rfl, ?_⟩
        intro batch
        refine iff_of_false (Option.some_ne_none _).symm ?_
        rintro ⟨member, rfl⟩
        obtain ⟨position, found, isId⟩ := idOf batch member
        have same : (pending.indexOfBatchId batch.batchId).toNat = position := by omega
        rw [same, found] at missing
        cases missing
      · rename_i batch found
        have isId := coherent.ids _ batch found
        have same : batch.batchId = batchId := by omega
        refine ⟨some batch, ?_, ?_⟩
        · simp only [hardAssert, same, decide_true, if_true]
          rfl
        · intro other
          rw [Option.some.injEq]
          constructor
          · rintro rfl
            exact ⟨List.mem_of_getElem? found, same⟩
          · rintro ⟨member, rfl⟩
            obtain ⟨position, foundToo, isIdToo⟩ := idOf other member
            have samePosition : (pending.indexOfBatchId other.batchId).toNat = position := by omega
            rw [samePosition, foundToo] at found
            exact (Option.some.inj found).symm

/-- A sorted list of batches of the queue is all of those that pass a test. -/
private theorem eq_filter (coherent : pending.Coherent) {batches : List (MutationBatch V)}
    {test : MutationBatch V → Bool}
    (sorted : batches.Pairwise (fun earlier later => earlier.batchId < later.batchId))
    (found : ∀ batch, batch ∈ batches ↔ batch ∈ pending.queue ∧ test batch = true) :
    batches = pending.queue.filter test := by
  have irrefl : Std.Irrefl (fun earlier later : MutationBatch V =>
      earlier.batchId < later.batchId) := ⟨fun _ => lt_irrefl _⟩
  have asymm : Std.Antisymm (fun earlier later : MutationBatch V =>
      earlier.batchId < later.batchId) :=
    ⟨fun _ _ forward backward => absurd backward (lt_asymm forward)⟩
  refine sorted.eq_of_mem_iff (coherent.sorted.filter test) ?_
  intro batch
  rw [found, List.mem_filter]

/-- Looked up in the order of their ids, the batches come in the order of the queue. -/
theorem Coherent.withIds (coherent : pending.Coherent) (batchIds : ExtTreeSet Int) :
    pending.allMutationBatchesWithIds batchIds =
      .ok (pending.queue.filter (fun batch => batch.batchId ∈ batchIds)) := by
  choose found lookup isFound using coherent.lookup
  have looked : batchIds.toList.mapM pending.lookupMutationBatch =
      .ok (batchIds.toList.map found) := by
    rw [funext lookup]
    exact List.mapM_pure
  unfold allMutationBatchesWithIds
  rw [looked, Except.map]
  refine congrArg _ (eq_filter coherent ?_ ?_)
  · have ordered : batchIds.toList.Pairwise (fun earlier later => earlier < later) := by
      refine batchIds.ordered_toList.imp ?_
      intro earlier later less
      exact compare_lt_iff_lt.mp less
    rw [List.reduceOption, List.filterMap_map]
    refine List.Pairwise.filterMap _ ?_ ordered
    intro earlier later less first isFirst second isSecond
    rw [((isFound earlier first).mp isFirst).2, ((isFound later second).mp isSecond).2]
    exact less
  · intro batch
    rw [List.reduceOption_mem_iff, List.mem_map, decide_eq_true_iff, ← ExtTreeSet.mem_toList]
    constructor
    · rintro ⟨batchId, member, isBatch⟩
      obtain ⟨queued, rfl⟩ := (isFound batchId batch).mp isBatch
      exact ⟨queued, member⟩
    · rintro ⟨queued, member⟩
      exact ⟨batch.batchId, member, (isFound _ _).mpr ⟨queued, rfl⟩⟩

theorem Coherent.refId_pos (coherent : pending.Coherent) {reference : DocumentKeyReference}
    (indexed : reference ∈ pending.batchesByDocumentKey) : 0 < reference.refId := by
  obtain ⟨batch, queued, isId, _⟩ := (coherent.references reference).mp indexed
  obtain ⟨index, found⟩ := List.mem_iff_getElem?.mp queued
  have id := coherent.ids index batch found
  have positive := coherent.positive
  omega

/-- The references of a document follow one another, and the first has a positive id. -/
theorem Coherent.referencesFrom_key (coherent : pending.Coherent) (key : DocumentKey) :
    pending.referencesFrom key (fun reference => reference.key = key) =
      pending.batchesByDocumentKey.toList.filter (fun reference => reference.key = key) := by
  apply scan_eq_filter pending.batchesByDocumentKey.ordered_toList
  · intro lower upper above below isKey
    have isKey := of_decide_eq_true isKey
    rw [compare_reference, Ordering.then_eq_lt] at below
    rw [← Bool.not_eq_true, Ordering.isLT_iff_eq_lt, compare_reference, Ordering.then_eq_lt,
      not_or] at above
    rw [decide_eq_true_iff]
    rcases below with below | ⟨same, _⟩
    · rw [isKey] at below
      exact absurd below above.1
    · rw [LawfulEqCmp.eq_of_compare same, isKey]
  · intro reference member isKey
    have isKey := of_decide_eq_true isKey
    have positive := coherent.refId_pos (ExtTreeSet.mem_toList.mp member)
    rw [← Bool.not_eq_true, Ordering.isLT_iff_eq_lt, compare_reference, isKey,
      ReflOrd.compare_self, Ordering.then_eq_lt]
    rintro (impossible | ⟨_, negative⟩)
    · cases impossible
    · have negative := compare_lt_iff_lt.mp negative
      dsimp only at negative
      omega

private theorem mapM_filterMap {α β : Type} {read : α → Checked β} {value : α → Option β}
    {items : List α} (reads : ∀ item ∈ items, ∃ found, read item = .ok found ∧
      value item = some found) : items.mapM read = .ok (items.filterMap value) := by
  induction items with
  | nil => rfl
  | cons item rest ih =>
      rw [List.forall_mem_cons] at reads
      obtain ⟨⟨found, isRead, isValue⟩, later⟩ := reads
      rw [List.mapM_cons, isRead, ih later, List.filterMap_cons, isValue]
      rfl

/-- The batches of a document, in the order in which they were written. -/
theorem Coherent.affectingDocumentKey (coherent : pending.Coherent) (key : DocumentKey) :
    pending.allMutationBatchesAffectingDocumentKey key =
      .ok (pending.queue.filter (fun batch => batch.affects key)) := by
  choose found lookup isFound using coherent.lookup
  unfold allMutationBatchesAffectingDocumentKey
  rw [coherent.referencesFrom_key, @mapM_filterMap _ _ _ (fun reference => found reference.refId)]
  · refine congrArg _ (eq_filter coherent ?_ ?_)
    · have ordered : (pending.batchesByDocumentKey.toList.filter
          (fun reference => reference.key = key)).Pairwise
            (fun earlier later => earlier.refId < later.refId) := by
        refine (pending.batchesByDocumentKey.ordered_toList.filter _).imp_of_mem ?_
        intro earlier later earlierMember laterMember less
        have earlierKey := of_decide_eq_true (List.mem_filter.mp earlierMember).2
        have laterKey := of_decide_eq_true (List.mem_filter.mp laterMember).2
        rw [compare_reference, earlierKey, laterKey, ReflOrd.compare_self] at less
        exact compare_lt_iff_lt.mp less
      refine List.Pairwise.filterMap _ ?_ ordered
      intro earlier later less first isFirst second isSecond
      rw [((isFound _ first).mp isFirst).2, ((isFound _ second).mp isSecond).2]
      exact less
    · intro batch
      rw [List.mem_filterMap]
      constructor
      · rintro ⟨reference, member, isBatch⟩
        obtain ⟨queued, isId⟩ := (isFound _ batch).mp isBatch
        obtain ⟨indexed, isKey⟩ := List.mem_filter.mp member
        obtain ⟨other, otherQueued, otherId, affects⟩ :=
          (coherent.references reference).mp (ExtTreeSet.mem_toList.mp indexed)
        have same := Option.some.inj
          (((isFound _ other).mpr ⟨otherQueued, otherId⟩).symm.trans isBatch)
        rw [← same, ← of_decide_eq_true isKey]
        exact ⟨otherQueued, affects⟩
      · rintro ⟨queued, affects⟩
        refine ⟨⟨key, batch.batchId⟩, List.mem_filter.mpr ⟨?_, decide_eq_true rfl⟩,
          (isFound _ batch).mpr ⟨queued, rfl⟩⟩
        exact ExtTreeSet.mem_toList.mpr ((coherent.references _).mpr ⟨batch, queued, rfl, affects⟩)
  · intro reference member
    obtain ⟨batch, queued, isId, _⟩ := (coherent.references reference).mp
      (ExtTreeSet.mem_toList.mp (List.mem_filter.mp member).1)
    have isBatch := (isFound _ batch).mpr ⟨queued, isId⟩
    refine ⟨batch, ?_, isBatch⟩
    rw [lookup, isBatch]
    rfl

/-- The ids in some references pick the batches with those references. -/
private theorem withReferences (coherent : pending.Coherent) (batchIds : List Int)
    {test : MutationBatch V → Bool}
    (picked : ∀ batch ∈ pending.queue, batch.batchId ∈ batchIds ↔ test batch = true) :
    pending.allMutationBatchesWithIds (ExtTreeSet.ofList batchIds) =
      .ok (pending.queue.filter test) := by
  rw [coherent.withIds]
  refine congrArg _ (List.filter_congr ?_)
  intro batch queued
  rw [Bool.eq_iff_iff, decide_eq_true_iff, ExtTreeSet.mem_ofList, List.contains_iff_mem,
    picked batch queued]

theorem Coherent.indexed (coherent : pending.Coherent) {batch : MutationBatch V}
    (queued : batch ∈ pending.queue) (key : DocumentKey) :
    { key := key, refId := batch.batchId } ∈ pending.batchesByDocumentKey ↔
      batch.affects key = true := by
  obtain ⟨found, _, isFound⟩ := coherent.lookup batch.batchId
  rw [coherent.references]
  constructor
  · rintro ⟨other, otherQueued, same, affects⟩
    have isOther := (isFound other).mpr ⟨otherQueued, same⟩
    rw [(isFound batch).mpr ⟨queued, rfl⟩, Option.some.injEq] at isOther
    rw [isOther]
    exact affects
  · intro affects
    exact ⟨batch, queued, rfl, affects⟩

/-- The batches of some documents, each once, in the order in which they were written. -/
theorem Coherent.affectingDocumentKeys (coherent : pending.Coherent)
    (documentKeys : ExtTreeSet DocumentKey) :
    pending.allMutationBatchesAffectingDocumentKeys documentKeys =
      .ok (pending.queue.filter (fun batch => documentKeys.toList.any batch.affects)) := by
  apply withReferences coherent
  intro batch queued
  rw [List.mem_flatMap, List.any_eq_true]
  constructor
  · rintro ⟨key, member, referenced⟩
    rw [coherent.referencesFrom_key, List.mem_map] at referenced
    obtain ⟨⟨referenceKey, refId⟩, found, rfl⟩ := referenced
    obtain ⟨indexed, isKey⟩ := List.mem_filter.mp found
    have isKey : referenceKey = key := of_decide_eq_true isKey
    subst isKey
    exact ⟨referenceKey, member,
      (coherent.indexed queued referenceKey).mp (ExtTreeSet.mem_toList.mp indexed)⟩
  · rintro ⟨key, member, affects⟩
    refine ⟨key, member, ?_⟩
    rw [coherent.referencesFrom_key, List.mem_map]
    refine ⟨⟨key, batch.batchId⟩, List.mem_filter.mpr ⟨?_, decide_eq_true rfl⟩, rfl⟩
    exact ExtTreeSet.mem_toList.mpr ((coherent.indexed queued key).mpr affects)

private theorem compare_empty (segment : String) : compare segment "" ≠ .lt := by
  intro less
  have less : compareOfLessAndEq segment "" = .lt := less
  rw [compareOfLessAndEq_eq_lt] at less
  exact List.not_lt_nil _ less

theorem Coherent.referencesFrom_collection (coherent : pending.Coherent)
    (collection : ResourcePath) :
    (pending.referencesFrom (collection ++ [""])
      (fun reference => collection.isPrefixOf reference.key)).filter
        (fun reference => reference.key.length = collection.length + 1) =
      pending.batchesByDocumentKey.toList.filter (fun reference =>
        isImmediateParentOf collection reference.key) := by
  unfold referencesFrom
  refine Eq.trans ?_ (@filter_scan DocumentKeyReference _ pending.batchesByDocumentKey.toList
    { key := collection ++ [""], refId := 0 } (fun reference => collection.isPrefixOf reference.key)
    (fun reference => isImmediateParentOf collection reference.key) _
    pending.batchesByDocumentKey.ordered_toList ?_ ?_ ?_)
  · refine List.filter_congr ?_
    intro reference member
    have inside := List.all_eq_true.mp List.all_takeWhile reference member
    rw [isImmediateParentOf, inside, Bool.and_true]
  · intro lower upper above below inside
    rw [← Bool.not_eq_true, Ordering.isLT_iff_eq_lt, compare_reference, Ordering.then_eq_lt,
      not_or] at above
    rw [compare_reference, Ordering.then_eq_lt] at below
    refine isPrefixOf_of_between [""] above.1 ?_ inside
    intro greater
    rcases below with less | ⟨same, _⟩
    · rw [greater] at less
      cases less
    · rw [greater] at same
      cases same
  · intro reference parent
    rw [isImmediateParentOf, Bool.and_eq_true] at parent
    exact parent.2
  · intro reference member parent
    obtain ⟨segment, isChild⟩ := exists_segment_of_isImmediateParentOf parent
    rw [← Bool.not_eq_true, Ordering.isLT_iff_eq_lt, compare_reference, isChild,
      compare_append_left, List.compare_cons_cons, Ordering.then_eq_lt]
    rintro (less | ⟨_, negative⟩)
    · rw [Ordering.then_eq_lt] at less
      rcases less with less | ⟨_, less⟩
      · exact compare_empty segment less
      · cases less
    · have positive := coherent.refId_pos (ExtTreeSet.mem_toList.mp member)
      have negative := compare_lt_iff_lt.mp negative
      dsimp only at negative
      omega

/-- The batches with a document of a collection, each once, in the order in which they
were written. -/
theorem Coherent.affectingQuery (coherent : pending.Coherent) (collection : ResourcePath) :
    pending.allMutationBatchesAffectingQuery collection =
      .ok (pending.queue.filter (fun batch =>
        batch.mutations.any (fun mutation => isImmediateParentOf collection mutation.key))) := by
  apply withReferences coherent
  intro batch queued
  rw [coherent.referencesFrom_collection, List.mem_map, List.any_eq_true]
  constructor
  · rintro ⟨⟨key, refId⟩, found, rfl⟩
    obtain ⟨indexed, parent⟩ := List.mem_filter.mp found
    obtain ⟨mutation, member, isKey⟩ := (batch.affects_iff key).mp
      ((coherent.indexed queued key).mp (ExtTreeSet.mem_toList.mp indexed))
    refine ⟨mutation, member, ?_⟩
    rw [isKey]
    exact parent
  · rintro ⟨mutation, member, parent⟩
    refine ⟨⟨mutation.key, batch.batchId⟩, List.mem_filter.mpr ⟨?_, parent⟩, rfl⟩
    exact ExtTreeSet.mem_toList.mpr ((coherent.indexed queued mutation.key).mpr
      ((batch.affects_iff _).mpr ⟨mutation, member, rfl⟩))

/-- The batch after an id, or the first one after all the ids that are gone. -/
theorem Coherent.next (coherent : pending.Coherent) (batchId : Int) :
    pending.nextMutationBatchAfterBatchId batchId =
      pending.queue.find? (fun batch => batchId < batch.batchId) := by
  unfold nextMutationBatchAfterBatchId
  by_cases noBatch : pending.queue = []
  · rw [noBatch]
    rfl
  · have index := coherent.indexOfBatchId_eq (batchId + 1) noBatch
    dsimp only
    symm
    cases found : pending.queue[(pending.indexOfBatchId (batchId + 1)).toNat]? with
    | some batch =>
        obtain ⟨bound, isBatch⟩ := List.getElem?_eq_some_iff.mp found
        have isId := coherent.ids _ batch found
        rw [List.find?_eq_some_iff_getElem]
        refine ⟨decide_eq_true (by omega), _, bound, isBatch, ?_⟩
        intro position before
        have earlierId := coherent.ids position _
          (List.getElem?_eq_getElem (Nat.lt_trans before bound))
        rw [Bool.not_eq_true', decide_eq_false_iff_not]
        omega
    | none =>
        rw [List.getElem?_eq_none_iff] at found
        rw [List.find?_eq_none]
        intro batch queued
        obtain ⟨position, at'⟩ := List.mem_iff_getElem?.mp queued
        obtain ⟨bound, _⟩ := List.getElem?_eq_some_iff.mp at'
        have isId := coherent.ids position batch at'
        rw [decide_eq_true_iff]
        omega

end Lookups

/-! ### What the operations keep -/

section Operations

variable {pending : MutationQueue V}

theorem coherent_empty : (empty : MutationQueue V).Coherent where
  ids index batch found := by cases found
  positive := Int.zero_lt_one
  references reference :=
    iff_of_false ExtTreeSet.not_mem_empty (fun ⟨_, queued, _⟩ => by cases queued)

theorem Coherent.start (coherent : pending.Coherent) : pending.start.Coherent := by
  unfold MutationQueue.start
  split
  · rename_i noBatch
    have noBatch : pending.queue = [] := List.isEmpty_iff.mp noBatch
    refine ⟨?_, ?_, coherent.references⟩
    · intro index batch found
      rw [noBatch] at found
      cases found
    · dsimp only
      rw [noBatch]
      exact Int.zero_lt_one
  · exact coherent

private theorem mem_insert_all {mutations : List (Mutation V)} {batchId : Int}
    {references : ExtTreeSet DocumentKeyReference} (reference : DocumentKeyReference) :
    reference ∈ mutations.foldl (fun references mutation =>
        references.insert { key := mutation.key, refId := batchId }) references ↔
      reference ∈ references ∨
        reference.refId = batchId ∧ ∃ mutation ∈ mutations, mutation.key = reference.key := by
  induction mutations generalizing references with
  | nil => simp only [List.foldl_nil, List.not_mem_nil, false_and, exists_false, and_false, or_false]
  | cons mutation rest ih =>
      rw [List.foldl_cons, ih, ExtTreeSet.mem_insert, LawfulEqCmp.compare_eq_iff_eq]
      obtain ⟨key, refId⟩ := reference
      simp only [DocumentKeyReference.mk.injEq, List.exists_mem_cons_iff]
      constructor
      · rintro ((⟨rfl, rfl⟩ | earlier) | ⟨rfl, later⟩)
        · exact .inr ⟨rfl, .inl rfl⟩
        · exact .inl earlier
        · exact .inr ⟨rfl, .inr later⟩
      · rintro (earlier | ⟨rfl, rfl | later⟩)
        · exact .inl (.inr earlier)
        · exact .inl (.inl ⟨rfl, rfl⟩)
        · exact .inr ⟨rfl, later⟩

private theorem mem_erase_all {mutations : List (Mutation V)} {batchId : Int}
    {references : ExtTreeSet DocumentKeyReference} (reference : DocumentKeyReference) :
    reference ∈ mutations.foldl (fun references mutation =>
        references.erase { key := mutation.key, refId := batchId }) references ↔
      reference ∈ references ∧
        ¬(reference.refId = batchId ∧ ∃ mutation ∈ mutations, mutation.key = reference.key) := by
  induction mutations generalizing references with
  | nil =>
      simp only [List.foldl_nil, List.not_mem_nil, false_and, exists_false, and_false,
        not_false_eq_true, and_true]
  | cons mutation rest ih =>
      rw [List.foldl_cons, ih, ExtTreeSet.mem_erase, Ne, LawfulEqCmp.compare_eq_iff_eq]
      obtain ⟨key, refId⟩ := reference
      simp only [DocumentKeyReference.mk.injEq, List.exists_mem_cons_iff]
      constructor
      · rintro ⟨⟨notFirst, earlier⟩, notLater⟩
        refine ⟨earlier, ?_⟩
        rintro ⟨rfl, rfl | later⟩
        · exact notFirst ⟨rfl, rfl⟩
        · exact notLater ⟨rfl, later⟩
      · rintro ⟨earlier, none⟩
        refine ⟨⟨?_, earlier⟩, ?_⟩
        · rintro ⟨rfl, rfl⟩
          exact none ⟨rfl, .inl rfl⟩
        · rintro ⟨rfl, later⟩
          exact none ⟨rfl, .inr later⟩

/-- A batch is put at the end under the next id; no assertion fails. -/
theorem Coherent.add (coherent : pending.Coherent) {mutations : List (Mutation V)}
    (nonempty : mutations ≠ []) :
    pending.addMutationBatch mutations =
      .ok (pending.push ⟨pending.nextBatchId, mutations, nonempty⟩,
        ⟨pending.nextBatchId, mutations, nonempty⟩) := by
  have increasing : (pending.queue.getLast?.all
      (fun prior => prior.batchId < pending.nextBatchId)) = true := by
    cases last : pending.queue.getLast? with
    | none => rfl
    | some prior =>
        rw [List.getLast?_eq_getElem?] at last
        have isId := coherent.ids _ prior last
        obtain ⟨bound, _⟩ := List.getElem?_eq_some_iff.mp last
        rw [Option.all_some, decide_eq_true_iff]
        omega
  simp only [addMutationBatch, dif_pos nonempty, hardAssert, increasing, if_true]
  rfl

theorem Coherent.push (coherent : pending.Coherent) {batch : MutationBatch V}
    (isNext : batch.batchId = pending.nextBatchId) : (pending.push batch).Coherent := by
  have length : (pending.queue ++ [batch]).length = pending.queue.length + 1 :=
    List.length_append
  unfold MutationQueue.push
  refine ⟨?_, ?_, ?_⟩
  · intro index other found
    dsimp only at found ⊢
    rw [length]
    rw [List.getElem?_append] at found
    split at found
    · have isId := coherent.ids index other found
      omega
    · rename_i beyond
      obtain ⟨bound, isBatch⟩ := List.getElem?_eq_some_iff.mp found
      rw [List.length_singleton] at bound
      have isLast : index - pending.queue.length = 0 := by omega
      rw [isLast] at found
      cases found
      omega
  · dsimp only
    rw [length]
    have positive := coherent.positive
    omega
  · intro reference
    dsimp only
    rw [mem_insert_all, coherent.references]
    simp only [List.mem_append, List.mem_singleton, or_and_right, exists_or, exists_eq_left,
      MutationBatch.affects_iff, eq_comm (b := reference.refId)]

/-- The head is taken off; no assertion fails. -/
theorem removeMutationBatch_head {head : MutationBatch V} {rest : List (MutationBatch V)}
    (queued : pending.queue = head :: rest) :
    pending.removeMutationBatch head = .ok (pending.pop rest head) := by
  simp only [removeMutationBatch, queued, hardAssert, decide_true, if_true]
  rfl

theorem Coherent.pop (coherent : pending.Coherent) {head : MutationBatch V}
    {rest : List (MutationBatch V)} (queued : pending.queue = head :: rest) :
    (pending.pop rest head).Coherent := by
  have length : pending.queue.length = rest.length + 1 := by
    rw [queued]
    rfl
  have positive := coherent.positive
  have ids : ∀ (index : Nat) (batch : MutationBatch V), rest[index]? = some batch →
      batch.batchId = pending.nextBatchId - rest.length + index := by
    intro index batch found
    have isId := coherent.ids (index + 1) batch (by rw [queued]; exact found)
    omega
  unfold MutationQueue.pop
  refine ⟨ids, ?_, ?_⟩
  · dsimp only
    omega
  · intro reference
    have isHead := coherent.ids 0 head (by rw [queued]; rfl)
    dsimp only
    rw [mem_erase_all, coherent.references, queued, List.exists_mem_cons_iff,
      ← MutationBatch.affects_iff]
    constructor
    · rintro ⟨first | later, notFirst⟩
      · exact absurd ⟨first.1.symm, first.2⟩ notFirst
      · exact later
    · rintro later
      refine ⟨.inr later, ?_⟩
      rintro ⟨sameId, _⟩
      obtain ⟨batch, member, isId, _⟩ := later
      obtain ⟨position, found⟩ := List.mem_iff_getElem?.mp member
      have id := ids position batch found
      omega

/-- Nothing stays in the index when the queue is empty. -/
theorem Coherent.consistent (coherent : pending.Coherent) :
    pending.performConsistencyCheck = .ok () := by
  unfold performConsistencyCheck hardAssert
  rw [if_pos]
  rw [Bool.or_eq_true, Bool.not_eq_true', ExtTreeSet.isEmpty_iff]
  cases queued : pending.queue with
  | cons head rest => exact .inl rfl
  | nil =>
      refine .inr (ExtTreeSet.ext_mem (fun reference => ?_))
      rw [coherent.references, queued]
      exact iff_of_false (fun ⟨_, member, _⟩ => by cases member) ExtTreeSet.not_mem_empty

end Operations

end MutationQueue

end InstagramProject.Firestore
