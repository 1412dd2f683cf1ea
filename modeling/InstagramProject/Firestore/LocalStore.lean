/-
The local store: the cached remote documents under the queue of writes.  Readers
see a document as the pending writes leave it.  Each operation returns the
documents it may have changed.
-/

import InstagramProject.Firestore.MutationQueue

namespace InstagramProject.Firestore

open Std

variable {V : Values}

/-- The map with a value for each of some keys. -/
def tabulate {β : Type} (keys : ExtTreeSet DocumentKey) (value : DocumentKey → β) :
    ExtTreeMap DocumentKey β :=
  keys.toList.foldl (fun results key => results.insert key (value key)) ∅

abbrev MaybeDocumentMap (V : Values) := ExtTreeMap DocumentKey (MaybeDocument V)

abbrev DocumentMap (V : Values) := ExtTreeMap DocumentKey (Document V)

inductive LimitType
  | first
  | last
deriving DecidableEq

/-- A query of one collection.  The comparator ends with the key. -/
structure Query (V : Values) where
  path : ResourcePath
  matchesFields : V.ObjectValue → Bool
  comparator : DocumentKey × Document V → DocumentKey × Document V → Ordering
  transCmp : TransCmp comparator
  key_of_eq : ∀ left right, comparator left right = .eq → left.1 = right.1
  /-- `none` is `LimitType::None`. -/
  limit : Option (LimitType × Nat)

def Query.matches (query : Query V) (key : DocumentKey) (document : Document V) : Bool :=
  isImmediateParentOf query.path key && query.matchesFields document.data

abbrev User := Option String

structure LocalStore (V : Values) where
  mutationQueues : User → MutationQueue V
  user : User
  /-- Each document with its read time. -/
  remoteDocuments : ExtTreeMap DocumentKey (MaybeDocument V × SnapshotVersion)
  lastRemoteSnapshotVersion : SnapshotVersion

namespace LocalStore

def mutationQueue (store : LocalStore V) : MutationQueue V := store.mutationQueues store.user

def withMutationQueue (store : LocalStore V) (queue : MutationQueue V) : LocalStore V :=
  { store with mutationQueues := Function.update store.mutationQueues store.user queue }

/-- The store of an empty cache, after `Start`. -/
def initial (user : User) : LocalStore V :=
  { mutationQueues := fun _ => .empty
    user := user
    remoteDocuments := ∅
    lastRemoteSnapshotVersion := 0 }

/-- `remote_document_cache_->Get`. -/
def remoteDocument (store : LocalStore V) (key : DocumentKey) : Option (MaybeDocument V) :=
  store.remoteDocuments[key]?.map Prod.fst

/-! ### LocalDocumentsView -/

def getDocument (store : LocalStore V) (key : DocumentKey) :
    Checked (Option (MaybeDocument V)) := do
  let batches ← store.mutationQueue.allMutationBatchesAffectingDocumentKey key
  pure (batches.foldl (fun document batch => batch.applyToLocalDocument document key)
    (store.remoteDocument key))

/-- A document that is missing is reported as deleted. -/
def getLocalViewOfDocuments (store : LocalStore V)
    (baseDocs : ExtTreeMap DocumentKey (Option (MaybeDocument V))) :
    Checked (MaybeDocumentMap V) := do
  let batches ← store.mutationQueue.allMutationBatchesAffectingDocumentKeys
    (ExtTreeSet.ofList baseDocs.keys)
  pure (baseDocs.map (fun key baseDoc =>
    (batches.foldl (fun localView batch => batch.applyToLocalDocument localView key)
      baseDoc).getD (.noDocument 0 false)))

def getDocuments (store : LocalStore V) (keys : ExtTreeSet DocumentKey) :
    Checked (MaybeDocumentMap V) :=
  store.getLocalViewOfDocuments (tabulate keys store.remoteDocument)

/-- `remote_document_cache_->GetMatching`. -/
def getMatching (store : LocalStore V) (query : Query V) (sinceReadTime : SnapshotVersion) :
    DocumentMap V :=
  store.remoteDocuments.filterMap (fun key entry =>
    if entry.2 ≤ sinceReadTime then none else entry.1.document?.filter (query.matches key))

/-- A patch needs the cached document even if the query does not match it. -/
def missingDocKeys (matchingBatches : List (MutationBatch V)) (existingDocs : DocumentMap V) :
    ExtTreeSet DocumentKey :=
  ExtTreeSet.ofList (((matchingBatches.flatMap MutationBatch.mutations).filter (fun mutation =>
    mutation.operation.isPatch && !existingDocs.contains mutation.key)).map Mutation.key)

def addMissingBaseDocument (store : LocalStore V) (docs : DocumentMap V) (key : DocumentKey) :
    DocumentMap V :=
  match visible (store.remoteDocument key) with
  | some document => docs.insert key document
  | none => docs

def addMissingBaseDocuments (store : LocalStore V) (matchingBatches : List (MutationBatch V))
    (existingDocs : DocumentMap V) : DocumentMap V :=
  (missingDocKeys matchingBatches existingDocs).toList.foldl store.addMissingBaseDocument
    existingDocs

/-- A mutation of the collection, applied to the documents found. -/
def applyToResults (query : Query V) (results : DocumentMap V) (mutation : Mutation V) :
    DocumentMap V :=
  if isImmediateParentOf query.path mutation.key then
    match visible (mutation.applyToLocalView (results[mutation.key]?.map .existing)) with
    | some document => results.insert mutation.key document
    | none => results.erase mutation.key
  else results

def getDocumentsMatchingCollectionQuery (store : LocalStore V) (query : Query V)
    (sinceReadTime : SnapshotVersion) : Checked (DocumentMap V) := do
  let matchingBatches ← store.mutationQueue.allMutationBatchesAffectingQuery query.path
  let found := store.addMissingBaseDocuments matchingBatches (store.getMatching query sinceReadTime)
  let results := (matchingBatches.flatMap MutationBatch.mutations).foldl (applyToResults query) found
  pure (results.filter query.matches)

/-! ### LocalStore -/

/-- The loop of `batch.ApplyToLocalDocumentSet` for one mutation, which applies all
mutations of its document. -/
def mutateDocument (batch : MutationBatch V) (mutatedDocuments : MaybeDocumentMap V)
    (mutation : Mutation V) : MaybeDocumentMap V :=
  match batch.applyToLocalDocument mutatedDocuments[mutation.key]? mutation.key with
  | some mutatedDocument => mutatedDocuments.insert mutation.key mutatedDocument
  | none => mutatedDocuments

def applyToLocalDocumentSet (batch : MutationBatch V) (documentSet : MaybeDocumentMap V) :
    MaybeDocumentMap V :=
  batch.mutations.foldl (mutateDocument batch) documentSet

def keysOf (mutations : List (Mutation V)) : ExtTreeSet DocumentKey :=
  ExtTreeSet.ofList (mutations.map Mutation.key)

def writeLocally (store : LocalStore V) (mutations : List (Mutation V)) :
    Checked (LocalStore V × MutationBatch V × MaybeDocumentMap V) := do
  let existingDocuments ← store.getDocuments (keysOf mutations)
  let (queue, batch) ← store.mutationQueue.addMutationBatch mutations
  pure (store.withMutationQueue queue, batch, applyToLocalDocumentSet batch existingDocuments)

/-- The loop of `ApplyBatchResult` for one document. -/
def applyResult (result : MutationBatchResult V)
    (remoteDocuments : ExtTreeMap DocumentKey (MaybeDocument V × SnapshotVersion))
    (docKey : DocumentKey) :
    Checked (ExtTreeMap DocumentKey (MaybeDocument V × SnapshotVersion)) :=
  let remoteDoc := remoteDocuments[docKey]?.map Prod.fst
  if remoteDoc.all (fun doc => doc.version < result.docVersion docKey) then
    match result.applyToRemoteDocument remoteDoc docKey with
    | some doc => .ok (remoteDocuments.insert docKey (doc, result.commitVersion))
    | none => do
        hardAssert remoteDoc.isNone
          "Mutation batch %s applied to document %s resulted in nullopt."
        pure remoteDocuments
  else .ok remoteDocuments

def acknowledgeBatch (store : LocalStore V) (result : MutationBatchResult V) :
    Checked (LocalStore V × MaybeDocumentMap V) := do
  store.mutationQueue.acknowledgeBatch result.batch
  let remoteDocuments ← (keysOf result.batch.mutations).toList.foldlM (applyResult result)
    store.remoteDocuments
  let queue ← store.mutationQueue.removeMutationBatch result.batch
  let acknowledged := { store with remoteDocuments := remoteDocuments }.withMutationQueue queue
  acknowledged.mutationQueue.performConsistencyCheck
  let changes ← acknowledged.getDocuments (keysOf result.batch.mutations)
  pure (acknowledged, changes)

def rejectBatch (store : LocalStore V) (batchId : Int) :
    Checked (LocalStore V × MaybeDocumentMap V) := do
  match ← store.mutationQueue.lookupMutationBatch batchId with
  | none => .error "Attempt to reject nonexistent batch!"
  | some toReject =>
      let queue ← store.mutationQueue.removeMutationBatch toReject
      let rejected := store.withMutationQueue queue
      rejected.mutationQueue.performConsistencyCheck
      let changes ← rejected.getDocuments (keysOf toReject.mutations)
      pure (rejected, changes)

/-- What the watch stream sends: documents, and the version of the snapshot, which
is zero in a manufactured event only. -/
structure RemoteEvent (V : Values) where
  snapshotVersion : SnapshotVersion
  documentUpdates : MaybeDocumentMap V
  manufactured : snapshotVersion = 0 →
    ∀ (key : DocumentKey) (doc : MaybeDocument V), documentUpdates[key]? = some doc →
    ∃ hasCommittedMutations, doc = MaybeDocument.noDocument 0 hasCommittedMutations

/-- A document of the event is newer than the cached one, or the cached one was
written by this client and not yet seen by the watch stream. -/
def supersedes (doc : MaybeDocument V) (existingDoc : Option (MaybeDocument V)) : Bool :=
  match existingDoc with
  | none => true
  | some existingDoc =>
      existingDoc.version < doc.version ||
        (doc.version = existingDoc.version && existingDoc.hasPendingWrites)

def isManufactured : MaybeDocument V → Bool
  | .noDocument version _ => version = 0
  | _ => false

/-- The documents of the event that are taken over. -/
def changedDocs (store : LocalStore V) (event : RemoteEvent V) : MaybeDocumentMap V :=
  event.documentUpdates.filter (fun key doc =>
    isManufactured doc || supersedes doc (store.remoteDocument key))

def applyRemoteEvent (store : LocalStore V) (event : RemoteEvent V) :
    Checked (LocalStore V × MaybeDocumentMap V) := do
  let changed := store.changedDocs event
  hardAssert (changed.toList.all (fun entry =>
      isManufactured entry.2 || event.snapshotVersion ≠ 0))
    "Cannot add a document when the remote version is zero"
  hardAssert (event.snapshotVersion = 0 ||
      store.lastRemoteSnapshotVersion ≤ event.snapshotVersion)
    "Watch stream reverted to previous snapshot?? (%s < %s)"
  let remoteDocuments := changed.toList.foldl (fun remoteDocuments entry =>
    if isManufactured entry.2 then remoteDocuments.erase entry.1
    else remoteDocuments.insert entry.1 (entry.2, event.snapshotVersion)) store.remoteDocuments
  let updated :=
    { store with
      remoteDocuments := remoteDocuments
      lastRemoteSnapshotVersion :=
        if event.snapshotVersion = 0 then store.lastRemoteSnapshotVersion
        else event.snapshotVersion }
  let changes ← updated.getLocalViewOfDocuments (changed.map (fun _ doc => some doc))
  pure (updated, changes)

def handleUserChange (store : LocalStore V) (user : User) :
    Checked (LocalStore V × MaybeDocumentMap V) := do
  let changed := { store with
    mutationQueues := Function.update store.mutationQueues user (store.mutationQueues user).start
    user := user }
  let changes ← changed.getDocuments (keysOf
    ((store.mutationQueue.queue ++ changed.mutationQueue.queue).flatMap MutationBatch.mutations))
  pure (changed, changes)

end LocalStore

end InstagramProject.Firestore
