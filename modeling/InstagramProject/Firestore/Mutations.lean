/-
Documents and mutations of the Firestore client.  A mutation is applied in two
ways: to the local view of a document, before the backend has answered, and to the
cached remote document, once the backend has accepted it.
-/

import Mathlib.Data.List.Basic

namespace InstagramProject.Firestore

/-- The segments of a path. -/
abbrev ResourcePath := List String

/-- A document's key is its path. -/
abbrev DocumentKey := ResourcePath

/-- `IsImmediateParentOf`. -/
def isImmediateParentOf (collection : ResourcePath) (key : DocumentKey) : Bool :=
  key.length = collection.length + 1 && collection.isPrefixOf key

theorem exists_segment_of_isImmediateParentOf {collection : ResourcePath} {key : DocumentKey}
    (parent : isImmediateParentOf collection key = true) :
    ∃ segment, key = collection ++ [segment] := by
  unfold isImmediateParentOf at parent
  rw [Bool.and_eq_true, decide_eq_true_iff, List.isPrefixOf_iff_prefix] at parent
  obtain ⟨sized, suffix, rfl⟩ := parent
  rw [List.length_append, Nat.add_left_cancel_iff, List.length_eq_one_iff] at sized
  obtain ⟨segment, rfl⟩ := sized
  exact ⟨segment, rfl⟩

/-- Zero is `SnapshotVersion::None()`. -/
abbrev SnapshotVersion := Nat

/-- What documents hold, and how a patch changes it. -/
structure Values where
  ObjectValue : Type
  /-- `ObjectValue::Empty()`. -/
  empty : ObjectValue
  /-- The mask and the values of a `PatchMutation`. -/
  Patch : Type
  /-- `PatchObject`. -/
  patchObject : Patch → ObjectValue → ObjectValue

/-- Objects of texts by name.  A patch sets its fields or deletes them. -/
def Values.texts : Values where
  ObjectValue := List (String × String)
  empty := []
  Patch := List (String × Option String)
  patchObject patch object :=
    patch.foldl (fun object field =>
      (field.2.map (Prod.mk field.1)).toList ++ object.filter (fun other => other.1 ≠ field.1)) object

inductive DocumentState
  | localMutations
  | committedMutations
  | synced
deriving DecidableEq

/-- A document, filed under its key. -/
structure Document (V : Values) where
  data : V.ObjectValue
  version : SnapshotVersion
  state : DocumentState

inductive MaybeDocument (V : Values)
  | existing (document : Document V)
  | noDocument (version : SnapshotVersion) (hasCommittedMutations : Bool)
  | unknownDocument (version : SnapshotVersion)

namespace MaybeDocument

variable {V : Values}

def version : MaybeDocument V → SnapshotVersion
  | .existing document => document.version
  | .noDocument version _ | .unknownDocument version => version

def hasPendingWrites : MaybeDocument V → Bool
  | .existing document => document.state ≠ .synced
  | .noDocument _ hasCommittedMutations => hasCommittedMutations
  | .unknownDocument _ => true

/-- The document, where `is_document()`. -/
def document? : MaybeDocument V → Option (Document V)
  | .existing document => some document
  | _ => none

end MaybeDocument

inductive Precondition
  | none
  | existsIs (expected : Bool)
  | updateTime (version : SnapshotVersion)
deriving DecidableEq

/-- The mutations that enter the queue.  A transform is not modelled. -/
inductive Operation (V : Values)
  | set (value : V.ObjectValue)
  | patch (patch : V.Patch)
  | delete

def Operation.isPatch {V : Values} : Operation V → Bool
  | .patch _ => true
  | _ => false

structure Mutation (V : Values) where
  key : DocumentKey
  precondition : Precondition
  operation : Operation V

variable {V : Values}

/-- The document seen by readers: absent, deleted and unknown documents look alike. -/
def visible (maybeDoc : Option (MaybeDocument V)) : Option (Document V) :=
  maybeDoc.bind MaybeDocument.document?

def Precondition.isValidFor (precondition : Precondition)
    (maybeDoc : Option (MaybeDocument V)) : Bool :=
  match precondition with
  | .updateTime version => (visible maybeDoc).any (fun document => document.version = version)
  | .existsIs expected => expected = (visible maybeDoc).isSome
  | .none => true

namespace Mutation

/-- `GetPostMutationVersion`. -/
def getPostMutationVersion (maybeDoc : Option (MaybeDocument V)) : SnapshotVersion :=
  ((visible maybeDoc).map Document.version).getD 0

/-- `PatchDocument`. -/
def patchDocument (patch : V.Patch) (maybeDoc : Option (MaybeDocument V)) : V.ObjectValue :=
  V.patchObject patch (((visible maybeDoc).map Document.data).getD V.empty)

def applyToRemoteDocument (mutation : Mutation V) (maybeDoc : Option (MaybeDocument V))
    (version : SnapshotVersion) : MaybeDocument V :=
  match mutation.operation with
  | .set value => .existing { data := value, version := version, state := .committedMutations }
  | .patch patch =>
      if mutation.precondition.isValidFor maybeDoc then
        .existing
          { data := patchDocument patch maybeDoc
            version := version
            state := .committedMutations }
      else .unknownDocument version
  | .delete => .noDocument version true

def applyToLocalView (mutation : Mutation V) (maybeDoc : Option (MaybeDocument V)) :
    Option (MaybeDocument V) :=
  if mutation.precondition.isValidFor maybeDoc then
    match mutation.operation with
    | .set value =>
        some (.existing
          { data := value
            version := getPostMutationVersion maybeDoc
            state := .localMutations })
    | .patch patch =>
        some (.existing
          { data := patchDocument patch maybeDoc
            version := getPostMutationVersion maybeDoc
            state := .localMutations })
    | .delete => some (.noDocument 0 false)
  else maybeDoc

end Mutation

/-! ### What documents hold -/

/-- As `setData`, `updateData`, `setData(merge:)` and `delete` make them. -/
def Mutation.Issued (mutation : Mutation V) : Prop :=
  match mutation.operation with
  | .set _ | .delete => mutation.precondition = .none
  | .patch _ => mutation.precondition = .none ∨ mutation.precondition = .existsIs true

/-- What a mutation does to the data of a document, `none` where there is no document. -/
def Mutation.dataEffect (mutation : Mutation V) (data : Option V.ObjectValue) :
    Option V.ObjectValue :=
  match mutation.operation with
  | .set value => some value
  | .patch patch =>
      if mutation.precondition = .none then some (V.patchObject patch (data.getD V.empty))
      else data.map (V.patchObject patch)
  | .delete => none

def dataOverlay (mutations : List (Mutation V)) (data : Option V.ObjectValue) :
    Option V.ObjectValue :=
  mutations.foldl (fun data mutation => mutation.dataEffect data) data

/-! ### Batches -/

structure MutationBatch (V : Values) where
  batchId : Int
  mutations : List (Mutation V)
  nonempty : mutations ≠ []

/-- The backend's answer to a batch, one version for each mutation. -/
structure MutationBatchResult (V : Values) where
  batch : MutationBatch V
  commitVersion : SnapshotVersion
  mutationResults : List SnapshotVersion
  sized : mutationResults.length = batch.mutations.length

namespace MutationBatch

/-- The batch has a mutation of the document. -/
def affects (batch : MutationBatch V) (key : DocumentKey) : Bool :=
  batch.mutations.any (fun mutation => mutation.key = key)

def applyToLocalDocument (batch : MutationBatch V) (maybeDoc : Option (MaybeDocument V))
    (key : DocumentKey) : Option (MaybeDocument V) :=
  batch.mutations.foldl (fun maybeDoc mutation =>
    if mutation.key = key then mutation.applyToLocalView maybeDoc else maybeDoc) maybeDoc

end MutationBatch

namespace MutationBatchResult

/-- `batch.ApplyToRemoteDocument`. -/
def applyToRemoteDocument (result : MutationBatchResult V) (maybeDoc : Option (MaybeDocument V))
    (key : DocumentKey) : Option (MaybeDocument V) :=
  (result.batch.mutations.zip result.mutationResults).foldl (fun maybeDoc answer =>
    if answer.1.key = key then some (answer.1.applyToRemoteDocument maybeDoc answer.2)
    else maybeDoc) maybeDoc

/-- `doc_versions()[key]`: the version of the last mutation of the document. -/
def docVersion (result : MutationBatchResult V) (key : DocumentKey) : SnapshotVersion :=
  (result.batch.mutations.zip result.mutationResults).foldl (fun docVersion answer =>
    if answer.1.key = key then answer.2 else docVersion) 0

end MutationBatchResult

/-! ### What readers see -/

namespace Mutation

/-- What a mutation does to the document seen by readers. -/
def effect (mutation : Mutation V) (seen : Option (Document V)) : Option (Document V) :=
  visible (mutation.applyToLocalView (seen.map .existing))

@[simp] theorem visible_map_existing (seen : Option (Document V)) :
    visible (seen.map .existing) = seen := by
  cases seen <;> rfl

theorem isValidFor_visible (precondition : Precondition) (maybeDoc : Option (MaybeDocument V)) :
    precondition.isValidFor ((visible maybeDoc).map .existing) =
      precondition.isValidFor maybeDoc := by
  unfold Precondition.isValidFor
  rw [visible_map_existing]

/-- A mutation looks at no more than readers see. -/
theorem visible_applyToLocalView (mutation : Mutation V) (maybeDoc : Option (MaybeDocument V)) :
    visible (mutation.applyToLocalView maybeDoc) = mutation.effect (visible maybeDoc) := by
  unfold effect applyToLocalView patchDocument getPostMutationVersion
  rw [isValidFor_visible, visible_map_existing]
  split
  · cases mutation.operation <;> rfl
  · exact (visible_map_existing _).symm

end Mutation

/-- The mutations of a document, in the order in which they were made. -/
def mutationsOf (key : DocumentKey) (batches : List (MutationBatch V)) : List (Mutation V) :=
  batches.flatMap (fun batch => batch.mutations.filter (fun mutation => mutation.key = key))

/-- The document seen by readers after some mutations. -/
def overlay (mutations : List (Mutation V)) (seen : Option (Document V)) : Option (Document V) :=
  mutations.foldl (fun seen mutation => mutation.effect seen) seen

namespace MutationBatch

theorem affects_iff (batch : MutationBatch V) (key : DocumentKey) :
    batch.affects key = true ↔ ∃ mutation ∈ batch.mutations, mutation.key = key := by
  unfold affects
  rw [List.any_eq_true]
  simp only [decide_eq_true_iff]

theorem applyToLocalDocument_eq (batch : MutationBatch V) (maybeDoc : Option (MaybeDocument V))
    (key : DocumentKey) :
    batch.applyToLocalDocument maybeDoc key =
      (batch.mutations.filter (fun mutation => mutation.key = key)).foldl
        (fun maybeDoc mutation => mutation.applyToLocalView maybeDoc) maybeDoc := by
  unfold applyToLocalDocument
  rw [List.foldl_filter]
  simp only [decide_eq_true_iff]

theorem visible_applyToLocalDocument (batch : MutationBatch V)
    (maybeDoc : Option (MaybeDocument V)) (key : DocumentKey) :
    visible (batch.applyToLocalDocument maybeDoc key) =
      overlay (mutationsOf key [batch]) (visible maybeDoc) := by
  rw [applyToLocalDocument_eq, mutationsOf, List.flatMap_singleton, overlay]
  generalize batch.mutations.filter (fun mutation => mutation.key = key) = mutations
  induction mutations generalizing maybeDoc with
  | nil => rfl
  | cons mutation rest ih =>
      rw [List.foldl_cons, List.foldl_cons, ih, Mutation.visible_applyToLocalView]

end MutationBatch

end InstagramProject.Firestore
