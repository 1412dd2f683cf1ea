/-
The write side of the client: the sync engine, the remote store with its pipeline of
writes, and the local store below them, with the backend at the other end of the
stream.  The backend may commit what it received even after the stream has closed.
-/

import InstagramProject.Firestore.LocalStore
import InstagramProject.Firestore.WriteStream

namespace InstagramProject.Firestore

/-- A callback that was called, of the user who was signed in when it was passed. -/
structure Notice (Callback : Type) where
  user : User
  callback : Callback
  status : Error

structure Client (V : Values) (Callback : Type) where
  localStore : LocalStore V
  /-- By user and batch id. -/
  mutationCallbacks : User → Int → Option Callback
  isNetworkEnabled : Bool
  writePipeline : List (MutationBatch V)
  writeStream : WriteStream V
  /-- The latest first. -/
  notices : List (Notice Callback)
  /-- What the backend has committed, the earliest first. -/
  commits : List (List (Mutation V))
  /-- What it received on streams that have closed and has not handled yet. -/
  late : List (List (List (Mutation V)))

variable {V : Values} {Callback : Type}

/-- What a step hands on to the views. -/
abbrev Changes (V : Values) := Option (MaybeDocumentMap V)

namespace Client

def initial (user : User) : Client V Callback :=
  { localStore := .initial user
    mutationCallbacks := fun _ _ => none
    isNetworkEnabled := false
    writePipeline := []
    writeStream := .unstarted
    notices := []
    commits := []
    late := [] }

def currentUser (client : Client V Callback) : User := client.localStore.user

/-! ### SyncEngine -/

def notifyUser (client : Client V Callback) (batchId : Int) (status : Error) :
    Client V Callback :=
  match client.mutationCallbacks client.currentUser batchId with
  | none => client
  | some callback =>
      { client with
        mutationCallbacks := Function.update client.mutationCallbacks client.currentUser
          (Function.update (client.mutationCallbacks client.currentUser) batchId none)
        notices := { user := client.currentUser, callback := callback, status := status } ::
          client.notices }

def handleSuccessfulWrite (client : Client V Callback) (result : MutationBatchResult V) :
    Checked (Client V Callback × MaybeDocumentMap V) := do
  let notified := client.notifyUser result.batch.batchId .ok
  let (store, changes) ← notified.localStore.acknowledgeBatch result
  pure ({ notified with localStore := store }, changes)

def handleRejectedWrite (client : Client V Callback) (batchId : Int) (error : Error) :
    Checked (Client V Callback × MaybeDocumentMap V) := do
  let (store, changes) ← client.localStore.rejectBatch batchId
  pure ({ client with localStore := store }.notifyUser batchId error, changes)

/-! ### RemoteStore -/

def kMaxPendingWrites : Nat := 10

def canAddToWritePipeline (client : Client V Callback) : Bool :=
  client.isNetworkEnabled && client.writePipeline.length < kMaxPendingWrites

def addToWritePipeline (client : Client V Callback) (batch : MutationBatch V) :
    Checked (Client V Callback) := do
  hardAssert client.canAddToWritePipeline "AddToWritePipeline called when pipeline is full"
  let stream ← client.writeStream.send batch.mutations
  pure { client with writePipeline := client.writePipeline ++ [batch], writeStream := stream }

def shouldStartWriteStream (client : Client V Callback) : Bool :=
  client.isNetworkEnabled && !client.writeStream.isStarted && !client.writePipeline.isEmpty

def startWriteStream (client : Client V Callback) : Checked (Client V Callback) := do
  hardAssert client.shouldStartWriteStream
    "StartWriteStream called when ShouldStartWriteStream is false."
  let stream ← client.writeStream.start
  pure { client with writeStream := stream }

def startIfNeeded (client : Client V Callback) : Checked (Client V Callback) :=
  if client.shouldStartWriteStream then client.startWriteStream else .ok client

/-- `none` is `kBatchIdUnknown`, which is -1. -/
def lastBatchIdRetrieved (client : Client V Callback) : Int :=
  (client.writePipeline.getLast?.map MutationBatch.batchId).getD (-1)

/-- The loop of `FillWritePipeline`, for as many turns as there is room. -/
def addBatches (client : Client V Callback) : Nat → Checked (Client V Callback)
  | 0 => .ok client
  | room + 1 =>
      if client.canAddToWritePipeline then
        match client.localStore.mutationQueue.nextMutationBatchAfterBatchId
            client.lastBatchIdRetrieved with
        | none =>
            if client.writePipeline.isEmpty then
              .ok { client with writeStream := client.writeStream.markIdle }
            else .ok client
        | some batch => do
            let added ← client.addToWritePipeline batch
            added.addBatches room
      else .ok client

def fillWritePipeline (client : Client V Callback) : Checked (Client V Callback) := do
  let filled ← client.addBatches kMaxPendingWrites
  filled.startIfNeeded

/-- A write that fails for good is taken out of the pipeline; any other failure is
left to the next stream. -/
def handleWriteError (client : Client V Callback) (status : Error) :
    Checked (Client V Callback × Changes V) := do
  hardAssert (status ≠ .ok) "Handling write error with status OK."
  match ← isPermanentWriteError status, client.writePipeline with
  | true, batch :: rest =>
      let stream ← client.writeStream.inhibitBackoff
      let (rejected, changes) ←
        { client with writePipeline := rest, writeStream := stream }.handleRejectedWrite
          batch.batchId status
      let filled ← rejected.fillWritePipeline
      pure (filled, some changes)
  | _, _ => pure (client, none)

/-- Forgets the stream token, which is not modelled. -/
def handleHandshakeError (client : Client V Callback) (status : Error) :
    Checked (Client V Callback) := do
  hardAssert (status ≠ .ok) "Handling write error with status OK."
  let _ ← isPermanentError status
  pure client

/-- A failure matters if writes are pending. -/
def handleStreamError (client : Client V Callback) (status : Error) :
    Checked (Client V Callback × Changes V) :=
  if status = .ok || client.writePipeline.isEmpty then .ok (client, none)
  else if client.writeStream.handshakeComplete then client.handleWriteError status
  else (client.handleHandshakeError status).map (fun handled => (handled, none))

def onWriteStreamClose (client : Client V Callback) (status : Error) :
    Checked (Client V Callback × Changes V) := do
  hardAssert (status ≠ .ok || !client.shouldStartWriteStream)
    "Write stream was stopped gracefully while still needed."
  let (handled, changes) ← client.handleStreamError status
  let started ← handled.startIfNeeded
  pure (started, changes)

/-- `Stream::Close`. -/
def closeWriteStream (client : Client V Callback) (status : Error) :
    Checked (Client V Callback × Changes V) :=
  if status = .ok && !client.writeStream.isStarted then .ok (client, none)
  else do
    hardAssert client.writeStream.isStarted "Trying to close a non-started stream"
    let (closed, changes) ←
      { client with
        writeStream := client.writeStream.closed status
        late := client.writeStream.sentMutations :: client.late }.onWriteStreamClose status
    pure ({ closed with writeStream := { closed.writeStream with handshakeComplete := false } },
      changes)

def onWriteStreamOpen (client : Client V Callback) : Checked (Client V Callback) := do
  let stream ← client.writeStream.writeHandshake
  pure { client with writeStream := stream }

def onWriteStreamHandshakeComplete (client : Client V Callback) :
    Checked (Client V Callback) := do
  let stream ← client.writePipeline.foldlM (fun stream batch =>
    stream.writeMutations batch.mutations) client.writeStream
  pure { client with writeStream := stream }

def onWriteStreamMutationResult (client : Client V Callback) (response : WriteResponse) :
    Checked (Client V Callback × Changes V) :=
  match client.writePipeline with
  | [] => .error "Got result for empty write pipeline"
  | batch :: rest =>
      if sized : response.mutationResults.length = batch.mutations.length then do
        let (acknowledged, changes) ←
          { client with writePipeline := rest }.handleSuccessfulWrite
            { batch := batch
              commitVersion := response.commitVersion
              mutationResults := response.mutationResults
              sized := sized }
        let filled ← acknowledged.fillWritePipeline
        pure (filled, some changes)
      else .error "Number of mutations sent %s must equal results received %s"

/-- The first response on a stream answers the handshake. -/
def onStreamRead (client : Client V Callback) (response : WriteResponse) :
    Checked (Client V Callback × Changes V) := do
  hardAssert client.writeStream.isStarted "OnStreamRead called for a stopped stream."
  if client.writeStream.handshakeComplete then client.onWriteStreamMutationResult response
  else do
    let greeted ← { client with
      writeStream := { client.writeStream with handshakeComplete := true } }.onWriteStreamHandshakeComplete
    pure (greeted, none)

def enableNetwork (client : Client V Callback) : Checked (Client V Callback) :=
  { client with isNetworkEnabled := true }.fillWritePipeline

/-- `DisableNetworkInternal`, with the network marked as disabled. -/
def disableNetwork (client : Client V Callback) : Checked (Client V Callback) := do
  let (stopped, _) ← { client with isNetworkEnabled := false }.closeWriteStream .ok
  pure { stopped with writePipeline := [] }

/-! ### The entry points of the sync engine -/

def writeMutations (client : Client V Callback) (mutations : List (Mutation V))
    (callback : Callback) : Checked (Client V Callback × Changes V) := do
  let (store, batch, changes) ← client.localStore.writeLocally mutations
  let callbacks := client.mutationCallbacks client.currentUser
  let written : Client V Callback :=
    { client with
      localStore := store
      -- an insertion leaves a callback that is already there
      mutationCallbacks := Function.update client.mutationCallbacks client.currentUser
        (Function.update callbacks batch.batchId
          (some ((callbacks batch.batchId).getD callback))) }
  let filled ← written.fillWritePipeline
  pure (filled, some changes)

def changeUser (client : Client V Callback) (user : User) :
    Checked (Client V Callback × Changes V) :=
  if client.currentUser = user then .ok (client, none)
  else do
    let (store, changes) ← client.localStore.handleUserChange user
    pure ({ client with localStore := store }, some changes)

/-- `RemoteStore::HandleCredentialChange`: new streams for the new credential. -/
def restartStreams (client : Client V Callback) : Checked (Client V Callback) :=
  if client.isNetworkEnabled then do
    let stopped ← client.disableNetwork
    stopped.enableNetwork
  else .ok client

def handleCredentialChange (client : Client V Callback) (user : User) :
    Checked (Client V Callback × Changes V) := do
  let (changed, changes) ← client.changeUser user
  let restarted ← changed.restartStreams
  pure (restarted, changes)

/-- The watch stream leaves out snapshots older than the last one. -/
def applyRemoteEvent (client : Client V Callback) (event : LocalStore.RemoteEvent V) :
    Checked (Client V Callback × Changes V) :=
  if event.snapshotVersion = 0 || client.localStore.lastRemoteSnapshotVersion ≤
      event.snapshotVersion then do
    let (store, changes) ← client.localStore.applyRemoteEvent event
    pure ({ client with localStore := store }, some changes)
  else .ok (client, none)

end Client

/-! ### Events -/

inductive WriteEvent (V : Values) (Callback : Type)
  | write (mutations : List (Mutation V)) (callback : Callback)
  | credentialChange (user : User)
  | enableNetwork
  | disableNetwork
  /-- The answer to `GetToken`, with which a starting stream opens or fails. -/
  | token (status : Error)
  | backoffElapsed
  | idleTimeout
  | streamRead
  /-- The stream ends by itself. -/
  | streamFinish (status : Error)
  | remoteEvent (event : LocalStore.RemoteEvent V)
  /-- The backend handles the first request on the stream. -/
  | reply (response : WriteResponse)
  /-- The backend handles the first write of a stream that has closed. -/
  | lateCommit (index : Nat)

namespace Client

/-- The backend commits a write as a whole and answers each of its mutations. -/
def reply (client : Client V Callback) (response : WriteResponse) :
    Option (Client V Callback) :=
  match client.writeStream.requests with
  | [] => none
  | .handshake :: rest =>
      some { client with
        writeStream := { client.writeStream with
          requests := rest
          responses := client.writeStream.responses ++ [response] } }
  | .mutations mutations :: rest =>
      if response.mutationResults.length = mutations.length ∧ 0 < response.commitVersion then
        some { client with
          writeStream := { client.writeStream with
            requests := rest
            responses := client.writeStream.responses ++ [response] }
          commits := client.commits ++ [mutations] }
      else none

def lateCommit (client : Client V Callback) (index : Nat) : Option (Client V Callback) :=
  match client.late[index]? with
  | some (mutations :: rest) =>
      some { client with
        commits := client.commits ++ [mutations]
        late := client.late.set index rest }
  | _ => none

/-- `none` where the event cannot happen. -/
def handle (client : Client V Callback) (event : WriteEvent V Callback) :
    Option (Checked (Client V Callback × Changes V)) :=
  match event with
  | .write mutations callback =>
      -- the client answers an empty list by itself
      if mutations = [] then none else some (client.writeMutations mutations callback)
  | .credentialChange user => some (client.handleCredentialChange user)
  | .enableNetwork => some (client.enableNetwork.map (fun after => (after, none)))
  | .disableNetwork => some (client.disableNetwork.map (fun after => (after, none)))
  | .token status =>
      if client.writeStream.state = .starting then
        if status = .ok then
          some ({ client with
            writeStream := { client.writeStream with
              state := .opened } }.onWriteStreamOpen.map (fun after => (after, none)))
        else some (client.closeWriteStream status)
      else none
  | .backoffElapsed =>
      if client.writeStream.state = .backoff then
        some (WriteStream.start { client.writeStream with state := .initial } >>= fun stream => do
          hardAssert stream.isStarted "Stream should have started."
          pure ({ client with writeStream := stream }, none))
      else none
  | .idleTimeout =>
      if client.writeStream.idlenessTimer then some (client.closeWriteStream .ok) else none
  | .streamRead =>
      match client.writeStream.responses with
      | [] => none
      | response :: rest =>
          some ({ client with
            writeStream := { client.writeStream with responses := rest } }.onStreamRead response)
  | .streamFinish status =>
      if client.writeStream.isOpen then some (client.closeWriteStream status) else none
  | .remoteEvent event => some (client.applyRemoteEvent event)
  | .reply response => (client.reply response).map (fun after => .ok (after, none))
  | .lateCommit index => (client.lateCommit index).map (fun after => .ok (after, none))

/-- A step that fails no assertion. -/
def step (client : Client V Callback) (event : WriteEvent V Callback) :
    Option (Client V Callback) :=
  (client.handle event).bind (fun result => result.toOption.map Prod.fst)

end Client

end InstagramProject.Firestore
