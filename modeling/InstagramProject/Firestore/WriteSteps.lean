/-
What each event does to the writes on their way.  The traffic of a client is all of
it that matters for their delivery, and every event that fails no assertion makes one
or two moves of it.
-/

import InstagramProject.Firestore.WriteProtocol

namespace InstagramProject.Firestore

open MutationQueue

variable {V : Values} {Callback : Type}

/-! ### Traffic -/

structure Traffic (V : Values) (Callback : Type) where
  user : User
  /-- The writes of each user that wait for an answer, with their callbacks. -/
  pending : User → List (Option Callback × List (Mutation V))
  /-- How many of them the backend has answered on the stream. -/
  replied : Nat
  notices : List (Notice Callback)
  commits : List (List (Mutation V))
  late : List (List (List (Mutation V)))

namespace Traffic

def sent (traffic : Traffic V Callback) (count : Nat) : List (List (Mutation V)) :=
  (((traffic.pending traffic.user).map Prod.snd).drop traffic.replied).take count

/-- The stream closes with some writes on their way. -/
def disconnect (traffic : Traffic V Callback) (count : Nat) : Traffic V Callback :=
  { traffic with
    replied := 0
    late := traffic.sent count :: traffic.late }

/-- The first write of the user is answered. -/
def answer (traffic : Traffic V Callback) (callback : Callback) (status : Error)
    (rest : List (Option Callback × List (Mutation V))) : Traffic V Callback :=
  { traffic with
    pending := Function.update traffic.pending traffic.user rest
    notices := { user := traffic.user, callback := callback, status := status } ::
      traffic.notices }

end Traffic

/-- One move, with the write it adds. -/
inductive Moves : Traffic V Callback → Option (Callback × List (Mutation V)) →
    Traffic V Callback → Prop
  | still (traffic : Traffic V Callback) : Moves traffic none traffic
  | write (traffic : Traffic V Callback) (callback : Callback) (mutations : List (Mutation V)) :
      Moves traffic (some (callback, mutations))
        { traffic with
          pending := Function.update traffic.pending traffic.user
            (traffic.pending traffic.user ++ [(some callback, mutations)]) }
  | commit {traffic : Traffic V Callback} {write : Option Callback × List (Mutation V)}
      (next : (traffic.pending traffic.user)[traffic.replied]? = some write) :
      Moves traffic none
        { traffic with
          replied := traffic.replied + 1
          commits := traffic.commits ++ [write.2] }
  | confirm {traffic : Traffic V Callback} {callback : Callback} {mutations : List (Mutation V)}
      {rest : List (Option Callback × List (Mutation V))} {replied : Nat}
      (first : traffic.pending traffic.user = (some callback, mutations) :: rest)
      (answered : traffic.replied = replied + 1) :
      Moves traffic none { traffic.answer callback .ok rest with replied := replied }
  | refuse {traffic : Traffic V Callback} {callback : Callback} {mutations : List (Mutation V)}
      {rest : List (Option Callback × List (Mutation V))} {status : Error}
      (first : traffic.pending traffic.user = (some callback, mutations) :: rest)
      (disconnected : traffic.replied = 0) (permanent : isPermanentWriteError status = .ok true) :
      Moves traffic none (traffic.answer callback status rest)
  | disconnect (traffic : Traffic V Callback) (count : Nat) :
      Moves traffic none (traffic.disconnect count)
  | commitLate {traffic : Traffic V Callback} {index : Nat} {mutations : List (Mutation V)}
      {rest : List (List (Mutation V))}
      (waiting : traffic.late[index]? = some (mutations :: rest)) :
      Moves traffic none
        { traffic with
          commits := traffic.commits ++ [mutations]
          late := traffic.late.set index rest }
  | switch {traffic : Traffic V Callback} (user : User) (disconnected : traffic.replied = 0) :
      Moves traffic none { traffic with user := user }

namespace Client

def pending (client : Client V Callback) (user : User) :
    List (Option Callback × List (Mutation V)) :=
  (client.localStore.mutationQueues user).queue.map (fun batch =>
    (client.mutationCallbacks user batch.batchId, batch.mutations))

def replied (client : Client V Callback) : Nat :=
  if client.writeStream.handshakeComplete then client.writeStream.responses.length else 0

def traffic (client : Client V Callback) : Traffic V Callback :=
  { user := client.currentUser
    pending := client.pending
    replied := client.replied
    notices := client.notices
    commits := client.commits
    late := client.late }

/-- An open stream belongs to an enabled network. -/
theorem Sound.enabled_of_started {client : Client V Callback} (sound : client.Sound)
    (started : client.writeStream.isStarted = true) : client.isNetworkEnabled = true := by
  by_contra disabled
  rw [sound.stopped (Bool.not_eq_true _ ▸ disabled)] at started
  cases started

theorem started_of_isOpen {stream : WriteStream V} (opened : stream.isOpen = true) :
    stream.isStarted = true := by
  rw [WriteStream.isStarted, opened, Bool.or_true]

/-- The writes on their way are those behind the answered ones. -/
theorem Sound.sent {client : Client V Callback} (sound : client.Sound) :
    ∃ count, client.writeStream.sentMutations = client.traffic.sent count := by
  have carries := sound.carries
  have nothing : client.traffic.sent 0 = [] := List.take_zero
  have enabled := sound.enabled_of_started
  have pipeline := sound.pipeline
  unfold Traffic.sent traffic pending replied at *
  dsimp only at *
  generalize client.writeStream = stream at *
  generalize client.writePipeline = batches at *
  cases carries with
  | stopped _ => exact ⟨0, nothing.symm⟩
  | waiting _ _ => exact ⟨0, nothing.symm⟩
  | greeting _ => exact ⟨0, nothing.symm⟩
  | greeted _ => exact ⟨0, nothing.symm⟩
  | @writing idle responses answered rest answers _ =>
      rw [if_pos (enabled rfl)] at pipeline
      have queued := List.take_append_drop kMaxPendingWrites client.localStore.mutationQueue.queue
      rw [← pipeline, List.append_assoc] at queued
      refine ⟨rest.length, ?_⟩
      change (rest.map MutationBatch.request).filterMap _ =
        ((List.map Prod.snd (client.localStore.mutationQueue.queue.map _)).drop
          (if true = true then responses.length else 0)).take rest.length
      rw [if_pos rfl, answers.length_eq, ← queued, List.map_map, List.map_append, List.map_append,
        List.drop_left' (List.length_map _), List.take_left' (List.length_map _),
        List.filterMap_map]
      exact congrFun List.filterMap_eq_map' rest

/-! ### Answering the first write -/

section Answering

variable {client : Client V Callback} {head : MutationBatch V} {rest : List (MutationBatch V)}

/-- The client without the first write of its queue, whose callback was called. -/
def answered (client : Client V Callback) (store : LocalStore V) (head : MutationBatch V)
    (callback : Callback) (status : Error) : Client V Callback :=
  { client with
    localStore := store
    mutationCallbacks := Function.update client.mutationCallbacks client.currentUser
      (Function.update (client.mutationCallbacks client.currentUser) head.batchId none)
    notices := { user := client.currentUser, callback := callback, status := status } ::
      client.notices }

theorem Registered.first (callbacks : client.Registered)
    (queued : client.localStore.mutationQueue.queue = head :: rest) :
    ∃ callback, client.mutationCallbacks client.currentUser head.batchId = some callback :=
  Option.isSome_iff_exists.mp ((callbacks client.currentUser head.batchId).mpr
    ⟨head, by
      change head ∈ client.localStore.mutationQueue.queue
      rw [queued]
      exact List.mem_cons_self, rfl⟩)

theorem notifyUser_eq {callback : Callback} (batchId : Int) (status : Error)
    (registered : client.mutationCallbacks client.currentUser batchId = some callback) :
    client.notifyUser batchId status =
      { client with
        mutationCallbacks := Function.update client.mutationCallbacks client.currentUser
          (Function.update (client.mutationCallbacks client.currentUser) batchId none)
        notices := { user := client.currentUser, callback := callback, status := status } ::
          client.notices } := by
  rw [notifyUser, registered]

/-- No other pending write has the id of the first one. -/
theorem later_ids (coherent : client.localStore.mutationQueue.Coherent)
    (queued : client.localStore.mutationQueue.queue = head :: rest) :
    ∀ batch ∈ rest, batch.batchId ≠ head.batchId := by
  intro batch member same
  have sorted := coherent.sorted
  rw [queued, List.pairwise_cons] at sorted
  have later := sorted.1 batch member
  omega

/-- The queues of a store from which the first write of the user is gone. -/
def Popped (before after : LocalStore V) (rest : List (MutationBatch V)) : Prop :=
  after.user = before.user ∧
    ∀ user, (after.mutationQueues user).queue =
      if user = before.user then rest else (before.mutationQueues user).queue

theorem popped_queues (store : LocalStore V) (head : MutationBatch V)
    (rest : List (MutationBatch V)) : Popped store (store.popped head rest) rest := by
  refine ⟨rfl, fun user => ?_⟩
  unfold LocalStore.popped LocalStore.withMutationQueue
  dsimp only
  split
  · rename_i same
    rw [same, Function.update_self]
    rfl
  · rename_i different
    rw [Function.update_of_ne different]

variable {store : LocalStore V} (callback : Callback) (status : Error)

theorem registered_answered (sound : client.Sound)
    (queued : client.localStore.mutationQueue.queue = head :: rest)
    (popped : Popped client.localStore store rest) :
    (client.answered store head callback status).Registered := by
  have others := later_ids sound.store.queue queued
  intro user batchId
  unfold answered currentUser
  dsimp only
  rw [popped.2]
  by_cases same : user = client.localStore.user
  · subst same
    rw [if_pos rfl, Function.update_self]
    by_cases isHead : batchId = head.batchId
    · subst isHead
      rw [Function.update_self]
      constructor
      · intro impossible
        cases impossible
      · rintro ⟨batch, member, sameId⟩
        exact absurd sameId (others batch member)
    · rw [Function.update_of_ne isHead, sound.callbacks]
      change (∃ batch ∈ client.localStore.mutationQueue.queue, _) ↔ _
      rw [queued, List.exists_mem_cons_iff]
      constructor
      · rintro (isFirst | later)
        · exact absurd isFirst.symm isHead
        · exact later
      · exact .inr
  · rw [if_neg same, Function.update_of_ne same]
    exact sound.callbacks user batchId

theorem pending_answered (sound : client.Sound)
    (queued : client.localStore.mutationQueue.queue = head :: rest)
    (popped : Popped client.localStore store rest) :
    (client.answered store head callback status).pending =
      Function.update client.pending client.currentUser (client.pending client.currentUser).tail := by
  have others := later_ids sound.store.queue queued
  funext user
  unfold pending answered
  dsimp only
  rw [popped.2]
  by_cases same : user = client.localStore.user
  · subst same
    rw [if_pos rfl, currentUser, Function.update_self, Function.update_self]
    change _ = List.tail (client.localStore.mutationQueue.queue.map _)
    rw [queued, List.map_cons, List.tail_cons]
    apply List.map_congr_left
    intro batch member
    rw [Function.update_of_ne (others batch member)]
  · rw [if_neg same, currentUser, Function.update_of_ne same, Function.update_of_ne same]

theorem pending_first (queued : client.localStore.mutationQueue.queue = head :: rest)
    (registered : client.mutationCallbacks client.currentUser head.batchId = some callback) :
    client.pending client.currentUser =
      (some callback, head.mutations) :: (client.pending client.currentUser).tail := by
  unfold pending
  change client.localStore.mutationQueue.queue.map _ = _ :: List.tail (client.localStore.mutationQueue.queue.map _)
  rw [queued, List.map_cons, List.tail_cons, registered]

end Answering

/-! ### Closing the stream -/

section Closing

variable {client : Client V Callback} {status : Error}

/-- The client whose stream has closed and not started again. -/
def disconnected (client : Client V Callback) (status : Error) : Client V Callback :=
  { client with
    writeStream := { client.writeStream.closed status with handshakeComplete := false }
    late := client.writeStream.sentMutations :: client.late }

theorem traffic_disconnected (sound : client.Sound) (status : Error) :
    ∃ count, (client.disconnected status).traffic = client.traffic.disconnect count := by
  obtain ⟨count, isSent⟩ := sound.sent
  refine ⟨count, ?_⟩
  unfold Traffic.disconnect
  rw [← isSent]
  rfl

theorem closed_not_started (stream : WriteStream V) (status : Error) :
    (stream.closed status).isStarted = false := by
  unfold WriteStream.isStarted WriteStream.isOpen WriteStream.closed
  dsimp only
  split <;> rfl

theorem carries_closed (stream : WriteStream V) (status : Error) (complete : Bool)
    (pipeline : List (MutationBatch V)) :
    Carries { stream.closed status with handshakeComplete := complete } pipeline := by
  unfold WriteStream.closed
  dsimp only
  split
  · exact .stopped (.inl rfl)
  · exact .stopped (.inr rfl)

/-- Where nothing waits, or the network is disabled, a stream just closes. -/
theorem close_stopped (started : client.writeStream.isStarted = true)
    (quiet : client.writePipeline = [] ∨ status = .ok ∧ client.isNetworkEnabled = false) :
    client.closeWriteStream status = .ok (client.disconnected status, none) := by
  have notNeeded : ({ client with
      writeStream := client.writeStream.closed status
      late := client.writeStream.sentMutations :: client.late } :
        Client V Callback).shouldStartWriteStream = false := by
    unfold shouldStartWriteStream
    rcases quiet with none | ⟨_, disabled⟩
    · simp only [none, List.isEmpty_nil, Bool.not_true, Bool.and_false]
    · simp only [disabled, Bool.false_and]
  have ignored : (status = .ok || client.writePipeline.isEmpty) = true := by
    rcases quiet with none | ⟨isOk, _⟩
    · rw [none, List.isEmpty_nil, Bool.or_true]
    · rw [isOk]
      rfl
  simp only [closeWriteStream, started, Bool.not_true, Bool.and_false, Bool.false_eq_true,
    if_false, hardAssert_true, onWriteStreamClose, notNeeded, Bool.not_false, Bool.or_true,
    handleStreamError, ignored, if_true, startIfNeeded, disconnected, bind, Except.bind, pure,
    Except.pure]

/-- A stream that is still needed must not be stopped. -/
theorem close_needed (started : client.writeStream.isStarted = true)
    (enabled : client.isNetworkEnabled = true) (waiting : client.writePipeline ≠ []) :
    client.closeWriteStream .ok =
      .error "Write stream was stopped gracefully while still needed." := by
  have needed : ({ client with
      writeStream := client.writeStream.closed .ok
      late := client.writeStream.sentMutations :: client.late } :
        Client V Callback).shouldStartWriteStream = true := by
    unfold shouldStartWriteStream
    simp only [enabled, closed_not_started, Bool.not_false, Bool.true_and, Bool.not_eq_true',
      List.isEmpty_eq_false_iff]
    exact waiting
  simp only [closeWriteStream, started, Bool.not_true, Bool.and_false, Bool.false_eq_true,
    if_false, if_true, onWriteStreamClose, needed, hardAssert, ne_eq, not_true_eq_false,
    decide_false, Bool.or_self, bind, Except.bind]

theorem isPermanentError_of_ne {status : Error} (failed : status ≠ .ok) :
    ∃ permanent, isPermanentError status = .ok permanent := by
  cases status with
  | ok => exact absurd rfl failed
  | _ => exact ⟨_, rfl⟩

theorem isPermanentWriteError_of_ne {status : Error} (failed : status ≠ .ok) :
    ∃ permanent, isPermanentWriteError status = .ok permanent := by
  cases status with
  | ok => exact absurd rfl failed
  | _ => exact ⟨_, rfl⟩

/-- After a failure that need not last the stream starts again, behind a delay. -/
theorem close_retry (started : client.writeStream.isStarted = true)
    (enabled : client.isNetworkEnabled = true) (waiting : client.writePipeline ≠ [])
    (failed : status ≠ .ok)
    (spared : client.writeStream.handshakeComplete = false ∨
      isPermanentWriteError status = .ok false) :
    client.closeWriteStream status =
      .ok ({ client.disconnected status with
        writeStream := ⟨.backoff, false, false, [], []⟩ }, none) := by
  have isError : client.writeStream.closed status =
      ⟨.error, client.writeStream.handshakeComplete, false, [], []⟩ := by
    rw [WriteStream.closed, if_neg failed]
  have ignored : ({ client with
      writeStream := ⟨.error, client.writeStream.handshakeComplete, false, [], []⟩
      late := client.writeStream.sentMutations :: client.late } :
        Client V Callback).handleStreamError status =
      .ok ({ client with
        writeStream := ⟨.error, client.writeStream.handshakeComplete, false, [], []⟩
        late := client.writeStream.sentMutations :: client.late }, none) := by
    have pending : client.writePipeline.isEmpty = false := List.isEmpty_eq_false_iff.mpr waiting
    simp only [handleStreamError, failed, decide_false, pending, Bool.or_self, Bool.false_eq_true,
      if_false]
    rcases spared with incomplete | notPermanent
    · obtain ⟨permanent, isPermanent⟩ := isPermanentError_of_ne failed
      simp only [incomplete, Bool.false_eq_true, if_false, handleHandshakeError, ne_eq, failed,
        not_false_eq_true, decide_true, hardAssert_true, isPermanent, bind, Except.bind, pure,
        Except.pure, Except.map]
    · split
      · simp only [handleWriteError, ne_eq, failed, not_false_eq_true, decide_true,
          hardAssert_true, notPermanent, bind, Except.bind, pure, Except.pure]
      · obtain ⟨permanent, isPermanent⟩ := isPermanentError_of_ne failed
        simp only [handleHandshakeError, ne_eq, failed, not_false_eq_true, decide_true,
          hardAssert_true, isPermanent, bind, Except.bind, pure, Except.pure, Except.map]
  have needed : ({ client with
      writeStream := ⟨.error, client.writeStream.handshakeComplete, false, [], []⟩
      late := client.writeStream.sentMutations :: client.late } :
        Client V Callback).shouldStartWriteStream = true := by
    unfold shouldStartWriteStream
    simp only [enabled, Bool.true_and, Bool.and_eq_true, Bool.not_eq_true',
      List.isEmpty_eq_false_iff]
    exact ⟨rfl, waiting⟩
  simp only [closeWriteStream, started, Bool.not_true, Bool.and_false, Bool.false_eq_true,
    if_false, hardAssert_true, onWriteStreamClose, isError, ne_eq, failed, not_false_eq_true,
    decide_true, Bool.true_or, ignored, startIfNeeded, needed, if_true, startWriteStream,
    WriteStream.start, disconnected, bind, Except.bind, pure, Except.pure]

/-- After a failure for good the first write is given up, and the others go on. -/
theorem close_refuse (sound : client.Sound) (complete : client.writeStream.handshakeComplete = true)
    {head : MutationBatch V} {rest : List (MutationBatch V)}
    (queued : client.localStore.mutationQueue.queue = head :: rest)
    (permanent : isPermanentWriteError status = .ok true) :
    ∃ callback changes stream,
      client.mutationCallbacks client.currentUser head.batchId = some callback ∧
      client.closeWriteStream status =
        .ok ({ ((client.disconnected status).answered (client.localStore.popped head rest) head
          callback status).filled stream with
            writeStream := { stream with handshakeComplete := false } }, some changes) ∧
      LocalStore.Reports client.localStore (client.localStore.popped head rest) changes ∧
      ({ ((client.disconnected status).answered (client.localStore.popped head rest) head
          callback status).filled stream with
            writeStream := { stream with handshakeComplete := false } } :
        Client V Callback).Sound := by
  have started := started_of_isOpen (sound.complete complete)
  have enabled := sound.enabled_of_started started
  have failed : status ≠ .ok := by
    rintro rfl
    cases permanent
  have isError : client.writeStream.closed status = ⟨.error, true, false, [], []⟩ := by
    rw [WriteStream.closed, if_neg failed, complete]
  have pipeline : client.writePipeline = head :: rest.take 9 := by
    rw [sound.pipeline, if_pos enabled, queued]
    rfl
  obtain ⟨callback, registered⟩ := sound.callbacks.first queued
  obtain ⟨changes, rejected, soundStore, reports⟩ :=
    LocalStore.rejectBatch_spec sound.store queued
  have popped := popped_queues client.localStore head rest
  have isRest : (client.localStore.popped head rest).mutationQueue.queue = rest := by
    rw [LocalStore.popped, LocalStore.mutationQueue_withMutationQueue]
    rfl
  let refused : Client V Callback :=
    { client.answered (client.localStore.popped head rest) head callback status with
      writePipeline := rest.take 9
      writeStream := ⟨.initial, true, false, [], []⟩
      late := client.writeStream.sentMutations :: client.late }
  have registeredLater : refused.Registered :=
    registered_answered callback status sound queued popped
  have fillable : refused.Fillable :=
    { coherent := soundStore.queue
      enabled := enabled
      queued := by
        change rest.take 9 <+: (client.localStore.popped head rest).mutationQueue.queue
        rw [isRest]
        exact List.take_prefix _ _
      room := Nat.le_trans (List.length_take_le _ _) (by decide)
      carries := .stopped (.inl rfl) }
  obtain ⟨stream, isFilled, carries, same, startedLater⟩ := fillWritePipeline_spec fillable
  refine ⟨callback, changes, stream, registered, ?_, reports, ?_⟩
  · have notNeeded : (refused.filled stream).shouldStartWriteStream = false := by
      unfold shouldStartWriteStream filled
      dsimp only
      rcases Decidable.em (refused.localStore.mutationQueue.queue.isEmpty = true) with none | some
      · rw [List.isEmpty_iff.mp none]
        simp only [List.take_nil, List.isEmpty_nil, Bool.not_true, Bool.and_false]
      · rw [startedLater (fun none => some (List.isEmpty_iff.mpr none))]
        simp only [Bool.not_true, Bool.and_false, Bool.false_and]
    have handled : ({ client with
        writeStream := ⟨.error, true, false, [], []⟩
        late := client.writeStream.sentMutations :: client.late } :
          Client V Callback).handleStreamError status =
        .ok (refused.filled stream, some changes) := by
      simp only [handleStreamError, failed, decide_false, pipeline, List.isEmpty_cons,
        Bool.or_self, Bool.false_eq_true, if_false, if_true, handleWriteError, ne_eq,
        not_false_eq_true, decide_true, hardAssert_true, permanent, bind, Except.bind, pure,
        Except.pure]
      have inhibited : WriteStream.inhibitBackoff
          (⟨.error, true, false, [], []⟩ : WriteStream V) =
            .ok ⟨.initial, true, false, [], []⟩ := rfl
      have notified : ({ client with
          localStore := client.localStore.popped head rest
          writePipeline := rest.take 9
          writeStream := ⟨.initial, true, false, [], []⟩
          late := client.writeStream.sentMutations :: client.late } :
            Client V Callback).notifyUser head.batchId status = refused :=
        notifyUser_eq head.batchId status registered
      simp only [inhibited, handleRejectedWrite, rejected, notified, isFilled, bind, Except.bind,
        pure, Except.pure]
      rfl
    simp only [closeWriteStream, started, Bool.not_true, Bool.and_false, Bool.false_eq_true,
      if_false, hardAssert_true, onWriteStreamClose, isError, ne_eq, failed, not_false_eq_true,
      decide_true, Bool.true_or, handled, startIfNeeded, notNeeded, bind, Except.bind, pure,
      Except.pure]
    rfl
  · exact sound_filled fillable.enabled soundStore registeredLater (carries.forget same.opened)
      startedLater (fun impossible => by cases impossible)

end Closing

end Client

/-! ### Events -/

/-- The write an event makes. -/
def WriteEvent.write? : WriteEvent V Callback → Option (Callback × List (Mutation V))
  | .write mutations callback => some (callback, mutations)
  | _ => none

/-- A write changes each document once at most. -/
def WriteEvent.Distinct : WriteEvent V Callback → Prop
  | .write mutations _ => (mutations.map Mutation.key).Nodup
  | _ => True

/-- What a step hands on tells the views of all that readers see change. -/
def LocalStore.Reported (before after : LocalStore V) : Changes V → Prop
  | none => ∀ key, after.seen key = before.seen key
  | some changes => Reports before after changes

/-- What an event that fails no assertion does. -/
structure Handled (before : Client V Callback) (event : WriteEvent V Callback)
    (after : Client V Callback) (changes : Changes V) : Prop where
  sound : after.Sound
  moves : ∃ middle, Moves before.traffic event.write? middle ∧ Moves middle none after.traffic
  reported : event.Distinct → before.localStore.Reported after.localStore changes

namespace Client

variable {client : Client V Callback}

theorem traffic_filled {pipeline : List (MutationBatch V)} {stream : WriteStream V}
    (same : SameAnswers client.writeStream stream) :
    ({ client with writePipeline := pipeline, writeStream := stream } :
      Client V Callback).traffic = client.traffic := by
  unfold traffic replied
  dsimp only
  rw [same.complete, same.responses]
  rfl

/-- No pending write has the next id. -/
theorem unregistered_next (sound : client.Sound) :
    client.mutationCallbacks client.currentUser
      client.localStore.mutationQueue.nextBatchId = none := by
  by_contra registered
  obtain ⟨batch, member, isNext⟩ :=
    (sound.callbacks _ _).mp (Option.isSome_iff_ne_none.mpr registered)
  obtain ⟨index, found⟩ := List.mem_iff_getElem?.mp member
  have isId := sound.store.queue.ids index batch found
  obtain ⟨bound, _⟩ := List.getElem?_eq_some_iff.mp found
  change index < client.localStore.mutationQueue.queue.length at bound
  omega

section Writing

variable {mutations : List (Mutation V)} (callback : Callback)

/-- The client with a write at the end of its queue, before the pipeline is filled. -/
def written (client : Client V Callback) (batch : MutationBatch V) (callback : Callback) :
    Client V Callback :=
  { client with
    localStore := client.localStore.written batch
    mutationCallbacks := Function.update client.mutationCallbacks client.currentUser
      (Function.update (client.mutationCallbacks client.currentUser) batch.batchId
        (some callback)) }

theorem queue_written (client : Client V Callback) (batch : MutationBatch V) (callback : Callback)
    (user : User) :
    ((client.written batch callback).localStore.mutationQueues user).queue =
      if user = client.currentUser then client.localStore.mutationQueue.queue ++ [batch]
      else (client.localStore.mutationQueues user).queue := by
  unfold written LocalStore.written LocalStore.withMutationQueue currentUser
  dsimp only
  split
  · rename_i same
    rw [same, Function.update_self]
    rfl
  · rename_i different
    rw [Function.update_of_ne different]

theorem registered_written (sound : client.Sound) (batch : MutationBatch V) :
    (client.written batch callback).Registered := by
  intro user batchId
  rw [queue_written]
  unfold written
  dsimp only
  by_cases same : user = client.currentUser
  · subst same
    rw [if_pos rfl, Function.update_self]
    simp only [List.mem_append, List.mem_singleton, or_and_right, exists_or, exists_eq_left]
    by_cases isId : batchId = batch.batchId
    · subst isId
      rw [Function.update_self]
      exact iff_of_true rfl (.inr rfl)
    · rw [Function.update_of_ne isId, sound.callbacks]
      exact (or_iff_left (fun same => isId same.symm)).symm
  · rw [if_neg same, Function.update_of_ne same]
    exact sound.callbacks user batchId

theorem pending_written (sound : client.Sound) {batch : MutationBatch V}
    (isNext : batch.batchId = client.localStore.mutationQueue.nextBatchId) :
    (client.written batch callback).pending =
      Function.update client.pending client.currentUser
        (client.pending client.currentUser ++ [(some callback, batch.mutations)]) := by
  have unregistered := unregistered_next sound
  funext user
  unfold pending
  rw [queue_written]
  unfold written
  dsimp only
  by_cases same : user = client.currentUser
  · subst same
    rw [if_pos rfl, Function.update_self, Function.update_self, List.map_append,
      List.map_singleton, Function.update_self]
    congr 1
    apply List.map_congr_left
    intro other member
    rw [Function.update_of_ne]
    intro sameId
    have registered := (sound.callbacks client.currentUser other.batchId).mpr
      ⟨other, member, rfl⟩
    rw [sameId, isNext, unregistered] at registered
    cases registered
  · rw [if_neg same, Function.update_of_ne same, Function.update_of_ne same]

theorem handled_write (sound : client.Sound) (nonempty : mutations ≠ []) :
    ∃ after changes, client.writeMutations mutations callback = .ok (after, changes) ∧
      Handled client (.write mutations callback) after changes := by
  obtain ⟨changes, stored, reports⟩ := LocalStore.writeLocally_spec sound.store nonempty
  let batch := client.localStore.nextBatch mutations nonempty
  have isNext : batch.batchId = client.localStore.mutationQueue.nextBatchId := rfl
  have before := sound.refillable
  have refillable : (client.written batch callback).Refillable :=
    { store := LocalStore.sound_written sound.store nonempty
      callbacks := registered_written callback sound batch
      queued := by
        have queue := queue_written client batch callback client.currentUser
        rw [if_pos rfl] at queue
        change client.writePipeline <+:
          ((client.written batch callback).localStore.mutationQueues client.currentUser).queue
        rw [queue]
        exact before.queued.trans (List.prefix_append _ _)
      room := before.room
      disabled := before.disabled
      carries := before.carries
      stopped := before.stopped
      complete := before.complete }
  obtain ⟨pipeline, stream, isFilled, same, soundAfter⟩ := refillable.fill
  refine ⟨_, some changes, ?_, soundAfter, ⟨_, ?_, .still _⟩, reports⟩
  · have unregistered : client.mutationCallbacks client.currentUser batch.batchId = none :=
      unregistered_next sound
    have isFilled : Client.fillWritePipeline
        { client with
          localStore := client.localStore.written batch
          mutationCallbacks := Function.update client.mutationCallbacks client.currentUser
            (Function.update (client.mutationCallbacks client.currentUser) batch.batchId
              (some callback)) } = _ := isFilled
    simp only [batch] at unregistered isFilled
    simp only [writeMutations, stored, unregistered, Option.getD_none, isFilled, bind, Except.bind,
      pure, Except.pure]
    rfl
  · rw [traffic_filled same]
    have moved := Moves.write client.traffic callback mutations
    have isPending := pending_written callback sound isNext
    unfold traffic at moved ⊢
    dsimp only at moved ⊢
    rw [isPending]
    exact moved

end Writing

section Network

theorem enableNetwork_spec (sound : client.Sound) :
    ∃ after, client.enableNetwork = .ok after ∧ after.Sound ∧ after.traffic = client.traffic ∧
      after.localStore = client.localStore := by
  have before := sound.refillable
  have refillable : ({ client with isNetworkEnabled := true } : Client V Callback).Refillable :=
    { store := before.store
      callbacks := before.callbacks
      queued := before.queued
      room := before.room
      disabled := fun impossible => by cases impossible
      carries := before.carries
      stopped := fun impossible => by cases impossible
      complete := before.complete }
  obtain ⟨pipeline, stream, isFilled, same, soundAfter⟩ := refillable.fill
  exact ⟨_, isFilled, soundAfter, traffic_filled same, rfl⟩

theorem handled_enableNetwork (sound : client.Sound) :
    ∃ after, client.enableNetwork = .ok after ∧ Handled client .enableNetwork after none := by
  obtain ⟨after, enabled, soundAfter, sameTraffic, sameStore⟩ := enableNetwork_spec sound
  refine ⟨after, enabled, soundAfter, ⟨_, .still _, ?_⟩, ?_⟩
  · rw [sameTraffic]
    exact .still _
  · intro _ key
    rw [sameStore]

/-- The client with the network disabled. -/
def offline (client : Client V Callback) : Client V Callback :=
  if client.writeStream.isStarted then
    { client.disconnected .ok with isNetworkEnabled := false, writePipeline := [] }
  else { client with isNetworkEnabled := false, writePipeline := [] }

theorem disableNetwork_eq (client : Client V Callback) :
    client.disableNetwork = .ok client.offline := by
  unfold disableNetwork offline
  cases started : client.writeStream.isStarted with
  | true =>
      have closes := @close_stopped V Callback { client with isNetworkEnabled := false } .ok started
        (.inr ⟨rfl, rfl⟩)
      simp only [closes, bind, Except.bind, pure, Except.pure]
      rfl
  | false =>
      simp only [closeWriteStream, started, Bool.not_false, decide_true, Bool.and_self, if_true,
        Bool.false_eq_true, if_false, bind, Except.bind, pure, Except.pure]

theorem Sound.incomplete (sound : client.Sound) (notStarted : client.writeStream.isStarted = false) :
    client.writeStream.handshakeComplete = false := by
  by_contra complete
  have started := started_of_isOpen (sound.complete (Bool.not_eq_false _ ▸ complete))
  rw [notStarted] at started
  cases started

theorem offline_stopped (client : Client V Callback) :
    client.offline.writeStream.isStarted = false := by
  unfold offline
  split
  · exact closed_not_started client.writeStream .ok
  · rename_i notStarted
    exact Bool.eq_false_iff.mpr notStarted

/-- Without the network nothing is on its way. -/
theorem moves_offline (sound : client.Sound) :
    Moves client.traffic none client.offline.traffic ∧ client.offline.traffic.replied = 0 := by
  unfold offline
  split
  · obtain ⟨count, isTraffic⟩ := traffic_disconnected sound .ok
    have moved := Moves.disconnect client.traffic count
    rw [← isTraffic] at moved
    exact ⟨moved, rfl⟩
  · rename_i notStarted
    have incomplete := sound.incomplete (Bool.eq_false_iff.mpr notStarted)
    refine ⟨.still _, ?_⟩
    unfold traffic replied
    dsimp only
    rw [incomplete]
    rfl

/-- A client whose network is disabled is sound whatever its queues hold. -/
theorem sound_offline {store : LocalStore V} (sound : client.Sound) (soundStore : store.Sound)
    (callbacks : ({ client with localStore := store } : Client V Callback).Registered) :
    ({ client.offline with localStore := store } : Client V Callback).Sound := by
  have stopped := offline_stopped client
  unfold offline at stopped ⊢
  split
  · exact
      { store := soundStore
        callbacks := callbacks
        pipeline := rfl
        carries := carries_closed client.writeStream .ok false []
        started := fun impossible => absurd rfl impossible
        stopped := fun _ => closed_not_started client.writeStream .ok
        complete := fun impossible => by cases impossible }
  · rename_i notStarted
    have notStarted := Bool.eq_false_iff.mpr notStarted
    exact
      { store := soundStore
        callbacks := callbacks
        pipeline := rfl
        carries := sound.carries.of_stopped notStarted []
        started := fun impossible => absurd rfl impossible
        stopped := fun _ => notStarted
        complete := sound.complete }

theorem handled_disableNetwork (sound : client.Sound) :
    ∃ after, client.disableNetwork = .ok after ∧ Handled client .disableNetwork after none := by
  refine ⟨client.offline, disableNetwork_eq client, ?_, ?_, ?_⟩
  · have soundAfter := sound_offline sound sound.store sound.callbacks
    have sameStore : client.offline.localStore = client.localStore := by
      unfold offline
      split <;> rfl
    rw [← sameStore] at soundAfter
    exact soundAfter
  · exact ⟨_, .still _, (moves_offline sound).1⟩
  · intro _ key
    unfold offline
    split <;> rfl

theorem offline_of_disabled (sound : client.Sound) (disabled : client.isNetworkEnabled = false) :
    client.offline = client := by
  have nothing := sound.refillable.disabled disabled
  unfold offline
  rw [if_neg (by rw [sound.stopped disabled]; exact Bool.false_ne_true), ← nothing, ← disabled]

/-- The streams start again over the queue of another user. -/
theorem restartStreams_spec (sound : client.Sound) {store : LocalStore V}
    (soundStore : store.Sound)
    (queues : ∀ user, (store.mutationQueues user).queue =
      (client.localStore.mutationQueues user).queue) :
    ∃ after, ({ client with localStore := store } : Client V Callback).restartStreams = .ok after ∧
      after.Sound ∧ after.localStore = store ∧
      ∃ middle, Moves client.traffic none middle ∧ Moves middle none after.traffic := by
  have callbacks : ({ client with localStore := store } : Client V Callback).Registered := by
    intro user batchId
    dsimp only
    rw [queues]
    exact sound.callbacks user batchId
  have soundOffline := sound_offline sound soundStore callbacks
  obtain ⟨disconnected, nothingReplied⟩ := moves_offline sound
  have switched : ({ client.offline with localStore := store } : Client V Callback).traffic =
      { client.offline.traffic with user := store.user } := by
    have sameQueues : client.offline.localStore = client.localStore := by
      unfold offline
      split <;> rfl
    unfold traffic pending
    dsimp only
    congr 1
    funext user
    rw [queues, sameQueues]
  have moves := Moves.switch store.user nothingReplied
  rw [← switched] at moves
  rcases Bool.eq_false_or_eq_true client.isNetworkEnabled with enabled | disabled
  · obtain ⟨after, restarted, soundAfter, sameTraffic, sameStore⟩ :=
      enableNetwork_spec soundOffline
    have isOffline : ({ client with localStore := store } : Client V Callback).offline =
        { client.offline with localStore := store } := by
      unfold offline
      dsimp only
      split <;> rfl
    refine ⟨after, ?_, soundAfter, sameStore, _, disconnected, ?_⟩
    · unfold restartStreams
      rw [if_pos enabled, disableNetwork_eq, isOffline]
      exact restarted
    · rw [sameTraffic]
      exact moves
  · rw [offline_of_disabled sound disabled] at soundOffline moves disconnected
    refine ⟨_, ?_, soundOffline, rfl, _, disconnected, moves⟩
    simp only [restartStreams, disabled, Bool.false_eq_true, if_false]

theorem queue_switched (store : LocalStore V) (user other : User) :
    ((store.switched user).mutationQueues other).queue = (store.mutationQueues other).queue := by
  unfold LocalStore.switched
  dsimp only
  by_cases same : other = user
  · subst same
    rw [Function.update_self]
    unfold MutationQueue.start
    split <;> rfl
  · rw [Function.update_of_ne same]

theorem handled_credentialChange (sound : client.Sound) (user : User) :
    ∃ after changes, client.handleCredentialChange user = .ok (after, changes) ∧
      Handled client (.credentialChange user) after changes := by
  by_cases same : client.currentUser = user
  · obtain ⟨after, restarted, soundAfter, sameStore, moves⟩ :=
      restartStreams_spec sound sound.store (fun _ => rfl)
    refine ⟨after, none, ?_, soundAfter, moves, ?_⟩
    · simp only [handleCredentialChange, changeUser, same, if_true, restarted, bind, Except.bind,
        pure, Except.pure]
    · intro _ key
      rw [sameStore]
  · obtain ⟨changes, switched, soundStore, reports⟩ :=
      LocalStore.handleUserChange_spec sound.store user
    obtain ⟨after, restarted, soundAfter, sameStore, moves⟩ :=
      restartStreams_spec sound soundStore (queue_switched client.localStore user)
    refine ⟨after, some changes, ?_, soundAfter, moves, ?_⟩
    · simp only [handleCredentialChange, changeUser, same, if_false, switched, restarted, bind,
        Except.bind, pure, Except.pure]
    · intro _
      rw [sameStore]
      exact reports

end Network

section Streams

/-- A stream that waits to start again leaves the client sound. -/
theorem sound_waiting (sound : client.Sound) (enabled : client.isNetworkEnabled = true)
    (nonempty : client.writePipeline ≠ []) {state : StreamState}
    (waits : state = .starting ∨ state = .backoff) (late : List (List (List (Mutation V)))) :
    ({ client with writeStream := ⟨state, false, false, [], []⟩, late := late } :
      Client V Callback).Sound where
  store := sound.store
  callbacks := sound.callbacks
  pipeline := sound.pipeline
  carries := .waiting waits nonempty
  started := by
    intro _
    rcases waits with rfl | rfl <;> rfl
  stopped := by
    intro disabled
    change client.isNetworkEnabled = false at disabled
    rw [enabled] at disabled
    cases disabled
  complete := fun impossible => by cases impossible

theorem handled_retry (sound : client.Sound) (started : client.writeStream.isStarted = true)
    (waiting : client.writePipeline ≠ []) {status : Error} (failed : status ≠ .ok)
    (spared : client.writeStream.handshakeComplete = false ∨
      isPermanentWriteError status = .ok false) :
    ∃ after, client.closeWriteStream status = .ok (after, none) ∧ after.Sound ∧
      Moves client.traffic none after.traffic ∧ after.localStore = client.localStore := by
  have enabled := sound.enabled_of_started started
  refine ⟨_, close_retry started enabled waiting failed spared,
    sound_waiting sound enabled waiting (.inr rfl) _, ?_, rfl⟩
  obtain ⟨count, isTraffic⟩ := traffic_disconnected sound status
  have moved := Moves.disconnect client.traffic count
  rw [← isTraffic] at moved
  exact moved

/-- A stream that closes while nothing waits stays closed. -/
theorem handled_stop (sound : client.Sound) (started : client.writeStream.isStarted = true)
    (nothing : client.writePipeline = []) (status : Error) :
    ∃ after, client.closeWriteStream status = .ok (after, none) ∧ after.Sound ∧
      Moves client.traffic none after.traffic ∧ after.localStore = client.localStore := by
  refine ⟨_, close_stopped started (.inl nothing), ?_, ?_, rfl⟩
  · exact
      { store := sound.store
        callbacks := sound.callbacks
        pipeline := sound.pipeline
        carries := carries_closed client.writeStream status false _
        started := fun nonempty => absurd nothing nonempty
        stopped := fun _ => closed_not_started client.writeStream status
        complete := fun impossible => by cases impossible }
  · obtain ⟨count, isTraffic⟩ := traffic_disconnected sound status
    have moved := Moves.disconnect client.traffic count
    rw [← isTraffic] at moved
    exact moved

theorem Sound.incomplete_of_waiting (sound : client.Sound)
    (waits : client.writeStream.state = .starting ∨ client.writeStream.state = .backoff) :
    client.writeStream.handshakeComplete = false := by
  by_contra complete
  have opened := sound.complete (Bool.not_eq_false _ ▸ complete)
  unfold WriteStream.isOpen at opened
  rcases waits with waits | waits
  · rw [waits] at opened
    cases opened
  · rw [waits] at opened
    cases opened

/-- With its token the stream opens, and its handshake is on its way. -/
theorem handle_token (sound : client.Sound) (starting : client.writeStream.state = .starting) :
    client.handle (.token .ok) =
        some (.ok ({ client with writeStream := ⟨.opened, false, false, [.handshake], []⟩ }, none)) ∧
      client.writePipeline ≠ [] := by
  obtain ⟨opens, nonempty⟩ :=
    sound.carries.open starting (sound.incomplete_of_waiting (.inl starting))
  constructor
  · simp only [handle, starting, if_true, onWriteStreamOpen, opens, bind, Except.bind, pure,
      Except.pure, Except.map]
  · exact nonempty

theorem handled_token (sound : client.Sound) (starting : client.writeStream.state = .starting)
    (status : Error) :
    ∃ after changes, client.handle (.token status) = some (.ok (after, changes)) ∧
      Handled client (.token status) after changes := by
  have started : client.writeStream.isStarted = true := by
    rw [WriteStream.isStarted, starting]
    rfl
  have enabled := sound.enabled_of_started started
  have incomplete := sound.incomplete_of_waiting (.inl starting)
  by_cases isOk : status = .ok
  · subst isOk
    obtain ⟨opens, nonempty⟩ := handle_token sound starting
    refine ⟨_, none, opens, ?_⟩
    constructor
    · exact
        { store := sound.store
          callbacks := sound.callbacks
          pipeline := sound.pipeline
          carries := .greeting nonempty
          started := fun _ => rfl
          stopped := by
            intro disabled
            change client.isNetworkEnabled = false at disabled
            rw [enabled] at disabled
            cases disabled
          complete := fun impossible => by cases impossible }
    · refine ⟨_, .still _, ?_⟩
      have sameTraffic : ({ client with
          writeStream := ⟨.opened, false, false, [.handshake], []⟩ } :
            Client V Callback).traffic = client.traffic := by
        unfold traffic replied
        rw [incomplete]
        rfl
      rw [sameTraffic]
      exact .still _
    · intro _ key
      rfl
  · have nonempty := (sound.carries.nonempty_of_waiting (.inl starting)).1
    obtain ⟨after, closed, soundAfter, moves, sameStore⟩ :=
      handled_retry sound started nonempty isOk (.inl incomplete)
    refine ⟨after, none, ?_, soundAfter, ⟨_, .still _, moves⟩, ?_⟩
    · simp only [handle, starting, isOk, if_true, if_false, closed]
    · intro _ key
      rw [sameStore]

/-- After the delay the stream starts. -/
theorem handle_backoff (sound : client.Sound) (waits : client.writeStream.state = .backoff) :
    client.handle .backoffElapsed =
        some (.ok ({ client with writeStream := ⟨.starting, false, false, [], []⟩ }, none)) ∧
      client.writePipeline ≠ [] := by
  obtain ⟨nonempty, isStream⟩ := sound.carries.nonempty_of_waiting (.inr waits)
  rw [sound.incomplete_of_waiting (.inr waits)] at isStream
  constructor
  · rw [handle, if_pos waits, isStream]
    rfl
  · exact nonempty

theorem handled_backoff (sound : client.Sound) (waits : client.writeStream.state = .backoff) :
    ∃ after changes, client.handle .backoffElapsed = some (.ok (after, changes)) ∧
      Handled client .backoffElapsed after changes := by
  have started : client.writeStream.isStarted = true := by
    rw [WriteStream.isStarted, waits]
    rfl
  have enabled := sound.enabled_of_started started
  obtain ⟨restarts, nonempty⟩ := handle_backoff sound waits
  refine ⟨_, none, restarts, sound_waiting sound enabled nonempty (.inl rfl) client.late,
    ⟨_, .still _, ?_⟩, fun _ _ => rfl⟩
  have sameTraffic : ({ client with writeStream := ⟨.starting, false, false, [], []⟩ } :
      Client V Callback).traffic = client.traffic := by
    unfold traffic replied
    rw [sound.incomplete_of_waiting (.inr waits)]
    rfl
  rw [sameTraffic]
  exact .still _

theorem handled_idleTimeout (sound : client.Sound)
    (timer : client.writeStream.idlenessTimer = true) :
    ∃ after changes, client.handle .idleTimeout = some (.ok (after, changes)) ∧
      Handled client .idleTimeout after changes := by
  obtain ⟨nothing, started⟩ := sound.carries.idle timer
  obtain ⟨after, closed, soundAfter, moves, sameStore⟩ := handled_stop sound started nothing .ok
  refine ⟨after, none, ?_, soundAfter, ⟨_, .still _, moves⟩, ?_⟩
  · simp only [handle, timer, if_true, closed]
  · intro _ key
    rw [sameStore]

end Streams

section Answers

/-- The stream fails for good: the first write is given up. -/
theorem handled_refuse (sound : client.Sound)
    (complete : client.writeStream.handshakeComplete = true) (waiting : client.writePipeline ≠ [])
    {status : Error} (permanent : isPermanentWriteError status = .ok true) :
    ∃ after changes, client.closeWriteStream status = .ok (after, changes) ∧ after.Sound ∧
      (∃ middle, Moves client.traffic none middle ∧ Moves middle none after.traffic) ∧
      client.localStore.Reported after.localStore changes := by
  obtain ⟨head, rest, queued⟩ : ∃ head rest,
      client.localStore.mutationQueue.queue = head :: rest := by
    cases queued : client.localStore.mutationQueue.queue with
    | nil =>
        have pipeline := sound.pipeline
        rw [queued, List.take_nil, ite_self] at pipeline
        exact absurd pipeline waiting
    | cons head rest => exact ⟨head, rest, rfl⟩
  obtain ⟨callback, changes, stream, registered, closed, reports, soundAfter⟩ :=
    close_refuse sound complete queued permanent
  obtain ⟨count, isTraffic⟩ := traffic_disconnected sound status
  have disconnected := Moves.disconnect client.traffic count
  rw [← isTraffic] at disconnected
  refine ⟨_, some changes, closed, soundAfter, ⟨_, disconnected, ?_⟩, reports⟩
  have moved := @Moves.refuse V Callback (client.disconnected status).traffic callback
    head.mutations (client.pending client.currentUser).tail status
    (pending_first callback queued registered) rfl permanent
  have isPending := pending_answered callback status sound queued
    (popped_queues client.localStore head rest)
  unfold Traffic.answer at moved
  change Moves _ none { (client.disconnected status).traffic with
    pending := (client.answered (client.localStore.popped head rest) head callback status).pending
    notices := _ :: _ }
  rw [isPending]
  exact moved

/-- A stream may end in success only while nothing waits. -/
theorem handled_finish (sound : client.Sound) (opened : client.writeStream.isOpen = true)
    (status : Error) :
    (status = .ok ∧ client.writePipeline ≠ [] ∧ client.handle (.streamFinish status) =
      some (.error "Write stream was stopped gracefully while still needed.")) ∨
    ∃ after changes, client.handle (.streamFinish status) = some (.ok (after, changes)) ∧
      Handled client (.streamFinish status) after changes := by
  have started := started_of_isOpen opened
  have closing : client.handle (.streamFinish status) = some (client.closeWriteStream status) :=
    if_pos opened
  rw [closing]
  by_cases nothing : client.writePipeline = []
  · obtain ⟨after, closed, soundAfter, moves, sameStore⟩ :=
      handled_stop sound started nothing status
    refine .inr ⟨after, none, ?_, soundAfter, ⟨_, .still _, moves⟩, ?_⟩
    · rw [closed]
    · intro _ key
      rw [sameStore]
  · by_cases isOk : status = .ok
    · refine .inl ⟨isOk, nothing, ?_⟩
      rw [isOk, close_needed started (sound.enabled_of_started started) nothing]
    · refine .inr ?_
      obtain ⟨permanent, isPermanent⟩ := isPermanentWriteError_of_ne isOk
      rcases Decidable.em (client.writeStream.handshakeComplete = true ∧ permanent = true) with
        ⟨complete, rfl⟩ | spared
      · obtain ⟨after, changes, closed, soundAfter, moves, reports⟩ :=
          handled_refuse sound complete nothing isPermanent
        refine ⟨after, changes, ?_, soundAfter, moves, fun _ => reports⟩
        rw [closed]
      · have spared : client.writeStream.handshakeComplete = false ∨
            isPermanentWriteError status = .ok false := by
          rw [not_and_or, Bool.not_eq_true, Bool.not_eq_true] at spared
          rcases spared with incomplete | notPermanent
          · exact .inl incomplete
          · rw [isPermanent, notPermanent]
            exact .inr rfl
        obtain ⟨after, closed, soundAfter, moves, sameStore⟩ :=
          handled_retry sound started nothing isOk spared
        refine ⟨after, none, ?_, soundAfter, ⟨_, .still _, moves⟩, ?_⟩
        · rw [closed]
        · intro _ key
          rw [sameStore]

/-- The handshake is answered, and the pipeline sent. -/
theorem handle_greeting {response : WriteResponse} {later : List WriteResponse}
    (arrived : client.writeStream.responses = response :: later)
    (greeted : { client.writeStream with responses := later } =
      ⟨.opened, false, false, [], []⟩) :
    client.handle .streamRead = some (.ok ({ client with writeStream :=
      ⟨.opened, true, false, client.writePipeline.map MutationBatch.request, []⟩ }, none)) := by
  unfold handle
  rw [arrived]
  dsimp only
  rw [greeted]
  unfold onStreamRead onWriteStreamHandshakeComplete
  dsimp only
  rw [send_all]
  rfl

theorem handled_greeting (sound : client.Sound) {response : WriteResponse}
    {later : List WriteResponse} (arrived : client.writeStream.responses = response :: later)
    (greeted : { client.writeStream with responses := later } =
      ⟨.opened, false, false, [], []⟩) :
    ∃ after changes, client.handle .streamRead = some (.ok (after, changes)) ∧
      Handled client .streamRead after changes := by
  have opened : client.writeStream.isOpen = true :=
    congrArg (fun stream : WriteStream V => stream.isOpen) greeted
  have incomplete : client.writeStream.handshakeComplete = false :=
    congrArg WriteStream.handshakeComplete greeted
  have enabled := sound.enabled_of_started (started_of_isOpen opened)
  refine ⟨_, none, handle_greeting arrived greeted, ?_⟩
  constructor
  · exact
      { store := sound.store
        callbacks := sound.callbacks
        pipeline := sound.pipeline
        carries := .writing .nil (fun impossible => by cases impossible)
        started := fun _ => rfl
        stopped := by
          intro disabled
          change client.isNetworkEnabled = false at disabled
          rw [enabled] at disabled
          cases disabled
        complete := fun _ => rfl }
  · refine ⟨_, .still _, ?_⟩
    have sameTraffic : ({ client with writeStream :=
        ⟨.opened, true, false, client.writePipeline.map MutationBatch.request, []⟩ } :
          Client V Callback).traffic = client.traffic := by
      unfold traffic replied
      rw [incomplete]
      rfl
    rw [sameTraffic]
    exact .still _
  · intro _ key
    rfl

/-- The first write is answered, and its place in the pipeline filled. -/
theorem handle_result (sound : client.Sound) {response : WriteResponse}
    {later : List WriteResponse} (arrived : client.writeStream.responses = response :: later)
    (complete : client.writeStream.handshakeComplete = true)
    {batch : MutationBatch V} {more : List (MutationBatch V)}
    (pipeline : client.writePipeline = batch :: more) (answers : Answers response batch)
    (carries : Carries { client.writeStream with responses := later } more) :
    ∃ after changes callback rest, client.handle .streamRead = some (.ok (after, some changes)) ∧
      after.Sound ∧ client.localStore.Reports after.localStore changes ∧
      after.isNetworkEnabled = client.isNetworkEnabled ∧
      after.writeStream.isOpen = true ∧ after.writeStream.handshakeComplete = true ∧
      client.pending client.currentUser = (some callback, batch.mutations) :: rest ∧
      after.traffic = { client.traffic.answer callback .ok rest with replied := later.length } := by
  have opened := sound.complete complete
  have started := started_of_isOpen opened
  have enabled := sound.enabled_of_started started
  obtain ⟨rest, queued⟩ : ∃ rest, client.localStore.mutationQueue.queue = batch :: rest := by
    have within := sound.refillable.queued
    rw [pipeline] at within
    obtain ⟨rest, isQueue⟩ := within
    exact ⟨more ++ rest, isQueue.symm⟩
  let result : MutationBatchResult V :=
    { batch := batch
      commitVersion := response.commitVersion
      mutationResults := response.mutationResults
      sized := answers.1 }
  obtain ⟨callback, registered⟩ := sound.callbacks.first queued
  obtain ⟨remoteDocuments, changes, acknowledged, _, soundStore, reports⟩ :=
    @LocalStore.acknowledgeBatch_spec V client.localStore result rest sound.store queued answers.2
  have popped : Popped client.localStore
      (({ client.localStore with remoteDocuments := remoteDocuments } :
        LocalStore V).popped batch rest) rest :=
    popped_queues ({ client.localStore with remoteDocuments := remoteDocuments } : LocalStore V)
      batch rest
  let confirmed : Client V Callback :=
    { client.answered (({ client.localStore with remoteDocuments := remoteDocuments } :
        LocalStore V).popped batch rest) batch callback .ok with
      writePipeline := more
      writeStream := { client.writeStream with responses := later } }
  have isRest : confirmed.localStore.mutationQueue.queue = rest := by
    change (LocalStore.mutationQueue (LocalStore.popped _ batch rest)).queue = rest
    rw [LocalStore.popped, LocalStore.mutationQueue_withMutationQueue]
    rfl
  have before := sound.refillable
  have refillable : confirmed.Refillable :=
    { store := soundStore
      callbacks := registered_answered callback .ok sound queued popped
      queued := by
        have within := before.queued
        rw [pipeline, queued] at within
        rw [isRest]
        exact (List.cons_prefix_cons.mp within).2
      room := by
        have room := before.room
        rw [pipeline, List.length_cons] at room
        exact Nat.le_of_succ_le room
      disabled := by
        intro disabled
        change client.isNetworkEnabled = false at disabled
        rw [enabled] at disabled
        cases disabled
      carries := carries
      stopped := by
        intro disabled
        change client.isNetworkEnabled = false at disabled
        rw [enabled] at disabled
        cases disabled
      complete := fun _ => opened }
  obtain ⟨filledPipeline, stream, isFilled, same, soundAfter⟩ := refillable.fill
  refine ⟨_, changes, callback, _, ?_, soundAfter, reports, rfl, ?_, ?_,
    pending_first callback queued registered, ?_⟩
  · have notified : ({ client with
        writePipeline := more
        writeStream := { client.writeStream with responses := later } } :
          Client V Callback).notifyUser batch.batchId .ok =
        { confirmed with localStore := client.localStore } :=
      notifyUser_eq batch.batchId .ok registered
    have isStarted : ({ client.writeStream with responses := later } :
        WriteStream V).isStarted = true := started
    have handled : ({ client with
        writePipeline := more
        writeStream := { client.writeStream with responses := later } } :
          Client V Callback).handleSuccessfulWrite result = .ok (confirmed, changes) := by
      unfold handleSuccessfulWrite
      rw [notified]
      change (client.localStore.acknowledgeBatch result >>= fun _ => _) = _
      rw [acknowledged]
      rfl
    have read : ({ client with
        writeStream := { client.writeStream with responses := later } } :
          Client V Callback).onStreamRead response =
        .ok ({ confirmed with writePipeline := filledPipeline, writeStream := stream },
          some changes) := by
      unfold onStreamRead onWriteStreamMutationResult
      dsimp only
      rw [isStarted, hardAssert_true, if_pos complete, pipeline]
      dsimp only
      rw [dif_pos answers.1]
      change (Client.handleSuccessfulWrite _ result >>= fun _ => _) = _
      rw [handled]
      change (confirmed.fillWritePipeline >>= fun _ => _) = _
      rw [isFilled]
      rfl
    unfold handle
    rw [arrived]
    dsimp only
    rw [read]
  · exact same.opened.trans opened
  · exact same.complete.trans complete
  · rw [traffic_filled same]
    have isPending := pending_answered callback .ok sound queued popped
    have isReplied : confirmed.replied = later.length := if_pos complete
    unfold Traffic.answer
    change ({ client.traffic with
      pending := (client.answered (LocalStore.popped _ batch rest) batch callback .ok).pending
      replied := confirmed.replied
      notices := _ :: _ } : Traffic V Callback) = _
    rw [isPending, isReplied]
    rfl

theorem handled_result (sound : client.Sound) {response : WriteResponse}
    {later : List WriteResponse} (arrived : client.writeStream.responses = response :: later)
    (complete : client.writeStream.handshakeComplete = true)
    {batch : MutationBatch V} {more : List (MutationBatch V)}
    (pipeline : client.writePipeline = batch :: more) (answers : Answers response batch)
    (carries : Carries { client.writeStream with responses := later } more) :
    ∃ after changes, client.handle .streamRead = some (.ok (after, changes)) ∧
      Handled client .streamRead after changes := by
  obtain ⟨after, changes, callback, rest, handled, soundAfter, reports, _, _, _, first, isAfter⟩ :=
    handle_result sound arrived complete pipeline answers carries
  refine ⟨after, some changes, handled, soundAfter, ⟨_, .still _, ?_⟩, fun _ => reports⟩
  have replied : client.traffic.replied = later.length + 1 := by
    unfold traffic replied
    rw [if_pos complete, arrived]
    rfl
  rw [isAfter]
  exact Moves.confirm first replied

end Answers

section Backend

theorem handled_remoteEvent (sound : client.Sound) (event : LocalStore.RemoteEvent V) :
    ∃ after changes, client.applyRemoteEvent event = .ok (after, changes) ∧
      Handled client (.remoteEvent event) after changes := by
  unfold applyRemoteEvent
  split
  · rename_i inOrder
    rw [Bool.or_eq_true, decide_eq_true_iff, decide_eq_true_iff] at inOrder
    obtain ⟨store, changes, applied, sameQueues, sameUser, _, _, soundStore, reports⟩ :=
      LocalStore.applyRemoteEvent_spec sound.store inOrder
    have sameQueue : store.mutationQueue = client.localStore.mutationQueue := by
      rw [LocalStore.mutationQueue, sameQueues, sameUser]
      rfl
    have sameTraffic : ({ client with localStore := store } : Client V Callback).traffic =
        client.traffic := by
      unfold traffic pending currentUser replied
      dsimp only
      rw [sameQueues, sameUser]
    refine ⟨{ client with localStore := store }, some changes, ?_, ?_, ⟨_, .still _, ?_⟩,
      fun _ => reports⟩
    · rw [applied]
      rfl
    · exact
        { store := soundStore
          callbacks := by
            intro user batchId
            dsimp only
            rw [sameQueues]
            exact sound.callbacks user batchId
          pipeline := by
            dsimp only
            rw [sameQueue]
            exact sound.pipeline
          carries := sound.carries
          started := sound.started
          stopped := sound.stopped
          complete := sound.complete }
    · rw [sameTraffic]
      exact .still _
  · exact ⟨client, none, rfl, sound, ⟨_, .still _, .still _⟩, fun _ _ => rfl⟩

theorem handled_reply (sound : client.Sound) {response : WriteResponse}
    {after : Client V Callback} (replied : client.reply response = some after) :
    Handled client (.reply response) after none := by
  unfold Client.reply at replied
  split at replied
  · cases replied
  · rename_i rest sent
    cases replied
    rcases sound.carries.reply sent with ⟨_, incomplete, carries⟩ | impossible
    · refine ⟨?_, ⟨_, .still _, ?_⟩, fun _ _ => rfl⟩
      · exact
          { store := sound.store
            callbacks := sound.callbacks
            pipeline := sound.pipeline
            carries := carries response
            started := sound.started
            stopped := sound.stopped
            complete := sound.complete }
      · have sameTraffic : ({ client with
            writeStream := { client.writeStream with
              requests := rest
              responses := client.writeStream.responses ++ [response] } } :
              Client V Callback).traffic = client.traffic := by
          unfold traffic Client.replied
          dsimp only
          rw [incomplete]
          rfl
        rw [sameTraffic]
        exact .still _
    · obtain ⟨_, _, _, _, _, _, impossible, _⟩ := impossible
      cases impossible
  · rename_i mutations rest sent
    split at replied
    · rename_i answers
      cases replied
      rcases sound.carries.reply sent with ⟨impossible, _⟩ | committed
      · cases impossible
      · obtain ⟨complete, opened, answered, batch, later, pipeline, isBatch, length, carries⟩ :=
          committed
        cases isBatch
        refine ⟨?_, ⟨_, .still _, ?_⟩, fun _ _ => rfl⟩
        · exact
            { store := sound.store
              callbacks := sound.callbacks
              pipeline := sound.pipeline
              carries := carries response answers
              started := sound.started
              stopped := sound.stopped
              complete := sound.complete }
        · obtain ⟨others, queued⟩ := sound.refillable.queued
          rw [pipeline, List.append_assoc] at queued
          have isReplied : client.traffic.replied = answered.length := by
            unfold traffic Client.replied
            rw [if_pos complete]
            exact length
          have next : (client.traffic.pending client.traffic.user)[client.traffic.replied]? =
              some (client.mutationCallbacks client.currentUser batch.batchId,
                batch.mutations) := by
            rw [isReplied]
            change (client.localStore.mutationQueue.queue.map _)[answered.length]? = _
            rw [← queued, List.getElem?_map, List.getElem?_append_right (Nat.le_refl _),
              Nat.sub_self]
            rfl
          have moved := Moves.commit next
          have laterReplied : (Client.replied { client with
              writeStream := { client.writeStream with
                requests := rest
                responses := client.writeStream.responses ++ [response] }
              commits := client.commits ++ [batch.mutations] }) = client.traffic.replied + 1 := by
            unfold traffic Client.replied
            dsimp only
            rw [if_pos complete, if_pos complete, List.length_append]
            rfl
          rw [← laterReplied] at moved
          exact moved
    · cases replied

theorem handled_lateCommit (sound : client.Sound) {index : Nat} {after : Client V Callback}
    (committed : client.lateCommit index = some after) :
    Handled client (.lateCommit index) after none := by
  unfold Client.lateCommit at committed
  split at committed
  · rename_i mutations rest waiting
    cases committed
    refine ⟨?_, ⟨_, .still _, .commitLate waiting⟩, fun _ _ => rfl⟩
    exact
      { store := sound.store
        callbacks := sound.callbacks
        pipeline := sound.pipeline
        carries := sound.carries
        started := sound.started
        stopped := sound.stopped
        complete := sound.complete }
  · cases committed

end Backend

/-- Whatever happens, the client stays sound; only the end of a stream in success while
writes wait makes an assertion fail. -/
theorem handled_of_handle (sound : client.Sound) {event : WriteEvent V Callback}
    {result : Checked (Client V Callback × Changes V)}
    (handled : client.handle event = some result) :
    (event = .streamFinish .ok ∧ client.writePipeline ≠ [] ∧
      result = .error "Write stream was stopped gracefully while still needed.") ∨
    ∃ after changes, result = .ok (after, changes) ∧ Handled client event after changes := by
  have settle {event : WriteEvent V Callback}
      {result : Checked (Client V Callback × Changes V)}
      (handled : client.handle event = some result)
      (succeeds : ∃ after changes, client.handle event = some (.ok (after, changes)) ∧
        Handled client event after changes) :
      ∃ after changes, result = .ok (after, changes) ∧ Handled client event after changes := by
    obtain ⟨after, changes, isResult, holds⟩ := succeeds
    rw [handled] at isResult
    exact ⟨after, changes, Option.some.inj isResult, holds⟩
  cases event with
  | write mutations callback =>
      right
      unfold handle at handled
      dsimp only at handled
      split at handled
      · cases handled
      · rename_i nonempty
        cases handled
        exact handled_write callback sound nonempty
  | credentialChange user =>
      cases handled
      exact .inr (handled_credentialChange sound user)
  | enableNetwork =>
      cases handled
      obtain ⟨after, enabled, holds⟩ := handled_enableNetwork sound
      rw [enabled]
      exact .inr ⟨after, none, rfl, holds⟩
  | disableNetwork =>
      cases handled
      obtain ⟨after, disabled, holds⟩ := handled_disableNetwork sound
      rw [disabled]
      exact .inr ⟨after, none, rfl, holds⟩
  | token status =>
      by_cases starting : client.writeStream.state = .starting
      · exact .inr (settle handled (handled_token sound starting status))
      · simp only [handle, starting, if_false] at handled
        cases handled
  | backoffElapsed =>
      by_cases waits : client.writeStream.state = .backoff
      · exact .inr (settle handled (handled_backoff sound waits))
      · simp only [handle, waits, if_false] at handled
        cases handled
  | idleTimeout =>
      rcases Bool.eq_false_or_eq_true client.writeStream.idlenessTimer with timer | noTimer
      · exact .inr (settle handled (handled_idleTimeout sound timer))
      · simp only [handle, noTimer, Bool.false_eq_true, if_false] at handled
        cases handled
  | streamRead =>
      right
      cases arrived : client.writeStream.responses with
      | nil =>
          unfold handle at handled
          rw [arrived] at handled
          cases handled
      | cons response later =>
          rcases sound.carries.read arrived with
            greeted | ⟨complete, batch, more, pipeline, answers, carries⟩
          · exact settle handled (handled_greeting sound arrived greeted)
          · exact settle handled
              (handled_result sound arrived complete pipeline answers carries)
  | streamFinish status =>
      rcases Bool.eq_false_or_eq_true client.writeStream.isOpen with opened | notOpen
      · rcases handled_finish sound opened status with ⟨rfl, waiting, failed⟩ | succeeds
        · rw [handled] at failed
          exact .inl ⟨rfl, waiting, Option.some.inj failed⟩
        · exact .inr (settle handled succeeds)
      · simp only [handle, notOpen, Bool.false_eq_true, if_false] at handled
        cases handled
  | remoteEvent event =>
      cases handled
      exact .inr (handled_remoteEvent sound event)
  | reply response =>
      right
      obtain ⟨after, replied, rfl⟩ := Option.map_eq_some_iff.mp handled
      exact ⟨after, none, rfl, handled_reply sound replied⟩
  | lateCommit index =>
      right
      obtain ⟨after, committed, rfl⟩ := Option.map_eq_some_iff.mp handled
      exact ⟨after, none, rfl, handled_lateCommit sound committed⟩

theorem handled_of_step (sound : client.Sound) {event : WriteEvent V Callback}
    {after : Client V Callback} (stepped : client.step event = some after) :
    ∃ changes, client.handle event = some (.ok (after, changes)) ∧
      Handled client event after changes := by
  unfold step at stepped
  cases handled : client.handle event with
  | none =>
      rw [handled] at stepped
      cases stepped
  | some result =>
      rw [handled] at stepped
      rcases handled_of_handle sound handled with ⟨_, _, rfl⟩ | ⟨next, changes, rfl, holds⟩
      · cases stepped
      · cases stepped
        exact ⟨changes, rfl, holds⟩

/-! ### Runs -/

theorem sound_initial (user : User) : (initial user : Client V Callback).Sound where
  store :=
    { queues := fun _ => coherent_empty
      readTimes := by
        intro key entry found
        have nothing : (∅ : Std.ExtTreeMap DocumentKey
            (MaybeDocument V × SnapshotVersion))[key]? = none := Std.ExtTreeMap.getElem?_empty
        rw [initial, LocalStore.initial, nothing] at found
        cases found }
  callbacks := by
    intro user batchId
    constructor
    · intro impossible
      cases impossible
    · rintro ⟨batch, member, _⟩
      cases member
  pipeline := rfl
  carries := .stopped (.inl rfl)
  started := fun nonempty => absurd rfl nonempty
  stopped := fun _ => rfl
  complete := fun impossible => by cases impossible

theorem sound_of_run {user : User} {past : List (Client V Callback × WriteEvent V Callback)}
    (ran : Transition.Run step (.initial user) past client) : client.Sound := by
  induction ran with
  | start => exact sound_initial user
  | next _earlier stepped ih =>
      obtain ⟨_, _, handled⟩ := handled_of_step ih stepped
      exact handled.sound

end Client

end InstagramProject.Firestore
