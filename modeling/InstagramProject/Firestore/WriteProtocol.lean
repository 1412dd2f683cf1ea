/-
The write protocol.  In every run the pipeline holds the first writes of the queue,
and the stream carries them in order: those the backend has answered, and behind them
those it has not.
-/

import InstagramProject.Firestore.LocalViews
import InstagramProject.Firestore.WritePipeline
import InstagramProject.Transition

namespace InstagramProject.Firestore

variable {V : Values} {Callback : Type}

theorem hardAssert_true (message : String) : hardAssert true message = .ok () := rfl

/-! ### What the stream carries -/

/-- The response fits the write. -/
def Answers (response : WriteResponse) (batch : MutationBatch V) : Prop :=
  response.mutationResults.length = batch.mutations.length ∧ 0 < response.commitVersion

def MutationBatch.request (batch : MutationBatch V) : Request V := .mutations batch.mutations

/-- A stream beside the pipeline of writes it is to carry. -/
inductive Carries : WriteStream V → List (MutationBatch V) → Prop
  | stopped {state : StreamState} {complete : Bool} {pipeline : List (MutationBatch V)}
      (atRest : state = .initial ∨ state = .error) :
      Carries ⟨state, complete, false, [], []⟩ pipeline
  | waiting {state : StreamState} {complete : Bool} {pipeline : List (MutationBatch V)}
      (started : state = .starting ∨ state = .backoff) (nonempty : pipeline ≠ []) :
      Carries ⟨state, complete, false, [], []⟩ pipeline
  | greeting {pipeline : List (MutationBatch V)} (nonempty : pipeline ≠ []) :
      Carries ⟨.opened, false, false, [.handshake], []⟩ pipeline
  | greeted {pipeline : List (MutationBatch V)} {response : WriteResponse}
      (nonempty : pipeline ≠ []) : Carries ⟨.opened, false, false, [], [response]⟩ pipeline
  | writing {idle : Bool} {responses : List WriteResponse}
      {answered rest : List (MutationBatch V)} (answers : List.Forall₂ Answers responses answered)
      (idles : idle = true → answered ++ rest = []) :
      Carries ⟨.opened, true, idle, rest.map MutationBatch.request, responses⟩ (answered ++ rest)

/-- The streams differ in what is to be sent only. -/
structure SameAnswers (before after : WriteStream V) : Prop where
  opened : after.isOpen = before.isOpen
  complete : after.handshakeComplete = before.handshakeComplete
  responses : after.responses = before.responses

theorem SameAnswers.refl (stream : WriteStream V) : SameAnswers stream stream := ⟨rfl, rfl, rfl⟩

theorem SameAnswers.trans {first second third : WriteStream V} (left : SameAnswers first second)
    (right : SameAnswers second third) : SameAnswers first third :=
  ⟨right.opened.trans left.opened, right.complete.trans left.complete,
    right.responses.trans left.responses⟩

theorem Carries.markIdle {stream : WriteStream V} (carries : Carries stream []) :
    Carries stream.markIdle [] ∧ SameAnswers stream stream.markIdle := by
  generalize pipeline : ([] : List (MutationBatch V)) = none at carries
  cases carries with
  | stopped atRest =>
      rcases atRest with rfl | rfl
      · exact ⟨.stopped (.inl rfl), .refl _⟩
      · exact ⟨.stopped (.inr rfl), .refl _⟩
  | waiting _ nonempty => exact absurd pipeline.symm nonempty
  | greeting nonempty => exact absurd pipeline.symm nonempty
  | greeted nonempty => exact absurd pipeline.symm nonempty
  | writing answers _ => exact ⟨.writing answers (fun _ => pipeline.symm), rfl, rfl, rfl⟩

/-- A write at the end of the pipeline is sent if the stream is ready for it. -/
theorem Carries.add {stream : WriteStream V} {pipeline : List (MutationBatch V)}
    (carries : Carries stream pipeline) (batch : MutationBatch V) :
    ∃ added, stream.send batch.mutations = .ok added ∧
      Carries added (pipeline ++ [batch]) ∧ SameAnswers stream added ∧
      added.isStarted = stream.isStarted := by
  have nonempty : pipeline ++ [batch] ≠ [] := List.append_ne_nil_of_right_ne_nil _ (by simp)
  cases carries with
  | stopped atRest =>
      rcases atRest with rfl | rfl
      · exact ⟨_, rfl, .stopped (.inl rfl), .refl _, rfl⟩
      · exact ⟨_, rfl, .stopped (.inr rfl), .refl _, rfl⟩
  | waiting started _ =>
      rcases started with rfl | rfl
      · exact ⟨_, rfl, .waiting (.inl rfl) nonempty, .refl _, rfl⟩
      · exact ⟨_, rfl, .waiting (.inr rfl) nonempty, .refl _, rfl⟩
  | greeting _ => exact ⟨_, rfl, .greeting nonempty, .refl _, rfl⟩
  | greeted _ => exact ⟨_, rfl, .greeted nonempty, .refl _, rfl⟩
  | @writing idle responses answered rest answers _ =>
      refine ⟨⟨.opened, true, false, (rest ++ [batch]).map MutationBatch.request, responses⟩, ?_, ?_,
        ⟨rfl, rfl, rfl⟩, rfl⟩
      · rw [List.map_append]
        rfl
      · rw [List.append_assoc]
        exact .writing answers (fun impossible => by cases impossible)

/-- A stream at rest starts, behind a delay after an error. -/
theorem Carries.start {stream : WriteStream V} {pipeline : List (MutationBatch V)}
    (carries : Carries stream pipeline) (notStarted : stream.isStarted = false)
    (nonempty : pipeline ≠ []) :
    ∃ started, stream.start = .ok started ∧ Carries started pipeline ∧
      SameAnswers stream started ∧ started.isStarted = true := by
  cases carries with
  | stopped atRest =>
      rcases atRest with rfl | rfl
      · exact ⟨_, rfl, .waiting (.inl rfl) nonempty, ⟨rfl, rfl, rfl⟩, rfl⟩
      · exact ⟨_, rfl, .waiting (.inr rfl) nonempty, ⟨rfl, rfl, rfl⟩, rfl⟩
  | waiting started _ => rcases started with rfl | rfl <;> cases notStarted
  | greeting _ => cases notStarted
  | greeted _ => cases notStarted
  | writing _ _ => cases notStarted

theorem Carries.of_stopped {stream : WriteStream V} {pipeline : List (MutationBatch V)}
    (carries : Carries stream pipeline) (notStarted : stream.isStarted = false)
    (other : List (MutationBatch V)) : Carries stream other := by
  cases carries with
  | stopped atRest => exact .stopped atRest
  | waiting started _ => rcases started with rfl | rfl <;> cases notStarted
  | greeting _ => cases notStarted
  | greeted _ => cases notStarted
  | writing _ _ => cases notStarted

/-- A stream that is not open may forget its handshake. -/
theorem Carries.forget {stream : WriteStream V} {pipeline : List (MutationBatch V)}
    (carries : Carries stream pipeline) (notOpen : stream.isOpen = false) :
    Carries { stream with handshakeComplete := false } pipeline := by
  cases carries with
  | stopped atRest => exact .stopped atRest
  | waiting started nonempty => exact .waiting started nonempty
  | greeting _ => cases notOpen
  | greeted _ => cases notOpen
  | writing _ _ => cases notOpen

/-- With its token a stream opens and greets the backend. -/
theorem Carries.open {stream : WriteStream V} {pipeline : List (MutationBatch V)}
    (carries : Carries stream pipeline) (starting : stream.state = .starting)
    (incomplete : stream.handshakeComplete = false) :
    WriteStream.writeHandshake { stream with state := .opened } =
        .ok ⟨.opened, false, false, [.handshake], []⟩ ∧ pipeline ≠ [] := by
  cases carries with
  | stopped atRest => rcases atRest with rfl | rfl <;> cases starting
  | waiting _ nonempty =>
      cases incomplete
      exact ⟨rfl, nonempty⟩
  | greeting _ => cases starting
  | greeted _ => cases starting
  | writing _ _ => cases starting

theorem Carries.nonempty_of_waiting {stream : WriteStream V} {pipeline : List (MutationBatch V)}
    (carries : Carries stream pipeline) (waits : stream.state = .starting ∨ stream.state = .backoff) :
    pipeline ≠ [] ∧ stream = ⟨stream.state, stream.handshakeComplete, false, [], []⟩ := by
  cases carries with
  | stopped atRest => rcases atRest with rfl | rfl <;> rcases waits with waits | waits <;> cases waits
  | waiting _ nonempty => exact ⟨nonempty, rfl⟩
  | greeting _ => rcases waits with waits | waits <;> cases waits
  | greeted _ => rcases waits with waits | waits <;> cases waits
  | writing _ _ => rcases waits with waits | waits <;> cases waits

/-- The timer is set only while nothing waits. -/
theorem Carries.idle {stream : WriteStream V} {pipeline : List (MutationBatch V)}
    (carries : Carries stream pipeline) (timer : stream.idlenessTimer = true) :
    pipeline = [] ∧ stream.isStarted = true := by
  cases carries with
  | stopped _ => cases timer
  | waiting _ _ => cases timer
  | greeting _ => cases timer
  | greeted _ => cases timer
  | writing _ idles => exact ⟨idles timer, rfl⟩

/-- The first response answers the handshake, each later one the first write. -/
theorem Carries.read {stream : WriteStream V} {pipeline : List (MutationBatch V)}
    (carries : Carries stream pipeline) {response : WriteResponse} {rest : List WriteResponse}
    (arrived : stream.responses = response :: rest) :
    { stream with responses := rest } = ⟨.opened, false, false, [], []⟩ ∨
      stream.handshakeComplete = true ∧ ∃ batch later, pipeline = batch :: later ∧
        Answers response batch ∧ Carries { stream with responses := rest } later := by
  cases carries with
  | stopped _ => cases arrived
  | waiting _ _ => cases arrived
  | greeting _ => cases arrived
  | greeted _ =>
      cases arrived
      exact .inl rfl
  | writing answers idles =>
      cases answers with
      | nil => cases arrived
      | @cons _ batch _ more answer others =>
          cases arrived
          refine .inr ⟨rfl, batch, _, rfl, answer, .writing others ?_⟩
          intro timer
          cases idles timer

/-- A request is answered in its turn. -/
theorem Carries.reply {stream : WriteStream V} {pipeline : List (MutationBatch V)}
    (carries : Carries stream pipeline) {request : Request V} {rest : List (Request V)}
    (sent : stream.requests = request :: rest) :
    (request = .handshake ∧ stream.handshakeComplete = false ∧ ∀ response,
        Carries { stream with requests := rest, responses := stream.responses ++ [response] }
          pipeline) ∨
      stream.handshakeComplete = true ∧ stream.isOpen = true ∧
        ∃ answered batch later, pipeline = answered ++ batch :: later ∧
          request = .mutations batch.mutations ∧ stream.responses.length = answered.length ∧
          ∀ response, Answers response batch →
            Carries { stream with requests := rest, responses := stream.responses ++ [response] }
              pipeline := by
  cases carries with
  | stopped _ => cases sent
  | waiting _ _ => cases sent
  | greeting nonempty =>
      cases sent
      exact .inl ⟨rfl, rfl, fun _ => .greeted nonempty⟩
  | greeted _ => cases sent
  | @writing idle responses answered others answers idles =>
      cases others with
      | nil => cases sent
      | cons batch later =>
          cases sent
          refine .inr ⟨rfl, rfl, answered, batch, later, rfl, rfl, answers.length_eq, ?_⟩
          intro response answer
          rw [List.append_cons answered batch later] at idles ⊢
          exact .writing (List.rel_append answers (.cons answer .nil)) idles

/-- After the handshake the whole pipeline is sent. -/
theorem send_all (pipeline : List (MutationBatch V)) (requests : List (Request V)) :
    pipeline.foldlM (fun stream batch => stream.writeMutations batch.mutations)
        (⟨.opened, true, false, requests, []⟩ : WriteStream V) =
      .ok ⟨.opened, true, false, requests ++ pipeline.map MutationBatch.request, []⟩ := by
  induction pipeline generalizing requests with
  | nil =>
      rw [List.map_nil, List.append_nil]
      rfl
  | cons batch rest ih =>
      have written : (⟨.opened, true, false, requests, []⟩ : WriteStream V).writeMutations
          batch.mutations = .ok ⟨.opened, true, false, requests ++ [batch.request], []⟩ := rfl
      rw [List.foldlM_cons, written, List.map_cons,
        List.append_cons requests batch.request (rest.map MutationBatch.request)]
      exact ih (requests ++ [batch.request])

/-! ### Filling the pipeline -/

section Filling

open MutationQueue

variable {pending : MutationQueue V}

/-- Behind a beginning of the queue comes the batch after its last one. -/
private theorem next_of_prefix (coherent : pending.Coherent)
    {earlier later : List (MutationBatch V)} (queued : pending.queue = earlier ++ later) :
    pending.nextMutationBatchAfterBatchId
        ((earlier.getLast?.map MutationBatch.batchId).getD (-1)) = later.head? := by
  have sorted := coherent.sorted
  rw [queued, List.pairwise_append] at sorted
  have positive : ∀ batch ∈ later, -1 < batch.batchId := by
    intro batch member
    obtain ⟨index, found⟩ := List.mem_iff_getElem?.mp
      (show batch ∈ pending.queue by rw [queued]; exact List.mem_append_right _ member)
    have isId := coherent.ids index batch found
    have bound := coherent.positive
    omega
  rw [coherent.next, queued, List.find?_append]
  have none : earlier.find? (fun batch =>
      (earlier.getLast?.map MutationBatch.batchId).getD (-1) < batch.batchId) = .none := by
    rw [List.find?_eq_none]
    intro batch member
    have before := List.pairwise_iff_getElem.mp sorted.1
    obtain ⟨index, bound, isBatch⟩ := List.mem_iff_getElem.mp member
    rw [List.getLast?_eq_getElem?, List.getElem?_eq_getElem (by omega), Option.map_some,
      Option.getD_some, decide_eq_true_iff]
    by_cases isLast : index = earlier.length - 1
    · subst isLast
      rw [isBatch]
      exact lt_irrefl _
    · have isBefore := before index (earlier.length - 1) bound (by omega) (by omega)
      rw [isBatch] at isBefore
      exact not_lt_of_gt isBefore
  rw [none, Option.none_or]
  cases later with
  | nil => rfl
  | cons batch rest =>
      rw [List.find?_cons_of_pos, List.head?_cons]
      rw [decide_eq_true_iff]
      cases last : earlier.getLast? with
      | none => exact positive batch List.mem_cons_self
      | some prior =>
          exact sorted.2.2 prior (List.mem_of_getLast? last) batch List.mem_cons_self

end Filling

namespace Client

/-- The pipeline is a beginning of the queue, no longer than allowed, and the stream
carries it. -/
structure Fillable (client : Client V Callback) : Prop where
  coherent : client.localStore.mutationQueue.Coherent
  enabled : client.isNetworkEnabled = true
  queued : client.writePipeline <+: client.localStore.mutationQueue.queue
  room : client.writePipeline.length ≤ kMaxPendingWrites
  carries : Carries client.writeStream client.writePipeline

theorem canAdd_iff {client : Client V Callback} (fillable : client.Fillable) :
    client.canAddToWritePipeline = true ↔ client.writePipeline.length < kMaxPendingWrites := by
  rw [canAddToWritePipeline, fillable.enabled, Bool.true_and, decide_eq_true_iff]

/-- The turns of the loop take the first batches of the queue. -/
private theorem addBatches_spec {client : Client V Callback} (fillable : client.Fillable)
    (room : Nat) (enough : kMaxPendingWrites ≤ client.writePipeline.length + room) :
    ∃ stream, client.addBatches room =
        .ok { client with
          writePipeline := client.localStore.mutationQueue.queue.take kMaxPendingWrites
          writeStream := stream } ∧
      Carries stream (client.localStore.mutationQueue.queue.take kMaxPendingWrites) ∧
      SameAnswers client.writeStream stream ∧
      stream.isStarted = client.writeStream.isStarted := by
  obtain ⟨later, queued⟩ := fillable.queued
  have full : kMaxPendingWrites ≤ client.writePipeline.length →
      client.localStore.mutationQueue.queue.take kMaxPendingWrites = client.writePipeline := by
    intro atLeast
    have isLength : client.writePipeline.length = kMaxPendingWrites :=
      Nat.le_antisymm fillable.room atLeast
    rw [← queued, ← isLength, List.take_left]
  induction room generalizing client later with
  | zero =>
      have isFull := full enough
      refine ⟨client.writeStream, ?_, ?_, .refl _, rfl⟩
      · rw [isFull]
        rfl
      · rw [isFull]
        exact fillable.carries
  | succ room ih =>
      unfold addBatches
      split
      · rename_i canAdd
        rw [canAdd_iff fillable] at canAdd
        rw [lastBatchIdRetrieved, next_of_prefix fillable.coherent queued.symm]
        cases later with
        | nil =>
            rw [List.append_nil] at queued
            have isAll : client.localStore.mutationQueue.queue.take kMaxPendingWrites =
                client.writePipeline := by
              rw [← queued, List.take_of_length_le fillable.room]
            rw [isAll]
            cases pipeline : client.writePipeline with
            | nil =>
                have carries := fillable.carries
                rw [pipeline] at carries
                obtain ⟨marked, same⟩ := carries.markIdle
                refine ⟨client.writeStream.markIdle, ?_, marked, same, ?_⟩
                · simp only [List.head?_nil, List.isEmpty_nil, if_true]
                · unfold WriteStream.markIdle
                  split <;> rfl
            | cons batch rest =>
                refine ⟨client.writeStream, ?_, ?_, .refl _, rfl⟩
                · simp only [List.head?_nil, List.isEmpty_cons, Bool.false_eq_true, if_false]
                  rw [← pipeline]
                · rw [← pipeline]
                  exact fillable.carries
        | cons batch rest =>
            obtain ⟨added, sent, carries, same, started⟩ := fillable.carries.add batch
            let next : Client V Callback :=
              { client with
                writePipeline := client.writePipeline ++ [batch]
                writeStream := added }
            have length : next.writePipeline.length = client.writePipeline.length + 1 :=
              List.length_append
            have isNext : client.addToWritePipeline batch = .ok next := by
              simp only [addToWritePipeline, (canAdd_iff fillable).mpr canAdd, hardAssert_true, sent,
                bind, Except.bind, pure, Except.pure, next]
            have nextQueued : next.writePipeline ++ rest =
                next.localStore.mutationQueue.queue := by
              rw [← queued]
              exact (List.append_cons _ _ _).symm
            have nextFillable : next.Fillable :=
              { coherent := fillable.coherent
                enabled := fillable.enabled
                queued := ⟨rest, nextQueued⟩
                room := by omega
                carries := carries }
            have nextFull : kMaxPendingWrites ≤ next.writePipeline.length →
                next.localStore.mutationQueue.queue.take kMaxPendingWrites =
                  next.writePipeline := by
              intro atLeast
              have isLength : next.writePipeline.length = kMaxPendingWrites := by omega
              rw [← nextQueued, ← isLength, List.take_left]
            obtain ⟨stream, looped, carriesAll, sameAll, startedAll⟩ :=
              ih nextFillable (by omega) rest nextQueued nextFull
            refine ⟨stream, ?_, carriesAll, same.trans sameAll, startedAll.trans started⟩
            dsimp only [List.head?_cons]
            rw [isNext]
            exact looped
      · rename_i cannotAdd
        rw [canAdd_iff fillable, Nat.not_lt] at cannotAdd
        have isFull := full cannotAdd
        refine ⟨client.writeStream, ?_, ?_, .refl _, rfl⟩
        · rw [isFull]
        · rw [isFull]
          exact fillable.carries

/-- Afterwards the pipeline holds the first writes of the queue, and the stream is
started if there is one. -/
theorem fillWritePipeline_spec {client : Client V Callback} (fillable : client.Fillable) :
    ∃ stream, client.fillWritePipeline =
        .ok { client with
          writePipeline := client.localStore.mutationQueue.queue.take kMaxPendingWrites
          writeStream := stream } ∧
      Carries stream (client.localStore.mutationQueue.queue.take kMaxPendingWrites) ∧
      SameAnswers client.writeStream stream ∧
      (client.localStore.mutationQueue.queue ≠ [] → stream.isStarted = true) := by
  obtain ⟨stream, looped, carries, same, _⟩ :=
    addBatches_spec fillable kMaxPendingWrites (Nat.le_add_left _ _)
  cases started : stream.isStarted with
  | true =>
      refine ⟨stream, ?_, carries, same, fun _ => started⟩
      simp only [fillWritePipeline, looped, startIfNeeded, shouldStartWriteStream, started,
        Bool.not_true, Bool.and_false, Bool.false_and, Bool.false_eq_true, if_false, bind,
        Except.bind]
  | false =>
      cases queued : client.localStore.mutationQueue.queue with
      | nil =>
          rw [queued] at carries looped
          refine ⟨stream, ?_, carries, same, fun impossible => absurd rfl impossible⟩
          simp only [fillWritePipeline, looped, startIfNeeded, shouldStartWriteStream,
            List.take_nil, List.isEmpty_nil, Bool.not_true, Bool.and_false, Bool.false_eq_true,
            if_false, bind, Except.bind]
      | cons batch rest =>
          rw [queued] at carries looped
          have nonempty : (batch :: rest).take kMaxPendingWrites ≠ [] := by
            intro impossible
            cases impossible
          obtain ⟨next, starts, carriesNext, sameNext, isStarted⟩ := carries.start started nonempty
          refine ⟨next, ?_, carriesNext, same.trans sameNext, fun _ => isStarted⟩
          have should : ({ client with
              writePipeline := (batch :: rest).take kMaxPendingWrites
              writeStream := stream } : Client V Callback).shouldStartWriteStream = true := by
            simp only [shouldStartWriteStream, fillable.enabled, started]
            rfl
          simp only [fillWritePipeline, looped, startIfNeeded, should, if_true, startWriteStream,
            hardAssert_true, starts, bind, Except.bind, pure, Except.pure]

/-! ### The invariant -/

/-- Each pending write has its callback, and there is no other callback. -/
def Registered (client : Client V Callback) : Prop :=
  ∀ user batchId, (client.mutationCallbacks user batchId).isSome = true ↔
    ∃ batch ∈ (client.localStore.mutationQueues user).queue, batch.batchId = batchId

structure Sound (client : Client V Callback) : Prop where
  store : client.localStore.Sound
  callbacks : client.Registered
  pipeline : client.writePipeline =
    if client.isNetworkEnabled then client.localStore.mutationQueue.queue.take kMaxPendingWrites
    else []
  carries : Carries client.writeStream client.writePipeline
  started : client.writePipeline ≠ [] → client.writeStream.isStarted = true
  stopped : client.isNetworkEnabled = false → client.writeStream.isStarted = false
  complete : client.writeStream.handshakeComplete = true → client.writeStream.isOpen = true

/-- The client after `FillWritePipeline`. -/
def filled (client : Client V Callback) (stream : WriteStream V) : Client V Callback :=
  { client with
    writePipeline := client.localStore.mutationQueue.queue.take kMaxPendingWrites
    writeStream := stream }

theorem sound_filled {client : Client V Callback} (enabled : client.isNetworkEnabled = true)
    (store : client.localStore.Sound) (callbacks : client.Registered) {stream : WriteStream V}
    (carries : Carries stream
      (client.localStore.mutationQueue.queue.take kMaxPendingWrites))
    (started : client.localStore.mutationQueue.queue ≠ [] → stream.isStarted = true)
    (complete : stream.handshakeComplete = true → stream.isOpen = true) :
    (client.filled stream).Sound where
  store := store
  callbacks := callbacks
  pipeline := (if_pos enabled).symm
  carries := carries
  started := by
    intro nonempty
    apply started
    intro none
    apply nonempty
    change client.localStore.mutationQueue.queue.take kMaxPendingWrites = []
    rw [none]
    rfl
  stopped := by
    intro disabled
    change client.isNetworkEnabled = false at disabled
    rw [enabled] at disabled
    cases disabled
  complete := complete

/-- The invariant but for writes of the queue that the pipeline has room for. -/
structure Refillable (client : Client V Callback) : Prop where
  store : client.localStore.Sound
  callbacks : client.Registered
  queued : client.writePipeline <+: client.localStore.mutationQueue.queue
  room : client.writePipeline.length ≤ kMaxPendingWrites
  disabled : client.isNetworkEnabled = false → client.writePipeline = []
  carries : Carries client.writeStream client.writePipeline
  stopped : client.isNetworkEnabled = false → client.writeStream.isStarted = false
  complete : client.writeStream.handshakeComplete = true → client.writeStream.isOpen = true

theorem Sound.refillable {client : Client V Callback} (sound : client.Sound) :
    client.Refillable := by
  have pipeline := sound.pipeline
  refine ⟨sound.store, sound.callbacks, ?_, ?_, ?_, sound.carries, sound.stopped, sound.complete⟩
  · rw [pipeline]
    split
    · exact List.take_prefix _ _
    · exact List.nil_prefix
  · rw [pipeline]
    split
    · exact List.length_take_le _ _
    · exact Nat.zero_le _
  · intro disabled
    rw [pipeline, disabled]
    rfl

/-- Filling restores the invariant and leaves the rest as it is. -/
theorem Refillable.fill {client : Client V Callback} (refillable : client.Refillable) :
    ∃ pipeline stream, client.fillWritePipeline =
        .ok { client with writePipeline := pipeline, writeStream := stream } ∧
      SameAnswers client.writeStream stream ∧
      ({ client with writePipeline := pipeline, writeStream := stream } :
        Client V Callback).Sound := by
  rcases Bool.eq_false_or_eq_true client.isNetworkEnabled with network | network
  · have fillable : client.Fillable :=
      { coherent := refillable.store.queue
        enabled := network
        queued := refillable.queued
        room := refillable.room
        carries := refillable.carries }
    obtain ⟨stream, isFilled, carries, same, started⟩ := fillWritePipeline_spec fillable
    refine ⟨_, stream, isFilled, same, ?_⟩
    apply sound_filled network refillable.store refillable.callbacks carries started
    rw [same.complete, same.opened]
    exact refillable.complete
  · have nothing := refillable.disabled network
    have same : client.fillWritePipeline = .ok client := by
      simp only [fillWritePipeline, kMaxPendingWrites, addBatches, canAddToWritePipeline,
        startIfNeeded, shouldStartWriteStream, network, Bool.false_and, Bool.false_eq_true,
        if_false, bind, Except.bind]
    refine ⟨client.writePipeline, client.writeStream, same, .refl _, ?_⟩
    · exact
        { store := refillable.store
          callbacks := refillable.callbacks
          pipeline := by
            dsimp only
            rw [network, nothing]
            rfl
          carries := refillable.carries
          started := fun nonempty => absurd nothing nonempty
          stopped := refillable.stopped
          complete := refillable.complete }

end Client

end InstagramProject.Firestore
