/-
Work under way comes to rest.  Each request under way has a number of deliveries
still to come: a service serves it, its handler runs, and what the handler sends
or queues has its own.  Every delivery lowers the sum by one at least, and an act
of the user raises it by ten at most.  At rest there may be writes that Firestore
holds back until their account is signed in again.  The snapshots that the listeners
of the feed and the profile get, and the blocks by which these reload, are not counted.
-/

import InstagramProject.Outstanding
import InstagramProject.Potentials
import Mathlib.Algebra.BigOperators.Group.List.Basic

namespace InstagramProject

open Transition Potential

variable {K : Platform}

/-! ### Deliveries still to come -/

def UploadCaller.deliveries : UploadCaller → Nat
  /- `updatePost`, its handler, the reset of the draft and the preview. -/
  | .post _ _ => 4
  /- `commitChanges`, its handler and the alert. -/
  | .profilePicture _ _ => 3

def Block.deliveries : Block K → Nat
  | .createUser _ _ _ => 4
  | .resetDraft _ _ => 2
  | _ => 1

/-- From the request to the end of all it leads to. -/
def Request.deliveries : Request K → Nat
  | .createUser _ _ _ => 6
  | .setPost _ _ _ _ _ => 10
  | .putData _ _ caller => caller.deliveries + 4
  | .downloadURL _ caller => caller.deliveries + 2
  | .updatePost _ _ _ _ => 4
  | _ => 3

/-- An answer has been delivered to the device but not to its handler. -/
def Request.afterAnswer (request : Request K) : Nat := request.deliveries - 1

def Work.deliveries (work : Work K) : Nat :=
  (work.requests.map Request.deliveries).sum + work.orphans.length +
    ((work.responses.map (fun response => response.1.afterAnswer)).sum +
      (work.mainQueue.map Block.deliveries).sum)

/-- The deliveries still to come in a state. -/
def World.deliveries (world : World K) : Nat := world.work.deliveries

/-- Nothing is under way but writes that Firestore holds back. -/
structure World.Resting (world : World K) : Prop where
  requests : ∀ request ∈ world.requests, world.held request = true
  orphans : ∀ request ∈ world.orphans, world.held request = true
  responses : world.responses = []
  mainQueue : world.mainQueue = []

/-- A delivery that does not need Firestore to serve a write it holds back. -/
def World.delivers (world : World K) (event : Event K) : Bool :=
  event.isDelivery &&
    match event with
    | .serve index _ => !world.requests[index]?.any world.held
    | .serveOrphan index _ => !world.orphans[index]?.any world.held
    | _ => true

theorem Block.deliveries_pos (block : Block K) : 0 < block.deliveries := by
  cases block <;> exact Nat.succ_pos _

theorem Request.deliveries_ge (request : Request K) : 3 ≤ request.deliveries := by
  cases request with
  | putData reference imageData caller => exact Nat.le_add_left 3 (caller.deliveries + 1)
  | downloadURL reference caller =>
      cases caller <;> simp only [deliveries, UploadCaller.deliveries] <;> omega
  | _ => simp only [deliveries]; omega

private theorem sum_take {α : Type} (size : α → Nat) {items : List α} {index : Nat} {item : α}
    (found : items[index]? = some item) :
    (items.map size).sum = size item + ((items.eraseIdx index).map size).sum := by
  obtain ⟨inside, atIndex⟩ := List.getElem?_eq_some_iff.mp found
  have rearranged := (List.getElem_cons_eraseIdx_perm inside).map size
  rw [atIndex] at rearranged
  rw [← rearranged.sum_eq, List.map_cons, List.sum_cons]

/-! ### What one event adds -/

namespace Work

variable (work : Work K)

theorem deliveries_send (request : Request K) :
    (work.send request).deliveries = work.deliveries + request.deliveries := by
  unfold deliveries send
  rw [List.map_append, List.sum_append]
  simp only [List.map_cons, List.map_nil, List.sum_cons, List.sum_nil]
  omega

theorem deliveries_async (block : Block K) :
    (work.async block).deliveries = work.deliveries + block.deliveries := by
  unfold deliveries async
  rw [List.map_append, List.sum_append]
  simp only [List.map_cons, List.map_nil, List.sum_cons, List.sum_nil]
  omega

private theorem length_le_sum (requests : List (Request K)) :
    requests.length ≤ (requests.map Request.deliveries).sum := by
  induction requests with
  | nil => exact Nat.le_refl 0
  | cons first rest ih =>
      have many := first.deliveries_ge
      rw [List.map_cons, List.sum_cons, List.length_cons]
      omega

/-- The services still have to serve each request that lost its process. -/
theorem deliveries_terminate :
    work.terminate.deliveries + (work.mainQueue.map Block.deliveries).sum ≤ work.deliveries := by
  have shorter := length_le_sum work.requests
  unfold deliveries terminate
  simp only [List.map_nil, List.sum_nil, List.length_append]
  omega

theorem deliveries_serve {index : Nat} {request : Request K}
    (found : work.requests[index]? = some request) (firebase : Firebase K) (answer : Answer) :
    (work.serve index request firebase answer).deliveries + 1 = work.deliveries := by
  have many := request.deliveries_ge
  have taken := sum_take Request.deliveries found
  unfold deliveries serve
  rw [List.map_append, List.sum_append, taken]
  simp only [List.map_cons, List.map_nil, List.sum_cons, List.sum_nil, Request.afterAnswer]
  omega

theorem deliveries_serveOrphan {index : Nat} {request : Request K}
    (found : work.orphans[index]? = some request) (firebase : Firebase K) :
    (work.serveOrphan index firebase).deliveries + 1 = work.deliveries := by
  obtain ⟨inside, _atIndex⟩ := List.getElem?_eq_some_iff.mp found
  unfold deliveries serveOrphan
  rw [List.length_eraseIdx_of_lt inside]
  dsimp only
  omega

theorem deliveries_takeResponse {index : Nat} {request : Request K} {answer : Answer}
    (found : work.responses[index]? = some (request, answer)) :
    deliveries { work with responses := work.responses.eraseIdx index } + request.afterAnswer =
      work.deliveries := by
  have taken := sum_take (fun response => response.1.afterAnswer) found
  unfold deliveries
  rw [taken]
  dsimp only
  omega

theorem deliveries_takeBlock {block : Block K} {rest : List (Block K)}
    (queued : work.mainQueue = block :: rest) :
    deliveries { work with mainQueue := rest } + block.deliveries = work.deliveries := by
  unfold deliveries
  rw [queued, List.map_cons, List.sum_cons]
  dsimp only
  omega

end Work

/-- A handler leaves less to do than its answer promised. -/
theorem deliveries_answered {world : World K} {request : Request K} {answer : Answer}
    {after : Work K} (answered : Answered world request answer after) :
    after.deliveries < world.work.deliveries + request.afterAnswer := by
  have many := request.deliveries_ge
  unfold Request.afterAnswer
  cases answered with
  | queued handled =>
      rw [Work.deliveries_async]
      cases queues_of_handlerBlock handled <;>
        simp only [Block.deliveries, Request.deliveries] at many ⊢ <;> omega
  | uploading _alive _encoded =>
      rw [Work.deliveries_send]
      simp only [Request.deliveries, UploadCaller.deliveries]
      omega
  | locating =>
      rw [Work.deliveries_send]
      simp only [Request.deliveries]
      omega
  | linking _alive =>
      rw [Work.deliveries_send]
      simp only [Request.deliveries, UploadCaller.deliveries]
      omega
  | committing _signedIn =>
      rw [Work.deliveries_send]
      simp only [Request.deliveries, UploadCaller.deliveries]
      omega
  | _ => omega

/-- A block leaves less to do than it promised. -/
theorem deliveries_ran {world : World K} {block : Block K} {after : Work K}
    (ran : Ran world block after) :
    after.deliveries < world.work.deliveries + block.deliveries := by
  have positive := block.deliveries_pos
  cases ran with
  | creating _isRoot =>
      rw [Work.deliveries_send]
      simp only [Request.deliveries, Block.deliveries]
      omega
  | reset =>
      rw [Work.deliveries_async]
      simp only [Block.deliveries]
      omega
  | _ => omega

theorem Request.deliveries_question {request : Request K} (question : request.isQuestion = true) :
    request.deliveries ≤ 6 := by
  cases request with
  | createUser | signIn | getUser =>
      simp only [deliveries]
      omega
  | _ => cases question

theorem Block.deliveries_display {block : Block K} (display : block.isDisplay = true) :
    block.deliveries = 1 := by
  cases block <;> first | rfl | cases display

theorem Work.deliveries_save (work : Work K) (save : Save K) :
    (work.save save).deliveries ≤ work.deliveries + 10 := by
  unfold Work.save
  rw [Work.deliveries_send]
  split
  · simp only [Request.deliveries]
    omega
  · rw [Work.deliveries_send]
    simp only [Request.deliveries, UploadCaller.deliveries]
    omega

/-- A delivery that ends the process runs a block. -/
theorem queue_of_ends {before : World K} {event : Event K} (delivery : event.isDelivery = true)
    (ends : before.endsProcess event = true) :
    0 < (before.mainQueue.map Block.deliveries).sum := by
  cases event with
  | runBlock =>
      unfold World.endsProcess at ends
      cases queued : before.mainQueue with
      | nil =>
          rw [queued] at ends
          cases ends
      | cons block rest =>
          have positive := block.deliveries_pos
          rw [List.map_cons, List.sum_cons]
          omega
  | terminate | editButtonPressed => cases delivery
  | _ => cases ends

/-- A delivery lowers what is still to come, any other event raises it by ten at most. -/
theorem deliveries_pay : Pays step Event.isDelivery (World.deliveries (K := K)) 10 where
  falls := by
    intro before event after stepped delivery
    have worked := workStep_of_step stepped
    change after.work.deliveries < before.work.deliveries
    generalize after.work = work at worked
    cases worked with
    | served found _performed =>
        have served := Work.deliveries_serve before.work found
        rw [← served]
        exact Nat.lt_succ_self _
    | servedOrphan found _performed =>
        have served := Work.deliveries_serveOrphan before.work found
        rw [← served]
        exact Nat.lt_succ_self _
    | called found answered =>
        rw [← Work.deliveries_takeResponse before.work found]
        exact deliveries_answered answered
    | ran queued result =>
        rw [← Work.deliveries_takeBlock before.work queued]
        exact deliveries_ran result
    | ended ends =>
        have fewer := before.work.deliveries_terminate
        have positive : 0 < (before.work.mainQueue.map Block.deliveries).sum :=
          queue_of_ends delivery ends
        omega
    | screens idle => rw [idle.noDelivery] at delivery; cases delivery
    | asked idle _question => rw [idle.noDelivery] at delivery; cases delivery
    | displayed idle _display => rw [idle.noDelivery] at delivery; cases delivery
    | published _started _noSave _fresh _free noDelivery =>
        rw [noDelivery] at delivery
        cases delivery
    | saved _entered _noPublication noDelivery => rw [noDelivery] at delivery; cases delivery
    | signedOut => cases delivery
  rises := by
    intro before event after stepped noDelivery
    have worked := workStep_of_step stepped
    change after.work.deliveries ≤ before.work.deliveries + 10
    generalize after.work = work at worked
    cases worked with
    | screens _idle => exact Nat.le_add_right _ _
    | ended _ends =>
        have fewer := before.work.deliveries_terminate
        omega
    | asked _idle question =>
        have few := Request.deliveries_question question
        rw [Work.deliveries_send]
        omega
    | displayed _idle display =>
        rw [Work.deliveries_async, Block.deliveries_display display]
        omega
    | signedOut => exact Nat.le_add_right _ _
    | published _started _noSave _fresh _free _noDelivery =>
        unfold Work.publish
        rw [Work.deliveries_send]
        exact Nat.le_refl _
    | saved _entered _noPublication _noDelivery => exact before.work.deliveries_save _
    | served _found _performed => cases noDelivery
    | servedOrphan _found _performed => cases noDelivery
    | called _found _answered => cases noDelivery
    | ran _queued _result => cases noDelivery

/-- As long as something is under way that is not held back, it can be delivered: a
service can refuse what it is asked, and handlers and blocks can run. -/
theorem deliveries_progress :
    Progresses step World.delivers (World.Resting (K := K)) := by
  intro world left
  by_contra stuck
  apply left
  constructor
  · intro request sent
    by_contra free
    rw [Bool.not_eq_true] at free
    obtain ⟨index, found⟩ := List.getElem?_of_mem sent
    refine stuck ⟨.serve index (.failure ""), ?_, ?_⟩
    · simp only [World.delivers, Event.isDelivery, found, Option.any_some, free, Bool.not_false,
        Bool.and_self]
    · simp only [step, World.serve, found, Firebase.perform, Option.map_some,
        Option.isSome_some]
  · intro request sent
    by_contra free
    rw [Bool.not_eq_true] at free
    obtain ⟨index, found⟩ := List.getElem?_of_mem sent
    refine stuck ⟨.serveOrphan index (.failure ""), ?_, ?_⟩
    · simp only [World.delivers, Event.isDelivery, found, Option.any_some, free, Bool.not_false,
        Bool.and_self]
    · simp only [step, World.serveOrphan, found, Firebase.perform, Option.map_some,
        Option.isSome_some]
  · cases answered : world.responses with
    | nil => rfl
    | cons response rest =>
        refine absurd ⟨.callback 0, rfl, ?_⟩ stuck
        simp only [step, answered, List.getElem?_cons_zero, Option.isSome_some]
  · cases queued : world.mainQueue with
    | nil => rfl
    | cons block rest =>
        refine absurd ⟨.runBlock, rfl, ?_⟩ stuck
        simp only [step, queued, Option.isSome_some]

theorem isDelivery_of_delivers (world : World K) (event : Event K)
    (delivers : world.delivers event = true) : event.isDelivery = true :=
  (Bool.and_eq_true_iff.mp delivers).1

/-- In every run there are at most ten deliveries for each other event, those still
to come included.  From every state it reaches, whatever is delivered and in whatever
order, the deliveries end after that many at most.  They go on as long as anything is
under way that Firestore does not hold back, and without what it holds back they can
always be brought to an end. -/
theorem work_settles {past : Past K} {world : World K} (ran : AppRun past world) :
    count Event.isDelivery past + world.deliveries ≤
        10 * count (fun event => !event.isDelivery) past ∧
      ∀ recent later, Run step world recent later → Internally Event.isDelivery recent →
        recent.length + later.deliveries ≤ world.deliveries ∧
          ((∀ event, later.delivers event = true → step later event = none) → later.Resting) ∧
          ∃ more resting, Run step later more resting ∧ Allowed World.delivers more ∧
            resting.Resting := by
  constructor
  · have nothing : (World.initial K).deliveries = 0 := rfl
    have bound := deliveries_pay.bound ran
    rw [nothing, Nat.zero_add] at bound
    exact bound
  · intro recent later delivered inside
    exact ⟨deliveries_pay.length_le delivered inside, deliveries_progress.stuck,
      deliveries_pay.drains isDelivery_of_delivers deliveries_progress later⟩

/-- Alice signs out with a picture and a save on their way.  However it goes on, it takes
ten deliveries at most until nothing is left but what is held back, as the save is. -/
theorem work_settles_signedOut :
    let reached := endOf (.launch :: signUpEvents "alice@mail" "secret" "alice" ++
      editorEvents ++ pictureEvents "selfie" () ++
      [.editorCancelButtonPressed, .signOutButtonPressed none] : List (Event Platform.plain))
    reached.2.requests.map reached.2.held = [false, true] ∧
      ∃ more resting, Run step reached.2 more resting ∧ more.length ≤ 10 ∧ resting.Resting := by
  intro reached
  have ran : AppRun reached.1 reached.2 := appRun_endOf _ (by decide +kernel)
  have settles := (work_settles ran).2
  obtain ⟨_atOnce, _stuck, more, resting, ran, allowed, rests⟩ :=
    settles [] reached.2 .start (List.forall_mem_nil _)
  have inside : Internally Event.isDelivery more := fun moment member =>
    isDelivery_of_delivers moment.1 moment.2 (allowed moment member)
  have bounded := (settles more resting ran inside).1
  have ten : reached.2.deliveries = 10 := by decide +kernel
  refine ⟨by decide +kernel, more, resting, ran, ?_, rests⟩
  omega

end InstagramProject
