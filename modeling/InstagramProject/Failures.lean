/-
What becomes of a failure.  A request of the user fails at its service; the
answer goes to a completion handler, which prints it or puts an alert on the main
queue; the alert appears if its presenter is then in a position to present.  The
error alerts of the two lists of posts are not among the screens.
-/

import InstagramProject.Identities
import InstagramProject.Ledgers

namespace InstagramProject

open Accounting Transition

variable {K : Platform}

/-! ### Operations and their failures -/

/-- What a user starts that needs a service. -/
inductive Operation
  | signIn
  | createAccount
  | createPost
  | uploadPostPhoto
  | setPhotoURL
  | saveProfileText
  | saveProfilePicture
deriving DecidableEq

structure Failure where
  operation : Operation
  screen : ControllerID
  message : String
deriving DecidableEq

def UploadCaller.operation : UploadCaller → Operation
  | .post _ _ => .uploadPostPhoto
  | .profilePicture _ _ => .saveProfilePicture

/-- A fetch is made by a screen, not by the user. -/
def Request.operation? : Request K → Option Operation
  | .createUser _ _ _ | .setUser _ _ _ _ => some .createAccount
  | .signIn _ _ _ => some .signIn
  | .getUser _ _ => none
  | .updateUser _ _ _ => some .saveProfileText
  | .setPost _ _ _ _ _ => some .createPost
  | .putData _ _ caller | .downloadURL _ caller => some caller.operation
  | .updatePost _ _ _ _ => some .setPhotoURL
  | .commitChanges _ _ _ _ => some .saveProfilePicture

def Request.failure? (request : Request K) (message : String) : Option Failure :=
  request.operation?.map (fun operation =>
    { operation := operation, screen := request.controller, message := message })

/-- The titles of the alerts that report a failure. -/
def Operation.ofTitle? (title : String) : Option Operation :=
  [("unable to create a user", .createAccount), ("Could not create post", .createPost),
    ("Could not upload photo", .uploadPostPhoto), ("Failed to update item", .setPhotoURL),
    ("Failed to update profile", .saveProfileText),
    ("Failed to upload photo", .saveProfilePicture),
    ("Could not save changes", .saveProfilePicture)].lookup title

/-- The title and the message of the alert by which a completion handler reports. -/
def Block.alert? : Block K → Option (String × String)
  | .loginAlert _ title message | .addPhotoAlert _ title message _
  | .editorAlert _ title message | .pictureAlert _ title message
  | .commitAlert _ _ title message => some (title, message)
  | _ => none

def Block.failure? (block : Block K) : Option Failure :=
  block.alert?.bind (fun (title, message) => (Operation.ofTitle? title).map (fun operation =>
    { operation := operation, screen := block.controller, message := message }))

/-- Failures on their way to the user. -/
def failing : Marking K Failure where
  request _ := none
  response request answer :=
    match answer with
    | .error message => request.failure? message
    | _ => none
  block := Block.failure?

namespace World

/-- The failure of a user's request, for all the client can tell. -/
def failed? (world : World K) : Event K → Option Failure
  | .serve index (.failure message) | .serve index (.unconfirmed _ message) =>
      world.requests[index]?.bind (fun request => request.failure? message)
  | .serveOrphan index (.failure message) =>
      world.orphans[index]?.bind (fun request => request.failure? message)
  | _ => none

/-- The alert an event puts over what was presented. -/
def shownAlert? (world : World K) (event : Event K) : Option (String × String) :=
  match (step world event).map presented with
  | some (.alert title message :: below) =>
      if below.length = world.presented.length then some (title, message) else none
  | _ => none

/-- The failure whose alert appears. -/
def reported? (world : World K) : Event K → Option Failure
  | .runBlock =>
      match world.mainQueue with
      | block :: _ => if world.shownAlert? .runBlock = block.alert? then block.failure? else none
      | [] => none
  | _ => none

def selects (world : World K) (screen : ControllerID) (index : Fin 3) : Bool :=
  match world.root with
  | some (.instagram tabs) => tabs.id == screen && tabs.selectedIndex == index
  | _ => false

/-- The presenter of the block's alert is alive, in the window, and presents
nothing. -/
def canShow (world : World K) : Block K → Bool
  | .loginAlert login _ _ => world.isLogin login && world.presented.isEmpty
  | .addPhotoAlert screen _ _ _ => world.selects screen 1 && world.presented.isEmpty
  | .editorAlert editor _ _ | .pictureAlert editor _ _ =>
      world.presented.head?.any (Screen.isEditor editor)
  | .commitAlert editor captured _ _ =>
      captured && world.presented.head?.any (Screen.isEditor editor)
  | _ => false

/-- The event reports the failure it handles: a failed sign-in or sign-up is only
printed, and the failures of a process that has ended go nowhere. -/
def reportsFailures (world : World K) (event : Event K) : Bool :=
  if world.endsProcess event then
    !world.responses.any (fun response => (failing.response response.1 response.2).isSome) &&
      !world.mainQueue.any (fun block => block.failure?.isSome)
  else
    match event with
    | .serveOrphan _ _ => (world.failed? event).isNone
    | .callback index =>
        match world.responses[index]? with
        | some (.signIn _ _ _, .error _) | some (.createUser _ _ _, .error _) => false
        | _ => true
    | .runBlock =>
        match world.mainQueue with
        | block :: _ => block.failure?.isNone || world.canShow block
        | [] => true
    | _ => true

/-- The failures an event loses while the process goes on. -/
def droppedFailures (world : World K) : Event K → Multiset Failure
  | .serveOrphan index outcome => one (world.failed? (.serveOrphan index outcome))
  | .callback index =>
      match world.responses[index]? with
      | some (request, answer) =>
          if (handlerBlock request answer).isNone then one (failing.response request answer)
          else 0
      | none => 0
  | .runBlock =>
      match world.mainQueue with
      | block :: _ => if world.canShow block then 0 else one block.failure?
      | [] => 0
  | _ => 0

/-- With the process go all failures still on their way. -/
def lostFailures (world : World K) (event : Event K) : Multiset Failure :=
  if world.endsProcess event then world.work.marks failing else world.droppedFailures event

end World

/-- The failures of a run, from the services to the screen. -/
def failureLedger (K : Platform) : Ledger (World K) (Event K) Failure where
  waiting world := world.work.marks failing
  arrives world event := one (world.failed? event)
  leaves world event := one (world.reported? event)
  lost := World.lostFailures

/-! ### Which alerts appear -/

section Alerts

variable {world after : World K} {event : Event K} {title message : String}

private theorem shownAlert?_over (stepped : step world event = some after)
    (presents : after.presented = .alert title message :: world.presented) :
    world.shownAlert? event = some (title, message) := by
  unfold World.shownAlert?
  rw [stepped, Option.map_some, presents]
  exact if_pos rfl

private theorem shownAlert?_fewer (stepped : step world event = some after)
    (fewer : after.presented.length ≤ world.presented.length) :
    world.shownAlert? event = none := by
  unfold World.shownAlert?
  rw [stepped, Option.map_some]
  split
  · rename_i _title _message below isAlert
    rw [Option.some.inj isAlert, List.length_cons] at fewer
    exact if_neg (Nat.ne_of_lt fewer)
  · rfl

private theorem presented_fromLogin {login : ControllerID} {screen : Screen K} :
    (world.presentFromLogin login screen).presented =
      if world.isLogin login && world.presented.isEmpty then screen :: world.presented
      else world.presented := by
  unfold World.presentFromLogin
  split
  · rename_i position
    rw [List.isEmpty_iff.mp (Bool.and_eq_true_iff.mp position).2]
  · rfl

private theorem presented_fromTab {tab : ControllerID} {index : Fin 3} {screen : Screen K} :
    (world.presentFromTab tab index screen).presented =
      if world.selects tab index && world.presented.isEmpty then screen :: world.presented
      else world.presented := by
  unfold World.presentFromTab World.selects
  cases isRoot : world.root with
  | none => rfl
  | some root =>
      cases root with
      | login controller => rfl
      | instagram tabs =>
          dsimp only
          by_cases position : tabs.id = tab ∧ tabs.selectedIndex = index ∧ world.presented.isEmpty
          · rw [if_pos position]
            obtain ⟨sameTab, selected, empty⟩ := position
            simp only [sameTab, selected, List.isEmpty_iff.mp empty, beq_self_eq_true,
              List.isEmpty_nil, Bool.and_self, if_true]
          · rw [if_neg position, if_neg]
            simp only [Bool.and_eq_true, beq_iff_eq, and_assoc]
            exact position

private theorem presented_fromEditor {editor : ControllerID} {screen : Screen K} :
    (world.presentFromEditor editor screen).presented =
      if world.presented.head?.any (Screen.isEditor editor) then screen :: world.presented
      else world.presented := by
  unfold World.presentFromEditor
  cases presented : world.presented with
  | nil => exact presented
  | cons top rest =>
      dsimp only
      by_cases isTop : top.isEditor editor = true
      · rw [if_pos isTop]
        exact (if_pos isTop).symm
      · rw [if_neg isTop]
        exact presented.trans (if_neg isTop).symm

/-- A block with an alert presents it where its presenter can, and does nothing
else to the screens. -/
private theorem presented_alert {block : Block K} {rest : List (Block K)}
    (queued : world.mainQueue = block :: rest) (alert : block.alert? = some (title, message))
    (running : world.endsProcess .runBlock = false) :
    (World.runBlock { world with mainQueue := rest } block).presented =
      if world.canShow block then .alert title message :: world.presented
      else world.presented := by
  cases block with
  | loginAlert login _ _ =>
      cases alert
      exact presented_fromLogin
  | addPhotoAlert screen _ _ documentID =>
      cases alert
      exact presented_fromTab
  | editorAlert editor _ _ =>
      cases alert
      exact presented_fromEditor
  | pictureAlert editor _ _ =>
      cases alert
      exact presented_fromEditor
  | commitAlert editor captured _ _ =>
      cases alert
      simp only [World.endsProcess, queued, World.editorAlive_commitAlert queued] at running
      simp only [World.runBlock, World.canShow]
      cases captured with
      | false => rfl
      | true =>
          rw [Bool.true_and, Bool.not_eq_false'] at running
          simp only [running, if_true, Bool.true_and]
          exact presented_fromEditor
  | _ => cases alert

/-- Nothing appears from an editor that is gone. -/
private theorem hidden_of_ends {block : Block K} {rest : List (Block K)}
    (queued : world.mainQueue = block :: rest) (ends : world.endsProcess .runBlock = true) :
    world.canShow block = false := by
  unfold World.endsProcess at ends
  rw [queued] at ends
  cases block with
  | commitAlert editor captured _ _ =>
      obtain ⟨isCaptured, released⟩ := Bool.and_eq_true_iff.mp ends
      rw [Bool.not_eq_true'] at released
      simp only [World.editorAlive, Bool.or_eq_false_iff, List.any_eq_false] at released
      rw [World.canShow, isCaptured, Bool.true_and]
      cases presented : world.presented with
      | nil => rfl
      | cons top below =>
          apply Bool.eq_false_iff.mpr
          apply released.1.1.1
          rw [presented]
          exact List.mem_cons_self
  | _ => cases ends

/-- The alert of the next block appears exactly if its presenter can present. -/
theorem shownAlert?_runBlock {block : Block K} {rest : List (Block K)}
    (queued : world.mainQueue = block :: rest) (alert : block.alert? = some (title, message)) :
    world.shownAlert? .runBlock =
      if world.canShow block then some (title, message) else none := by
  have stepped : step world .runBlock =
      some (World.runBlock { world with mainQueue := rest } block) := by
    simp only [step, queued]
  cases ends : world.endsProcess .runBlock with
  | true =>
      rw [hidden_of_ends queued ends]
      apply shownAlert?_fewer stepped
      rw [terminated_of_step stepped ends]
      exact Nat.zero_le _
  | false =>
      have presented := presented_alert queued alert ends
      cases shows : world.canShow block with
      | true =>
          rw [shows] at presented
          exact shownAlert?_over stepped presented
      | false =>
          rw [shows] at presented
          exact shownAlert?_fewer stepped (le_of_eq (congrArg List.length presented))

end Alerts

/-! ### The books balance -/

section Balance

variable {before after : World K} {event : Event K}

private theorem failed_of_perform {firebase changed : Firebase K}
    {localUser : UID → Option Document} {request : Request K} {outcome : Outcome}
    {answer : Answer}
    (performed : firebase.perform localUser request outcome = some (changed, answer)) :
    failing.response request answer =
      match outcome with
      | .failure message | .unconfirmed _ message => request.failure? message
      | .success _ => none := by
  cases performed_of_perform performed <;> rfl

/-- A handler that queues a block hands the failure on to it. -/
private theorem failure_of_handlerBlock {request : Request K} {answer : Answer} {block : Block K}
    (handled : handlerBlock request answer = some block) :
    failing.block block = failing.response request answer := by
  cases queues_of_handlerBlock handled <;> rfl

/-- A handler passes a failure on to its block, or loses it if it queues none. -/
private theorem marks_called {index : Nat} {request : Request K} {answer : Answer} {work : Work K}
    (found : before.responses[index]? = some (request, answer))
    (answered : Answered { before with responses := before.responses.eraseIdx index } request
      answer work) :
    before.work.marks failing = work.marks failing +
      if (handlerBlock request answer).isNone then one (failing.response request answer) else 0 := by
  have taken := Work.marks_takeResponse failing before.work found
  cases handled : handlerBlock request answer with
  | some block =>
      rw [answered_handlerBlock answered handled]
      have queued := Work.marks_queued failing before.work found (failure_of_handlerBlock handled)
      exact queued.symm.trans (add_zero _).symm
  | none =>
      have same : work.marks failing =
          Work.marks failing { before.work with
            responses := before.work.responses.eraseIdx index } := by
        cases answered with
        | queued queued =>
            rw [handled] at queued
            cases queued
        | uploading _alive _encoded => exact Work.marks_send_unmarked _ _ rfl
        | locating => exact Work.marks_send_unmarked _ _ rfl
        | linking _alive => exact Work.marks_send_unmarked _ _ rfl
        | committing _signedIn => exact Work.marks_send_unmarked _ _ rfl
        | _ => rfl
      rw [taken, same, add_comm]
      rfl

/-- A block's failure is reported if its alert appears, and lost otherwise. -/
private theorem marks_runBlock {block : Block K} {rest : List (Block K)}
    (queued : before.mainQueue = block :: rest) :
    one block.failure? = one (before.reported? .runBlock) +
      if before.canShow block then 0 else one block.failure? := by
  simp only [World.reported?, queued]
  cases alert : block.alert? with
  | none =>
      have noFailure : block.failure? = none := by
        rw [Block.failure?, alert]
        rfl
      rw [noFailure]
      simp only [ite_self, one_none, add_zero]
  | some titled =>
      obtain ⟨title, message⟩ := titled
      rw [shownAlert?_runBlock queued alert]
      cases before.canShow block with
      | true => simp only [if_true, add_zero]
      | false => simp only [Bool.false_eq_true, if_false, reduceCtorEq, one_none, zero_add]

private theorem noReport_of_ends (stepped : step before event = some after)
    (ends : before.endsProcess event = true) : before.reported? event = none := by
  cases event with
  | runBlock =>
      cases queued : before.mainQueue with
      | nil => simp only [World.reported?, queued]
      | cons block rest =>
          have hidden := hidden_of_ends queued ends
          simp only [World.reported?, queued]
          cases alert : block.alert? with
          | none =>
              simp only [Block.failure?, alert, Option.bind_none, ite_self]
          | some titled =>
              obtain ⟨title, message⟩ := titled
              rw [shownAlert?_runBlock queued alert, hidden]
              simp only [Bool.false_eq_true, if_false, reduceCtorEq]
  | _ => rfl

private theorem marks_terminated (work : Work K) : work.terminate.marks failing = 0 := by
  apply Multiset.eq_zero_of_forall_notMem
  intro failure member
  rcases (Work.mem_marks failing work.terminate).mp member with
    ⟨_, _, marked⟩ | ⟨_, _, marked⟩ | ⟨_, none_, _⟩ | ⟨_, none_, _⟩
  · cases marked
  · cases marked
  · cases none_
  · cases none_

theorem failureLedger_balances : (failureLedger K).Balances step := by
  intro before event after stepped
  change one (before.failed? event) + before.work.marks failing =
    after.work.marks failing + (one (before.reported? event) + before.lostFailures event)
  cases ends : before.endsProcess event with
  | true =>
      have noFailure : before.failed? event = none := by
        cases event <;> first | rfl | cases ends
      rw [noFailure, noReport_of_ends stepped ends, terminated_of_step stepped ends,
        World.lostFailures, if_pos ends]
      change _ = before.work.terminate.marks failing + _
      rw [marks_terminated, zero_add]
  | false =>
      have lost : before.lostFailures event = before.droppedFailures event := by
        rw [World.lostFailures, ends]
        rfl
      rw [lost]
      have quiet (noDelivery : event.isDelivery = false)
          (same : after.work.marks failing = before.work.marks failing) :
          one (before.failed? event) + before.work.marks failing =
            after.work.marks failing +
              (one (before.reported? event) + before.droppedFailures event) := by
        have noFailure : before.failed? event = none := by
          cases event <;> first | rfl | cases noDelivery
        have noReport : before.reported? event = none := by
          cases event <;> first | rfl | cases noDelivery
        have noDrop : before.droppedFailures event = 0 := by
          cases event <;> first | rfl | cases noDelivery
        rw [same, noFailure, noReport, noDrop, one_none, zero_add, add_zero, add_zero]
      have worked := workStep_of_step stepped
      generalize result : after.work = work at worked
      rw [result] at quiet
      cases worked with
      | screens idle => exact quiet idle.noDelivery rfl
      | ended ended =>
          rw [ends] at ended
          cases ended
      | asked idle _question => exact quiet idle.noDelivery (Work.marks_send_unmarked _ _ rfl)
      | @displayed _ block idle display =>
          apply quiet idle.noDelivery
          apply Work.marks_async_unmarked
          cases block <;> first | rfl | cases display
      | signedOut => exact quiet rfl rfl
      | published _started _noSave _fresh _free noDelivery =>
          exact quiet noDelivery (Work.marks_send_unmarked failing _ rfl)
      | saved _started _noPublication noDelivery => exact quiet noDelivery (Work.marks_save_unmarked _ _ (fun _ _ => rfl))
      | @served index outcome request firebase answer found performed =>
          obtain ⟨rest, isBefore, isAfter⟩ :=
            Work.marks_serve failing before.work found firebase answer
          have arrived : before.failed? (.serve index outcome) =
              failing.response request answer := by
            rw [failed_of_perform performed]
            cases outcome with
            | failure message => simp only [World.failed?, found, Option.bind_some]
            | unconfirmed newUID message => simp only [World.failed?, found, Option.bind_some]
            | success newUID => rfl
          rw [isBefore, isAfter, arrived]
          change one _ + (0 + rest) = one _ + rest + (0 + 0)
          rw [zero_add, add_zero, add_zero]
      | @servedOrphan index outcome request firebase answer found performed =>
          rw [Work.marks_serveOrphan failing before.work found firebase]
          change one _ + (0 + _) = _ + (0 + one _)
          rw [zero_add, zero_add, add_comm]
      | @called index request answer work found answered =>
          rw [marks_called found answered]
          simp only [World.droppedFailures, found]
          exact (zero_add _).trans (congrArg _ (zero_add _).symm)
      | @ran block rest work queued ran =>
          rw [Work.marks_ran_unmarked _ _ ran (fun _ _ => rfl) (fun _ => rfl),
            Work.marks_takeBlock failing before.work queued]
          simp only [World.droppedFailures, queued]
          change 0 + (one block.failure? + _) = _
          rw [zero_add]
          exact (add_comm _ _).trans (congrArg _ (marks_runBlock queued))

private theorem marks_eq_zero_iff (world : World K) :
    world.work.marks failing = 0 ↔
      (!world.responses.any (fun response => (failing.response response.1 response.2).isSome) &&
        !world.mainQueue.any (fun block => block.failure?.isSome)) = true := by
  have noRequest (items : List (Request K)) : tally failing.request items = 0 :=
    tally_eq_zero_iff.mpr (fun _ _ => rfl)
  rw [Work.marks, noRequest, noRequest, zero_add, zero_add, add_eq_zero, tally_eq_zero_iff,
    tally_eq_zero_iff]
  simp only [Bool.and_eq_true, Bool.not_eq_true', List.any_eq_false, Option.not_isSome_iff_eq_none]
  exact Iff.rfl

/-- A handler loses a failure exactly if it prints it. -/
private theorem printed_iff {request : Request K} {answer : Answer} :
    (if (handlerBlock request answer).isNone then one (failing.response request answer) else 0) =
        0 ↔
      (match some (request, answer) with
        | some (.signIn _ _ _, .error _) | some (.createUser _ _ _, .error _) => false
        | _ => true) = true := by
  cases request with
  | createUser email password login =>
      cases answer with
      | error message => exact iff_of_false (Multiset.singleton_ne_zero _) Bool.false_ne_true
      | _ => exact iff_of_true (ite_self _) rfl
  | signIn email password login =>
      cases answer with
      | error message => exact iff_of_false (Multiset.singleton_ne_zero _) Bool.false_ne_true
      | _ => exact iff_of_true (ite_self _) rfl
  | putData reference imageData caller =>
      cases answer <;> cases caller <;> exact iff_of_true rfl rfl
  | downloadURL reference caller =>
      cases answer <;> cases caller <;> exact iff_of_true rfl rfl
  | getUser uid caller => cases answer <;> cases caller <;> exact iff_of_true rfl rfl
  | _ => cases answer <;> exact iff_of_true rfl rfl

theorem lostFailures_eq_zero_iff :
    before.lostFailures event = 0 ↔ before.reportsFailures event = true := by
  unfold World.lostFailures World.reportsFailures
  cases ends : before.endsProcess event with
  | true => exact marks_eq_zero_iff before
  | false =>
      simp only [Bool.false_eq_true, if_false]
      cases event with
      | serveOrphan index outcome =>
          exact one_eq_zero_iff.trans Option.isNone_iff_eq_none.symm
      | callback index =>
          simp only [World.droppedFailures]
          cases found : before.responses[index]? with
          | none => exact iff_of_true rfl rfl
          | some response =>
              obtain ⟨request, answer⟩ := response
              exact printed_iff
      | runBlock =>
          simp only [World.droppedFailures]
          cases queued : before.mainQueue with
          | nil => exact iff_of_true rfl rfl
          | cons block rest =>
              dsimp only
              cases before.canShow block with
              | true => simp only [if_true, Bool.or_true]
              | false =>
                  simp only [Bool.false_eq_true, if_false, Bool.or_false]
                  exact one_eq_zero_iff.trans Option.isNone_iff_eq_none.symm
      | _ => exact iff_of_true rfl rfl

end Balance

/-! ### Every run -/

/-- The failures of the user's requests so far. -/
def failures (past : Past K) : Multiset Failure :=
  tally (fun moment => moment.1.failed? moment.2) past

/-- The failures whose alerts have appeared. -/
def reports (past : Past K) : Multiset Failure :=
  tally (fun moment => moment.1.reported? moment.2) past

/-- Every failure has had its alert on the screen or is still on its way to it,
exactly if every event reports the failure it handles. -/
theorem failures_reported {past : Past K} {world : World K} (ran : AppRun past world) :
    Throughout (fun _ before event => before.reportsFailures event = true) past ↔
      failures past = world.work.marks failing + reports past := by
  have books := Ledger.nothing_lost_iff failureLedger_balances rfl ran
  change _ ↔ total (fun before event => one (before.failed? event)) past =
    world.work.marks failing + total (fun before event => one (before.reported? event)) past
    at books
  rw [total_one, total_one] at books
  rw [failures, reports, ← books]
  apply ran.throughout_iff
  intro _ before event _ _ _
  exact lostFailures_eq_zero_iff.symm

/-- The document of a post is refused while the Add Photo screen is in front. -/
def refusedPost : List (Event Platform.plain) :=
  .launch :: signUpEvents "alice@mail" "secret" "alice" ++
    publishEvents "beach" "sunny" "post1" () ++
    [.serve 0 (.failure "offline"), .callback 0, .runBlock]

theorem failures_reported_refusedPost :
    (endOf refusedPost).2.work.marks failing = 0 ∧
      failures (endOf refusedPost).1 = 0 + reports (endOf refusedPost).1 ∧
      failures (endOf refusedPost).1 =
        {{ operation := .createPost, screen := 1, message := "offline" }} := by
  have reported : Throughout (fun _ before event => before.reportsFailures event = true)
      (endOf refusedPost).1 := by decide +kernel
  have nothing : (endOf refusedPost).2.work.marks failing = 0 := by decide +kernel
  have closed :=
    (failures_reported (appRun_endOf refusedPost (by decide +kernel))).mp reported
  rw [nothing] at closed
  exact ⟨nothing, closed, by decide +kernel⟩

/-- A failed sign-in is printed and nothing appears.  The photo of a post is refused
after its handler has gone back to the feed: the alert of the hidden screen does not
appear either. -/
theorem silent_failures :
    let signIn := endOf ([.launch, .loginButtonPressed "alice@mail" "wrong",
      .serve 0 (.failure "wrong password"), .callback 0] : List (Event Platform.plain))
    let upload := endOf (.launch :: signUpEvents "alice@mail" "secret" "alice" ++
      publishEvents "beach" "sunny" "post1" () ++ stepEvents ++
      [.serve 0 (.failure "offline"), .callback 0, .runBlock] : List (Event Platform.plain))
    (AppRun signIn.1 signIn.2 ∧ signIn.2.work.marks failing = 0 ∧
      failures signIn.1 = {{ operation := .signIn, screen := 0, message := "wrong password" }} ∧
      reports signIn.1 = 0 ∧ signIn.2.presented.isEmpty = true) ∧
    AppRun upload.1 upload.2 ∧ upload.2.work.marks failing = 0 ∧
      failures upload.1 =
        {{ operation := .uploadPostPhoto, screen := 1, message := "offline" }} ∧
      reports upload.1 = 0 ∧ upload.2.presented.isEmpty = true := by
  intro signIn upload
  exact ⟨⟨appRun_endOf _ (by decide +kernel), by decide +kernel, by decide +kernel,
    by decide +kernel, by decide +kernel⟩, appRun_endOf _ (by decide +kernel), by decide +kernel,
    by decide +kernel, by decide +kernel, by decide +kernel⟩

end InstagramProject
