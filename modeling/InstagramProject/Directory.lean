/-
Accounts and user documents.  A sign-up creates an account, then writes its
document; in between the sign-up is an answer, a block or a request.  The
directory is the part of the state this concerns, and `DirectoryStep` lists what
an event does to it.
-/

import InstagramProject.Outstanding

namespace InstagramProject

open Accounting Transition

variable {K : Platform}

inductive SignUpStage
  | created (email : Option String)
  | writing (fields : Fields)

/-- A sign-up whose account exists and whose document has not been written. -/
structure SignUp where
  uid : UID
  stage : SignUpStage

def signUps : Marking K SignUp where
  request
    | .setUser uid fields _ _ => some ⟨uid, .writing fields⟩
    | _ => none
  response
    | .createUser _ _ _, .account uid email => some ⟨uid, .created email⟩
    | _, _ => none
  block
    | .createUser _ uid email => some ⟨uid, .created email⟩
    | _ => none

structure Directory where
  accounts : List Account
  users : UID → Option Document
  signUps : Multiset SignUp

def Work.directory (work : Work K) : Directory :=
  { accounts := work.firebase.accounts
    users := work.firebase.users
    signUps := work.marks signUps }

namespace World

/-- An answer or a block that is still to write the document of a new account. -/
def awaitsDocument (world : World K) : Bool :=
  world.responses.any (fun (request, answer) =>
    match request, answer with
    | .createUser _ _ _, .account _ _ => true
    | _, _ => false) || world.mainQueue.any Block.createsUser

/-- The event leaves a new account without a document: the write fails, the sign-up
is answered with an error or to nobody, or the login screen is gone. -/
def losesProfile (world : World K) (event : Event K) : Bool :=
  (world.endsProcess event && world.awaitsDocument) ||
    match event with
    | .serve _ (.failure _) | .serveOrphan _ (.failure _) =>
        match world.refused? event with
        | some (.setUser _ _ _ _) => true
        | _ => false
    | .serve _ (.unconfirmed _ _) | .serveOrphan _ (.success _)
    | .serveOrphan _ (.unconfirmed _ _) =>
        match world.effect? event with
        | some (.createUser _ _ _) => true
        | _ => false
    | .runBlock =>
        match world.mainQueue with
        | .createUser login _ _ :: _ => !world.isLogin login
        | _ => false
    | _ => false

end World

/-- The account of a sign-up answered in an event. -/
def World.signedUp? (world : World K) : Event K → Option UID
  | .serve index (.success newUID) =>
      match world.requests[index]? with
      | some (.createUser _ _ _) => some newUID
      | _ => none
  | _ => none

/-- What an event does to the directory. -/
inductive DirectoryStep (before : World K) (event : Event K) (view : Directory) :
    Directory → Prop
  | idle : DirectoryStep before event view view
  | ended {remaining : Multiset SignUp} :
      remaining ≤ view.signUps →
      before.losesProfile event = true ∨ remaining = view.signUps →
      DirectoryStep before event view { view with signUps := remaining }
  | registered (account : Account) {kept : Option SignUp} :
      account.uid ≠ "" → SlashFree account.uid →
      (∀ other ∈ view.accounts, other.uid ≠ account.uid ∧ other.email ≠ account.email) →
      (kept = some ⟨account.uid, .created (some account.email)⟩ ∧
          before.signedUp? event = some account.uid ∨
        kept = none ∧ before.losesProfile event = true) →
      DirectoryStep before event view
        { view with
          accounts := view.accounts ++ [account]
          signUps := one kept + view.signUps }
  | asked {uid : UID} {email : String} {rest : Multiset SignUp} :
      view.signUps = {⟨uid, .created (some email)⟩} + rest →
      DirectoryStep before event view
        { view with
          signUps := {⟨uid, .writing [("userEmail", email), ("userId", uid)]⟩} + rest }
  | lost {signUp : SignUp} {rest : Multiset SignUp} :
      view.signUps = {signUp} + rest →
      before.losesProfile event = true ∨ signUp.stage = .created none →
      DirectoryStep before event view { view with signUps := rest }
  | written {uid : UID} {fields : Fields} {login : ControllerID} {writer : Option UID}
      {rest : Multiset SignUp} :
      before.effect? event = some (.setUser uid fields login writer) →
      view.signUps = {⟨uid, .writing fields⟩} + rest →
      DirectoryStep before event view
        { view with
          users := Function.update view.users uid (some (Document.setData fields))
          signUps := rest }
  | saved {uid : UID} {fields : Fields} {editor : ControllerID} {document : Document} :
      before.effect? event = some (.updateUser uid fields editor) →
      view.users uid = some document →
      DirectoryStep before event view
        { view with
          users := Function.update view.users uid (some (document.updateData fields)) }

/-! ### Every event is in the list -/

private theorem directory_same {before after : Work K} (sameFirebase : after.firebase = before.firebase)
    (sameMarks : after.marks signUps = before.marks signUps) :
    after.directory = before.directory := by
  simp only [Work.directory, sameFirebase, sameMarks]

private theorem directory_send (work : Work K) {request : Request K}
    (unmarked : signUps.request request = none) :
    (work.send request).directory = work.directory :=
  directory_same rfl (Work.marks_send_unmarked signUps work unmarked)

private theorem directory_async (work : Work K) {block : Block K}
    (unmarked : signUps.block block = none) : (work.async block).directory = work.directory :=
  directory_same rfl (Work.marks_async_unmarked signUps work unmarked)

private theorem directory_save (work : Work K) (entered : Save K) :
    (work.save entered).directory = work.directory := by
  unfold Work.save
  rw [directory_send _ rfl]
  split
  · rfl
  · exact directory_send _ rfl

/-- An account whose sign-up hears nothing of it has no document to come. -/
private theorem registered_unanswered {before : World K} {event : Event K} {newUID : UID}
    {email password : String} {rest : Multiset SignUp}
    (accepted : before.firebase.Accepts newUID email password)
    (lossy : before.losesProfile event = true) :
    DirectoryStep before event
      { accounts := before.firebase.accounts, users := before.firebase.users, signUps := rest }
      { accounts := before.firebase.accounts ++
          [{ uid := newUID, email := K.keptEmail email, password := password }]
        users := before.firebase.users
        signUps := rest } := by
  have registered : DirectoryStep before event
      { accounts := before.firebase.accounts, users := before.firebase.users, signUps := rest } _ :=
    .registered { uid := newUID, email := K.keptEmail email, password := password }
      accepted.1 accepted.2.1 accepted.2.2.2 (.inr ⟨rfl, lossy⟩)
  simp only [one_none, zero_add] at registered
  exact registered

private theorem directoryStep_served {before : World K} {index : Nat} {outcome : Outcome}
    {request : Request K} {firebase : Firebase K} {answer : Answer}
    (found : before.requests[index]? = some request)
    (performed : Performed before.firebase before.localUser request outcome firebase answer) :
    DirectoryStep before (.serve index outcome) before.work.directory
      (before.work.serve index request firebase answer).directory := by
  obtain ⟨rest, marksBefore, marksAfter⟩ :=
    Work.marks_serve signUps before.work found firebase answer
  have view : (before.work.serve index request firebase answer).directory =
      { accounts := firebase.accounts
        users := firebase.users
        signUps := one (signUps.response request answer) + rest } := by
    rw [← marksAfter]
    rfl
  have start : before.work.directory =
      { accounts := before.firebase.accounts
        users := before.firebase.users
        signUps := one (signUps.request request) + rest } := by
    rw [← marksBefore]
    rfl
  have effect {newUID : UID} (success : outcome = .success newUID) :
      before.effect? (.serve index outcome) = some request := by
    rw [success]
    exact found
  rw [view, start]
  cases performed with
  | refused =>
      cases request with
      | setUser uid fields login writer =>
          simp only [signUps, one_none, one_some, zero_add]
          refine .lost rfl (.inl ?_)
          simp only [World.losesProfile, World.refused?, found, Bool.or_true]
      | _ => exact .idle
  | @createUser email password login newUID accepted =>
      simp only [signUps, one_none, zero_add]
      exact .registered { uid := newUID, email := K.keptEmail email, password := password }
        accepted.1 accepted.2.1 accepted.2.2.2
        (.inl ⟨rfl, by simp only [World.signedUp?, found]⟩)
  | @unconfirmed _ newUID message _ _ loses carriedOut =>
      cases carriedOut with
      | createUser accepted =>
          have lossy : before.losesProfile (.serve index (.unconfirmed newUID message)) = true := by
            simp only [World.losesProfile, World.effect?, found, Bool.or_true]
          simp only [signUps, one_none, zero_add]
          exact registered_unanswered accepted lossy
      | putData => exact .idle
      | commitChanges => exact .idle
      | _ => cases loses
  | setUser =>
      simp only [signUps, one_none, one_some, zero_add]
      exact .written (effect rfl) rfl
  | updateUser stored =>
      simp only [signUps, one_none, zero_add]
      exact .saved (effect rfl) stored
  | _ =>
      simp only [signUps, one_none, zero_add]
      exact .idle

private theorem directoryStep_servedOrphan {before : World K} {index : Nat} {outcome : Outcome}
    {request : Request K} {firebase : Firebase K} {answer : Answer}
    (found : before.orphans[index]? = some request)
    (performed : Performed before.firebase before.localUser request outcome firebase answer) :
    DirectoryStep before (.serveOrphan index outcome) before.work.directory
      (before.work.serveOrphan index firebase).directory := by
  have marks := Work.marks_serveOrphan signUps before.work found firebase
  have start : before.work.directory =
      { accounts := before.firebase.accounts
        users := before.firebase.users
        signUps := one (signUps.request request) +
          (before.work.serveOrphan index firebase).marks signUps } := by
    rw [← marks]
    rfl
  have effect {newUID : UID} (success : outcome = .success newUID) :
      before.effect? (.serveOrphan index outcome) = some request := by
    rw [success]
    exact found
  unfold Work.directory at start ⊢
  rw [start]
  generalize (before.work.serveOrphan index firebase).marks signUps = rest
  -- No handler is left to be answered, so the request leaves nobody behind.
  have nobody (accounts : List Account) (users : UID → Option Document) :
      ({ accounts := accounts, users := users, signUps := rest } : Directory) =
        { accounts := accounts, users := users, signUps := one none + rest } := by
    rw [one_none, zero_add]
  change DirectoryStep before _ _
    { accounts := firebase.accounts, users := firebase.users, signUps := rest }
  cases performed with
  | refused =>
      cases request with
      | setUser uid fields login writer =>
          refine .lost rfl (.inl ?_)
          simp only [World.losesProfile, World.refused?, found, Bool.or_true]
      | _ =>
          rw [nobody]
          exact .idle
  | @createUser email password login newUID accepted =>
      have lossy : before.losesProfile (.serveOrphan index (.success newUID)) = true := by
        simp only [World.losesProfile, World.effect?, found, Bool.or_true]
      simp only [signUps, one_none, zero_add]
      exact registered_unanswered accepted lossy
  | @unconfirmed _ newUID message _ _ loses carriedOut =>
      cases carriedOut with
      | createUser accepted =>
          have lossy :
              before.losesProfile (.serveOrphan index (.unconfirmed newUID message)) = true := by
            simp only [World.losesProfile, World.effect?, found, Bool.or_true]
          simp only [signUps, one_none, zero_add]
          exact registered_unanswered accepted lossy
      | putData =>
          rw [nobody]
          exact .idle
      | commitChanges =>
          rw [nobody]
          exact .idle
      | _ => cases loses
  | setUser => exact .written (effect rfl) rfl
  | updateUser stored =>
      rw [nobody]
      exact .saved (effect rfl) stored
  | _ =>
      rw [nobody]
      exact .idle

private theorem signUps_handled {request : Request K} {answer : Answer} {block : Block K}
    (handled : handlerBlock request answer = some block) :
    signUps.block block = signUps.response request answer := by
  cases queues_of_handlerBlock handled <;> rfl

private theorem signUps_ignored {request : Request K} {answer : Answer}
    (ignored : request.ignores answer = true) : signUps.response request answer = none := by
  cases request with
  | createUser email password login =>
      cases answer with
      | account uid email => cases ignored
      | _ => rfl
  | _ => rfl

private theorem directoryStep_called {before : World K} {index : Nat} {request : Request K}
    {answer : Answer} {after : Work K} (found : before.responses[index]? = some (request, answer))
    (answered : Answered { before with responses := before.responses.eraseIdx index }
      request answer after) :
    DirectoryStep before (.callback index) before.work.directory after.directory := by
  suffices same : after.directory = before.work.directory by
    rw [same]
    exact .idle
  have taken (unmarked : signUps.response request answer = none) :
      Work.directory { before.work with responses := before.responses.eraseIdx index } =
        before.work.directory :=
    directory_same rfl (Work.marks_takeResponse_unmarked signUps before.work found unmarked)
  have sent {next : Request K} (unmarked : signUps.response request answer = none)
      (unmarkedNext : signUps.request next = none) :
      (Work.send { before.work with responses := before.responses.eraseIdx index }
        next).directory = before.work.directory :=
    (directory_send _ unmarkedNext).trans (taken unmarked)
  cases answered with
  | ignored ignored => exact taken (signUps_ignored ignored)
  | queued handled =>
      exact directory_same rfl
        (Work.marks_queued signUps before.work found (signUps_handled handled))
  | uploading _alive _encoded => exact sent rfl rfl
  | locating => exact sent rfl rfl
  | linking _alive => exact sent rfl rfl
  | committing _signedIn => exact sent rfl rfl
  | _ => exact taken rfl

private theorem directoryStep_ran {before : World K} {block : Block K} {rest : List (Block K)}
    {after : Work K} (queued : before.mainQueue = block :: rest)
    (ran : Ran { before with mainQueue := rest } block after) :
    DirectoryStep before .runBlock before.work.directory after.directory := by
  have marks := Work.marks_takeBlock signUps before.work queued
  have taken (unmarked : signUps.block block = none) :
      Work.directory { before.work with mainQueue := rest } = before.work.directory :=
    directory_same rfl (Work.marks_takeBlock_unmarked signUps before.work queued unmarked)
  cases ran with
  | @creating login uid email _present =>
      unfold Work.directory
      rw [Work.marks_send]
      exact .asked marks
  | @notCreating login uid email missing =>
      refine .lost marks ?_
      rcases missing with gone | rfl
      · left
        have absent : before.isLogin login = false := gone
        simp only [World.losesProfile, queued, absent, Bool.not_false, Bool.or_true]
      · exact .inr rfl
  | @reset screen documentID =>
      have same := (directory_async { before.work with mainQueue := rest }
        (rfl : signUps.block (.previewPost screen) = none)).trans (taken rfl)
      rw [← same]
      exact .idle
  | shown other =>
      have unmarked : signUps.block block = none := by
        cases block <;> first | rfl | cases other
      have same := taken unmarked
      rw [← same]
      exact .idle

theorem directoryStep_of_workStep {before : World K} {event : Event K} {after : Work K}
    (stepped : WorkStep before event after) :
    DirectoryStep before event before.work.directory after.directory := by
  have unchanged {other : Work K} (same : other.directory = before.work.directory) :
      DirectoryStep before event before.work.directory other.directory := by
    rw [same]
    exact .idle
  cases stepped with
  | screens _idle => exact .idle
  | ended ends =>
      refine .ended (Work.marks_terminate signUps before.work) ?_
      cases waiting : before.awaitsDocument with
      | true =>
          left
          simp only [World.losesProfile, ends, waiting, Bool.and_self, Bool.true_or]
      | false =>
          right
          simp only [World.awaitsDocument, Bool.or_eq_false_iff, List.any_eq_false,
            Bool.not_eq_true] at waiting
          refine Work.marks_terminate_of_noMark signUps before.work ?_ ?_
          · rintro ⟨request, answer⟩ member
            have different := waiting.1 _ member
            cases request <;> cases answer <;> first | rfl | cases different
          · intro block member
            have different := waiting.2 _ member
            cases block <;> first | rfl | cases different
  | asked _idle question =>
      refine unchanged (directory_send _ ?_)
      rename_i request
      cases request <;> first | rfl | cases question
  | displayed _idle display =>
      refine unchanged (directory_async _ ?_)
      rename_i block
      cases block <;> first | rfl | cases display
  | signedOut => exact .idle
  | published _started _noSave _fresh _free _noDelivery => exact unchanged (directory_send _ rfl)
  | saved _started _noPublication _noDelivery => exact unchanged (directory_save _ _)
  | served found performed => exact directoryStep_served found (performed_of_perform performed)
  | servedOrphan found performed =>
      exact directoryStep_servedOrphan found (performed_of_perform performed)
  | called found answered => exact directoryStep_called found answered
  | ran queued result => exact directoryStep_ran queued result

/-! ### Integrity -/

def SignUpStage.Matches (account : Account) : SignUpStage → Prop
  | .created email => email = some account.email
  | .writing fields => fields = [("userEmail", account.email), ("userId", account.uid)]

/-- Accounts are distinct, each has at most one sign-up under way and then no
document, and a document names its account. -/
structure Directory.Integrity (view : Directory) : Prop where
  uids : (view.accounts.map Account.uid).Nodup
  emails : (view.accounts.map Account.email).Nodup
  usable : ∀ account ∈ view.accounts, account.uid ≠ "" ∧ SlashFree account.uid
  distinct : Distinct SignUp.uid view.signUps
  pending : ∀ signUp ∈ view.signUps, view.users signUp.uid = none ∧
    ∃ account ∈ view.accounts, account.uid = signUp.uid ∧ signUp.stage.Matches account
  documents : ∀ uid document, view.users uid = some document →
    ∃ account ∈ view.accounts, account.uid = uid ∧
      document "userId" = some (.string uid) ∧
      document "userEmail" = some (.string account.email)

namespace Directory.Integrity

variable {view after : Directory}

/-- Sign-ups that move on or go leave the directory intact. -/
private theorem moved {signUps : Multiset SignUp} (intact : view.Integrity)
    (distinct : Distinct SignUp.uid signUps)
    (pending : ∀ signUp ∈ signUps, view.users signUp.uid = none ∧
      ∃ account ∈ view.accounts, account.uid = signUp.uid ∧ signUp.stage.Matches account) :
    Integrity { view with signUps := signUps } :=
  { intact with distinct := distinct, pending := pending }

private theorem fewer {signUps : Multiset SignUp} (intact : view.Integrity)
    (remaining : signUps ≤ view.signUps) : Integrity { view with signUps := signUps } :=
  intact.moved (intact.distinct.drop remaining)
    (fun signUp member => intact.pending signUp (Multiset.mem_of_le remaining member))

private theorem registered (intact : view.Integrity) {account : Account}
    {kept : Option SignUp} (nonempty : account.uid ≠ "") (free : SlashFree account.uid)
    (fresh : ∀ other ∈ view.accounts, other.uid ≠ account.uid ∧ other.email ≠ account.email)
    (keeps : ∀ signUp, kept = some signUp →
      signUp = ⟨account.uid, .created (some account.email)⟩) :
    Integrity
      { view with
        accounts := view.accounts ++ [account]
        signUps := one kept + view.signUps } := by
  have noDocument : view.users account.uid = none := by
    cases stored : view.users account.uid with
    | none => rfl
    | some document =>
        obtain ⟨other, member, same, _⟩ := intact.documents _ _ stored
        exact absurd same (fresh other member).1
  have older {signUp : SignUp} (member : signUp ∈ view.signUps) :
      view.users signUp.uid = none ∧
        ∃ other ∈ view.accounts ++ [account], other.uid = signUp.uid ∧
          signUp.stage.Matches other := by
    obtain ⟨absent, other, known, same, matching⟩ := intact.pending signUp member
    exact ⟨absent, other, List.mem_append_left _ known, same, matching⟩
  refine ⟨?_, ?_, ?_, ?_, ?_, ?_⟩
  · rw [List.map_append, List.nodup_append]
    refine ⟨intact.uids, List.nodup_singleton _, ?_⟩
    intro left leftMember right rightMember same
    obtain ⟨other, known, rfl⟩ := List.mem_map.mp leftMember
    rw [List.map_singleton, List.mem_singleton] at rightMember
    exact (fresh other known).1 (same.trans rightMember)
  · rw [List.map_append, List.nodup_append]
    refine ⟨intact.emails, List.nodup_singleton _, ?_⟩
    intro left leftMember right rightMember same
    obtain ⟨other, known, rfl⟩ := List.mem_map.mp leftMember
    rw [List.map_singleton, List.mem_singleton] at rightMember
    exact (fresh other known).2 (same.trans rightMember)
  · intro other member
    rcases List.mem_append.mp member with known | new
    · exact intact.usable other known
    · rw [List.mem_singleton.mp new]
      exact ⟨nonempty, free⟩
  · cases kept with
    | none =>
        rw [one_none, zero_add]
        exact intact.distinct
    | some signUp =>
        apply intact.distinct.add
        intro other member same
        obtain ⟨_, owner, known, owned, _⟩ := intact.pending other member
        rw [keeps signUp rfl] at same
        exact (fresh owner known).1 (owned.trans same)
  · intro signUp member
    rcases Multiset.mem_add.mp member with new | old
    · cases kept with
      | none => cases Multiset.notMem_zero _ new
      | some started =>
          rw [one_some, Multiset.mem_singleton] at new
          rw [new, keeps started rfl]
          exact ⟨noDocument, account, List.mem_append_right _ List.mem_cons_self, rfl, rfl⟩
    · exact older old
  · intro uid document stored
    obtain ⟨owner, known, facts⟩ := intact.documents uid document stored
    exact ⟨owner, List.mem_append_left _ known, facts⟩

private theorem asked (intact : view.Integrity) {uid : UID} {email : String}
    {rest : Multiset SignUp}
    (held : view.signUps = {⟨uid, .created (some email)⟩} + rest) :
    Integrity
      { view with
        signUps := {⟨uid, .writing [("userEmail", email), ("userId", uid)]⟩} + rest } := by
  have distinct := intact.distinct
  rw [held] at distinct
  refine intact.moved (distinct.replace rfl) ?_
  intro signUp member
  rcases Multiset.mem_add.mp member with new | old
  · obtain ⟨absent, account, known, rfl, matching⟩ :=
      intact.pending ⟨uid, .created (some email)⟩
        (by rw [held]; exact Multiset.mem_add.mpr (.inl (Multiset.mem_singleton_self _)))
    rw [Multiset.mem_singleton.mp new]
    refine ⟨absent, account, known, rfl, ?_⟩
    rw [Option.some.inj matching]
    rfl
  · exact intact.pending signUp (by rw [held]; exact Multiset.mem_add.mpr (.inr old))

private theorem written (intact : view.Integrity) {uid : UID} {fields : Fields}
    {rest : Multiset SignUp} (held : view.signUps = {⟨uid, .writing fields⟩} + rest) :
    Integrity
      { view with
        users := Function.update view.users uid (some (Document.setData fields))
        signUps := rest } := by
  have distinct := intact.distinct
  rw [held, distinct_cons] at distinct
  obtain ⟨_, account, known, owned, matching⟩ := intact.pending ⟨uid, .writing fields⟩
    (by rw [held]; exact Multiset.mem_add.mpr (.inl (Multiset.mem_singleton_self _)))
  subst owned
  change fields = _ at matching
  refine ⟨intact.uids, intact.emails, intact.usable, distinct.2, ?_, ?_⟩
  · intro signUp member
    obtain ⟨absent, rest⟩ := intact.pending signUp
      (by rw [held]; exact Multiset.mem_add.mpr (.inr member))
    refine ⟨?_, rest⟩
    rw [← absent]
    exact Function.update_of_ne (distinct.1 signUp member) _ _
  · intro uid document stored
    by_cases same : uid = account.uid
    · subst same
      change Function.update view.users _ _ account.uid = _ at stored
      rw [Function.update_self] at stored
      cases stored
      rw [matching]
      exact ⟨account, known, rfl, rfl, rfl⟩
    · change Function.update view.users _ _ uid = _ at stored
      rw [Function.update_of_ne same] at stored
      exact intact.documents uid document stored

/-- A save leaves `userId` and `userEmail` alone. -/
private theorem saved (intact : view.Integrity) {uid : UID} {fields : Fields}
    {document : Document} (stored : view.users uid = some document)
    (noId : fields.lookup "userId" = none) (noEmail : fields.lookup "userEmail" = none) :
    Integrity
      { view with
        users := Function.update view.users uid (some (document.updateData fields)) } := by
  refine ⟨intact.uids, intact.emails, intact.usable, intact.distinct, ?_, ?_⟩
  · intro signUp member
    obtain ⟨absent, rest⟩ := intact.pending signUp member
    have different : signUp.uid ≠ uid := by
      rintro rfl
      rw [absent] at stored
      cases stored
    exact ⟨(Function.update_of_ne different _ _).trans absent, rest⟩
  · intro other current found
    by_cases same : other = uid
    · subst same
      change Function.update view.users _ _ other = _ at found
      rw [Function.update_self] at found
      cases found
      obtain ⟨account, known, owned, isId, isEmail⟩ := intact.documents other document stored
      refine ⟨account, known, owned, ?_, ?_⟩
      · rw [Document.updateData_of_lookup_none noId]
        exact isId
      · rw [Document.updateData_of_lookup_none noEmail]
        exact isEmail
    · change Function.update view.users _ _ other = _ at found
      rw [Function.update_of_ne same] at found
      exact intact.documents other current found

/-- One event keeps the directory intact if the profile saves it performs leave
the identity fields alone. -/
theorem step {before : World K} {event : Event K} (intact : view.Integrity)
    (stepped : DirectoryStep before event view after)
    (savesProfile : ∀ uid fields editor,
      before.effect? event = some (.updateUser uid fields editor) →
      fields.lookup "userId" = none ∧ fields.lookup "userEmail" = none) :
    after.Integrity := by
  cases stepped with
  | idle => exact intact
  | ended remaining _lossy => exact intact.fewer remaining
  | registered account nonempty free fresh kept =>
      apply intact.registered nonempty free fresh
      rintro signUp rfl
      rcases kept with ⟨same, _signedUp⟩ | ⟨noSignUp, _lossy⟩
      · exact Option.some.inj same
      · cases noSignUp
  | asked held => exact intact.asked held
  | lost held _lossy =>
      apply intact.fewer
      rw [held]
      exact Multiset.le_add_left _ _
  | written _effect held => exact intact.written held
  | saved effect stored =>
      obtain ⟨noId, noEmail⟩ := savesProfile _ _ _ effect
      exact intact.saved stored noId noEmail

end Directory.Integrity

/-- Every profile save under way was entered at an earlier press of Done, for the
account then signed in. -/
theorem saved_of_pending {past : Past K} {world : World K} (ran : AppRun past world)
    {uid : UID} {fields : Fields} {editor : ControllerID}
    (pending : world.Pending (.updateUser uid fields editor)) :
    ∃ moment ∈ past, ∃ save, moment.1.save? moment.2 = some save ∧ save.user = uid ∧
      save.fields = fields ∧ save.editor = editor := by
  obtain ⟨⟨before, event⟩, member, issued⟩ := issued_of_pending ran pending
  refine ⟨(before, event), member, ?_⟩
  dsimp only at issued ⊢
  generalize sent : Request.updateUser uid fields editor = request at issued
  cases issued with
  | question question =>
      rw [← sent] at question
      cases question
  | info started =>
      cases sent
      exact ⟨_, started, rfl, rfl, rfl⟩
  | called _found asks => cases asks <;> cases sent
  | _ => cases sent

theorem save_identity (save : Save K) :
    save.fields.lookup "userId" = none ∧ save.fields.lookup "userEmail" = none :=
  ⟨rfl, rfl⟩

theorem directory_integrity {past : Past K} {world : World K} (ran : AppRun past world) :
    world.work.directory.Integrity := by
  refine ran.invariant (fun _ world => world.work.directory.Integrity) ?_ ?_
  · exact
      { uids := List.nodup_nil
        emails := List.nodup_nil
        usable := nofun
        distinct := .zero
        pending := fun _ member => absurd member (Multiset.notMem_zero _)
        documents := nofun }
  · intro past before event after earlier intact stepped
    apply intact.step (directoryStep_of_workStep (workStep_of_step stepped))
    intro uid fields editor effect
    obtain ⟨_, _, save, _, _, rfl, _⟩ := saved_of_pending earlier (pending_of_effect effect)
    exact save_identity save

/-! ### The signed-in account exists -/

theorem accounts_kept {before : World K} {event : Event K} {view after : Directory}
    (stepped : DirectoryStep before event view after) {account : Account}
    (known : account ∈ view.accounts) : account ∈ after.accounts := by
  cases stepped with
  | registered added _nonempty _free _fresh _kept => exact List.mem_append_left _ known
  | _ => exact known

private theorem answered_account {firebase after : Firebase K}
    {localUser : UID → Option Document} {request : Request K} {outcome : Outcome}
    {answer : Answer} (performed : Performed firebase localUser request outcome after answer)
    {uid : UID} {email : Option String} (isAccount : answer = .account uid email) :
    ∃ account ∈ after.accounts, account.uid = uid := by
  cases performed with
  | createUser accepted =>
      cases isAccount
      exact ⟨_, List.mem_append_right _ List.mem_cons_self, rfl⟩
  | signIn known =>
      cases isAccount
      exact ⟨_, known, rfl⟩
  | _ => cases isAccount

theorem signedIn_known {past : Past K} {world : World K} (ran : AppRun past world) {u : UID}
    (signedIn : world.currentUser = some u) :
    ∃ account ∈ world.firebase.accounts, account.uid = u := by
  refine ran.invariant (fun _ world => ∀ u, world.currentUser = some u →
    ∃ account ∈ world.firebase.accounts, account.uid = u) nofun ?_ u signedIn
  intro past before event after _earlier known stepped u signedIn
  have worked := workStep_of_step stepped
  rcases worked.currentUser with
    same | ⟨_, nobody⟩ | ⟨_, _, _, uid, _, _, _, performed, nowUser, _⟩
  · obtain ⟨account, member, owned⟩ := known u (same.symm.trans signedIn)
    exact ⟨account, accounts_kept (directoryStep_of_workStep worked) member, owned⟩
  · cases nobody.symm.trans signedIn
  · cases nowUser.symm.trans signedIn
    exact answered_account (performed_of_perform performed) rfl

/-! ### Where profile pictures go -/

theorem save?_user {world : World K} {event : Event K} {save : Save K}
    (started : world.save? event = some save) : world.currentUser = some save.user := by
  unfold World.save? at started
  split at started
  · obtain ⟨controller, _inFront, entered⟩ := Option.bind_eq_some_iff.mp started
    split at entered
    · cases entered
    · obtain ⟨user, signedIn, rfl⟩ := Option.map_eq_some_iff.mp entered
      exact signedIn
  · cases started

theorem usable_of_signedIn {past : Past K} {world : World K} (ran : AppRun past world)
    {u : UID} (signedIn : world.currentUser = some u) : u ≠ "" ∧ SlashFree u := by
  obtain ⟨account, known, rfl⟩ := signedIn_known ran signedIn
  exact (directory_integrity ran).usable account known

/-- A picture under way was sent by a press of Done, to the place of the account
then signed in. -/
theorem picture_of_pending {past : Past K} {world : World K} (ran : AppRun past world)
    {reference : String} {imageData : K.Data} {userId : UID} {editor : ControllerID}
    (pending : world.Pending (.putData reference imageData (.profilePicture userId editor))) :
    reference = profilePhotoPath userId ∧ SlashFree userId ∧
      ∃ moment ∈ past, ∃ save, moment.1.save? moment.2 = some save ∧ save.user = userId ∧
        save.picture = some imageData ∧ save.editor = editor := by
  obtain ⟨⟨before, event⟩, member, issued⟩ := issued_of_pending ran pending
  obtain ⟨_, earlier, _, reached⟩ := ran.moment member
  dsimp only at issued
  generalize sent : Request.putData reference imageData (.profilePicture userId editor) =
    request at issued
  cases issued with
  | question question =>
      rw [← sent] at question
      cases question
  | picture started pictured =>
      cases sent
      exact ⟨rfl, (usable_of_signedIn reached (save?_user started)).2,
        (before, event), member, _, started, rfl, pictured, rfl⟩
  | called _found asks => cases asks <;> cases sent
  | _ => cases sent

/-- The URL of a picture is asked for at the place it was sent to. -/
theorem picture_of_download {past : Past K} {world : World K} (ran : AppRun past world)
    {reference : String} {userId : UID} {editor : ControllerID}
    (pending : world.Pending (.downloadURL reference (.profilePicture userId editor))) :
    reference = profilePhotoPath userId ∧ SlashFree userId ∧
      ∃ moment ∈ past, ∃ save, moment.1.save? moment.2 = some save ∧ save.user = userId ∧
        save.editor = editor := by
  obtain ⟨⟨before, event⟩, member, issued⟩ := issued_of_pending ran pending
  obtain ⟨recent, earlier, rfl, reached⟩ := ran.moment member
  dsimp only at issued
  generalize sent : Request.downloadURL reference (.profilePicture userId editor) = request
    at issued
  cases issued with
  | question question =>
      rw [← sent] at question
      cases question
  | called found asks =>
      cases asks with
      | locating =>
          cases sent
          obtain ⟨isProfile, free, moment, logged, save, started, isUser, _, isEditor⟩ :=
            picture_of_pending reached (.inr (.inr ⟨_, List.mem_of_getElem? found⟩))
          refine ⟨isProfile, free, moment, ?_, save, started, isUser, isEditor⟩
          exact List.mem_append_right _ (List.mem_cons_of_mem _ logged)
      | _ => cases sent
  | _ => cases sent

end InstagramProject
