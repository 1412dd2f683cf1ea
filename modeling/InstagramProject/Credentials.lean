/-
Where accounts and sessions come from.  An account is made by one complete press
of the login button in sign-up mode.  Nobody becomes the signed-in account
without the email and the password of that account having been typed since
the last time nobody was signed in.
-/

import InstagramProject.Directory
import InstagramProject.Fetches

namespace InstagramProject

open Accounting Transition

variable {K : Platform} {β : Type}

/-! ### Requests that ask, from the press to the service -/

/-- A marking of requests that store nothing in a document or an object. -/
structure Marking.OnQuestions (marking : Marking K β) : Prop where
  request : ∀ request, request.isQuestion = false → marking.request request = none
  response : ∀ request answer, marking.response request answer = none
  block : ∀ block, marking.block block = none

section Questions

variable {marking : Marking K β} {before after : World K} {event : Event K}

private theorem marks_of_answered (on : marking.OnQuestions) {world : World K} {request : Request K}
    {answer : Answer} {work : Work K} (answered : Answered world request answer work) :
    work.marks marking = world.work.marks marking := by
  cases answered with
  | queued _handled => exact Work.marks_async_unmarked _ _ (on.block _)
  | uploading _alive _encoded => exact Work.marks_send_unmarked _ _ (on.request _ rfl)
  | locating => exact Work.marks_send_unmarked _ _ (on.request _ rfl)
  | linking _alive => exact Work.marks_send_unmarked _ _ (on.request _ rfl)
  | committing _signedIn => exact Work.marks_send_unmarked _ _ (on.request _ rfl)
  | _ => rfl

/-- What is asked for takes effect once at most, and is then no longer under way. -/
theorem Marking.OnQuestions.step (on : marking.OnQuestions)
    (stepped : InstagramProject.step before event = some after) :
    one ((before.effect? event).bind marking.request) + after.work.marks marking ≤
      one ((before.question? event).bind marking.request) + before.work.marks marking := by
  have quiet {work : Work K} (noEffect : before.effect? event = none)
      (fewer : work.marks marking ≤ before.work.marks marking) :
      one ((before.effect? event).bind marking.request) + work.marks marking ≤
        one ((before.question? event).bind marking.request) + before.work.marks marking := by
    rw [noEffect, Option.bind_none, one_none, zero_add]
    exact fewer.trans (Multiset.le_add_left _ _)
  have served {request : Request K} {rest : Multiset β} (effect : before.effect? event = none ∨
      before.effect? event = some request) :
      one ((before.effect? event).bind marking.request) + rest ≤
        one ((before.question? event).bind marking.request) + (one (marking.request request) + rest) := by
    refine le_trans ?_ (Multiset.le_add_left _ _)
    rcases effect with none | some
    · rw [none, Option.bind_none, one_none, zero_add]
      exact Multiset.le_add_left _ _
    · rw [some, Option.bind_some]
  have worked := workStep_of_step stepped
  generalize result : after.work = work at worked
  cases worked with
  | screens idle => exact quiet (effect_of_noDelivery idle.noDelivery) (le_refl _)
  | ended ends => exact quiet (noEffect_of_ends ends) (Work.marks_terminate _ _)
  | asked idle question =>
      rw [effect_of_noDelivery idle.noDelivery, question_of_sent stepped idle question result,
        Option.bind_none, one_none, zero_add, Option.bind_some, Work.marks_send]
  | displayed idle _display =>
      apply quiet (effect_of_noDelivery idle.noDelivery)
      rw [Work.marks_async_unmarked _ _ (on.block _)]
  | signedOut => exact quiet rfl (le_refl _)
  | published _started _noSave _fresh _free noDelivery =>
      apply quiet (effect_of_noDelivery noDelivery)
      exact le_of_eq (Work.marks_send_unmarked marking _ (on.request _ rfl))
  | saved _started _noPublication noDelivery =>
      apply quiet (effect_of_noDelivery noDelivery)
      rw [Work.marks_save_unmarked _ _ on.request]
  | @served index outcome request firebase answer found performed =>
      obtain ⟨rest, isBefore, isAfter⟩ :=
        Work.marks_serve marking before.work found firebase answer
      rw [isAfter, isBefore, on.response, one_none, zero_add]
      apply served
      cases outcome with
      | failure message => exact .inl rfl
      | success newUID => exact .inr found
      | unconfirmed newUID message => exact .inr found
  | @servedOrphan index outcome request firebase answer found performed =>
      rw [Work.marks_serveOrphan marking before.work found firebase]
      apply served
      cases outcome with
      | failure message => exact .inl rfl
      | success newUID => exact .inr found
      | unconfirmed newUID message => exact .inr found
  | called found answered =>
      apply quiet rfl
      rw [marks_of_answered on answered]
      exact le_of_eq (Work.marks_takeResponse_unmarked marking before.work found (on.response _ _))
  | ran queued ran =>
      apply quiet rfl
      rw [Work.marks_ran_unmarked _ _ ran on.request (fun _ => on.block _)]
      exact le_of_eq (Work.marks_takeBlock_unmarked marking before.work queued (on.block _))

end Questions

/-! ### Credentials -/

/-- What `createUser` and `signIn` are asked with. -/
abbrev Credentials := String × String

/-- What the service keeps of credentials that were typed. -/
def Platform.kept (K : Platform) (typed : Credentials) : Credentials :=
  (K.keptEmail typed.1, typed.2)

def Account.credentials (account : Account) : Credentials := (account.email, account.password)

def Request.credentials? : Request K → Option Credentials
  | .createUser email password _ => some (email, password)
  | .signIn email password _ => some (email, password)
  | _ => none

namespace World

/-- The credentials a press of the login button submits, with the mode of its
screen.  A press with an empty field submits nothing. -/
def loginPress? (world : World K) : Event K → Option (AccountState × Credentials)
  | .loginButtonPressed email password =>
      world.loginInFront?.bind (fun controller =>
        if email.isEmpty || password.isEmpty then none
        else some (controller.accountState, email, password))
  | _ => none

/-- The same, of a press in sign-up mode. -/
def signUpPress? (world : World K) (event : Event K) : Option Credentials :=
  (world.loginPress? event).bind (fun (accountState, credentials) =>
    if accountState = .newUser then some credentials else none)

end World

/-- Requests that would make an account, with its credentials. -/
def registering : Marking K Credentials where
  request
    | .createUser email password _ => some (K.kept (email, password))
    | _ => none
  response _ _ := none
  block _ := none

theorem registering_onQuestions : (registering (K := K)).OnQuestions where
  request := by
    intro request change
    cases request <;> first | rfl | cases change
  response _ _ := rfl
  block _ := rfl

section Presses

variable {before after : World K} {event : Event K}

/-- A question with credentials is sent by the press that submits them. -/
theorem loginPress_of_question {request : Request K} {credentials : Credentials}
    (asked : before.question? event = some request)
    (submits : request.credentials? = some credentials) :
    ∃ accountState, before.loginPress? event = some (accountState, credentials) := by
  unfold World.question? at asked
  split at asked
  · rename_i email password
    obtain ⟨controller, inFront, sent⟩ := Option.bind_eq_some_iff.mp asked
    obtain ⟨complete, sent⟩ := Option.ite_none_left_eq_some.mp sent
    refine ⟨controller.accountState, ?_⟩
    have same : credentials = (email, password) := by
      split at sent
      · cases sent
        exact (Option.some.inj submits).symm
      · cases sent
        exact (Option.some.inj submits).symm
    simp only [World.loginPress?, inFront, Option.bind_some, complete, if_false, same,
      Bool.false_eq_true]
  · split at asked
    · split at asked
      · obtain ⟨user, _signedIn, rfl⟩ := Option.map_eq_some_iff.mp asked
        cases submits
      · obtain ⟨_profile, user⟩ := Option.ite_none_right_eq_some.mp asked
        obtain ⟨user, _signedIn, rfl⟩ := Option.map_eq_some_iff.mp user
        cases submits
    · cases asked
  · cases asked

/-- What is asked to be registered was submitted in sign-up mode. -/
theorem signUpPress_of_registering {credentials : Credentials}
    (asked : (before.question? event).bind registering.request = some credentials) :
    (before.signUpPress? event).map K.kept = some credentials := by
  obtain ⟨request, question, isNew⟩ := Option.bind_eq_some_iff.mp asked
  unfold World.question? at question
  split at question
  · rename_i email password
    obtain ⟨controller, inFront, sent⟩ := Option.bind_eq_some_iff.mp question
    obtain ⟨complete, sent⟩ := Option.ite_none_left_eq_some.mp sent
    have new : controller.accountState = .newUser := by
      cases mode : controller.accountState with
      | newUser => rfl
      | existingUser =>
          rw [if_pos mode] at sent
          cases sent
          cases isNew
    rw [if_neg (by rw [new]; decide)] at sent
    cases sent
    simp only [World.signUpPress?, World.loginPress?, inFront, Option.bind_some, complete,
      if_false, new, if_true, Bool.false_eq_true, Option.map_some]
    exact isNew
  · split at question
    · split at question
      · obtain ⟨user, _signedIn, rfl⟩ := Option.map_eq_some_iff.mp question
        cases isNew
      · obtain ⟨_profile, user⟩ := Option.ite_none_right_eq_some.mp question
        obtain ⟨user, _signedIn, rfl⟩ := Option.map_eq_some_iff.mp user
        cases isNew
    · cases question
  · cases question

/-- The accounts after a step: the old ones, and the one whose request took effect. -/
theorem accounts_step (stepped : step before event = some after) :
    (↑(after.firebase.accounts.map Account.credentials) : Multiset Credentials) =
      ↑(before.firebase.accounts.map Account.credentials) +
        one ((before.effect? event).bind registering.request) := by
  rcases firebase_step stepped with ⟨noEffect, same⟩ | ⟨request, newUID, answer, effect, performed⟩
  · rw [noEffect, same, Option.bind_none, one_none, add_zero]
  · rw [effect, Option.bind_some]
    generalize after.firebase = firebase at performed
    cases performed with
    | createUser _accepted =>
        rw [List.map_append, ← Multiset.coe_add]
        rfl
    | _ => exact (add_zero _).symm

end Presses

/-- The credentials submitted in sign-up mode, as the service keeps them. -/
def signUpPresses (past : Past K) : List Credentials :=
  past.filterMap (fun moment => (moment.1.signUpPress? moment.2).map K.kept)

/-- Every account was made by a press in sign-up mode, with the email and the
password typed there, and one press makes one account at most. -/
theorem accounts_registered {past : Past K} {world : World K} (ran : AppRun past world) :
    (↑(world.firebase.accounts.map Account.credentials) : Multiset Credentials) ≤
      ↑(signUpPresses past) := by
  have counted : ↑(world.firebase.accounts.map Account.credentials) +
      world.work.marks registering ≤ (↑(signUpPresses past) : Multiset Credentials) := by
    refine ran.invariant (fun past world =>
      ↑(world.firebase.accounts.map Account.credentials) + world.work.marks registering ≤
        (↑(signUpPresses past) : Multiset Credentials)) ?_ ?_
    · exact le_refl _
    · intro past before event after _earlier counted stepped
      have asked : one ((before.question? event).bind registering.request) ≤
          one ((before.signUpPress? event).map K.kept) := by
        cases question : (before.question? event).bind registering.request with
        | none => exact Multiset.zero_le _
        | some credentials => rw [signUpPress_of_registering question]
      have moved := registering_onQuestions.step stepped
      unfold signUpPresses
      rw [log_cons, ← Multiset.coe_add, accounts_step stepped, add_assoc]
      calc _ ≤ ↑(before.firebase.accounts.map Account.credentials) +
            (one ((before.question? event).bind registering.request) +
              before.work.marks registering) := add_le_add_right moved _
        _ = one ((before.question? event).bind registering.request) +
            (↑(before.firebase.accounts.map Account.credentials) +
              before.work.marks registering) := add_left_comm _ _ _
        _ ≤ _ := add_le_add asked counted
  exact le_trans (Multiset.le_add_right _ _) counted

/-- An account of `publishEvents`' signed-up author, made by its one press. -/
theorem accounts_registered_signUp :
    let reached := endOf (.launch :: signUpEvents "alice@mail" "secret" "alice" :
      List (Event Platform.plain))
    reached.2.firebase.accounts =
        [{ uid := "alice", email := "alice@mail", password := "secret" }] ∧
      (↑(reached.2.firebase.accounts.map Account.credentials) : Multiset Credentials) ≤
        ↑(signUpPresses reached.1) ∧ signUpPresses reached.1 = [("alice@mail", "secret")] :=
  ⟨by decide +kernel, accounts_registered (appRun_endOf _ (by decide +kernel)),
    by decide +kernel⟩

/-! ### Sessions -/

/-- A question under way was sent since `world` by a press that submitted these
credentials, and so was the one that signed the current account in. -/
structure Typed (recent : Past K) (world : World K) : Prop where
  requests : ∀ request ∈ world.requests, ∀ credentials, request.credentials? = some credentials →
    ∃ moment ∈ recent, ∃ accountState,
      moment.1.loginPress? moment.2 = some (accountState, credentials)
  session : ∀ u, world.currentUser = some u →
    ∃ account ∈ world.firebase.accounts, account.uid = u ∧
      ∃ moment ∈ recent, ∃ accountState typed,
        moment.1.loginPress? moment.2 = some (accountState, typed) ∧
          K.kept typed = account.credentials

section Sessions

variable {recent : Past K} {before after : World K} {event : Event K}

/-- An account is answered to a request with its credentials. -/
theorem credentials_of_performed {firebase changed : Firebase K}
    {localUser : UID → Option Document} {request : Request K} {outcome : Outcome} {uid : UID}
    {email : Option String}
    (performed : firebase.perform localUser request outcome = some (changed, .account uid email)) :
    ∃ account ∈ changed.accounts, account.uid = uid ∧
      ∃ typed, request.credentials? = some typed ∧ K.kept typed = account.credentials := by
  cases outcome with
  | failure message => cases performed
  | unconfirmed newUID message => cases Firebase.error_of_unconfirmed performed
  | success newUID =>
      cases request with
      | createUser address password login =>
          simp only [Firebase.perform, Firebase.carryOut,
            Option.ite_none_right_eq_some] at performed
          cases performed.2
          exact ⟨_, List.mem_append_right _ List.mem_cons_self, rfl, (address, password), rfl, rfl⟩
      | signIn address password login =>
          obtain ⟨account, found, result⟩ := Option.map_eq_some_iff.mp performed
          have matching := List.find?_some found
          rw [Bool.and_eq_true, beq_iff_eq, beq_iff_eq] at matching
          cases result
          refine ⟨account, List.mem_of_find?_eq_some found, rfl, (address, password), rfl, ?_⟩
          rw [Platform.kept, Account.credentials, matching.1, matching.2]
      | updateUser | downloadURL | updatePost =>
          obtain ⟨_, _found, result⟩ := Option.map_eq_some_iff.mp performed
          cases result
      | _ => cases performed

theorem Typed.step (typed : Typed recent before) (stepped : step before event = some after) :
    Typed ((before, event) :: recent) after := by
  have later {P : World K × Event K → Prop} (submitted : ∃ moment ∈ recent, P moment) :
      ∃ moment ∈ (before, event) :: recent, P moment := by
    obtain ⟨moment, member, pressed⟩ := submitted
    exact ⟨moment, List.mem_cons_of_mem _ member, pressed⟩
  constructor
  · intro request member credentials submits
    have question : request.isQuestion = true := by
      cases request <;> first | rfl | cases submits
    rcases question_of_step stepped member question with old | asked
    · exact later (typed.requests request old credentials submits)
    · exact ⟨(before, event), List.mem_cons_self, loginPress_of_question asked submits⟩
  · intro u signedIn
    have worked := workStep_of_step stepped
    rcases worked.currentUser with
      same | ⟨_, nobody⟩ | ⟨_, _, request, uid, email, _, found, performed, nowUser, _⟩
    · obtain ⟨account, member, owned, submitted⟩ := typed.session u (same.symm.trans signedIn)
      exact ⟨account, accounts_kept (directoryStep_of_workStep worked) member, owned,
        later submitted⟩
    · cases nobody.symm.trans signedIn
    · cases nowUser.symm.trans signedIn
      obtain ⟨account, member, owned, entered, submits, isKept⟩ :=
        credentials_of_performed performed
      obtain ⟨moment, logged, accountState, pressed⟩ :=
        later (typed.requests request (List.mem_of_getElem? found) _ submits)
      exact ⟨account, member, owned, moment, logged, accountState, entered, pressed, isKept⟩

end Sessions

/-- From any state in which nobody is signed in and no sign-up or sign-in is under
way, as after a sign-out, an account becomes the signed-in one only after its own
email and password were submitted on a login screen. -/
theorem signedIn_typed {recent : Past K} {world after : World K}
    (ran : Run step world recent after) (signedOut : world.currentUser = none)
    (noQuestion : ∀ request ∈ world.requests, request.credentials? = none) {u : UID}
    (signedIn : after.currentUser = some u) :
    ∃ account ∈ after.firebase.accounts, account.uid = u ∧
      ∃ moment ∈ recent, ∃ accountState typed,
        moment.1.loginPress? moment.2 = some (accountState, typed) ∧
          K.kept typed = account.credentials := by
  have typed : Typed recent after := by
    refine ran.invariant Typed ?_ (fun _ _ _ _ _ => Typed.step)
    constructor
    · intro request member credentials submits
      rw [noQuestion request member] at submits
      cases submits
    · intro u signedIn
      rw [signedOut] at signedIn
      cases signedIn
  exact typed.session u signedIn

/-- After signing up and out, the same account signs in with its password. -/
theorem signedIn_typed_again :
    let signedOut := (endOf (.launch :: signUpEvents "alice@mail" "secret" "alice" ++
      profileEvents ++ [.signOutButtonPressed none] : List (Event Platform.plain))).2
    let again := Transition.finish step signedOut
      [.loginButtonPressed "alice@mail" "secret", .serve 0 (.success "")]
    signedOut.currentUser = none ∧ again.2.currentUser = some "alice" ∧
      ∃ account ∈ again.2.firebase.accounts, account.uid = "alice" ∧
        ∃ moment ∈ again.1, ∃ accountState typed,
          moment.1.loginPress? moment.2 = some (accountState, typed) ∧
            Platform.plain.kept typed = account.credentials := by
  intro signedOut again
  have nobody : signedOut.currentUser = none := by decide +kernel
  have signedIn : again.2.currentUser = some "alice" := by decide +kernel
  have ran : Run step signedOut again.1 again.2 := Run.finish _ (by decide +kernel)
  exact ⟨nobody, signedIn, signedIn_typed ran nobody (by decide +kernel) signedIn⟩

end InstagramProject
