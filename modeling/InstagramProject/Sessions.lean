/-
Whether the window shows what the session says: the tab bar when somebody is
signed in, and a login screen when nobody is.  A login screen opens the tab bar
when its own sign-in or sign-up has gone through, and never looks at the session.
-/

import InstagramProject.Identities

namespace InstagramProject

open Transition

variable {K : Platform}

/-! ### What a login screen waits for -/

def Request.isAuth : Request K → Bool
  | .createUser _ _ _ | .signIn _ _ _ | .setUser _ _ _ _ => true
  | _ => false

def Block.isAuth : Block K → Bool
  | .createUser _ _ _ | .navigateToInstagram _ => true
  | _ => false

/-- An answer after which the login screen goes on. -/
def Request.enters (login : ControllerID) : Request K → Answer → Bool
  | .signIn _ _ held, .account _ _ => held == login
  | .createUser _ _ held, .account _ email => email.isSome && held == login
  | .setUser _ _ held _, .done => held == login
  | _, _ => false

/-- A block with which the login screen goes on. -/
def Block.enters (login : ControllerID) : Block K → Bool
  | .createUser held _ email => email.isSome && held == login
  | .navigateToInstagram held => held == login
  | _ => false

namespace World

/-- No auth or user-document request, and no callback of one, is outstanding. -/
def authSettled (world : World K) : Bool :=
  world.requests.all (fun request => !request.isAuth) &&
    world.responses.all (fun response => !response.1.isAuth) &&
    world.mainQueue.all (fun block => !block.isAuth)

/-- A success is served for a login screen that has been replaced by another one,
or the document of a new account cannot be written for the one in the window. -/
def strandsSession (world : World K) : Event K → Bool
  | .serve index (.success _) =>
      match world.requests[index]? with
      | some (.createUser _ _ login) | some (.signIn _ _ login) =>
          match world.rootIdentity with
          | some (.login root) => root != login
          | _ => false
      | _ => false
  | .serve index (.failure _) =>
      match world.requests[index]? with
      | some (.setUser _ _ login _) => world.isLogin login
      | _ => false
  | _ => false

/-- A login screen has been let in and is still to open the tab bar, unless the
document of its account is refused. -/
inductive Entering (world : World K) (login : ControllerID) : Prop
  | writing {uid : UID} {fields : Fields} {writer : Option UID} :
      .setUser uid fields login writer ∈ world.requests → Entering world login
  | answered {request : Request K} {answer : Answer} :
      (request, answer) ∈ world.responses → request.enters login answer = true →
      Entering world login
  | queued {block : Block K} :
      block ∈ world.mainQueue → block.enters login = true → Entering world login

end World

open World

theorem not_entering_of_settled {world : World K} (settled : world.authSettled = true)
    {login : ControllerID} : ¬ Entering world login := by
  simp only [authSettled, Bool.and_eq_true, List.all_eq_true, Bool.not_eq_true'] at settled
  obtain ⟨⟨noRequest, noResponse⟩, noBlock⟩ := settled
  rintro (⟨sent⟩ | ⟨answered, enters⟩ | ⟨queued, enters⟩)
  · cases noRequest _ sent
  · rename_i request answer
    have other := noResponse _ answered
    cases request with
    | createUser email password held => cases other
    | signIn email password held => cases other
    | setUser uid fields held writer => cases other
    | _ => cases enters
  · rename_i block
    have other := noBlock _ queued
    cases block with
    | createUser held uid email => cases other
    | navigateToInstagram held => cases other
    | _ => cases enters

theorem controller_of_entering {world : World K} (fresh : Fresh world) {login : ControllerID}
    (entering : Entering world login) : login < world.nextController := by
  rcases entering with ⟨sent⟩ | ⟨answered, enters⟩ | ⟨queued, enters⟩
  · exact fresh.requests _ (.inl sent)
  · rename_i request answer
    have below := fresh.requests request (.inr (.inr ⟨answer, answered⟩))
    cases request with
    | createUser email password held =>
        cases answer with
        | account uid given =>
            rw [← (beq_iff_eq.mp (Bool.and_eq_true_iff.mp enters).2)]
            exact below
        | _ => cases enters
    | signIn email password held =>
        cases answer with
        | account uid given =>
            rw [← beq_iff_eq.mp enters]
            exact below
        | _ => cases enters
    | setUser uid fields held writer =>
        cases answer with
        | done =>
            rw [← beq_iff_eq.mp enters]
            exact below
        | _ => cases enters
    | _ => cases enters
  · rename_i block
    cases block with
    | createUser held uid email =>
        rw [← (beq_iff_eq.mp (Bool.and_eq_true_iff.mp enters).2)]
        exact fresh.blocks _ queued rfl
    | navigateToInstagram held =>
        rw [← beq_iff_eq.mp enters]
        exact fresh.blocks _ queued rfl
    | _ => cases enters

/-! ### One event -/

section Steps

variable {before after : World K} {event : Event K} {login : ControllerID}

/-- The block of a handler goes on exactly if its answer did. -/
theorem enters_of_handlerBlock {request : Request K} {answer : Answer} {block : Block K}
    (handled : handlerBlock request answer = some block) :
    block.enters login = request.enters login answer := by
  cases queues_of_handlerBlock handled <;> rfl

/-- A login screen is let in by nothing but a served sign-up or sign-in. -/
theorem entering_origin (stepped : step before event = some after)
    (entering : Entering after login) :
    Entering before login ∨ after.currentUser ≠ none := by
  have worked := workStep_of_step stepped
  cases entering with
  | @writing uid fields writer sent =>
      rcases worked.requests sent with old | issued
      · exact .inl (.writing old)
      · cases issued with
        | question question => cases question
        | called _found asks => cases asks
        | ran queued => exact .inl (.queued queued (beq_self_eq_true login))
  | @answered request answer answered enters =>
      rcases worked.responses answered with
        old | ⟨index, outcome, rfl, found, performed⟩
      · exact .inl (.answered old enters)
      · cases request with
        | setUser uid fields held writer =>
            cases answer with
            | done =>
                rw [beq_iff_eq.mp enters] at found
                exact .inl (.writing (List.mem_of_getElem? found))
            | _ => cases enters
        | createUser email password held =>
            cases answer with
            | account uid given =>
                right
                rw [currentUser_of_serve stepped found performed]
                exact Option.some_ne_none uid
            | _ => cases enters
        | signIn email password held =>
            cases answer with
            | account uid given =>
                right
                rw [currentUser_of_serve stepped found performed]
                exact Option.some_ne_none uid
            | _ => cases enters
        | _ => cases enters
  | @queued block queued enters =>
      rcases worked.mainQueue queued with
        old | display | ⟨request, answer, answered, handled⟩
      · exact .inl (.queued old enters)
      · cases block with
        | createUser held uid email => cases display
        | navigateToInstagram held => cases display
        | _ => cases enters
      · rw [enters_of_handlerBlock handled] at enters
        exact .inl (.answered answered enters)

/-- A login screen in the window that has been let in stays so until it opens the
tab bar or the document of its account is refused. -/
theorem entering_stays (stepped : step before event = some after)
    (isRoot : before.rootIdentity = some (.login login)) (running : before.endsProcess event = false)
    (kept : before.strandsSession event = false) (stays : before.navigates event = false)
    (entering : Entering before login) : Entering after login := by
  have worked := workStep_of_step stepped
  have notEnded : ¬ before.endsProcess event = true := by
    rw [running]
    exact Bool.false_ne_true
  cases entering with
  | @writing uid fields writer sent =>
      rcases worked.request_stays sent with
        same | ended | ⟨index, outcome, answer, rfl, found, performed, answered⟩
      · exact .writing same
      · exact absurd ended notEnded
      · cases outcome with
        | failure message =>
            simp only [World.strandsSession, found] at kept
            rw [(before.isLogin_iff).mpr isRoot] at kept
            cases kept
        | success newUID =>
            have isDone : answer = .done := (Prod.mk.inj (Option.some.inj performed)).2.symm
            subst isDone
            exact .answered answered (beq_self_eq_true login)
        | unconfirmed newUID message => cases performed
  | @answered request answer answered enters =>
      rcases worked.response_stays answered with
        same | ended | ⟨index, rfl, found, handled⟩
      · exact .answered same enters
      · exact absurd ended notEnded
      · have queues : ∃ block, handlerBlock request answer = some block := by
          cases request with
          | createUser email password held => cases answer <;> first | cases enters | exact ⟨_, rfl⟩
          | signIn email password held => cases answer <;> first | cases enters | exact ⟨_, rfl⟩
          | setUser uid fields held writer =>
              cases answer <;> first | cases enters | exact ⟨_, rfl⟩
          | _ => cases enters
        obtain ⟨block, isBlock⟩ := queues
        have queued : after.mainQueue = before.mainQueue ++ [block] :=
          congrArg Work.mainQueue (answered_handlerBlock handled isBlock)
        rw [← enters_of_handlerBlock isBlock] at enters
        refine .queued ?_ enters
        rw [queued]
        exact List.mem_append_right _ (List.mem_singleton_self block)
  | @queued block queued enters =>
      rcases worked.block_stays queued with
        same | ended | ⟨rest, rfl, head, ran⟩
      · exact .queued same enters
      · exact absurd ended notEnded
      · cases block with
        | createUser held uid email =>
            obtain ⟨given, same⟩ := Bool.and_eq_true_iff.mp enters
            rw [beq_iff_eq.mp same] at ran
            have isLogin : World.isLogin { before with mainQueue := rest } login = true :=
              (before.isLogin_iff).mpr isRoot
            generalize result : after.work = work at ran
            cases ran with
            | @creating _ _ address _isRoot =>
                have sent : .setUser uid [("userEmail", address), ("userId", uid)] login
                    before.currentUser ∈ after.work.requests := by
                  rw [result]
                  exact List.mem_append_right _ (List.mem_singleton_self _)
                exact .writing sent
            | notCreating missing =>
                rcases missing with notRoot | noEmail
                · rw [isLogin] at notRoot
                  cases notRoot
                · rw [noEmail] at given
                  cases given
            | shown other => cases other
        | navigateToInstagram held =>
            have opens : before.navigates .runBlock = true := by
              simp only [World.navigates, head]
              rw [beq_iff_eq.mp enters]
              exact (before.isLogin_iff).mpr isRoot
            rw [stays] at opens
            cases opens
        | _ => cases enters

end Steps

/-! ### Runs -/

/-- Behind the tab bar, and behind a login screen that has been let in, somebody is
signed in. -/
structure SignedInside (world : World K) : Prop where
  tabs : ∀ screen, world.rootIdentity = some (.instagram screen) → world.currentUser ≠ none
  entering : ∀ login, world.rootIdentity = some (.login login) → Entering world login →
    world.currentUser ≠ none

section Runs

variable {before after : World K} {event : Event K}

private theorem currentUser_stays (stepped : step before event = some after)
    (noSignOut : event ≠ .signOutButtonPressed none) (signedIn : before.currentUser ≠ none) :
    after.currentUser ≠ none := by
  rcases (workStep_of_step stepped).currentUser with
    same | ⟨signOut, _nobody⟩ | ⟨_, _, _, uid, _, _, _, _, now, _⟩
  · change after.currentUser = before.currentUser at same
    rw [same]
    exact signedIn
  · exact absurd signOut noSignOut
  · change after.currentUser = some uid at now
    rw [now]
    exact Option.some_ne_none uid

private theorem currentUser_of_signOut
    (stepped : step before (.signOutButtonPressed none) = some after) :
    after.currentUser = none := by
  cases acts_of_step stepped with
  | signedOut _inFront _installed => rfl

private theorem entering_of_navigates (navigates : before.navigates .runBlock = true) :
    ∃ login, before.rootIdentity = some (.login login) ∧ Entering before login := by
  simp only [World.navigates] at navigates
  split at navigates
  · rename_i login rest queued
    have waits : .navigateToInstagram login ∈ before.mainQueue := by
      rw [queued]
      exact List.mem_cons_self
    exact ⟨login, (before.isLogin_iff).mp navigates, .queued waits (beq_self_eq_true login)⟩
  · cases navigates

theorem signedInside {past : Past K} {world : World K} (ran : AppRun past world) :
    SignedInside world := by
  refine ran.invariant (fun _ world => SignedInside world) ⟨nofun, nofun⟩ ?_
  intro past before event after earlier inside stepped
  have identities := identityStep_of_step stepped
  refine ⟨?_, ?_⟩
  · intro screen isRoot
    rw [isRoot] at identities
    generalize same : some (RootIdentity.instagram screen) = identity at identities
    generalize after.nextController = next at identities
    cases identities with
    | kept _stays noSignOut _noOpening =>
        exact currentUser_stays stepped noSignOut (inside.tabs screen same.symm)
    | launched _closed =>
        apply currentUser_stays stepped nofun
        intro nobody
        rw [nobody] at same
        cases same
    | ended _ends => cases same
    | navigated navigates =>
        obtain ⟨login, wasLogin, entering⟩ := entering_of_navigates navigates
        exact currentUser_stays stepped nofun (inside.entering login wasLogin entering)
    | signedOut => cases same
    | opened opening =>
        refine currentUser_stays stepped ?_ (inside.tabs screen same.symm)
        rintro rfl
        cases opening
  · intro login isRoot entering
    rcases entering_origin stepped entering with older | signedIn
    · have below := controller_of_entering (fresh earlier) older
      rw [isRoot] at identities
      generalize same : some (RootIdentity.login login) = identity at identities
      generalize after.nextController = next at identities
      cases identities with
      | kept _stays noSignOut _noOpening =>
          exact currentUser_stays stepped noSignOut (inside.entering login same.symm older)
      | launched _closed =>
          split at same
          · cases same
          · cases same
            exact absurd below (Nat.lt_irrefl _)
      | ended _ends => cases same
      | navigated _navigates => cases same
      | signedOut =>
          cases same
          exact absurd below (Nat.lt_irrefl _)
      | opened opening =>
          refine currentUser_stays stepped ?_ (inside.entering login same.symm older)
          rintro rfl
          cases opening
    · exact signedIn

/-- Whose success lets a login screen in. -/
private theorem entering_of_account {request : Request K} {uid newUID : UID}
    {email : Option String} {firebase : Firebase K} {index : Nat} {login : ControllerID}
    (found : before.requests[index]? = some request)
    (isRoot : before.rootIdentity = some (.login login))
    (kept : before.strandsSession (.serve index (.success newUID)) = false)
    (performed : before.firebase.perform before.localUser request (.success newUID) =
      some (firebase, .account uid email))
    (answered : (request, .account uid email) ∈ after.responses) : Entering after login := by
  simp only [World.strandsSession, found] at kept
  cases request with
  | createUser address password held =>
      simp only [isRoot, bne_eq_false_iff_eq] at kept
      refine .answered answered ?_
      simp only [Firebase.perform, Firebase.carryOut,
        Option.ite_none_right_eq_some] at performed
      cases performed.2
      simp only [Request.enters, Option.isSome_some, kept, beq_self_eq_true, Bool.and_self]
  | signIn address password held =>
      simp only [isRoot, bne_eq_false_iff_eq] at kept
      refine .answered answered ?_
      simp only [Request.enters, kept, beq_self_eq_true]
  | updateUser uid' fields editor =>
      obtain ⟨_, _found, result⟩ := Option.map_eq_some_iff.mp performed
      cases result
  | downloadURL reference caller =>
      obtain ⟨_, _found, result⟩ := Option.map_eq_some_iff.mp performed
      cases result
  | updatePost documentID fields screen writer =>
      obtain ⟨_, _found, result⟩ := Option.map_eq_some_iff.mp performed
      cases result
  | _ => cases performed

theorem entering_of_signedIn {past : Past K} {world : World K} (ran : AppRun past world)
    (kept : Throughout (fun _ before event => before.strandsSession event = false) past)
    {login : ControllerID} (isRoot : world.rootIdentity = some (.login login))
    (signedIn : world.currentUser ≠ none) : Entering world login := by
  refine ran.invariant_throughout kept (fun _ world => ∀ login,
    world.rootIdentity = some (.login login) → world.currentUser ≠ none → Entering world login)
    nofun ?_ login isRoot signedIn
  intro past before event after _earlier entering permitted stepped login isRoot signedIn
  have identities := identityStep_of_step stepped
  have worked := workStep_of_step stepped
  have running : before.endsProcess event = false := by
    cases ends : before.endsProcess event with
    | false => rfl
    | true =>
        rw [terminated_of_step stepped ends] at isRoot
        cases isRoot
  have stays (wasRoot : before.rootIdentity = some (.login login))
      (noSignOut : event ≠ .signOutButtonPressed none) (notNavigating : before.navigates event = false) :
      Entering after login := by
    rcases worked.currentUser with
      same | ⟨signOut, _nobody⟩ | ⟨index, outcome, request, uid, email, rfl, found, performed, _, answered⟩
    · change after.currentUser = before.currentUser at same
      rw [same] at signedIn
      exact entering_stays stepped wasRoot running permitted notNavigating
        (entering login wasRoot signedIn)
    · exact absurd signOut noSignOut
    · cases outcome with
      | failure message => cases (Prod.mk.inj (Option.some.inj performed)).2
      | success newUID => exact entering_of_account found wasRoot permitted performed answered
      | unconfirmed newUID message => cases Firebase.error_of_unconfirmed performed
  rw [isRoot] at identities
  generalize same : some (RootIdentity.login login) = identity at identities
  generalize after.nextController = next at identities
  cases identities with
  | kept notNavigating noSignOut _noOpening => exact stays same.symm noSignOut notNavigating
  | launched _closed =>
      split at same
      · cases same
      · rename_i nobody
        have sameUser : after.currentUser = before.currentUser :=
          congrArg Work.currentUser (work_of_quiet stepped rfl)
        rw [sameUser, ← Option.isSome_iff_ne_none] at signedIn
        exact absurd signedIn nobody
  | ended _ends => cases same
  | navigated _navigates => cases same
  | signedOut =>
      exact absurd (currentUser_of_signOut stepped) signedIn
  | @opened event user opening =>
      apply stays same.symm
      · rintro rfl
        cases opening
      · cases event <;> first | rfl | cases opening

end Runs

/-- If no step of a run strands the session, then in every state of the app with
nothing of a sign-in or sign-up outstanding the root is the tab bar exactly if
somebody is signed in, and a login screen exactly if nobody is. -/
theorem screen_agrees_with_session {past : Past K} {world : World K} (ran : AppRun past world)
    (kept : Throughout (fun _ before event => before.strandsSession event = false) past)
    (running : world.root ≠ none) (settled : world.authSettled = true) :
    ((∃ tabs, world.root = some (.instagram tabs)) ↔ world.currentUser ≠ none) ∧
      ((∃ controller, world.root = some (.login controller)) ↔ world.currentUser = none) := by
  have inside := signedInside ran
  obtain ⟨root, isRoot⟩ := Option.ne_none_iff_exists'.mp running
  cases root with
  | instagram tabs =>
      have signedIn := inside.tabs tabs.id (World.rootIdentity_of_some isRoot)
      refine ⟨iff_of_true ⟨tabs, isRoot⟩ signedIn, iff_of_false ?_ signedIn⟩
      rintro ⟨controller, other⟩
      cases isRoot.symm.trans other
  | login controller =>
      have nobody : world.currentUser = none := by
        by_contra signedIn
        exact not_entering_of_settled settled (entering_of_signedIn ran kept
          (World.rootIdentity_of_some isRoot) signedIn)
      refine ⟨iff_of_false ?_ (fun signedIn => signedIn nobody),
        iff_of_true ⟨controller, isRoot⟩ nobody⟩
      rintro ⟨tabs, other⟩
      cases isRoot.symm.trans other

/-- Alice signs up and out, and bob signs up after a refused attempt. -/
theorem screen_agrees_with_session_signUp :
    let reached := endOf (.launch :: signUpEvents "alice@mail" "secret" "alice" ++
      profileEvents ++ [.signOutButtonPressed none, .signUpButtonPressed,
        .loginButtonPressed "alice@mail" "other", .serve 0 (.failure "address in use"),
        .callback 0, .signUpButtonPressed] ++ signUpEvents "bob@mail" "hidden" "bob" :
      List (Event Platform.plain))
    reached.2.currentUser = some "bob" ∧ ∃ tabs, reached.2.root = some (.instagram tabs) := by
  intro reached
  have signedIn : reached.2.currentUser = some "bob" := by decide +kernel
  have running : reached.2.root ≠ none := by
    rw [← Option.isSome_iff_ne_none]
    decide +kernel
  have agrees := screen_agrees_with_session (appRun_endOf _ (by decide +kernel) :
    AppRun reached.1 reached.2) (by decide +kernel) running (by decide +kernel)
  refine ⟨signedIn, agrees.1.mpr ?_⟩
  rw [signedIn]
  exact Option.some_ne_none "bob"

/-- A sign-up whose document is refused leaves a login screen in front of a
signed-in account, and so does a sign-in served after the login screen it was
asked from has been replaced. -/
theorem session_stranded :
    (let reached := endOf
      ([.launch, .signUpButtonPressed, .loginButtonPressed "alice@mail" "secret",
        .serve 0 (.success "alice"), .callback 0, .runBlock, .serve 0 (.failure "offline"),
        .callback 0, .runBlock] : List (Event Platform.plain))
    AppRun reached.1 reached.2 ∧ reached.2.requests.length = 0 ∧
      reached.2.responses.length = 0 ∧ reached.2.mainQueue.length = 0 ∧
      reached.2.currentUser = some "alice" ∧
      ∃ controller, reached.2.root = some (.login controller)) ∧
    let reached := endOf (.launch :: signUpEvents "alice@mail" "secret" "alice" ++
      profileEvents ++ [.signOutButtonPressed none, .loginButtonPressed "alice@mail" "secret",
        .loginButtonPressed "alice@mail" "secret", .serve 0 (.success ""), .callback 0,
        .runBlock] ++ [.selectTab 2, .signOutButtonPressed none, .serve 0 (.success ""),
        .callback 0, .runBlock, .serve 0 (.success ""), .callback 0, .runBlock] :
      List (Event Platform.plain))
    AppRun reached.1 reached.2 ∧ reached.2.requests.length = 0 ∧
      reached.2.responses.length = 0 ∧ reached.2.mainQueue.length = 0 ∧
      reached.2.currentUser = some "alice" ∧
      ∃ controller, reached.2.root = some (.login controller) := by
  constructor
  · exact ⟨appRun_endOf _ (by decide +kernel), rfl, rfl, rfl, rfl, _, rfl⟩
  · refine ⟨appRun_endOf _ (by decide +kernel), by decide +kernel, by decide +kernel,
      by decide +kernel, by decide +kernel, _, rfl⟩

end InstagramProject
