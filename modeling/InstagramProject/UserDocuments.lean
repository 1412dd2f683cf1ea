/-
The `users` collection over whole runs: which events write a document, what they
change, and that nothing stored is lost.
-/

import InstagramProject.Directory

namespace InstagramProject

open Accounting Transition

variable {K : Platform}

/-- The user document that `setData` writes in an event. -/
def World.userWritten? (world : World K) (event : Event K) : Option UID :=
  match world.effect? event with
  | some (.setUser uid _ _ _) => some uid
  | _ => none

def writtenUsers (past : Past K) : List UID :=
  past.filterMap (fun moment => moment.1.userWritten? moment.2)

/-- The accounts whose sign-up was answered to the app. -/
def signedUpUsers (past : Past K) : List UID :=
  past.filterMap (fun moment => moment.1.signedUp? moment.2)

/-! ### What changes a document -/

theorem users_change {before after : World K} {event : Event K} {k : UID}
    (stepped : step before event = some after)
    (changed : after.firebase.users k ≠ before.firebase.users k) :
    (∃ fields login writer, before.effect? event = some (.setUser k fields login writer) ∧
        after.firebase.users k = some (Document.setData fields)) ∨
      ∃ fields editor document, before.effect? event = some (.updateUser k fields editor) ∧
        before.firebase.users k = some document ∧
        after.firebase.users k = some (document.updateData fields) := by
  rcases firebase_step stepped with ⟨_noEffect, same⟩ |
    ⟨request, newUID, answer, effect, performed⟩
  · rw [same] at changed
    exact absurd rfl changed
  · generalize result : after.firebase = firebase at performed changed ⊢
    cases performed with
    | @setUser uid _ fields login writer =>
        by_cases same : k = uid
        · subst same
          exact .inl ⟨fields, login, writer, effect, Function.update_self _ _ _⟩
        · exact absurd (Function.update_of_ne same _ _) changed
    | @updateUser uid _ fields editor document stored =>
        by_cases same : k = uid
        · subst same
          exact .inr ⟨fields, editor, document, effect, stored, Function.update_self _ _ _⟩
        · exact absurd (Function.update_of_ne same _ _) changed
    | _ => exact absurd rfl changed

theorem signUp_of_effect {world : World K} {event : Event K} {uid : UID} {fields : Fields}
    {login : ControllerID} {writer : Option UID}
    (effect : world.effect? event = some (.setUser uid fields login writer)) :
    ⟨uid, .writing fields⟩ ∈ world.work.directory.signUps :=
  mark_of_effect signUps effect rfl

/-- A document is only ever created where there was none. -/
theorem creation {past : Past K} {world : World K} (ran : AppRun past world) {event : Event K}
    {uid : UID} {fields : Fields} {login : ControllerID} {writer : Option UID}
    (effect : world.effect? event = some (.setUser uid fields login writer)) :
    world.firebase.users uid = none ∧
      ∃ account ∈ world.firebase.accounts, account.uid = uid ∧
        fields = [("userEmail", account.email), ("userId", uid)] := by
  obtain ⟨absent, account, known, owned, matching⟩ :=
    (directory_integrity ran).pending _ (signUp_of_effect effect)
  refine ⟨absent, account, known, owned, ?_⟩
  change account.uid = uid at owned
  rw [← owned]
  exact matching

theorem pending_of_sent {world : World K} {request : Request K}
    (sent : request ∈ world.orphans ++ world.requests) : world.Pending request := by
  rcases List.mem_append.mp sent with orphaned | sent
  · exact .inr (.inl orphaned)
  · exact .inl sent

theorem signUp_of_sent {world : World K} {uid : UID} {fields : Fields} {login : ControllerID}
    {writer : Option UID}
    (sent : .setUser uid fields login writer ∈ world.orphans ++ world.requests) :
    ⟨uid, .writing fields⟩ ∈ world.work.directory.signUps := by
  refine (Work.mem_marks signUps world.work).mpr ?_
  rcases List.mem_append.mp sent with orphaned | sent
  · exact .inr (.inl ⟨_, orphaned, rfl⟩)
  · exact .inl ⟨_, sent, rfl⟩

/-- A user document belongs to an account and names it on the device too. -/
theorem localUser_account {past : Past K} {world : World K} (ran : AppRun past world) {u : UID}
    {document : Document} (shown : world.localUser u = some document) :
    document "userId" = some (.string u) ∧ ∃ account ∈ world.firebase.accounts, account.uid = u := by
  have intact := directory_integrity ran
  refine World.localUser_of_writes
    (P := fun data => ∀ document, data = some document → document "userId" = some (.string u) ∧
      ∃ account ∈ world.firebase.accounts, account.uid = u) ?_ ?_ ?_ document shown
  · intro document stored
    obtain ⟨account, known, owned, isUid, _⟩ := intact.documents u document stored
    exact ⟨isUid, account, known, owned⟩
  · rintro fields login writer sent _ ⟨⟩
    obtain ⟨_, account, known, rfl, matching⟩ := intact.pending _ (signUp_of_sent sent)
    change fields = _ at matching
    rw [matching]
    exact ⟨rfl, account, known, rfl⟩
  · rintro fields editor sent document names _ ⟨⟩
    obtain ⟨_, _, save, _, _, rfl, _⟩ := saved_of_pending ran (pending_of_sent sent)
    rw [Document.updateData_of_lookup_none (save_identity save).1]
    exact names document rfl

/-- Once a field is stored, it stays stored. -/
theorem field_persists {past recent : Past K} {world later : World K} (ran : AppRun past world)
    (longer : AppRun (recent ++ past) later) {k : UID} {document : Document} {field : String}
    (stored : world.firebase.users k = some document) (present : document field ≠ none) :
    ∃ document', later.firebase.users k = some document' ∧ document' field ≠ none := by
  refine ran.persists longer (fun world => ∃ document',
    world.firebase.users k = some document' ∧ document' field ≠ none)
    ⟨document, stored, present⟩ ?_
  rintro past before event after earlier ⟨document', stored', present'⟩ stepped
  by_cases same : after.firebase.users k = before.firebase.users k
  · exact ⟨document', same.trans stored', present'⟩
  · rcases users_change stepped same with ⟨fields, login, writer, effect, _⟩ |
      ⟨fields, editor, current, _effect, found, updated⟩
    · rw [(creation earlier effect).1] at stored'
      cases stored'
    · rw [stored'] at found
      cases found
      exact ⟨_, updated, Document.updateData_ne_none fields present'⟩

/-! ### Who creates a document -/

theorem signUp_origin {before : World K} {event : Event K} {view after : Directory}
    (stepped : DirectoryStep before event view after) {signUp : SignUp}
    (member : signUp ∈ after.signUps) :
    (∃ old ∈ view.signUps, old.uid = signUp.uid) ∨ before.signedUp? event = some signUp.uid := by
  cases stepped with
  | idle => exact .inl ⟨signUp, member, rfl⟩
  | ended remaining _lossy => exact .inl ⟨signUp, Multiset.mem_of_le remaining member, rfl⟩
  | registered account _nonempty _free _fresh kept =>
      rcases Multiset.mem_add.mp member with new | old
      · rcases kept with ⟨rfl, signedUp⟩ | ⟨rfl, _lossy⟩
        · rw [one_some, Multiset.mem_singleton] at new
          rw [new]
          exact .inr signedUp
        · cases Multiset.notMem_zero _ new
      · exact .inl ⟨signUp, old, rfl⟩
  | @asked uid email rest held =>
      rcases Multiset.mem_add.mp member with new | old
      · refine .inl ⟨⟨uid, .created (some email)⟩, ?_, ?_⟩
        · rw [held]
          exact Multiset.mem_add.mpr (.inl (Multiset.mem_singleton_self _))
        · rw [Multiset.mem_singleton.mp new]
      · exact .inl ⟨signUp, by rw [held]; exact Multiset.mem_add.mpr (.inr old), rfl⟩
  | lost held _lossy =>
      exact .inl ⟨signUp, by rw [held]; exact Multiset.mem_add.mpr (.inr member), rfl⟩
  | written _effect held =>
      exact .inl ⟨signUp, by rw [held]; exact Multiset.mem_add.mpr (.inr member), rfl⟩
  | saved _effect _stored => exact .inl ⟨signUp, member, rfl⟩

/-- The documents stored are those written, each once and by a sign-up. -/
structure UserLog (past : Past K) (world : World K) : Prop where
  waiting : ∀ signUp ∈ world.work.directory.signUps, signUp.uid ∈ signedUpUsers past
  once : (writtenUsers past).Nodup
  stored : ∀ uid, world.firebase.users uid ≠ none ↔ uid ∈ writtenUsers past
  bySignUp : ∀ uid ∈ writtenUsers past, uid ∈ signedUpUsers past

private theorem users_of_not_written {before after : World K} {event : Event K}
    (stepped : step before event = some after) (notWritten : before.userWritten? event = none)
    (uid : UID) :
    after.firebase.users uid ≠ none ↔ before.firebase.users uid ≠ none := by
  by_cases same : after.firebase.users uid = before.firebase.users uid
  · rw [same]
  · rcases users_change stepped same with ⟨fields, login, writer, effect, _⟩ |
      ⟨fields, editor, document, _effect, found, updated⟩
    · rw [World.userWritten?, effect] at notWritten
      cases notWritten
    · rw [found, updated]
      exact iff_of_true (Option.some_ne_none _) (Option.some_ne_none _)

private theorem waiting_step {past : Past K} {before after : World K} {event : Event K}
    (logged : UserLog past before) (stepped : step before event = some after) :
    ∀ signUp ∈ after.work.directory.signUps,
      signUp.uid ∈ signedUpUsers ((before, event) :: past) := by
  intro signUp member
  rcases signUp_origin (directoryStep_of_workStep (workStep_of_step stepped)) member with
    ⟨old, held, same⟩ | signedUp
  · rw [← same]
    exact mem_log.mpr (.inr (logged.waiting old held))
  · exact mem_log.mpr (.inl signedUp)

/-- A written document is the only change. -/
private theorem users_of_written {before after : World K} {event : Event K} {uid : UID}
    {fields : Fields} {login : ControllerID} {writer : Option UID}
    (stepped : step before event = some after)
    (effect : before.effect? event = some (.setUser uid fields login writer)) :
    after.firebase.users =
      Function.update before.firebase.users uid (some (Document.setData fields)) := by
  rcases firebase_step stepped with ⟨noEffect, _⟩ | ⟨request, newUID, answer, effect', performed⟩
  · rw [effect] at noEffect
    cases noEffect
  · rw [effect] at effect'
    cases effect'
    generalize after.firebase = firebase at performed
    cases performed
    rfl

private theorem effect_of_written {world : World K} {event : Event K} {uid : UID}
    (written : world.userWritten? event = some uid) :
    ∃ fields login writer, world.effect? event = some (.setUser uid fields login writer) := by
  unfold World.userWritten? at written
  split at written
  · rename_i fields login writer effect
    cases written
    exact ⟨fields, login, writer, effect⟩
  · cases written

theorem userLog_step {past : Past K} {before after : World K} {event : Event K}
    (earlier : AppRun past before) (logged : UserLog past before)
    (stepped : step before event = some after) : UserLog ((before, event) :: past) after := by
  have known {uid : UID} (member : uid ∈ signedUpUsers past) :
      uid ∈ signedUpUsers ((before, event) :: past) :=
    mem_log.mpr (.inr member)
  have isLog : writtenUsers ((before, event) :: past) =
      (before.userWritten? event).toList ++ writtenUsers past := log_cons _ _ _
  cases written : before.userWritten? event with
  | none =>
      rw [written, Option.toList_none, List.nil_append] at isLog
      refine ⟨waiting_step logged stepped, ?_, ?_, ?_⟩
      · rw [isLog]
        exact logged.once
      · intro uid
        rw [isLog, users_of_not_written stepped written uid]
        exact logged.stored uid
      · rw [isLog]
        exact fun uid member => known (logged.bySignUp uid member)
  | some uid =>
      rw [written, Option.toList_some, List.singleton_append] at isLog
      obtain ⟨fields, login, writer, effect⟩ := effect_of_written written
      have absent := (creation earlier effect).1
      have onlyNow (other : UID) :
          after.firebase.users other ≠ none ↔
            other = uid ∨ before.firebase.users other ≠ none := by
        rw [users_of_written stepped effect]
        by_cases same : other = uid
        · rw [same, Function.update_self]
          exact iff_of_true (Option.some_ne_none _) (.inl rfl)
        · rw [Function.update_of_ne same]
          exact ⟨.inr, fun either => either.resolve_left same⟩
      refine ⟨waiting_step logged stepped, ?_, ?_, ?_⟩
      · rw [isLog, List.nodup_cons]
        exact ⟨fun member => (logged.stored uid).mpr member absent, logged.once⟩
      · intro other
        rw [isLog, List.mem_cons, onlyNow other, logged.stored other]
      · intro other member
        rw [isLog] at member
        rcases List.mem_cons.mp member with rfl | old
        · exact known (logged.waiting _ (signUp_of_effect effect))
        · exact known (logged.bySignUp other old)

theorem userLog {past : Past K} {world : World K} (ran : AppRun past world) :
    UserLog past world := by
  refine ran.invariant UserLog ?_ ?_
  · exact
      { waiting := fun _ member => absurd member (Multiset.notMem_zero _)
        once := List.nodup_nil
        stored := fun _ => iff_of_false (fun stored => stored rfl) List.not_mem_nil
        bySignUp := fun _ member => absurd member List.not_mem_nil }
  · intro past before event after earlier logged stepped
    exact userLog_step earlier logged stepped

/-- Every document belongs to the account it is stored under and was created once,
by the sign-up of that account.  A document changes by that creation or by a
profile save, which touches at most the three profile fields of the account
signed in at the press of Done.  No stored field is ever erased. -/
theorem users_collection_integrity {past : Past K} {world : World K} (ran : AppRun past world) :
    ((world.firebase.accounts.map Account.uid).Nodup ∧
      ∀ k document, world.firebase.users k = some document →
        ∃ account ∈ world.firebase.accounts, account.uid = k ∧
          document "userId" = some (.string k) ∧
          document "userEmail" = some (.string account.email)) ∧
    ((writtenUsers past).Nodup ∧
      (∀ k, world.firebase.users k ≠ none ↔ k ∈ writtenUsers past) ∧
      ∀ k ∈ writtenUsers past, k ∈ signedUpUsers past) ∧
    (∀ event after k, step world event = some after →
      after.firebase.users k ≠ world.firebase.users k →
      (world.firebase.users k = none ∧ world.userWritten? event = some k) ∨
        ∃ moment ∈ past, ∃ save editor document changed,
          moment.1.save? moment.2 = some save ∧ moment.1.currentUser = some k ∧
          world.effect? event = some (.updateUser k save.fields editor) ∧
          world.firebase.users k = some document ∧ after.firebase.users k = some changed ∧
          ∀ field, field ≠ "username" → field ≠ "userBio" → field ≠ "userFullName" →
            changed field = document field) ∧
    ∀ recent later k document field, AppRun (recent ++ past) later →
      world.firebase.users k = some document → document field ≠ none →
      ∃ document', later.firebase.users k = some document' ∧ document' field ≠ none := by
  have logged := userLog ran
  have intact := directory_integrity ran
  refine ⟨⟨intact.uids, intact.documents⟩, ⟨logged.once, logged.stored, logged.bySignUp⟩,
    ?_, ?_⟩
  · intro event after k stepped changed
    rcases users_change stepped changed with ⟨fields, login, writer, effect, _⟩ |
      ⟨fields, editor, document, effect, stored, updated⟩
    · left
      refine ⟨(creation ran effect).1, ?_⟩
      simp only [World.userWritten?, effect]
    · right
      obtain ⟨moment, member, save, started, rfl, rfl, _⟩ :=
        saved_of_pending ran (pending_of_effect effect)
      refine ⟨moment, member, save, editor, document, _, started, save?_user started, effect,
        stored, updated, ?_⟩
      intro field notUsername notBio notFullName
      apply Document.updateData_of_lookup_none
      simp only [Save.fields, List.lookup_cons, beq_false_of_ne notUsername,
        beq_false_of_ne notBio, beq_false_of_ne notFullName, List.lookup_nil]
  · intro recent later k document field longer stored present
    exact field_persists ran longer stored present

/-- At the end of one sign-up. -/
theorem users_collection_integrity_signUp :
    let reached := endOf
      (.launch :: signUpEvents "alice@mail" "secret" "alice" : List (Event Platform.plain))
    writtenUsers reached.1 = ["alice"] ∧ "alice" ∈ signedUpUsers reached.1 ∧
      ∃ account ∈ reached.2.firebase.accounts, account.uid = "alice" := by
  intro reached
  have integrity := users_collection_integrity (appRun_endOf _ (by decide +kernel) :
    AppRun reached.1 reached.2)
  have written : writtenUsers reached.1 = ["alice"] := by decide +kernel
  have stored := (integrity.2.1.2.1 "alice").mpr (by rw [written]; exact List.mem_cons_self)
  obtain ⟨document, found⟩ := Option.ne_none_iff_exists'.mp stored
  obtain ⟨account, known, owned, _⟩ := integrity.1.2 "alice" document found
  refine ⟨written, ?_, account, known, owned⟩
  exact integrity.2.1.2.2 "alice" (by rw [written]; exact List.mem_cons_self)

end InstagramProject
