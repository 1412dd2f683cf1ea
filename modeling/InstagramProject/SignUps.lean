/-
Whether every account has its document.  Sign-up opens the app only after the
document is written; sign-in and launch do not ask for it.
-/

import InstagramProject.UserDocuments

namespace InstagramProject

open Accounting Transition

variable {K : Platform}

/-- What is left of the sign-up of `u` before its document is written. -/
def World.signUpOutstanding (world : World K) (u : UID) : Prop :=
  (∃ fields login writer,
      .setUser u fields login writer ∈ world.requests ∨
        .setUser u fields login writer ∈ world.orphans) ∨
    (∃ address password login email,
      (.createUser address password login, .account u email) ∈ world.responses) ∨
    ∃ login email, .createUser login u email ∈ world.mainQueue

theorem signUpOutstanding_of_mem {world : World K} {signUp : SignUp}
    (member : signUp ∈ world.work.directory.signUps) : world.signUpOutstanding signUp.uid := by
  rcases (Work.mem_marks signUps world.work).mp member with
    ⟨request, sent, marked⟩ | ⟨request, orphaned, marked⟩ | ⟨⟨request, answer⟩, answered, marked⟩ |
      ⟨block, queued, marked⟩
  · cases request with
    | setUser uid fields login writer =>
        cases marked
        exact .inl ⟨fields, login, writer, .inl sent⟩
    | _ => cases marked
  · cases request with
    | setUser uid fields login writer =>
        cases marked
        exact .inl ⟨fields, login, writer, .inr orphaned⟩
    | _ => cases marked
  · cases request with
    | createUser address password login =>
        cases answer with
        | account uid email =>
            cases marked
            exact .inr (.inl ⟨address, password, login, email, answered⟩)
        | _ => cases marked
    | _ => cases marked
  · cases block with
    | createUser login uid email =>
        cases marked
        exact .inr (.inr ⟨login, email, queued⟩)
    | _ => cases marked

/-! ### Every account has its document -/

/-- An account either has its document or is still waiting for it. -/
def Directory.Complete (view : Directory) : Prop :=
  ∀ account ∈ view.accounts,
    view.users account.uid ≠ none ∨ ∃ signUp ∈ view.signUps, signUp.uid = account.uid

theorem Directory.Complete.step {before : World K} {event : Event K} {view after : Directory}
    (intact : view.Integrity) (complete : view.Complete)
    (kept : before.losesProfile event = false)
    (stepped : DirectoryStep before event view after) : after.Complete := by
  intro account member
  cases stepped with
  | idle => exact complete account member
  | ended _remaining lossy =>
      rcases lossy with lossy | same
      · rw [kept] at lossy
        cases lossy
      · rw [same]
        exact complete account member
  | registered added _nonempty _free _fresh started =>
      rcases started with ⟨rfl, _signedUp⟩ | ⟨_noSignUp, lossy⟩
      · rcases List.mem_append.mp member with old | new
        · rcases complete account old with stored | ⟨signUp, held, same⟩
          · exact .inl stored
          · exact .inr ⟨signUp, Multiset.mem_add.mpr (.inr held), same⟩
        · rw [List.mem_singleton.mp new]
          exact .inr ⟨_, Multiset.mem_add.mpr (.inl (Multiset.mem_singleton_self _)), rfl⟩
      · rw [kept] at lossy
        cases lossy
  | @asked uid email rest held =>
      rcases complete account member with stored | ⟨signUp, found, same⟩
      · exact .inl stored
      · rw [held] at found
        rcases Multiset.mem_add.mp found with moved | other
        · rw [Multiset.mem_singleton.mp moved] at same
          exact .inr ⟨_, Multiset.mem_add.mpr (.inl (Multiset.mem_singleton_self _)), same⟩
        · exact .inr ⟨signUp, Multiset.mem_add.mpr (.inr other), same⟩
  | lost held lossy =>
      rcases lossy with lossy | noEmail
      · rw [kept] at lossy
        cases lossy
      · obtain ⟨_, owner, _, _, matching⟩ := intact.pending _
          (by rw [held]; exact Multiset.mem_add.mpr (.inl (Multiset.mem_singleton_self _)))
        rw [noEmail] at matching
        cases matching
  | @written uid fields login writer rest _effect held =>
      rcases complete account member with stored | ⟨signUp, found, same⟩
      · left
        by_cases isNew : account.uid = uid
        · rw [isNew]
          simp only [Function.update_self, ne_eq, reduceCtorEq, not_false_eq_true]
        · simp only [Function.update_of_ne isNew]
          exact stored
      · rw [held] at found
        rcases Multiset.mem_add.mp found with moved | other
        · left
          rw [Multiset.mem_singleton.mp moved] at same
          simp only [← same, Function.update_self, ne_eq, reduceCtorEq, not_false_eq_true]
        · exact .inr ⟨signUp, other, same⟩
  | @saved uid fields editor document _effect _stored =>
      rcases complete account member with stored | waiting
      · left
        by_cases isSaved : account.uid = uid
        · simp only [isSaved, Function.update_self, ne_eq, reduceCtorEq, not_false_eq_true]
        · simp only [Function.update_of_ne isSaved]
          exact stored
      · exact .inr waiting

theorem directory_complete {past : Past K} {world : World K} (ran : AppRun past world)
    (kept : Throughout (fun _ before event => before.losesProfile event = false) past) :
    world.work.directory.Complete := by
  apply ran.invariant_throughout kept (fun _ world => world.work.directory.Complete) nofun
  intro past before event after earlier complete permitted stepped
  exact complete.step (directory_integrity earlier) permitted
    (directoryStep_of_workStep (workStep_of_step stepped))

/-- A document that is stored is never created again: over it lie updates only. -/
theorem shown_of_stored {past : Past K} {world : World K} (ran : AppRun past world) {u : UID}
    {document : Document} (stored : world.firebase.users u = some document) :
    ∃ shown, world.localUser u = some shown ∧
      ∀ field, document field ≠ none → shown field ≠ none := by
  refine World.localUser_of_writes
    (P := fun data => ∃ shown, data = some shown ∧
      ∀ field, document field ≠ none → shown field ≠ none)
    ⟨document, stored, fun _ present => present⟩ ?_ ?_
  · intro fields login writer sent
    have absent := ((directory_integrity ran).pending _ (signUp_of_sent sent)).1
    cases stored.symm.trans absent
  · rintro fields editor _sent _ ⟨shown, ⟨⟩, filled⟩
    exact ⟨_, rfl, fun field present => Document.updateData_ne_none fields (filled field present)⟩

/-- If no step of a run leaves a new account without its document, then in the
state reached a signed-in account whose sign-up is over has its document, so a
fetch returns stored data, under the writes that are still on their way, and a
profile save can succeed. -/
theorem signedIn_has_document {past : Past K} {world : World K} (ran : AppRun past world)
    (kept : Throughout (fun _ before event => before.losesProfile event = false) past)
    {u : UID} (signedIn : world.currentUser = some u) (settled : ¬ world.signUpOutstanding u) :
    (∃ document shown, world.firebase.users u = some document ∧
      (∀ field, document field ≠ none → shown field ≠ none) ∧
      ∀ caller newUID,
        world.firebase.perform world.localUser (.getUser u caller) (.success newUID) =
          some (world.firebase, .snapshot (some shown))) ∧
      ∀ fields editor newUID,
        (world.firebase.perform world.localUser (.updateUser u fields editor)
          (.success newUID)).isSome := by
  obtain ⟨account, known, rfl⟩ := signedIn_known ran signedIn
  rcases directory_complete ran kept account known with stored | ⟨signUp, held, same⟩
  · obtain ⟨document, found⟩ := Option.ne_none_iff_exists'.mp stored
    change world.firebase.users account.uid = some document at found
    obtain ⟨shown, isShown, filled⟩ := shown_of_stored ran found
    refine ⟨⟨document, shown, found, filled, ?_⟩, ?_⟩
    · intro caller newUID
      simp only [Firebase.perform, Firebase.carryOut, isShown]
    · intro fields editor newUID
      simp only [Firebase.perform, Firebase.carryOut, found, Option.map_some, Option.isSome_some]
  · rw [← same] at settled
    exact absurd (signUpOutstanding_of_mem held) settled

/-- At the end of one sign-up. -/
theorem signedIn_has_document_signUp :
    let reached := endOf
      (.launch :: signUpEvents "alice@mail" "secret" "alice" : List (Event Platform.plain))
    reached.2.currentUser = some "alice" ∧
      ∃ document, reached.2.firebase.users "alice" = some document := by
  intro reached
  have signedIn : reached.2.currentUser = some "alice" := by decide +kernel
  have settled : ¬ reached.2.signUpOutstanding "alice" := by
    rintro (⟨_, _, _, sent | orphaned⟩ | ⟨_, _, _, _, answered⟩ | ⟨_, _, queued⟩)
    · cases sent
    · cases orphaned
    · cases answered
    · cases queued
  have kept : Throughout (fun _ before event => before.losesProfile event = false)
      reached.1 := by
    decide +kernel
  obtain ⟨⟨document, _, stored, _⟩, _⟩ :=
    signedIn_has_document (appRun_endOf _ (by decide +kernel)) kept signedIn settled
  exact ⟨signedIn, document, stored⟩

/-- The write of the document fails, the app is started again, and the account is
inside without a document while nothing is under way. -/
theorem account_without_document :
    let reached := endOf
      ([.launch, .signUpButtonPressed, .loginButtonPressed "alice@mail" "secret",
        .serve 0 (.success "alice"), .callback 0, .runBlock, .serve 0 (.failure "offline"),
        .callback 0, .runBlock, .terminate, .launch] : List (Event Platform.plain))
    AppRun reached.1 reached.2 ∧ (∃ tabs, reached.2.root = some (.instagram tabs)) ∧
      reached.2.currentUser = some "alice" ∧ reached.2.requests = [] ∧
      reached.2.orphans = [] ∧ reached.2.responses = [] ∧ reached.2.mainQueue = [] ∧
      reached.2.firebase.users "alice" = none :=
  ⟨appRun_endOf _ (by decide +kernel), ⟨_, rfl⟩, rfl, rfl, rfl, rfl, rfl, rfl⟩

end InstagramProject
