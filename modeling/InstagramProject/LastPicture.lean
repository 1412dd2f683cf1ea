/-
Which profile picture an account ends up with.  Chains of one account are not
ordered: the object is that of the upload that took effect last and the URL that
of the commit that took effect last.  They are those of the latest press if no
press overlaps an earlier chain.
-/

import InstagramProject.PictureChains

namespace InstagramProject

open Accounting Transition

variable {K : Platform}

/-! ### Logs -/

/-- The pictures Done was pressed with for the account, the latest first. -/
def pressedPictures (u : UID) (past : Past K) : List K.Data :=
  past.filterMap (fun moment => moment.1.pressed? u moment.2)

/-- The objects stored for the account, the latest first. -/
def uploadedPictures (u : UID) (past : Past K) : List (StoredObject K) :=
  past.filterMap (fun moment => moment.1.uploaded? u moment.2)

/-- The URLs committed to the account, the latest first. -/
def committedURLs (u : UID) (past : Past K) : List URL :=
  past.filterMap (fun moment => moment.1.committed? u moment.2)

/-- The download URL of an object at a place. -/
def StoredObject.downloadURL (object : StoredObject K) (place : String) : URL :=
  { path := place, version := object.version }

section Logs

variable {past : Past K} {world : World K} {u : UID}

/-- The object at the place of the account is the one stored last. -/
theorem storage_eq_head (ran : AppRun past world) (free : SlashFree u) :
    world.firebase.storage (profilePhotoPath u) = (uploadedPictures u past).head? := by
  refine ran.invariant (fun past world => world.firebase.storage (profilePhotoPath u) =
    (uploadedPictures u past).head?) rfl ?_
  intro past before event after earlier latest stepped
  have isLog : uploadedPictures u ((before, event) :: past) =
      (before.uploaded? u event).toList ++ uploadedPictures u past := log_cons _ _ _
  rw [isLog]
  have older (noUpload : before.uploaded? u event = none)
      (same : after.firebase.storage (profilePhotoPath u) =
        before.firebase.storage (profilePhotoPath u)) :
      after.firebase.storage (profilePhotoPath u) =
        ((before.uploaded? u event).toList ++ uploadedPictures u past).head? := by
    rw [noUpload, same]
    exact latest
  rcases firebase_step stepped with ⟨noEffect, same⟩ | ⟨request, newUID, answer, effect, performed⟩
  · refine older ?_ (by rw [same])
    unfold World.uploaded?
    rw [noEffect]
  · generalize result : after.firebase = firebase at performed
    cases performed with
    | @putData reference _ imageData caller =>
        rw [result] at older
        cases caller with
        | post documentID screen =>
            obtain ⟨isPost, postFree⟩ := post_upload earlier effect
            refine older ?_ (Function.update_of_ne ?_ _ _)
            · unfold World.uploaded?
              rw [effect]
            · rw [isPost]
              exact Ne.symm (postPhotoPath_ne_profilePhotoPath postFree free)
        | profilePicture userId editor =>
            obtain ⟨isProfile, userFree, _⟩ :=
              picture_of_pending earlier (pending_of_effect effect)
            have stores : before.uploaded? u event = if userId = u then
                some { data := imageData, version := before.firebase.nextVersion } else none := by
              unfold World.uploaded?
              rw [effect]
            by_cases own : userId = u
            · rw [stores, if_pos own, isProfile, own]
              exact Function.update_self _ _ _
            · refine older ?_ (Function.update_of_ne ?_ _ _)
              · rw [stores, if_neg own]
              · rw [isProfile]
                exact fun same => own (profilePhotoPath_injective userFree free same.symm)
    | _ =>
        rw [result] at older
        refine older ?_ rfl
        unfold World.uploaded?
        rw [effect]

/-- The profile has the URL committed last. -/
theorem photoURL_eq_head (ran : AppRun past world) :
    world.firebase.photoURL u = (committedURLs u past).head? := by
  refine ran.invariant (fun past world => world.firebase.photoURL u =
    (committedURLs u past).head?) rfl ?_
  intro past before event after _earlier latest stepped
  have isLog : committedURLs u ((before, event) :: past) =
      (before.committed? u event).toList ++ committedURLs u past := log_cons _ _ _
  rw [isLog]
  have older (noCommit : before.committed? u event = none)
      (same : after.firebase.photoURL u = before.firebase.photoURL u) :
      after.firebase.photoURL u =
        ((before.committed? u event).toList ++ committedURLs u past).head? := by
    rw [noCommit, same]
    exact latest
  rcases firebase_step stepped with ⟨noEffect, same⟩ | ⟨request, newUID, answer, effect, performed⟩
  · refine older ?_ (by rw [same])
    unfold World.committed?
    rw [noEffect]
  · generalize result : after.firebase = firebase at performed
    cases performed with
    | @commitChanges uid _ url editor captured =>
        have commits : before.committed? u event = if uid = u then some url else none := by
          unfold World.committed?
          rw [effect]
        rw [result] at older
        by_cases own : uid = u
        · rw [commits, if_pos own, own]
          exact Function.update_self _ _ _
        · refine older ?_ (Function.update_of_ne (Ne.symm own) _ _)
          rw [commits, if_neg own]
    | _ =>
        rw [result] at older
        refine older ?_ rfl
        unfold World.committed?
        rw [effect]

end Logs

/-! ### No upload is lost or repeated -/

/-- The picture a chain has still to store. -/
def PictureStage.imageData? : PictureStage K → Option K.Data
  | .uploading imageData => some imageData
  | _ => none

/-- The URL a chain is to commit. -/
def PictureStage.url? : PictureStage K → Option URL
  | .located url | .committing url => some url
  | _ => none

/-- Each press has its picture stored or on its way, and its commit made or its
chain under way; and every URL is that of a stored object. -/
structure Balanced (place : String) (pictures : List K.Data) (uploads : List (StoredObject K))
    (commits : List URL) (view : Multiset (PictureStage K)) : Prop where
  stored : view.filterMap PictureStage.imageData? + ↑(uploads.map StoredObject.data) =
    (↑pictures : Multiset K.Data)
  ended : view.card + commits.length = pictures.length
  sent : ∀ stage ∈ view, ∀ url, stage.url? = some url →
    ∃ object ∈ uploads, url = object.downloadURL place
  committed : ∀ url ∈ commits, ∃ object ∈ uploads, url = object.downloadURL place

namespace Balanced

variable {place : String} {pictures : List K.Data} {uploads : List (StoredObject K)}
  {commits : List URL} {view after : Multiset (PictureStage K)} {pressed : Option K.Data}
  {uploaded : Option (StoredObject K)} {committed : Option URL}

private theorem filterMap_singleton_add (stage : PictureStage K)
    (rest : Multiset (PictureStage K)) :
    ({stage} + rest).filterMap PictureStage.imageData? =
      one stage.imageData? + rest.filterMap PictureStage.imageData? := by
  rw [Multiset.singleton_add]
  cases data : stage.imageData? with
  | none => rw [Multiset.filterMap_cons_none _ _ data, one_none, zero_add]
  | some imageData =>
      rw [Multiset.filterMap_cons_some _ _ _ data, one_some, Multiset.singleton_add]

private theorem moved (balanced : Balanced place pictures uploads commits view)
    {stage next : PictureStage K} {rest : Multiset (PictureStage K)}
    (held : view = {stage} + rest) (sameData : next.imageData? = stage.imageData?)
    (known : ∀ url, next.url? = some url → ∃ object ∈ uploads, url = object.downloadURL place) :
    Balanced place pictures uploads commits ({next} + rest) := by
  subst held
  refine ⟨?_, ?_, ?_, balanced.committed⟩
  · have stored := balanced.stored
    rw [filterMap_singleton_add] at stored ⊢
    rw [sameData]
    exact stored
  · have ended := balanced.ended
    rw [Multiset.card_add, Multiset.card_singleton] at ended ⊢
    exact ended
  · intro other member url sends
    rcases mem_singleton_add.mp member with rfl | older
    · exact known url sends
    · exact balanced.sent other (Multiset.mem_add.mpr (.inr older)) url sends

private theorem press (balanced : Balanced place pictures uploads commits view)
    (imageData : K.Data) :
    Balanced place (imageData :: pictures) uploads commits ({.uploading imageData} + view) := by
  refine ⟨?_, ?_, ?_, balanced.committed⟩
  · rw [filterMap_singleton_add, add_assoc, balanced.stored]
    change one (some imageData) + _ = _
    rw [one_some, Multiset.singleton_add]
    rfl
  · have ended := balanced.ended
    rw [Multiset.card_add, Multiset.card_singleton, List.length_cons]
    omega
  · intro stage member url sends
    rcases mem_singleton_add.mp member with rfl | older
    · cases sends
    · exact balanced.sent stage older url sends

private theorem upload {object : StoredObject K} {rest : Multiset (PictureStage K)}
    (balanced : Balanced place pictures uploads commits ({.uploading object.data} + rest)) :
    Balanced place pictures (object :: uploads) commits ({.uploaded} + rest) := by
  have known {url : URL} (older : ∃ held ∈ uploads, url = held.downloadURL place) :
      ∃ held ∈ object :: uploads, url = held.downloadURL place := by
    obtain ⟨held, member, isURL⟩ := older
    exact ⟨held, List.mem_cons_of_mem _ member, isURL⟩
  refine ⟨?_, ?_, ?_, fun url member => known (balanced.committed url member)⟩
  · have stored := balanced.stored
    rw [filterMap_singleton_add] at stored ⊢
    change 0 + _ + (↑(object.data :: uploads.map StoredObject.data) : Multiset K.Data) =
      ↑pictures
    change {object.data} + _ + _ = (↑pictures : Multiset K.Data) at stored
    rw [← stored, ← Multiset.cons_coe, ← Multiset.singleton_add, zero_add]
    abel
  · have ended := balanced.ended
    rw [Multiset.card_add, Multiset.card_singleton] at ended ⊢
    exact ended
  · intro stage member url sends
    rcases mem_singleton_add.mp member with rfl | older
    · cases sends
    · exact known (balanced.sent stage (Multiset.mem_add.mpr (.inr older)) url sends)

private theorem commit {url : URL} {rest : Multiset (PictureStage K)}
    (balanced : Balanced place pictures uploads commits ({.committing url} + rest)) :
    Balanced place pictures uploads (url :: commits) rest := by
  refine ⟨?_, ?_, ?_, ?_⟩
  · have stored := balanced.stored
    rw [filterMap_singleton_add] at stored
    change 0 + _ + _ = _ at stored
    rw [zero_add] at stored
    exact stored
  · have ended := balanced.ended
    rw [Multiset.card_add, Multiset.card_singleton] at ended
    rw [List.length_cons]
    omega
  · intro stage member
    exact balanced.sent stage (Multiset.mem_add.mpr (.inr member))
  · intro other member
    rcases List.mem_cons.mp member with rfl | older
    · exact balanced.sent (.committing other) (mem_singleton_add.mpr (.inl rfl)) other rfl
    · exact balanced.committed other older

theorem step (balanced : Balanced place pictures uploads commits view)
    (stepped : ChainStep place uploads.head? view pressed uploaded committed after) :
    Balanced place (pressed.toList ++ pictures) (uploaded.toList ++ uploads)
      (committed.toList ++ commits) after := by
  cases stepped with
  | idle => exact balanced
  | pressed => exact balanced.press _
  | uploaded held =>
      subst held
      exact balanced.upload
  | locate held => exact balanced.moved held rfl nofun
  | located held stored =>
      refine balanced.moved held rfl ?_
      intro url sends
      cases sends
      exact ⟨_, List.mem_of_mem_head? stored, rfl⟩
  | @commit url rest held =>
      refine balanced.moved held rfl ?_
      intro other sends
      refine balanced.sent (.located url) ?_ other sends
      rw [held]
      exact mem_singleton_add.mpr (.inl rfl)
  | committed held =>
      subst held
      exact balanced.commit

end Balanced

/-! ### One chain at a time -/

/-- How far the chain of the latest press has come, by the object at the place of
the account. -/
def PictureStage.Fits (place : String) (picture : K.Data) (object : Option (StoredObject K)) :
    PictureStage K → Prop
  | .uploading imageData => imageData = picture
  | .uploaded | .locating => ∃ held, object = some held ∧ held.data = picture
  | .located url | .committing url =>
      ∃ held, object = some held ∧ held.data = picture ∧ url = held.downloadURL place

/-- Only the chain of the latest press is under way, or none is and its picture
and URL are in place. -/
def Sole (place : String) (pressed : Option K.Data) (object : Option (StoredObject K))
    (photoURL : Option URL) (view : Multiset (PictureStage K)) : Prop :=
  match pressed with
  | none => view = 0
  | some picture =>
      (∃ stage, view = {stage} ∧ stage.Fits place picture object) ∨
        view = 0 ∧ ∃ held, object = some held ∧ held.data = picture ∧
          photoURL = some (held.downloadURL place)

section Sole

variable {place : String} {pictures : List K.Data} {uploads : List (StoredObject K)}
  {commits : List URL} {view after : Multiset (PictureStage K)} {pressed : Option K.Data}
  {uploaded : Option (StoredObject K)} {committed : Option URL}

private theorem sole_stage {last : Option K.Data} {object : Option (StoredObject K)}
    {photoURL : Option URL} {stage : PictureStage K} {rest : Multiset (PictureStage K)}
    (sole : Sole place last object photoURL ({stage} + rest)) :
    rest = 0 ∧ ∃ picture, last = some picture ∧ stage.Fits place picture object := by
  have nonempty : ({stage} + rest : Multiset (PictureStage K)) ≠ 0 := by
    rw [Multiset.singleton_add]
    exact Multiset.cons_ne_zero
  cases last with
  | none => exact absurd sole nonempty
  | some picture =>
      rcases sole with ⟨only, same, fits⟩ | ⟨empty, _⟩
      · have counted := congrArg Multiset.card same
        rw [Multiset.card_add, Multiset.card_singleton, Multiset.card_singleton] at counted
        have nothing : rest = 0 := Multiset.card_eq_zero.mp (by omega)
        rw [nothing, add_zero, Multiset.singleton_inj] at same
        exact ⟨nothing, picture, rfl, same ▸ fits⟩
      · exact absurd empty nonempty

theorem sole_step (sole : Sole place pictures.head? uploads.head? commits.head? view)
    (stepped : ChainStep place uploads.head? view pressed uploaded committed after)
    (serial : pressed ≠ none → view = 0) :
    Sole place (pressed.toList ++ pictures).head? (uploaded.toList ++ uploads).head?
      (committed.toList ++ commits).head? after := by
  have goesOn {picture : K.Data} {object : Option (StoredObject K)} {photoURL : Option URL}
      {next : PictureStage K} {rest : Multiset (PictureStage K)} (nothing : rest = 0)
      (isLast : pictures.head? = some picture) (fits : next.Fits place picture object) :
      Sole place pictures.head? object photoURL ({next} + rest) := by
    rw [isLast, nothing, add_zero]
    exact .inl ⟨next, rfl, fits⟩
  cases stepped with
  | idle => exact sole
  | @pressed imageData =>
      rw [serial (Option.some_ne_none _), add_zero]
      exact .inl ⟨.uploading imageData, rfl, rfl⟩
  | @uploaded fresh rest held =>
      subst held
      obtain ⟨nothing, picture, isLast, same⟩ := sole_stage sole
      exact goesOn nothing isLast ⟨fresh, rfl, same⟩
  | locate held =>
      subst held
      obtain ⟨nothing, picture, isLast, fits⟩ := sole_stage sole
      exact goesOn nothing isLast fits
  | located held stored =>
      subst held
      obtain ⟨nothing, picture, isLast, object, here, isPicture⟩ := sole_stage sole
      cases here.symm.trans stored
      exact goesOn nothing isLast ⟨_, stored, isPicture, rfl⟩
  | commit held =>
      subst held
      obtain ⟨nothing, picture, isLast, fits⟩ := sole_stage sole
      exact goesOn nothing isLast fits
  | @committed url rest held =>
      subst held
      obtain ⟨nothing, picture, isLast, object, here, isPicture, isURL⟩ := sole_stage sole
      change Sole place pictures.head? uploads.head? (some url) after
      rw [isLast, nothing, isURL]
      exact .inr ⟨rfl, object, here, isPicture, rfl⟩

end Sole

/-! ### Every run -/

/-- A press of Done with a picture finds no chain of the account under way. -/
def World.serial (world : World K) (u : UID) (event : Event K) : Bool :=
  (world.pressed? u event).isNone || !world.pictureOutstanding u

section Runs

variable {past : Past K} {world : World K} {u : UID}

theorem no_orphans (ran : AppRun past world)
    (calm : Throughout (fun _ before event => before.undisturbed u event = true) past) :
    ∀ request ∈ world.orphans, (chains u).request request = none := by
  refine ran.invariant_throughout calm (fun _ world =>
    ∀ request ∈ world.orphans, (chains u).request request = none) nofun ?_
  intro past before event after _earlier unmarked permitted stepped request member
  rcases (workStep_of_step stepped).orphans member with old | ⟨ends, sent⟩
  · exact unmarked request old
  · simp only [World.undisturbed, ends, Bool.true_and, Bool.and_eq_true, Bool.not_eq_true',
      World.pictureOutstanding, Bool.or_eq_false_iff, List.any_eq_false,
      Option.isSome_iff_ne_none, not_not] at permitted
    exact permitted.1.1.1 request sent

/-- What an undisturbed event does to the chains, with the object taken from the
log. -/
theorem chainStep_of_step {before after : World K} {event : Event K}
    (ran : AppRun past before) (free : SlashFree u)
    (calm : Throughout (fun _ before event => before.undisturbed u event = true)
      ((before, event) :: past))
    (stepped : step before event = some after) :
    ChainStep (profilePhotoPath u) (uploadedPictures u past).head?
      (before.work.marks (chains u)) (before.pressed? u event) (before.uploaded? u event)
      (before.committed? u event) (after.work.marks (chains u)) := by
  rw [← storage_eq_head ran free]
  apply chainStep_of_workStep (workStep_of_step stepped) calm.1 (no_orphans ran calm.2)
  intro reference editor pending
  exact (picture_of_download ran pending).1

theorem balanced (ran : AppRun past world) (free : SlashFree u)
    (calm : Throughout (fun _ before event => before.undisturbed u event = true) past) :
    Balanced (profilePhotoPath u) (pressedPictures u past) (uploadedPictures u past)
      (committedURLs u past) (world.work.marks (chains u)) := by
  induction ran with
  | start => exact ⟨rfl, rfl, fun _ member => absurd member (Multiset.notMem_zero _), nofun⟩
  | next earlier stepped ih =>
      unfold pressedPictures uploadedPictures committedURLs
      rw [log_cons, log_cons, log_cons]
      exact (ih calm.2).step (chainStep_of_step earlier free calm stepped)

theorem sole (ran : AppRun past world) (free : SlashFree u)
    (calm : Throughout (fun _ before event => before.undisturbed u event = true) past)
    (serial : Throughout (fun _ before event => before.serial u event = true) past) :
    Sole (profilePhotoPath u) (pressedPictures u past).head? (uploadedPictures u past).head?
      (committedURLs u past).head? (world.work.marks (chains u)) := by
  induction ran with
  | start => rfl
  | @next past before event after earlier stepped ih =>
      unfold pressedPictures uploadedPictures committedURLs
      rw [log_cons, log_cons, log_cons]
      apply sole_step (ih calm.2 serial.2) (chainStep_of_step earlier free calm stepped)
      intro pressed
      have permitted := serial.1
      simp only [World.serial, Bool.or_eq_true, Option.isNone_iff_eq_none,
        Bool.not_eq_true'] at permitted
      exact marks_of_settled (permitted.resolve_left pressed)

/-- Once no chain of an account is under way, each press has had its picture
stored and a URL committed, once.  The object is the one stored last and the
profile's URL the one committed last, of a picture that was stored.  If no press
overlapped an earlier chain, they are the picture of the latest press and its
URL. -/
theorem picture_outcome (ran : AppRun past world)
    (known : ∃ account ∈ world.firebase.accounts, account.uid = u)
    (calm : Throughout (fun _ before event => before.undisturbed u event = true) past)
    (settled : world.pictureOutstanding u = false) :
    ((uploadedPictures u past).map StoredObject.data).Perm (pressedPictures u past) ∧
    world.firebase.storage (profilePhotoPath u) = (uploadedPictures u past).head? ∧
    (committedURLs u past).length = (pressedPictures u past).length ∧
    world.firebase.photoURL u = (committedURLs u past).head? ∧
    (∀ url ∈ committedURLs u past, ∃ object ∈ uploadedPictures u past,
      url = object.downloadURL (profilePhotoPath u)) ∧
    (Throughout (fun _ before event => before.serial u event = true) past →
      ∀ picture, (pressedPictures u past).head? = some picture →
        ∃ object, world.firebase.storage (profilePhotoPath u) = some object ∧
          object.data = picture ∧
          world.firebase.photoURL u = some (object.downloadURL (profilePhotoPath u))) := by
  obtain ⟨account, member, rfl⟩ := known
  have free := ((directory_integrity ran).usable account member).2
  have nothing := marks_of_settled settled
  have balance := balanced ran free calm
  rw [nothing] at balance
  refine ⟨?_, storage_eq_head ran free, ?_, photoURL_eq_head ran, balance.committed, ?_⟩
  · have stored := balance.stored
    rw [Multiset.filterMap_zero, zero_add] at stored
    exact Multiset.coe_eq_coe.mp stored
  · have ended := balance.ended
    rw [Multiset.card_zero, zero_add] at ended
    exact ended
  · intro serial picture isLast
    have only := sole ran free calm serial
    rw [nothing, isLast] at only
    rcases only with ⟨stage, underway, _⟩ | ⟨_, object, held, isPicture, committed⟩
    · exact absurd underway.symm (Multiset.singleton_ne_zero stage)
    · rw [storage_eq_head ran free, photoURL_eq_head ran]
      exact ⟨object, held, isPicture, committed⟩

end Runs

/-- Alice saves a second picture after the first one. -/
def secondPictureRun : List (Event Platform.plain) :=
  pictureRun ++ [.editButtonPressed] ++ pictureEvents "portrait" () ++ stepEvents ++ stepEvents ++
    [.runBlock] ++ stepEvents ++ stepEvents ++ [.runBlock]

/-- Both pictures are stored, and the account gets the second one. -/
theorem picture_outcome_second :
    ((uploadedPictures "alice" (endOf secondPictureRun).1).map StoredObject.data).Perm
        ["portrait", "selfie"] ∧
      (committedURLs "alice" (endOf secondPictureRun).1).length = 2 ∧
      ∃ object,
        (endOf secondPictureRun).2.firebase.storage (profilePhotoPath "alice") = some object ∧
        object.data = "portrait" ∧ (endOf secondPictureRun).2.firebase.photoURL "alice" =
          some (object.downloadURL (profilePhotoPath "alice")) := by
  have pressed : pressedPictures "alice" (endOf secondPictureRun).1 = ["portrait", "selfie"] := by
    decide +kernel
  obtain ⟨stored, _, committed, _, _, last⟩ :=
    picture_outcome (u := "alice") (appRun_endOf secondPictureRun (by decide +kernel))
      (by decide +kernel) (by decide +kernel) (by decide +kernel)
  rw [pressed] at stored committed last
  exact ⟨stored, committed, last (by decide +kernel) "portrait" rfl⟩

/-- Two presses in one editor whose uploads take effect in the other order: all
requests succeed and the object holds the first picture. -/
theorem earlier_picture_wins :
    let reached := endOf (.launch :: signUpEvents "alice@mail" "secret" "alice" ++
      editorEvents ++ pictureEvents "first" () ++ pictureEvents "second" () ++
      [.serve 2 (.success ""), .serve 0 (.success ""), .callback 0, .callback 0,
        .serve 2 (.success ""), .callback 0, .serve 2 (.success ""), .callback 0,
        .serve 2 (.success ""), .callback 0, .serve 2 (.success ""), .callback 0,
        .runBlock, .runBlock] ++
      stepEvents ++ [.runBlock] ++ stepEvents ++ [.runBlock] : List (Event Platform.plain))
    AppRun reached.1 reached.2 ∧
      Throughout (fun _ before event => before.undisturbed "alice" event = true) reached.1 ∧
      reached.2.requests.length + reached.2.orphans.length + reached.2.responses.length +
        reached.2.mainQueue.length = 0 ∧
      pressedPictures "alice" reached.1 = ["second", "first"] ∧
      (reached.2.firebase.storage (profilePhotoPath "alice")).map StoredObject.data =
        some "first" := by
  intro reached
  exact ⟨appRun_endOf _ (by decide +kernel), by decide +kernel, by decide +kernel,
    by decide +kernel, by decide +kernel⟩

end InstagramProject
