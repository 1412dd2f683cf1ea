/-
Whether the editor is alive when a closure reads it.  The handler of the photo
change keeps an unowned reference to the editor; the save that was started with
it dismisses the editor in its own time.
-/

import InstagramProject.EditTargets

namespace InstagramProject

open Transition

variable {K : Platform}

/-! ### Reads and holds -/

/-- The editor whose unowned reference the handler captured. -/
def Request.captured? : Request K → Option ControllerID
  | .commitChanges _ _ editor true => some editor
  | _ => none

def Block.captured? : Block K → Option ControllerID
  | .commitAlert editor true _ _ => some editor
  | _ => none

namespace World

/-- The editor an event reads through the unowned reference of `commitChanges`. -/
def reads? (world : World K) : Event K → Option ControllerID
  | .callback index => world.responses[index]?.bind (fun response => response.1.captured?)
  | .runBlock => world.mainQueue.head?.bind Block.captured?
  | _ => none

/-- The editors that closures under way are still to read. -/
def toBeRead (world : World K) : List ControllerID :=
  world.requests.filterMap Request.captured? ++
    world.responses.filterMap (fun response => response.1.captured?) ++
      world.mainQueue.filterMap Block.captured?

def shows (world : World K) (editor : ControllerID) : Bool :=
  world.presented.any (Screen.isEditor editor)

/-- The event takes away everything that is presented. -/
def clearsScreens (world : World K) : Event K → Bool
  | .launch | .signOutButtonPressed none => true
  | .imagePicked (some _) =>
      match world.presented with
      | .imagePicker .editor :: _ => false
      | _ => true
  | .runBlock =>
      match world.mainQueue with
      | .navigateToInstagram login :: _ => world.isLogin login
      | .resetDraft screen _ :: _ => world.isTabs screen
      | _ => false
  | _ => false

/-- The event dismisses the topmost screen: a swipe, Cancel, or the success of a
save. -/
def dismisses (world : World K) : Event K → Bool
  | .dismissTop | .editorCancelButtonPressed => true
  | .callback index =>
      match world.responses[index]? with
      | some (.updateUser _ _ _, .done) => true
      | _ => false
  | _ => false

def takesOffScreen (world : World K) (event : Event K) (editor : ControllerID) : Bool :=
  world.clearsScreens event ||
    (world.dismisses event && world.presented.head?.any (Screen.isEditor editor))

/-- The blocks that stay on the main queue. -/
def waiting (world : World K) : Event K → List (Block K)
  | .runBlock => world.mainQueue.tail
  | _ => world.mainQueue

/-- The window or a closure holds the editor and goes on holding it. -/
def keepsHold (world : World K) (event : Event K) (editor : ControllerID) : Bool :=
  (world.shows editor && !world.takesOffScreen event editor) ||
    world.requests.any (Request.retainsEditor editor) ||
    world.responses.any (fun response => response.1.retainsEditor editor) ||
    (world.waiting event).any (Block.retainsEditor editor)

/-- Every editor that is still to be read goes on being held, or the process ends. -/
def keepsReadEditors (world : World K) (event : Event K) : Bool :=
  world.endsProcess event || world.toBeRead.all (world.keepsHold event)

theorem mem_toBeRead {world : World K} {editor : ControllerID} :
    editor ∈ world.toBeRead ↔
      (∃ request ∈ world.requests, request.captured? = some editor) ∨
        (∃ response ∈ world.responses, response.1.captured? = some editor) ∨
          ∃ block ∈ world.mainQueue, block.captured? = some editor := by
  simp only [toBeRead, List.mem_append, List.mem_filterMap, or_assoc]

end World

/-! ### The screen -/

section Screens

variable {before after : World K} {event : Event K} {editor : ControllerID}

private theorem covered_of_shows (shown : before.shows editor = true) : before.presented ≠ [] := by
  intro empty
  unfold World.shows at shown
  rw [empty] at shown
  cases shown

private theorem shows_of_presented (shown : before.shows editor = true)
    (same : after.presented = before.presented) : after.shows editor = true := by
  unfold World.shows at shown ⊢
  rw [same]
  exact shown

private theorem shows_updateEditor {updated : ControllerID}
    {change : EditProfileViewController K → EditProfileViewController K}
    (sameID : ∀ controller, (change controller).id = controller.id)
    (shown : before.shows editor = true) :
    (before.updateEditor updated change).shows editor = true := by
  obtain ⟨screen, present, isEditor⟩ := List.any_eq_true.mp shown
  refine List.any_eq_true.mpr ⟨_, List.mem_map_of_mem present, ?_⟩
  cases screen with
  | editor controller =>
      change Screen.isEditor editor (if controller.id = updated then .editor (change controller)
        else .editor controller) = true
      split
      · change ((change controller).id == editor) = true
        rw [sameID]
        exact isEditor
      · exact isEditor
  | _ => cases isEditor

private theorem shows_presentFromEditor {presenter : ControllerID} {screen : Screen K}
    (shown : before.shows editor = true) :
    (before.presentFromEditor presenter screen).shows editor = true := by
  unfold World.presentFromEditor
  split
  · rename_i top rest presented
    split
    · unfold World.shows at shown ⊢
      rw [presented] at shown
      rw [List.any_cons, shown, Bool.or_true]
    · exact shown
  · exact shown

private theorem editor_of_isEditor {screen : Screen K} (isEditor : screen.isEditor editor = true) :
    ∃ controller, screen = .editor controller ∧ controller.id = editor := by
  cases screen with
  | editor controller => exact ⟨controller, rfl, beq_iff_eq.mp isEditor⟩
  | _ => cases isEditor

private theorem any_dropWhile {α : Type} {test : α → Bool} {items : List α}
    (holds : items.any test = true) : (items.dropWhile (fun item => !test item)).any test = true := by
  obtain ⟨item, member, passes⟩ := List.any_eq_true.mp holds
  rw [← List.takeWhile_append_dropWhile (p := fun item => !test item) (l := items)] at member
  rcases List.mem_append.mp member with dropped | kept
  · have fails := List.all_eq_true.mp List.all_takeWhile item dropped
    rw [passes] at fails
    cases fails
  · exact List.any_eq_true.mpr ⟨item, kept, passes⟩

/-- A dismissal from an editor spares the editor unless it is on top. -/
private theorem shows_dismissFromEditor {dismissed : ControllerID}
    (one : ∀ controller other, .editor controller ∈ before.presented →
      .editor other ∈ before.presented → controller.id = other.id)
    (shown : before.shows editor = true)
    (below : before.presented.head?.any (Screen.isEditor editor) = false) :
    (before.dismissFromEditor dismissed).shows editor = true := by
  unfold World.dismissFromEditor
  split
  · rename_i top rest presented
    unfold World.shows at shown ⊢
    rw [presented] at shown below
    have notTop : top.isEditor editor = false := below
    rw [List.any_cons, notTop, Bool.false_or] at shown
    split
    · exact shown
    · split
      · rename_i isPresenter
        obtain ⟨screen, present, isEditor⟩ := List.any_eq_true.mp shown
        obtain ⟨presenter, presentToo, isDismissed⟩ := List.any_eq_true.mp isPresenter
        obtain ⟨controller, rfl, isID⟩ := editor_of_isEditor isEditor
        obtain ⟨other, rfl, isOtherID⟩ := editor_of_isEditor isDismissed
        have same : controller.id = other.id := by
          apply one
          · rw [presented]
            exact List.mem_cons_of_mem _ present
          · rw [presented]
            exact List.mem_cons_of_mem _ presentToo
        have isSame : dismissed = editor := isOtherID.symm.trans (same.symm.trans isID)
        rw [isSame]
        exact any_dropWhile shown
      · rw [presented, List.any_cons, shown, Bool.or_true]
  · exact shown

/-- Nothing below the presented screens can be in front. -/
private theorem notInFront (covered : before.presented ≠ []) :
    before.loginInFront? = none ∧ before.addPhotoInFront? = none ∧
      before.profileInFront? = none := by
  obtain ⟨top, rest, presented⟩ := List.exists_cons_of_ne_nil covered
  unfold World.loginInFront? World.addPhotoInFront? World.profileInFront?
  rw [presented]
  cases before.root with
  | none => exact ⟨rfl, rfl, rfl⟩
  | some root => cases root <;> exact ⟨rfl, rfl, rfl⟩

private theorem shows_runBlock {world : World K} {block : Block K} {rest : List (Block K)}
    (queued : world.mainQueue = block :: rest) (shown : world.shows editor = true)
    (kept : world.clearsScreens .runBlock = false)
    (running : world.endsProcess .runBlock = false) :
    (World.runBlock { world with mainQueue := rest } block).shows editor = true := by
  have covered := covered_of_shows shown
  have same {changed : World K} (unchanged : changed.presented = world.presented) :
      changed.shows editor = true := shows_of_presented shown unchanged
  simp only [World.clearsScreens, queued] at kept
  cases block with
  | createUser login uid email =>
      apply same
      simp only [World.runBlock, World.createDatabaseUser]
      split
      · cases email <;> rfl
      · rfl
  | navigateToInstagram login =>
      apply same
      have notRoot : World.isLogin { world with mainQueue := rest } login = false := kept
      simp only [World.runBlock, notRoot, Bool.false_eq_true, if_false]
  | loginAlert login title message => exact same (World.presented_presentFromLogin _ covered)
  | addPhotoAlert screen title message documentID =>
      exact same (World.presented_presentFromTab _ covered)
  | resetDraft screen documentID =>
      apply same
      have notRoot : World.isTabs { world with mainQueue := rest } screen = false := kept
      simp only [World.runBlock, World.resetDraft, World.dismissFromTab, notRoot,
        Bool.false_eq_true, if_false]
      split <;> rfl
  | previewProfilePicture updated =>
      exact @shows_updateEditor _ _ _ _ _ (fun _ => rfl) shown
  | editorAlert presenter title message => exact @shows_presentFromEditor _ _ _ _ _ shown
  | pictureAlert presenter title message => exact @shows_presentFromEditor _ _ _ _ _ shown
  | commitAlert presenter captured title message =>
      simp only [World.endsProcess, queued, World.editorAlive_commitAlert queued] at running
      simp only [World.runBlock]
      split
      · rename_i isCaptured
        split
        · exact @shows_presentFromEditor _ _ _ _ _ shown
        · rename_i released
          rw [isCaptured, Bool.not_eq_true _ |>.mp released] at running
          cases running
      · exact shown
  | signOutAlert screen title message => exact same (World.presented_presentFromTab _ covered)
  | _ => exact same rfl

private theorem shows_editorImagePicked {front : EditProfileViewController K}
    {rest : List (Screen K)} (originalImage : Option K.Image)
    (one : ∀ controller other, .editor controller ∈ before.presented →
      .editor other ∈ before.presented → controller.id = other.id)
    (presented : before.presented = .imagePicker .editor :: .editor front :: rest)
    (shown : before.shows editor = true) :
    (before.editorImagePicked front.id originalImage).shows editor = true := by
  cases originalImage with
  | none => exact shown
  | some picked =>
      unfold World.editorImagePicked
      have updated : (before.updateEditor front.id (fun controller =>
          { controller with selectedImage := some picked })).shows editor = true :=
        shows_updateEditor (fun _ => rfl) shown
      refine @shows_dismissFromEditor _ _ _ _ ?_ updated ?_
      · intro controller other present presentOther
        obtain ⟨earlier, older, origin⟩ := editor_updateEditor present
        obtain ⟨earlierOther, olderOther, originOther⟩ := editor_updateEditor presentOther
        have same := one earlier earlierOther older olderOther
        rcases origin with ⟨_, rfl⟩ | ⟨_, rfl⟩ <;> rcases originOther with ⟨_, rfl⟩ | ⟨_, rfl⟩ <;>
          exact same
      · change ((before.presented.map _).head?).any _ = false
        rw [presented]
        rfl

private theorem shows_doneButtonPressed {front : EditProfileViewController K} {bounds : K.CGRect}
    (shown : before.shows editor = true) :
    (before.doneButtonPressed front bounds).shows editor = true := by
  unfold World.doneButtonPressed
  split
  · exact shows_presentFromEditor shown
  · split
    · exact shown
    · apply shows_of_presented shown
      rw [World.presented_updateUserInfo]
      split
      · rfl
      · exact World.presented_updateProfilePicture _ _ _ _

/-- An editor on the screen stays there unless the event takes it off. -/
theorem shows_stays {past : Past K} (ran : AppRun past before)
    (stepped : step before event = some after) (shown : before.shows editor = true)
    (stays : before.takesOffScreen event editor = false)
    (running : before.endsProcess event = false) : after.shows editor = true := by
  have covered := covered_of_shows shown
  have one := (editorTexts ran).one
  obtain ⟨noLogin, noAddPhoto, noProfile⟩ := notInFront covered
  obtain ⟨clears, dismisses⟩ := Bool.or_eq_false_iff.mp stays
  cases acts_of_step stepped with
  | feedLaunched | loginLaunched => cases clears
  | terminated _running => cases running
  | served | servedOrphan => exact shown
  | @called index request answer found =>
      rcases World.presented_callback _ request answer with
        same | ⟨uid, fields, saved, rfl, rfl, dismissed⟩
      · exact shows_of_presented shown same
      · have below : before.presented.head?.any (Screen.isEditor editor) = false := by
          simp only [World.dismisses, found, Bool.true_and] at dismisses
          exact dismisses
        have spared := @shows_dismissFromEditor _
          { before with responses := before.responses.eraseIdx index } editor saved one shown
          below
        exact shows_of_presented spared dismissed
  | ran queued => exact shows_runBlock queued shown clears running
  | @dismissed top rest presented =>
      have below : top.isEditor editor = false := by
        simp only [World.dismisses, presented, Bool.true_and] at dismisses
        exact dismisses
      unfold World.shows at shown ⊢
      rw [presented, List.any_cons, below, Bool.false_or] at shown
      exact shown
  | sourceChosen presented =>
      unfold World.shows at shown ⊢
      rw [presented] at shown
      exact shown
  | @postImagePicked originalImage tabs rest _root presented
  | @profileImagePicked originalImage tabs rest _root presented =>
      cases originalImage with
      | none => exact shown
      | some picked =>
          rw [World.clearsScreens, presented] at clears
          cases clears
  | @editorImagePicked originalImage front rest presented =>
      exact shows_editorImagePicked originalImage one presented shown
  | @fieldEdited field text front _inFront =>
      apply shows_updateEditor _ shown
      intro controller
      cases field <;> rfl
  | changePicturePressed _inFront => exact shows_presentFromEditor shown
  | donePressed _inFront => exact shows_doneButtonPressed shown
  | editorCancelled _inFront =>
      apply shows_dismissFromEditor one shown
      simp only [World.dismisses, Bool.true_and] at dismisses
      exact dismisses
  -- Nothing below the editor can be reached.
  | feedSelected _root presented | addPhotoSelected _root presented
  | profileSelected _root presented => exact absurd presented covered
  | signUpPressed inFront | loginIncomplete inFront _missing | signInAsked inFront _complete _existing
  | signUpAsked inFront _complete _new => cases noLogin.symm.trans inFront
  | galleryPressed inFront | cameraPressed inFront | cancelled inFront | captioned inFront
  | postIncomplete inFront _enabled _missing
  | postPressed inFront _enabled _picked _fresh _slashFree => cases noAddPhoto.symm.trans inFront
  | editTrapped inFront _installed _missing | editorOpened inFront _installed _arrived
  | editPicturePressed inFront _installed | signedOut inFront _installed
  | signOutFailed inFront _installed => cases noProfile.symm.trans inFront

end Screens

/-! ### Closures -/

section Holds

variable {past : Past K} {before after : World K} {event : Event K} {editor : ControllerID}

/-- A save is answered by success or by an error. -/
private theorem answer_of_save {world : World K} (ran : AppRun past world) {uid : UID}
    {fields : Fields} {answer : Answer}
    (answered : (.updateUser uid fields editor, answer) ∈ world.responses) :
    ∃ title message, handlerBlock (.updateUser uid fields editor : Request K) answer =
      some (.editorAlert editor title message) := by
  refine ran.invariant (fun _ world => ∀ answer,
    (.updateUser uid fields editor, answer) ∈ world.responses → ∃ title message,
      handlerBlock (.updateUser uid fields editor : Request K) answer =
        some (.editorAlert editor title message)) nofun ?_ answer answered
  intro past before event after _earlier answers stepped answer member
  rcases (workStep_of_step stepped).responses member with
    old | ⟨index, outcome, _served, _found, performed⟩
  · exact answers answer old
  · generalize after.work.firebase = firebase at performed
    cases performed_of_perform performed with
    | refused => exact ⟨_, _, rfl⟩
    | unconfirmed loses _carriedOut => cases loses
    | updateUser _found => exact ⟨_, _, rfl⟩

private theorem block_stays_in_rest {world : World K} {ranBlock block : Block K} {work : Work K}
    (result : Ran world ranBlock work) (member : block ∈ world.mainQueue) :
    block ∈ work.mainQueue := by
  cases result with
  | reset => exact List.mem_append_left _ member
  | _ => exact member

private theorem block_stays_of_waiting (worked : WorkStep before event after.work)
    (running : before.endsProcess event = false) {block : Block K}
    (member : block ∈ before.waiting event) : block ∈ after.mainQueue := by
  have queued : block ∈ before.mainQueue := by
    cases event with
    | runBlock => exact List.mem_of_mem_tail member
    | _ => exact member
  rcases worked.block_stays queued with stays | ends | ⟨rest, rfl, isQueue, result⟩
  · exact stays
  · rw [running] at ends
    cases ends
  · unfold World.waiting at member
    rw [isQueue] at member
    exact block_stays_in_rest result member

/-- What goes on holding an editor keeps it alive. -/
theorem alive_of_keepsHold (ran : AppRun past before) (stepped : step before event = some after)
    (running : before.endsProcess event = false) (keeps : before.keepsHold event editor = true) :
    after.editorAlive editor = true := by
  have worked := workStep_of_step stepped
  have notEnding (ends : before.endsProcess event = true) : after.editorAlive editor = true := by
    rw [running] at ends
    cases ends
  have byResponse {response : Request K × Answer} (member : response ∈ after.responses)
      (retains : response.1.retainsEditor editor = true) : after.editorAlive editor = true := by
    have held : after.responses.any (fun response => response.1.retainsEditor editor) = true :=
      List.any_eq_true.mpr ⟨response, member, retains⟩
    simp only [World.editorAlive, held, Bool.or_true, Bool.true_or]
  have byBlock {block : Block K} (member : block ∈ after.mainQueue)
      (retains : block.retainsEditor editor = true) : after.editorAlive editor = true := by
    have held : after.mainQueue.any (Block.retainsEditor editor) = true :=
      List.any_eq_true.mpr ⟨block, member, retains⟩
    simp only [World.editorAlive, held, Bool.or_true]
  simp only [World.keepsHold, Bool.or_eq_true, or_assoc] at keeps
  rcases keeps with onScreen | request | response | block
  · obtain ⟨shown, stays⟩ := Bool.and_eq_true_iff.mp onScreen
    rw [Bool.not_eq_true'] at stays
    have held : after.presented.any (Screen.isEditor editor) = true :=
      shows_stays ran stepped shown stays running
    simp only [World.editorAlive, held, Bool.true_or]
  · obtain ⟨request, member, retains⟩ := List.any_eq_true.mp request
    rcases worked.request_stays member with
      stays | ends | ⟨_, _, answer, _, _, _, answered⟩
    · have held : after.requests.any (Request.retainsEditor editor) = true :=
        List.any_eq_true.mpr ⟨request, stays, retains⟩
      simp only [World.editorAlive, held, Bool.or_true, Bool.true_or]
    · exact notEnding ends
    · exact byResponse answered retains
  · obtain ⟨⟨request, answer⟩, member, retains⟩ := List.any_eq_true.mp response
    rcases worked.response_stays member with stays | ends | ⟨index, _, _, answered⟩
    · exact byResponse stays retains
    · exact notEnding ends
    · cases request with
      | updateUser uid fields held =>
          obtain rfl : held = editor := beq_iff_eq.mp retains
          obtain ⟨title, message, handled⟩ := answer_of_save ran member
          have queued : .editorAlert held title message ∈ after.work.mainQueue := by
            rw [answered_handlerBlock answered handled]
            exact List.mem_append_right _ (List.mem_singleton_self _)
          exact byBlock queued (beq_self_eq_true held)
      | _ => cases retains
  · obtain ⟨block, member, retains⟩ := List.any_eq_true.mp block
    exact byBlock (block_stays_of_waiting worked running member) retains

private theorem toBeRead_of_response {request : Request K} {answer : Answer}
    (answered : (request, answer) ∈ before.responses)
    (captured : request.captured? = some editor) : editor ∈ before.toBeRead :=
  World.mem_toBeRead.mpr (.inr (.inl ⟨_, answered, captured⟩))

private theorem alive_send {world : World K} {request : Request K}
    (holds : request.retainsEditor editor = false) :
    (world.send request).editorAlive editor = world.editorAlive editor := by
  simp only [World.editorAlive, World.send, List.any_append, List.any_cons, holds, List.any_nil,
    Bool.or_false]

/-- The editor is alive where its reference is captured. -/
private theorem alive_of_issued (stepped : step before event = some after) {request : Request K}
    (issued : Issued before event request) (sent : request ∈ after.requests)
    (captured : request.captured? = some editor) :
    request ∈ before.requests ∨ after.editorAlive editor = true := by
  cases issued with
  | @called index answered _ answer found asks =>
      cases asks with
      | @committing reference userId user held url isCaptured signedIn =>
          simp only [step, found, Option.some.injEq] at stepped
          subst stepped
          change _ ∈ (World.profilePictureUploaded _ url held).requests at sent
          change _ ∨ (World.profilePictureUploaded _ url held).editorAlive editor = true
          unfold World.profilePictureUploaded at sent ⊢
          rw [show World.currentUser { before with
            responses := before.responses.eraseIdx index } = some user from signedIn] at sent ⊢
          rcases List.mem_append.mp sent with old | new
          · exact .inl old
          · right
            cases isCaptured with
            | false => cases captured
            | true =>
                cases captured
                have alive := (Request.commitChanges.inj (List.mem_singleton.mp new)).2.2.2
                rw [alive_send rfl]
                exact alive.symm
      | _ => cases captured
  | question question => cases request <;> first | cases captured | cases question
  | _ => cases captured

/-- A block that reads the editor comes from a request that captured it. -/
private theorem captured_of_handlerBlock {request : Request K} {answer : Answer} {block : Block K}
    (handled : handlerBlock request answer = some block)
    (captured : block.captured? = some editor) : request.captured? = some editor := by
  cases queues_of_handlerBlock handled with
  | @notCommitted _ _ _ isCaptured _ => cases isCaptured <;> exact captured
  | @committed _ _ _ isCaptured => cases isCaptured <;> exact captured
  | _ => cases captured

/-- Every editor still to be read is alive, when all are kept until then. -/
theorem toBeRead_alive {world : World K} (ran : AppRun past world)
    (kept : Throughout (fun _ before event => before.keepsReadEditors event = true) past) :
    ∀ editor ∈ world.toBeRead, world.editorAlive editor = true := by
  refine ran.invariant_throughout kept (fun _ world => ∀ editor ∈ world.toBeRead,
    world.editorAlive editor = true) nofun ?_
  intro past before event after earlier alive keeps stepped editor member
  have worked := workStep_of_step stepped
  cases running : before.endsProcess event with
  | true =>
      rw [terminated_of_step stepped running] at member
      cases member
  | false =>
      rw [World.keepsReadEditors, running, Bool.false_or] at keeps
      have old (wasToBeRead : editor ∈ before.toBeRead) : after.editorAlive editor = true :=
        alive_of_keepsHold earlier stepped running (List.all_eq_true.mp keeps editor wasToBeRead)
      rcases World.mem_toBeRead.mp member with
        ⟨request, sent, captured⟩ | ⟨⟨request, answer⟩, answered, captured⟩ |
          ⟨block, queued, captured⟩
      · have stays (wasSent : request ∈ before.requests) : after.editorAlive editor = true :=
          old (World.mem_toBeRead.mpr (.inl ⟨request, wasSent, captured⟩))
        rcases worked.requests sent with wasSent | issued
        · exact stays wasSent
        · exact (alive_of_issued stepped issued sent captured).elim stays id
      · rcases worked.responses answered with wasAnswered | ⟨_, _, _, found, _⟩
        · exact old (toBeRead_of_response wasAnswered captured)
        · exact old (World.mem_toBeRead.mpr
            (.inl ⟨request, List.mem_of_getElem? found, captured⟩))
      · rcases worked.mainQueue queued with
          wasQueued | display | ⟨request, answer, answered, handled⟩
        · exact old (World.mem_toBeRead.mpr (.inr (.inr ⟨block, wasQueued, captured⟩)))
        · cases block <;> first | cases captured | cases display
        · exact old (toBeRead_of_response answered (captured_of_handlerBlock handled captured))

end Holds

/-- If every editor that a photo change is still to report to goes on being held,
then no callback and no block reads an editor that has been released. -/
theorem reads_live_editors {past : Past K} {world : World K} (ran : AppRun past world)
    (kept : Throughout (fun _ before event => before.keepsReadEditors event = true) past) :
    ∀ moment ∈ past, ∀ editor, moment.1.reads? moment.2 = some editor →
      moment.1.editorAlive editor = true := by
  rintro ⟨before, event⟩ member editor reads
  obtain ⟨_, earlier, _, reached, keptEarlier, _⟩ := ran.recall kept member
  apply toBeRead_alive reached keptEarlier
  cases event with
  | callback index =>
      obtain ⟨response, found, captured⟩ := Option.bind_eq_some_iff.mp reads
      exact toBeRead_of_response (List.mem_of_getElem? found) captured
  | runBlock =>
      obtain ⟨block, queued, captured⟩ := Option.bind_eq_some_iff.mp reads
      exact World.mem_toBeRead.mpr (.inr (.inr ⟨block, List.mem_of_head? queued, captured⟩))
  | _ => cases reads

/-- Alice presses Done with a picture; requests under way are those of the picture
and of the texts, in this order. -/
def pictureSave : List (Event Platform.plain) :=
  .launch :: signUpEvents "alice@mail" "secret" "alice" ++ editorEvents ++
    pictureEvents "portrait" ()

/-- The picture, its URL and the photo change are done before the texts are saved. -/
def pictureBeforeTexts : List (Event Platform.plain) :=
  pictureSave ++ [.serve 0 (.success ""), .callback 0, .serve 1 (.success ""), .callback 0,
    .serve 1 (.success ""), .callback 0, .runBlock, .dismissTop] ++ stepEvents ++ [.runBlock]

theorem reads_live_editors_pictureFirst :
    (∃ moment ∈ (endOf pictureBeforeTexts).1, (moment.1.reads? moment.2).isSome) ∧
      ∀ moment ∈ (endOf pictureBeforeTexts).1, ∀ editor,
        moment.1.reads? moment.2 = some editor → moment.1.editorAlive editor = true := by
  have kept : Throughout (fun _ before event => before.keepsReadEditors event = true)
      (endOf pictureBeforeTexts).1 := by decide +kernel
  refine ⟨?_, reads_live_editors (appRun_endOf pictureBeforeTexts (by decide +kernel)) kept⟩
  exact List.any_eq_true.mp (by decide +kernel :
    (endOf pictureBeforeTexts).1.any (fun moment => (moment.1.reads? moment.2).isSome) = true)

/-- The texts are saved, the editor goes and is released with its alert; then the
alert of the photo change reads it, and the process ends. -/
theorem released_editor_read :
    let reached := endOf (pictureSave ++ [.serve 0 (.success ""), .callback 0,
      .serve 1 (.success ""), .callback 0, .serve 0 (.success ""), .serve 0 (.success ""),
      .callback 0, .callback 0, .runBlock])
    AppRun reached.1 reached.2 ∧
      (∃ editor, reached.2.reads? .runBlock = some editor ∧
        reached.2.editorAlive editor = false) ∧
      (step reached.2 .runBlock).map (fun world => world.root.isNone) = some true := by
  intro reached
  have read : (reached.2.reads? .runBlock).any (fun editor => !reached.2.editorAlive editor) =
      true := by decide +kernel
  obtain ⟨editor, isRead, released⟩ := (Option.any_eq_true _ _).mp read
  rw [Bool.not_eq_true'] at released
  exact ⟨appRun_endOf _ (by decide +kernel), ⟨editor, isRead, released⟩, by decide +kernel⟩

end InstagramProject
