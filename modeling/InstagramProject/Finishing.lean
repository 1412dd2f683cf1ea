/-
The end of a publication.  Its last block clears the draft and takes away
whatever the root presents, without a look at what the user did since the press.
-/

import InstagramProject.Picks

namespace InstagramProject

open Transition

variable {K : Platform}

/-! ### Newer work -/

/-- The images picked after a press, the latest first. -/
def picksSince (past : Past K) (stamp : Stamp) : List K.Image :=
  (picks past).take ((picks past).length - stamp.picks)

/-- The captions typed after a press, the latest first. -/
def typingsSince (past : Past K) (stamp : Stamp) : List String :=
  (typings past).take ((typings past).length - stamp.captions)

/-- The publication whose last block the event runs. -/
def World.finishing? (world : World K) : Event K → Option String
  | .runBlock =>
      match world.mainQueue with
      | .resetDraft _ documentID :: _ => some documentID
      | _ => none
  | _ => none

/-- The draft keeps an image picked and a caption typed after the press, and what
is presented stays. -/
def Kept (past : Past K) (stamp : Stamp) (before after : World K) : Prop :=
  (∀ screen controller, before.draft? = some (screen, controller) →
    ∃ later, after.draft? = some (screen, later) ∧
      (∀ image ∈ picksSince past stamp, controller.selectedImage = some image →
        later.selectedImage = some image) ∧
      (controller.captionTF ∈ typingsSince past stamp →
        later.captionTF = controller.captionTF)) ∧
  after.presented = before.presented

/-- If the event ends a publication, it destroys nothing newer than its press. -/
def Spares (past : Past K) (world : World K) (event : Event K) : Prop :=
  ∀ after, step world event = some after → ∀ entry ∈ stamps past,
    world.finishing? event = some entry.1.documentID → Kept past entry.2 world after

/-- Nothing is presented; no image was picked since the press, or none is
selected; and no caption was typed since, or it is empty. -/
def nothingNewer (past : Past K) (stamp : Stamp) (world : World K) : Bool :=
  world.presented.isEmpty && world.draft?.all (fun draft =>
    (draft.2.selectedImage.isNone || (picks past).length == stamp.picks) &&
      (draft.2.captionTF == "" || (typings past).length == stamp.captions))

/-- The event ends no publication, or one whose tab bar is no longer the root, or
one with nothing newer than its press. -/
def harmless (past : Past K) (world : World K) (event : Event K) : Bool :=
  (stamps past).all (fun entry =>
    world.finishing? event != some entry.1.documentID || !world.isTabs entry.1.screen ||
      nothingNewer past entry.2 world)

/-! ### What the last block does -/

theorem finishing_iff {world : World K} {event : Event K} {documentID : String} :
    world.finishing? event = some documentID ↔
      event = .runBlock ∧ ∃ screen rest,
        world.mainQueue = .resetDraft screen documentID :: rest := by
  constructor
  · intro finishing
    unfold World.finishing? at finishing
    split at finishing
    · split at finishing
      · rename_i screen other rest queued
        cases finishing
        exact ⟨rfl, screen, rest, queued⟩
      · cases finishing
    · cases finishing
  · rintro ⟨rfl, screen, rest, queued⟩
    simp only [World.finishing?, queued]

theorem isTabs_of_draft {world : World K} {id : ControllerID}
    {controller : AddPhotoViewController K} (present : world.draft? = some (id, controller))
    (screen : ControllerID) :
    world.isTabs screen = (id == screen) := by
  unfold World.draft? Root.draft? at present
  unfold World.isTabs
  cases root : world.root with
  | none =>
      rw [root] at present
      cases present
  | some front =>
      rw [root] at present
      cases front with
      | login login => cases present
      | instagram tabs =>
          obtain ⟨_, _loaded, same⟩ := Option.map_eq_some_iff.mp present
          cases same
          rfl

/-- The last block in front of its own tab bar. -/
theorem reset_front {before after : World K} {screen : ControllerID} {documentID : String}
    {rest : List (Block K)} (queued : before.mainQueue = .resetDraft screen documentID :: rest)
    (stepped : step before .runBlock = some after) (front : before.isTabs screen = true) :
    after.presented = [] ∧
      after.draft? = before.draft?.map (fun draft => (draft.1, { draft.2 with
        selectedImage := none, nextButtonIsEnabled := false, captionTF := "" })) := by
  simp only [step, queued, Option.some.injEq] at stepped
  subst stepped
  have shown : World.isTabs { before with mainQueue := rest } screen = true := front
  simp only [World.runBlock, World.resetDraft, World.addPhotoAlive, shown, Bool.true_or, if_true]
  constructor
  · simp only [World.dismissFromTab, shown, if_true, World.selectPostImage,
      World.presented_updateAddPhoto, World.presented_async]
  · have dismissed : (World.dismissFromTab { before with mainQueue := rest } screen).draft? =
        before.draft? := World.draft?_of_root _ (World.root_dismissFromTab _ _)
    simp only [World.selectPostImage, World.draft?_updateAddPhoto,
      World.draft?_of_root _ (World.root_async _ _), dismissed, Option.map_map]
    cases present : before.draft? with
    | none => rfl
    | some draft =>
        obtain ⟨id, controller⟩ := draft
        have same := isTabs_of_draft present screen
        rw [front] at same
        have sameScreen : id = screen := beq_iff_eq.mp same.symm
        simp only [Option.map_some, Function.comp_apply, sameScreen, if_true]

/-- The last block after its tab bar was replaced. -/
theorem reset_behind {before after : World K} {screen : ControllerID} {documentID : String}
    {rest : List (Block K)} (queued : before.mainQueue = .resetDraft screen documentID :: rest)
    (stepped : step before .runBlock = some after) (behind : before.isTabs screen = false) :
    after.presented = before.presented ∧ after.draft? = before.draft? := by
  simp only [step, queued, Option.some.injEq] at stepped
  subst stepped
  have hidden : World.isTabs { before with mainQueue := rest } screen = false := behind
  simp only [World.runBlock, World.resetDraft]
  split
  · have dismissed : World.dismissFromTab { before with mainQueue := rest } screen =
        { before with mainQueue := rest } := by
      unfold World.dismissFromTab
      rw [hidden]
      rfl
    rw [dismissed]
    constructor
    · rfl
    · simp only [World.selectPostImage, World.draft?_updateAddPhoto,
        World.draft?_of_root _ (World.root_async _ _), Option.map_map]
      change Option.map _ before.draft? = _
      cases present : before.draft? with
      | none => rfl
      | some draft =>
          obtain ⟨id, controller⟩ := draft
          have same := isTabs_of_draft present screen
          rw [behind] at same
          have different : id ≠ screen := bne_iff_ne.mp (by rw [bne, ← same]; rfl)
          simp only [Option.map_some, Function.comp_apply, different, if_false]
  · exact ⟨rfl, rfl⟩

/-- The last block of a publication names the tab bar of its press. -/
theorem screen_of_finishing {past : Past K} {world : World K} (ran : AppRun past world)
    {screen : ControllerID} {documentID : String} {rest : List (Block K)}
    (queued : world.mainQueue = .resetDraft screen documentID :: rest)
    {entry : Publication K × Stamp} (member : entry ∈ stamps past)
    (same : entry.1.documentID = documentID) : entry.1.screen = screen := by
  have paired := publishing_paired ran
  have waiting : (.resetDraft screen documentID) ∈ world.work.mainQueue := by
    change _ ∈ world.mainQueue
    rw [queued]
    exact List.mem_cons_self
  have ticket : (⟨documentID, screen, .finished⟩ : Ticket K) ∈ world.work.publishing.tickets :=
    (Work.mem_marks publishing world.work).mpr (.inr (.inr (.inr ⟨_, waiting, rfl⟩)))
  obtain ⟨publication, logged, sameID, sameScreen, _⟩ := paired.ticket_fits ticket
  rw [paired.publication_unique (mem_presses_of_stamp member) logged (same.trans sameID.symm)]
  exact sameScreen

/-! ### When it destroys nothing newer -/

/-- The latest entry of a log is among those made since it had `count` entries
unless it still has as many. -/
private theorem latest_since {α : Type} {items : List α} {latest : α} {count : Nat}
    (isLatest : items.head? = some latest) (bound : count ≤ items.length) :
    latest ∈ items.take (items.length - count) ↔ items.length ≠ count := by
  obtain ⟨rest, rfl⟩ := List.head?_eq_some_iff.mp isLatest
  constructor
  · intro member same
    rw [same, Nat.sub_self] at member
    cases member
  · intro different
    have positive : (latest :: rest).length - count = (rest.length - count) + 1 := by
      rw [List.length_cons] at bound different ⊢
      omega
    rw [positive, List.take_succ_cons]
    exact List.mem_cons_self

private theorem since_empty {α : Type} {items : List α} {value : α} {count : Nat}
    (same : items.length = count) : value ∉ items.take (items.length - count) := by
  rw [same, Nat.sub_self, List.take_zero]
  exact List.not_mem_nil

/-- After the draft was cleared and everything dismissed, what was newer is kept
exactly if there was nothing newer. -/
theorem kept_iff_nothingNewer {past : Past K} {before after : World K}
    (ran : AppRun past before) {entry : Publication K × Stamp} (member : entry ∈ stamps past)
    (dismissed : after.presented = [])
    (cleared : after.draft? = before.draft?.map (fun draft => (draft.1, { draft.2 with
      selectedImage := none, nextButtonIsEnabled := false, captionTF := "" }))) :
    Kept past entry.2 before after ↔ nothingNewer past entry.2 before = true := by
  obtain ⟨fewerPicks, fewerCaptions⟩ := stamp_le member
  unfold Kept nothingNewer
  rw [dismissed, cleared, Bool.and_eq_true, List.isEmpty_iff, and_comm, eq_comm (a := [])]
  apply and_congr_right
  intro _nothingPresented
  cases present : before.draft? with
  | none => exact iff_of_true nofun rfl
  | some draft =>
      obtain ⟨screen, controller⟩ := draft
      simp only [Option.all_some, Bool.and_eq_true, Bool.or_eq_true, Option.isNone_iff_eq_none,
        beq_iff_eq]
      constructor
      · intro kept
        obtain ⟨later, same, image, caption⟩ := kept screen controller rfl
        cases same
        constructor
        · cases selects : controller.selectedImage with
          | none => exact .inl rfl
          | some selected =>
              right
              by_contra different
              cases image selected
                ((latest_since (selected_latest ran present selects) fewerPicks).mpr different)
                selects
        · by_cases empty : controller.captionTF = ""
          · exact .inl empty
          · right
            by_contra different
            exact empty (caption
              ((latest_since (caption_latest ran present empty) fewerCaptions).mpr
                different)).symm
      · rintro ⟨image, caption⟩ id shown same
        cases same
        refine ⟨_, rfl, ?_, ?_⟩
        · intro selected newer selects
          rcases image with nothing | same
          · rw [nothing] at selects
            cases selects
          · exact absurd newer (since_empty same)
        · intro newer
          rcases caption with empty | same
          · exact empty.symm
          · exact absurd newer (since_empty same)

theorem spares_iff_harmless {past : Past K} {before after : World K} {event : Event K}
    (ran : AppRun past before) (stepped : step before event = some after) :
    Spares past before event ↔ harmless past before event = true := by
  have outcome {entry : Publication K × Stamp} (member : entry ∈ stamps past)
      (finishing : before.finishing? event = some entry.1.documentID) :
      Kept past entry.2 before after ↔
        before.isTabs entry.1.screen = false ∨ nothingNewer past entry.2 before = true := by
    obtain ⟨rfl, screen, rest, queued⟩ := finishing_iff.mp finishing
    rw [screen_of_finishing ran queued member rfl]
    cases front : before.isTabs screen with
    | true =>
        obtain ⟨dismissed, cleared⟩ := reset_front queued stepped front
        rw [kept_iff_nothingNewer ran member dismissed cleared]
        simp only [Bool.true_eq_false, false_or]
    | false =>
        obtain ⟨samePresented, sameDraft⟩ := reset_behind queued stepped front
        refine iff_of_true ⟨?_, samePresented⟩ (.inl rfl)
        intro id controller present
        exact ⟨controller, sameDraft.trans present, fun _ _ selects => selects, fun _ => rfl⟩
  simp only [harmless, List.all_eq_true, Bool.or_eq_true, bne_iff_ne, Bool.not_eq_true']
  constructor
  · intro spares entry member
    by_cases finishing : before.finishing? event = some entry.1.documentID
    · rw [or_assoc]
      exact .inr ((outcome member finishing).mp (spares after stepped entry member finishing))
    · exact .inl (.inl finishing)
  · intro safe other steppedOther entry member finishing
    cases stepped.symm.trans steppedOther
    apply (outcome member finishing).mpr
    have permitted := safe entry member
    rw [or_assoc] at permitted
    exact permitted.resolve_left (fun different => different finishing)

/-- In every run, publications that end destroy nothing newer than their press
exactly if each ends when there is nothing newer to destroy or its tab bar is
gone. -/
theorem finishing_spares {past : Past K} {world : World K} (ran : AppRun past world) :
    Throughout Spares past ↔
      Throughout (fun past before event => harmless past before event = true) past := by
  apply ran.throughout_iff
  intro past before event after earlier stepped
  exact spares_iff_harmless earlier stepped

/-- The publication of `publicationRun` ends on an untouched draft. -/
theorem finishing_spares_publication : Throughout Spares (endOf publicationRun).1 :=
  (finishing_spares (appRun_endOf publicationRun (by decide +kernel))).mpr (by decide +kernel)

/-- What the draft and the presented screens show the user. -/
def World.shown (world : World K) : Option (Option K.Image × String) × Bool :=
  (world.draft?.map (fun draft => (draft.2.selectedImage, draft.2.captionTF)),
    world.presented.isEmpty)

/-- While the photo uploads, a second image is picked, a caption typed and the
picker opened again.  The last block of the first publication takes all three. -/
theorem newer_draft_cleared :
    let reached := endOf (.launch :: signUpEvents "alice@mail" "secret" "alice" ++
      publishEvents "beach" "sunny" "post1" () ++ stepEvents ++
      [.selectTab 1, .galleryButtonPressed, .sourceChosen, .imagePicked (some "city"), .runBlock,
        .captionEdited "rainy", .galleryButtonPressed, .sourceChosen] ++
      stepEvents ++ stepEvents ++ stepEvents : List (Event Platform.plain))
    AppRun reached.1 reached.2 ∧ reached.2.finishing? .runBlock = some "post1" ∧
      reached.2.shown = (some (some "city", "rainy"), false) ∧
      (step reached.2 .runBlock).map World.shown = some (some (none, ""), true) ∧
      ¬ Throughout Spares ((reached.2, .runBlock) :: reached.1) := by
  intro reached
  have ran : AppRun reached.1 reached.2 := appRun_endOf _ (by decide +kernel)
  have cleared : (step reached.2 .runBlock).map World.shown = some (some (none, ""), true) := by
    decide +kernel
  refine ⟨ran, by decide +kernel, by decide +kernel, cleared, ?_⟩
  intro spared
  obtain ⟨after, stepped, _⟩ := Option.map_eq_some_iff.mp cleared
  have destroys : harmless reached.1 reached.2 .runBlock = false := by decide +kernel
  rw [(spares_iff_harmless ran stepped).mp spared.1] at destroys
  cases destroys

end InstagramProject
