/-
Images picked and captions typed on the Add Photo screen, and the presses that
publish them.  The draft is cleared only by the last block of a publication, and
that block clears whatever is there.
-/

import InstagramProject.Drafts

namespace InstagramProject

open Accounting Transition

variable {K : Platform}

/-! ### Logs -/

/-- The images picked so far, the latest first. -/
def picks (past : Past K) : List K.Image :=
  past.filterMap (fun moment => moment.1.picked? moment.2)

/-- The captions typed so far, the latest first. -/
def typings (past : Past K) : List String :=
  past.filterMap (fun moment => moment.2.typed?)

/-- How many images had been picked and captions typed. -/
structure Stamp where
  picks : Nat
  captions : Nat

/-- Each publication with the stamp of its press, the latest first. -/
def stamps : Past K → List (Publication K × Stamp)
  | [] => []
  | (world, event) :: past =>
      ((world.publication? event).map (fun press =>
        (press, { picks := (picks past).length, captions := (typings past).length }))).toList ++
        stamps past

theorem picks_cons (before : World K) (event : Event K) (past : Past K) :
    picks ((before, event) :: past) = (before.picked? event).toList ++ picks past :=
  log_cons _ _ _

theorem typings_cons (before : World K) (event : Event K) (past : Past K) :
    typings ((before, event) :: past) = event.typed?.toList ++ typings past :=
  log_cons _ _ _

theorem stamps_presses (past : Past K) : (stamps past).map Prod.fst = presses past := by
  induction past with
  | nil => rfl
  | cons moment past ih =>
      obtain ⟨before, event⟩ := moment
      rw [presses_cons, ← ih]
      simp only [stamps, List.map_append]
      cases before.publication? event <;> rfl

theorem mem_presses_of_stamp {past : Past K} {entry : Publication K × Stamp}
    (member : entry ∈ stamps past) : entry.1 ∈ presses past := by
  rw [← stamps_presses]
  exact List.mem_map_of_mem member

/-- A press cannot come before the picks and captions it counts. -/
theorem stamp_le {past : Past K} {entry : Publication K × Stamp} (member : entry ∈ stamps past) :
    entry.2.picks ≤ (picks past).length ∧ entry.2.captions ≤ (typings past).length := by
  induction past with
  | nil => cases member
  | cons moment past ih =>
      obtain ⟨before, event⟩ := moment
      rw [picks_cons, typings_cons, List.length_append, List.length_append]
      rcases List.mem_append.mp member with new | old
      · obtain ⟨press, _pressed, rfl⟩ := Option.map_eq_some_iff.mp (Option.mem_toList.mp new)
        dsimp only
        omega
      · have bounds := ih old
        omega

/-! ### The draft holds the latest pick and the latest caption -/

private theorem draft_fields {before : World K}
    {draft after : Option (ControllerID × AddPhotoViewController K)} {image : Option K.Image}
    {text : Option String} (stepped : DraftStep before draft image text after)
    {screen : ControllerID} {controller : AddPhotoViewController K}
    (present : after = some (screen, controller)) :
    (controller.selectedImage = image ∨ image = none ∧ ∃ earlier,
      draft = some (screen, earlier) ∧ earlier.selectedImage = controller.selectedImage) ∧
    (controller.captionTF = text.getD "" ∨ text = none ∧ ∃ earlier,
      draft = some (screen, earlier) ∧ earlier.captionTF = controller.captionTF) := by
  cases stepped with
  | kept =>
      exact ⟨.inr ⟨rfl, controller, present, rfl⟩, .inr ⟨rfl, controller, present, rfl⟩⟩
  | closed => cases present
  | pickedNowhere _absent => cases present
  | opened _absent =>
      cases present
      exact ⟨.inl rfl, .inl rfl⟩
  | picked found =>
      cases present
      exact ⟨.inl rfl, .inr ⟨rfl, _, found, rfl⟩⟩
  | informed found _queued =>
      cases present
      exact ⟨.inr ⟨rfl, _, found, rfl⟩, .inr ⟨rfl, _, found, rfl⟩⟩
  | typed found =>
      cases present
      exact ⟨.inr ⟨rfl, _, found, rfl⟩, .inl rfl⟩
  | shown found =>
      cases present
      exact ⟨.inr ⟨rfl, _, found, rfl⟩, .inr ⟨rfl, _, found, rfl⟩⟩
  | reset _found =>
      cases present
      exact ⟨.inl rfl, .inl rfl⟩

theorem selected_latest {past : Past K} {world : World K} (ran : AppRun past world)
    {screen : ControllerID} {controller : AddPhotoViewController K} {selected : K.Image}
    (present : world.draft? = some (screen, controller))
    (selects : controller.selectedImage = some selected) :
    (picks past).head? = some selected := by
  refine ran.invariant (fun past world => ∀ screen controller selected,
    world.draft? = some (screen, controller) → controller.selectedImage = some selected →
    (picks past).head? = some selected) nofun ?_ screen controller selected present selects
  intro past before event after _earlier latest stepped screen controller selected present selects
  rw [picks_cons]
  rcases (draft_fields (draftStep_of_step stepped) present).1 with
    picked | ⟨notPicked, old, found, same⟩
  · rw [← picked, selects]
    rfl
  · rw [notPicked]
    exact latest screen old selected found (same.trans selects)

theorem caption_latest {past : Past K} {world : World K} (ran : AppRun past world)
    {screen : ControllerID} {controller : AddPhotoViewController K}
    (present : world.draft? = some (screen, controller)) (typed : controller.captionTF ≠ "") :
    (typings past).head? = some controller.captionTF := by
  refine ran.invariant (fun past world => ∀ screen controller,
    world.draft? = some (screen, controller) → controller.captionTF ≠ "" →
    (typings past).head? = some controller.captionTF) nofun ?_ screen controller present typed
  intro past before event after _earlier latest stepped screen controller present typed
  rw [typings_cons]
  rcases (draft_fields (draftStep_of_step stepped) present).2 with
    typedNow | ⟨notTyped, old, found, same⟩
  · cases text : event.typed? with
    | none =>
        rw [text] at typedNow
        exact absurd typedNow typed
    | some caption =>
        rw [text] at typedNow
        rw [typedNow]
        rfl
  · rw [notTyped, ← same]
    exact latest screen old found (same ▸ typed)

/-! ### One pick, one post -/

/-- The document is stored, or a request that would create it is under way. -/
def World.created (world : World K) (documentID : String) : Bool :=
  (world.firebase.posts documentID).isSome ||
    (world.requests ++ world.orphans).any (fun request =>
      match request with
      | .setPost creating _ _ _ _ => creating == documentID
      | _ => false)

/-- The event starts no publication, or one of a pick whose earlier publications
all failed to create their document. -/
def freshPick (past : Past K) (world : World K) (event : Event K) : Bool :=
  (world.publication? event).isNone ||
    (stamps past).all (fun entry =>
      entry.2.picks != (picks past).length || !world.created entry.1.documentID)

theorem created_iff {world : World K} {documentID : String} :
    world.created documentID = true ↔ world.firebase.posts documentID ≠ none ∨
      ∃ fields resizeImage screen writer,
        .setPost documentID fields resizeImage screen writer ∈ world.requests ∨
          .setPost documentID fields resizeImage screen writer ∈ world.orphans := by
  simp only [World.created, Bool.or_eq_true, Option.isSome_iff_ne_none, List.any_eq_true,
    List.mem_append]
  apply or_congr_right
  constructor
  · rintro ⟨request, sent, creates⟩
    cases request with
    | setPost creating fields resizeImage screen writer =>
        rw [beq_iff_eq] at creates
        subst creates
        exact ⟨fields, resizeImage, screen, writer, sent⟩
    | _ => cases creates
  · rintro ⟨fields, resizeImage, screen, writer, sent⟩
    exact ⟨_, sent, beq_self_eq_true _⟩

/-- Only a press makes the creation of a document possible. -/
theorem created_step {before after : World K} {event : Event K}
    (stepped : step before event = some after) {documentID : String}
    (notPressed : ∀ press, before.publication? event = some press →
      press.documentID ≠ documentID)
    (created : after.created documentID = true) : before.created documentID = true := by
  rw [created_iff] at created ⊢
  have worked := workStep_of_step stepped
  rcases created with stored | ⟨fields, resizeImage, screen, writer, sent | orphaned⟩
  · by_cases same : after.firebase.posts documentID = before.firebase.posts documentID
    · rw [same] at stored
      exact .inl stored
    · rcases posts_change stepped same with
        ⟨fields, resizeImage, screen, writer, effect, _⟩ |
        ⟨fields, screen, writer, document, _effect, found, _⟩
      · right
        exact ⟨fields, resizeImage, screen, writer, underway_of_effect effect⟩
      · rw [found]
        exact .inl (Option.some_ne_none _)
  · rcases worked.requests sent with old | issued
    · exact .inr ⟨fields, resizeImage, screen, writer, .inl old⟩
    · generalize isRequest : Request.setPost documentID fields resizeImage screen writer =
        request at issued
      cases issued with
      | question question =>
          rw [← isRequest] at question
          cases question
      | post pressed =>
          cases isRequest
          exact absurd rfl (notPressed _ pressed)
      | called _found asks => cases asks <;> cases isRequest
      | _ => cases isRequest
  · rcases worked.orphans orphaned with old | ⟨_ends, old⟩
    · exact .inr ⟨fields, resizeImage, screen, writer, .inr old⟩
    · exact .inr ⟨fields, resizeImage, screen, writer, .inl old⟩

/-- The stamp of a press counts the pick whose image it publishes. -/
theorem stamp_image {past : Past K} {world : World K} (ran : AppRun past world)
    {entry : Publication K × Stamp} (member : entry ∈ stamps past) :
    1 ≤ entry.2.picks ∧ ∃ photoPicked bounds,
      entry.1.image = K.resizeImage photoPicked bounds ∧
        (picks past).reverse[entry.2.picks - 1]? = some photoPicked := by
  refine ran.invariant (fun past _ => ∀ entry ∈ stamps past, 1 ≤ entry.2.picks ∧
    ∃ photoPicked bounds, entry.1.image = K.resizeImage photoPicked bounds ∧
      (picks past).reverse[entry.2.picks - 1]? = some photoPicked) nofun ?_ entry member
  intro past before event after earlier counted stepped entry member
  have reversed : (picks ((before, event) :: past)).reverse =
      (picks past).reverse ++ (before.picked? event).toList.reverse := by
    rw [picks_cons, List.reverse_append]
  rw [reversed]
  have still {index : Nat} {photoPicked : K.Image}
      (found : (picks past).reverse[index]? = some photoPicked) :
      ((picks past).reverse ++ (before.picked? event).toList.reverse)[index]? =
        some photoPicked := by
    rw [List.getElem?_append_left (List.getElem?_eq_some_iff.mp found).1]
    exact found
  rcases List.mem_append.mp member with new | old
  · obtain ⟨press, pressed, rfl⟩ := Option.map_eq_some_iff.mp (Option.mem_toList.mp new)
    obtain ⟨tabs, controller, photoPicked, bounds, inFront, _, _, isImage, selects⟩ :=
      press_of_publication pressed
    have latest := selected_latest earlier (before.draft?_of_inFront inFront).2.2 selects
    obtain ⟨rest, isPicks⟩ := List.head?_eq_some_iff.mp latest
    refine ⟨?_, photoPicked, bounds, isImage, still ?_⟩
    · rw [isPicks]
      exact Nat.succ_le_succ (Nat.zero_le _)
    · rw [isPicks, List.reverse_cons, List.length_cons, Nat.add_sub_cancel,
        List.getElem?_append_right (Nat.le_of_eq List.length_reverse), List.length_reverse,
        Nat.sub_self]
      rfl
  · obtain ⟨positive, photoPicked, bounds, isImage, found⟩ := counted entry old
    exact ⟨positive, photoPicked, bounds, isImage, still found⟩

/-- The picks whose publications have, or may still get, a document. -/
def createdPicks (past : Past K) (world : World K) : List Nat :=
  ((stamps past).filter (fun entry => world.created entry.1.documentID)).map
    (fun entry => entry.2.picks)

/-- A press names a document id that no earlier press was given. -/
theorem fresh_of_publication {before after : World K} {event : Event K}
    {press : Publication K} (stepped : step before event = some after)
    (pressed : before.publication? event = some press) :
    press.documentID ∉ before.documentIDs := by
  have started := publishingStep_of_workStep (workStep_of_step stepped)
  rw [pressed] at started
  generalize after.work.publishing = view at started
  cases started with
  | pressed fresh _free => exact fresh

theorem createdPicks_nodup {past : Past K} {world : World K} (ran : AppRun past world)
    (fresh : Throughout (fun past before event => freshPick past before event = true) past) :
    (createdPicks past world).Nodup := by
  refine ran.invariant_throughout fresh (fun past world => (createdPicks past world).Nodup)
    List.nodup_nil ?_
  intro past before event after earlier distinct permitted stepped
  have known {entry : Publication K × Stamp} (member : entry ∈ stamps past) :
      entry.1.documentID ∈ before.documentIDs := by
    have ids := (publishing_paired earlier).ids
    change before.documentIDs = _ at ids
    rw [ids]
    exact List.mem_map_of_mem (mem_presses_of_stamp member)
  -- An earlier publication gets no new chance to create its document.
  have notNew {entry : Publication K × Stamp} (member : entry ∈ stamps past)
      (created : after.created entry.1.documentID = true) :
      before.created entry.1.documentID = true := by
    refine created_step stepped ?_ created
    intro press pressed same
    exact fresh_of_publication stepped pressed (same ▸ known member)
  have older : ((stamps past).filter (fun entry => after.created entry.1.documentID)).Sublist
      ((stamps past).filter (fun entry => before.created entry.1.documentID)) := by
    have both : (stamps past).filter (fun entry => after.created entry.1.documentID) =
        ((stamps past).filter (fun entry => before.created entry.1.documentID)).filter
          (fun entry => after.created entry.1.documentID) := by
      rw [List.filter_filter]
      apply List.filter_congr
      intro entry member
      cases created : after.created entry.1.documentID with
      | false => rfl
      | true => rw [notNew member created, Bool.and_self]
    rw [both]
    exact List.filter_sublist
  unfold createdPicks at distinct ⊢
  have olderDistinct := distinct.sublist
    (older.map (fun entry : Publication K × Stamp => entry.2.picks))
  simp only [stamps, List.filter_append, List.map_append]
  cases pressed : before.publication? event with
  | none => exact olderDistinct
  | some press =>
      simp only [Option.map_some, Option.toList_some, List.filter_cons, List.filter_nil]
      split
      · rw [List.map_singleton, List.singleton_append, List.nodup_cons]
        refine ⟨?_, olderDistinct⟩
        intro member
        obtain ⟨entry, kept, same⟩ := List.mem_map.mp member
        obtain ⟨listed, created⟩ := List.mem_filter.mp kept
        simp only [freshPick, pressed, Option.isNone_some, Bool.false_or, List.all_eq_true,
          Bool.or_eq_true, bne_iff_ne, Bool.not_eq_true'] at permitted
        rcases permitted entry listed with different | never
        · exact different same
        · rw [notNew listed created] at never
          cases never
      · exact olderDistinct

/-- If no press publishes a pick again while an earlier publication of it has or
may get its document, then each pick has at most one document and there are at
most as many documents as picks. -/
theorem one_post_per_pick {past : Past K} {world : World K} (ran : AppRun past world)
    (fresh : Throughout (fun past before event => freshPick past before event = true) past) :
    (∀ left ∈ stamps past, ∀ right ∈ stamps past, left.2.picks = right.2.picks →
      world.firebase.posts left.1.documentID ≠ none →
      world.firebase.posts right.1.documentID ≠ none → left = right) ∧
    ∀ documentIDs : List String, documentIDs.Nodup →
      (∀ documentID ∈ documentIDs, world.firebase.posts documentID ≠ none) →
      documentIDs.length ≤ (picks past).length := by
  have distinct := createdPicks_nodup ran fresh
  have listed {entry : Publication K × Stamp} (member : entry ∈ stamps past)
      (stored : world.firebase.posts entry.1.documentID ≠ none) :
      entry ∈ (stamps past).filter (fun entry => world.created entry.1.documentID) :=
    List.mem_filter.mpr ⟨member, created_iff.mpr (.inl stored)⟩
  constructor
  · intro left leftMember right rightMember same leftStored rightStored
    exact List.inj_on_of_nodup_map distinct (listed leftMember leftStored)
      (listed rightMember rightStored) same
  · intro documentIDs nodup stored
    have bounded : (createdPicks past world).length ≤ (picks past).length := by
      have within : createdPicks past world ⊆ List.range' 1 (picks past).length := by
        intro number member
        obtain ⟨entry, kept, rfl⟩ := List.mem_map.mp member
        have inStamps := (List.mem_filter.mp kept).1
        have upper := (stamp_le inStamps).1
        have lower := (stamp_image ran inStamps).1
        rw [List.mem_range'_1]
        omega
      have shorter := (distinct.subperm within).length_le
      rwa [List.length_range'] at shorter
    refine le_trans ?_ bounded
    have covered : documentIDs ⊆
        ((stamps past).filter (fun entry => world.created entry.1.documentID)).map
          (fun entry => entry.1.documentID) := by
      intro documentID member
      obtain ⟨document, found⟩ := Option.ne_none_iff_exists'.mp (stored documentID member)
      obtain ⟨press, logged, rfl, _⟩ := document_cases ran found
      rw [← stamps_presses] at logged
      obtain ⟨entry, inStamps, rfl⟩ := List.mem_map.mp logged
      exact List.mem_map_of_mem (listed inStamps (stored _ member))
    have shorter := (nodup.subperm covered).length_le
    unfold createdPicks
    rwa [List.length_map] at shorter ⊢

/-- The document of the first press is refused, and the same pick is published again. -/
def secondTryRun : List (Event Platform.plain) :=
  .launch :: signUpEvents "alice@mail" "secret" "alice" ++
    publishEvents "beach" "sunny" "post1" () ++
    [.serve 0 (.failure "offline"), .callback 0, .runBlock, .dismissTop,
      .nextButtonPressed "post2" (), .serve 0 (.success "")]

theorem one_post_per_pick_secondTry :
    (presses (endOf secondTryRun).1).map Publication.documentID = ["post2", "post1"] ∧
      picks (endOf secondTryRun).1 = ["beach"] ∧
      (endOf secondTryRun).2.firebase.posts "post2" ≠ none ∧
      ∀ documentIDs : List String, documentIDs.Nodup →
        (∀ documentID ∈ documentIDs,
          (endOf secondTryRun).2.firebase.posts documentID ≠ none) →
        documentIDs.length ≤ 1 := by
  have once := one_post_per_pick (appRun_endOf secondTryRun (by decide +kernel))
    (by decide +kernel)
  have onePick : picks (endOf secondTryRun).1 = ["beach"] := by decide +kernel
  have bounded := once.2
  rw [onePick] at bounded
  exact ⟨by decide +kernel, onePick, by decide +kernel, bounded⟩

/-- Two presses while the first is in flight: one pick, two posts. -/
theorem two_posts_of_one_pick :
    let reached := endOf (.launch :: signUpEvents "alice@mail" "secret" "alice" ++
      publishEvents "beach" "sunny" "post1" () ++
      [.nextButtonPressed "post2" (), .serve 0 (.success ""), .serve 0 (.success "")] :
      List (Event Platform.plain))
    AppRun reached.1 reached.2 ∧ picks reached.1 = ["beach"] ∧
      reached.2.firebase.posts "post1" ≠ none ∧ reached.2.firebase.posts "post2" ≠ none := by
  intro reached
  exact ⟨appRun_endOf _ (by decide +kernel), by decide +kernel, by decide +kernel,
    by decide +kernel⟩

end InstagramProject
