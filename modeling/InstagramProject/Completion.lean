/-
What a publication leaves behind when nothing of it is under way any more.  No
handler undoes an earlier step, so a document without its photo stays if the
publication is cut short after the document was stored, and only then.
-/

import InstagramProject.Posts

namespace InstagramProject

open Accounting Transition

variable {K : Platform}

theorem outstanding_of_ticket {world : World K} {ticket : Ticket K}
    (member : ticket ∈ world.work.publishing.tickets) :
    world.publicationOutstanding ticket.documentID = true := by
  have named {request : Request K} (marked : publishing.request request = some ticket) :
      request.documentID? = some ticket.documentID := by
    cases request with
    | putData reference imageData caller =>
        cases caller with
        | post documentID screen => cases marked; rfl
        | profilePicture userId editor => cases marked
    | downloadURL reference caller =>
        cases caller with
        | post documentID screen => cases marked; rfl
        | profilePicture userId editor => cases marked
    | _ => cases marked <;> rfl
  have namedAnswer {request : Request K} {answer : Answer}
      (marked : publishing.response request answer = some ticket) :
      request.documentID? = some ticket.documentID := by
    cases request with
    | putData reference imageData caller =>
        cases caller <;> cases answer <;> cases marked <;> rfl
    | downloadURL reference caller => cases caller <;> cases answer <;> cases marked <;> rfl
    | _ => cases answer <;> cases marked <;> rfl
  have namedBlock {block : Block K} (marked : publishing.block block = some ticket) :
      block.documentID? = some ticket.documentID := by
    cases block <;> cases marked <;> rfl
  simp only [World.publicationOutstanding, Bool.or_eq_true, List.any_eq_true, beq_iff_eq]
  rcases (Work.mem_marks publishing world.work).mp member with
    ⟨request, sent, marked⟩ | ⟨request, orphaned, marked⟩ | ⟨response, answered, marked⟩ |
      ⟨block, queued, marked⟩
  · exact .inl (.inl (.inl ⟨request, sent, named marked⟩))
  · exact .inl (.inl (.inr ⟨request, orphaned, named marked⟩))
  · exact .inl (.inr ⟨response, answered, namedAnswer marked⟩)
  · exact .inr ⟨block, queued, namedBlock marked⟩

/-! ### Publications that are not cut short -/

/-- There is still something to store for the document. -/
def Stage.Pending : Stage K → Prop
  | .creating _ _ | .finished => False
  | _ => True

/-- While the document has no link, its publication is still under way. -/
structure Underway (world : World K) (documentID : String) : Prop where
  noOrphan : ∀ request ∈ world.orphans, request.documentID? ≠ some documentID
  pending : ∀ document, world.firebase.posts documentID = some document →
    document "photoURL" = none →
    ∃ ticket ∈ world.work.publishing.tickets, ticket.documentID = documentID ∧
      ticket.stage.Pending

private theorem noOrphan_step {before after : World K} {event : Event K} {documentID : String}
    (noOrphan : ∀ request ∈ before.orphans, request.documentID? ≠ some documentID)
    (kept : before.cutsShort documentID event = false)
    (stepped : step before event = some after) :
    ∀ request ∈ after.orphans, request.documentID? ≠ some documentID := by
  intro request member names
  rcases (workStep_of_step stepped).orphans member with old | ⟨ends, sent⟩
  · exact noOrphan request old names
  · simp only [World.cutsShort, ends, Bool.true_and, Bool.or_eq_false_iff,
      World.publicationOutstanding, List.any_eq_false, beq_iff_eq] at kept
    exact kept.1.1.1.1 request sent names

/-- What the step relation says about one publication that is not cut short. -/
private theorem pending_step {before : World K} {event : Event K} {view after : Publishing K}
    {log : List (Publication K)} {started : Option (Publication K)} {documentID : String}
    (paired : view.Paired log)
    (noOrphan : ∀ request ∈ before.orphans, request.documentID? ≠ some documentID)
    (kept : before.cutsShort documentID event = false)
    (outstanding : ∀ ticket ∈ view.tickets,
      before.publicationOutstanding ticket.documentID = true)
    (pending : ∀ document, view.posts documentID = some document →
      document "photoURL" = none →
      ∃ ticket ∈ view.tickets, ticket.documentID = documentID ∧ ticket.stage.Pending)
    (stepped : PublishingStep before event view started after) :
    ∀ document, after.posts documentID = some document → document "photoURL" = none →
      ∃ ticket ∈ after.tickets, ticket.documentID = documentID ∧ ticket.stage.Pending := by
  -- A ticket that is not pending is the only one of its document.
  have only {ticket : Ticket K} {rest : Multiset (Ticket K)}
      (held : view.tickets = {ticket} + rest) (mine : ticket.documentID = documentID)
      {document : Document} (stored : view.posts documentID = some document)
      (unlinked : document "photoURL" = none) : ticket.stage.Pending := by
    obtain ⟨other, member, same, isPending⟩ := pending document stored unlinked
    have unique : other = ticket := paired.distinct.unique member
      (by rw [held]; exact mem_singleton_add.mpr (.inl rfl)) (same.trans mine.symm)
    rw [← unique]
    exact isPending
  have others {ticket : Ticket K} {rest : Multiset (Ticket K)}
      (held : view.tickets = {ticket} + rest) (other : ticket.documentID ≠ documentID)
      {document : Document} (stored : view.posts documentID = some document)
      (unlinked : document "photoURL" = none) :
      ∃ ticket ∈ rest, ticket.documentID = documentID ∧ ticket.stage.Pending := by
    obtain ⟨found, member, same, isPending⟩ := pending document stored unlinked
    rw [held] at member
    rcases mem_singleton_add.mp member with rfl | old
    · exact absurd same other
    · exact ⟨found, old, same, isPending⟩
  have goesOn {ticket : Ticket K} {next : Option (Ticket K)} (mine : ticket.documentID = documentID)
      (continues : Continues before ticket next) : next = some ticket := by
    rcases continues with going | ⟨_nobody, request, orphaned, names⟩
    · exact going
    · exact absurd (names.trans (congrArg some mine)) (noOrphan request orphaned)
  intro document stored unlinked
  cases stepped with
  | idle => exact pending document stored unlinked
  | ended _remaining ends =>
      obtain ⟨ticket, member, same, _⟩ := pending document stored unlinked
      have waiting := outstanding ticket member
      rw [same] at waiting
      simp only [World.cutsShort, ends, waiting, Bool.and_self, Bool.true_or,
        Bool.true_eq_false] at kept
  | pressed _fresh _free =>
      obtain ⟨ticket, member, facts⟩ := pending document stored unlinked
      exact ⟨ticket, mem_singleton_add.mpr (.inr member), facts⟩
  | @advanced moving screen stage next rest held advances =>
      by_cases mine : moving = documentID
      · refine ⟨_, mem_singleton_add.mpr (.inl rfl), mine, ?_⟩
        cases advances <;> trivial
      · obtain ⟨ticket, member, facts⟩ := others held mine stored unlinked
        exact ⟨ticket, mem_singleton_add.mpr (.inr member), facts⟩
  | @stopped ticket next rest held finished stops =>
      by_cases mine : ticket.documentID = documentID
      · have isPending := only held mine stored unlinked
        rcases stops with cut | isFinished | ⟨fields, resizeImage, isCreating⟩ |
          ⟨request, orphaned, names⟩
        · rw [mine, kept] at cut
          cases cut
        · rw [isFinished] at isPending
          cases isPending
        · rw [isCreating] at isPending
          cases isPending
        · exact absurd (names.trans (congrArg some mine)) (noOrphan request orphaned)
      · obtain ⟨ticket, member, facts⟩ := others held mine stored unlinked
        exact ⟨ticket, mem_one_add.mpr (.inr member), facts⟩
  | @created creating screen fields resizeImage writer next rest _effect held continues =>
      by_cases mine : creating = documentID
      · exact ⟨_, mem_one_add.mpr (.inl (goesOn mine continues)), mine, trivial⟩
      · dsimp only at stored
        rw [Function.update_of_ne (Ne.symm mine)] at stored
        obtain ⟨ticket, member, facts⟩ := others held mine stored unlinked
        exact ⟨ticket, mem_one_add.mpr (.inr member), facts⟩
  | @uploaded uploading reference screen imageData version next rest _effect held continues =>
      by_cases mine : uploading = documentID
      · exact ⟨_, mem_one_add.mpr (.inl (goesOn mine continues)), mine, trivial⟩
      · obtain ⟨ticket, member, facts⟩ := others held mine stored unlinked
        exact ⟨ticket, mem_one_add.mpr (.inr member), facts⟩
  | @unheard uploading reference screen imageData version rest held cut =>
      by_cases mine : uploading = documentID
      · rw [mine, kept] at cut
        cases cut
      · obtain ⟨ticket, member, facts⟩ := others held mine stored unlinked
        exact ⟨ticket, mem_singleton_add.mpr (.inr member), facts⟩
  | @linked linking screen fields writer old next rest _effect held _continues _found =>
      by_cases mine : linking = documentID
      · obtain ⟨publication, _, _, _, milestone, _, version, isLink, _⟩ :=
          paired.ticket_fits (by rw [held]; exact mem_singleton_add.mpr (.inl rfl))
        subst mine
        dsimp only at stored
        rw [Function.update_self] at stored
        cases stored
        rw [isLink] at unlinked
        cases unlinked
      · dsimp only at stored
        rw [Function.update_of_ne (Ne.symm mine)] at stored
        obtain ⟨ticket, member, facts⟩ := others held mine stored unlinked
        exact ⟨ticket, mem_one_add.mpr (.inr member), facts⟩
  | pictured _effect => exact pending document stored unlinked

theorem underway {past : Past K} {world : World K} {documentID : String}
    (ran : AppRun past world)
    (kept : Throughout (fun _ before event => before.cutsShort documentID event = false) past) :
    Underway world documentID := by
  refine ran.invariant_throughout kept (fun _ world => Underway world documentID) ?_ ?_
  · exact ⟨nofun, nofun⟩
  · intro past before event after earlier going permitted stepped
    exact ⟨noOrphan_step going.noOrphan permitted stepped,
      pending_step (publishing_paired earlier) going.noOrphan permitted
        (fun ticket member => outstanding_of_ticket member) going.pending
        (publishingStep_of_workStep (workStep_of_step stepped))⟩

/-! ### When nothing is outstanding -/

/-- The document has a link to its own object, and the object is there. -/
def World.HasPhoto (world : World K) (documentID : String) (document : Document) : Prop :=
  ∃ object, world.firebase.storage (postPhotoPath documentID) = some object ∧
    document "photoURL" = some (.string (K.absoluteString
      { path := postPhotoPath documentID, version := object.version }))

theorem photo_or_unlinked {past : Past K} {world : World K} (ran : AppRun past world)
    {documentID : String} {document : Document}
    (stored : world.firebase.posts documentID = some document) :
    world.HasPhoto documentID document ∨ document "photoURL" = none := by
  obtain ⟨press, _, rfl, rfl | ⟨version, rfl, imageData, _, held⟩⟩ := document_cases ran stored
  · exact .inr rfl
  · exact .inl ⟨_, held, rfl⟩

/-- Once nothing of a publication is outstanding there is no document, a document
with its photo, or one without a link; and the last only if some step cut the
publication short. -/
theorem publication_outcome {past : Past K} {world : World K} (ran : AppRun past world)
    {documentID : String} (settled : world.publicationOutstanding documentID = false) :
    (world.firebase.posts documentID = none ∨
      ∃ document, world.firebase.posts documentID = some document ∧
        (world.HasPhoto documentID document ∨ document "photoURL" = none)) ∧
    (Throughout (fun _ before event => before.cutsShort documentID event = false) past →
      world.firebase.posts documentID = none ∨
        ∃ document, world.firebase.posts documentID = some document ∧
          world.HasPhoto documentID document) := by
  constructor
  · cases stored : world.firebase.posts documentID with
    | none => exact .inl rfl
    | some document => exact .inr ⟨document, rfl, photo_or_unlinked ran stored⟩
  · intro kept
    cases stored : world.firebase.posts documentID with
    | none => exact .inl rfl
    | some document =>
        refine .inr ⟨document, rfl, ?_⟩
        rcases photo_or_unlinked ran stored with photo | unlinked
        · exact photo
        · obtain ⟨ticket, member, same, _⟩ := (underway ran kept).pending document stored unlinked
          have waiting := outstanding_of_ticket member
          rw [same, settled] at waiting
          cases waiting

/-- The publication of `publicationRun` leaves a post with its photo. -/
theorem publication_outcome_completed :
    ∃ document, (endOf publicationRun).2.firebase.posts "post1" = some document ∧
      (endOf publicationRun).2.HasPhoto "post1" document := by
  have ran := appRun_endOf publicationRun (by decide +kernel)
  have stored : ((endOf publicationRun).2.firebase.posts "post1").isSome := by decide +kernel
  have settled : (endOf publicationRun).2.publicationOutstanding "post1" = false := by
    decide +kernel
  rcases (publication_outcome ran settled).2 (by decide +kernel) with absent | complete
  · rw [absent] at stored
    cases stored
  · exact complete

/-- The upload fails and the document stays without a photo. -/
theorem document_without_photo :
    let reached := endOf (.launch :: signUpEvents "alice@mail" "secret" "alice" ++
      publishEvents "beach" "sunny" "post1" () ++ stepEvents ++
      [.serve 0 (.failure "offline"), .callback 0, .runBlock] : List (Event Platform.plain))
    AppRun reached.1 reached.2 ∧ reached.2.publicationOutstanding "post1" = false ∧
      reached.2.requests = [] ∧ reached.2.orphans = [] ∧ reached.2.responses = [] ∧
      reached.2.mainQueue = [] ∧
      ∃ document, reached.2.firebase.posts "post1" = some document ∧
        document "photoURL" = none :=
  ⟨appRun_endOf _ (by decide +kernel), by decide +kernel, rfl, rfl, rfl, rfl, _, rfl, rfl⟩

end InstagramProject
