/-
The `posts` collection over whole runs.  Each document belongs to one press of
Next and passes through fixed milestones: nothing, the document, the photo, the
link.  The ticket of a publication fits the milestone it has reached.
-/

import InstagramProject.Publishing

namespace InstagramProject

open Accounting Transition

variable {K : Platform}

/-! ### Milestones -/

/-- What the services hold for a publication; the version is that of the photo. -/
inductive Milestone
  | nothing
  | document
  | photo (version : Nat)
  | linked (version : Nat)

namespace Publication

variable (publication : Publication K)

def path : String := postPhotoPath publication.documentID

def photoURL (version : Nat) : URL := { path := publication.path, version := version }

def document : Document := Document.setData publication.fields

def linkedDocument (version : Nat) : Document :=
  publication.document.updateData
    [("photoURL", K.absoluteString (publication.photoURL version))]

end Publication

/-- The stored object is the encoded photo of the publication. -/
def Publishing.HoldsPhoto (view : Publishing K) (publication : Publication K)
    (version : Nat) : Prop :=
  ∃ imageData, K.jpegData publication.image = some imageData ∧
    view.storage publication.path = some { data := imageData, version := version }

def Publishing.At (view : Publishing K) (publication : Publication K) : Milestone → Prop
  | .nothing =>
      view.posts publication.documentID = none ∧ view.storage publication.path = none
  | .document =>
      view.posts publication.documentID = some publication.document ∧
        view.storage publication.path = none
  | .photo version =>
      view.posts publication.documentID = some publication.document ∧
        view.HoldsPhoto publication version
  | .linked version =>
      view.posts publication.documentID = some (publication.linkedDocument version) ∧
        view.HoldsPhoto publication version

/-- The request, answer or block at this stage is the one the publication needs
next. -/
def Stage.Fits (publication : Publication K) (milestone : Milestone) : Stage K → Prop
  | .creating fields resizeImage =>
      fields = publication.fields ∧ resizeImage = publication.image ∧ milestone = .nothing
  | .created resizeImage => resizeImage = publication.image ∧ milestone = .document
  | .uploading reference imageData =>
      reference = publication.path ∧ K.jpegData publication.image = some imageData ∧
        milestone = .document
  | .uploaded reference | .locating reference =>
      reference = publication.path ∧ ∃ version, milestone = .photo version
  | .located url => ∃ version, url = publication.photoURL version ∧ milestone = .photo version
  | .linking fields =>
      ∃ version, fields = [("photoURL", K.absoluteString (publication.photoURL version))] ∧
        milestone = .photo version
  | .finished => True

/-- Documents, objects and tickets are those of the presses in the log, each
publication by itself. -/
structure Publishing.Paired (view : Publishing K) (log : List (Publication K)) : Prop where
  ids : view.documentIDs = log.map Publication.documentID
  fresh : view.documentIDs.Nodup
  free : ∀ documentID ∈ view.documentIDs, SlashFree documentID
  distinct : Distinct Ticket.documentID view.tickets
  known : ∀ ticket ∈ view.tickets, ticket.documentID ∈ view.documentIDs
  posts : ∀ documentID, view.posts documentID ≠ none → documentID ∈ view.documentIDs
  objects : ∀ documentID, SlashFree documentID →
    view.storage (postPhotoPath documentID) ≠ none → documentID ∈ view.documentIDs
  progress : ∀ publication ∈ log, ∃ milestone, view.At publication milestone ∧
    ∀ ticket ∈ view.tickets, ticket.documentID = publication.documentID →
      ticket.screen = publication.screen ∧ ticket.stage.Fits publication milestone

namespace Publishing.Paired

variable {view after : Publishing K} {log : List (Publication K)}

private theorem at_congr {publication : Publication K} {milestone : Milestone}
    (reached : view.At publication milestone)
    (samePost : after.posts publication.documentID = view.posts publication.documentID)
    (sameObject : after.storage publication.path = view.storage publication.path) :
    after.At publication milestone := by
  cases milestone <;>
    simpa only [Publishing.At, Publishing.HoldsPhoto, samePost, sameObject] using reached

theorem freeOf (paired : view.Paired log) {publication : Publication K}
    (member : publication ∈ log) : SlashFree publication.documentID := by
  apply paired.free
  rw [paired.ids]
  exact List.mem_map_of_mem member

theorem publication_unique (paired : view.Paired log) {left right : Publication K}
    (leftMember : left ∈ log) (rightMember : right ∈ log)
    (same : left.documentID = right.documentID) : left = right := by
  have fresh := paired.fresh
  rw [paired.ids] at fresh
  exact List.inj_on_of_nodup_map fresh leftMember rightMember same

/-- One publication moves; the others keep their documents, objects and tickets. -/
private theorem moves (paired : view.Paired log) {ticket : Ticket K}
    {kept : Option (Ticket K)} {rest : Multiset (Ticket K)}
    (held : view.tickets = {ticket} + rest)
    (sameIDs : after.documentIDs = view.documentIDs)
    (tickets : after.tickets = one kept + rest)
    (sameKey : ∀ next, kept = some next →
      next.documentID = ticket.documentID ∧ next.screen = ticket.screen)
    (otherPosts : ∀ documentID, documentID ≠ ticket.documentID →
      after.posts documentID = view.posts documentID)
    (otherObjects : ∀ path, path ≠ postPhotoPath ticket.documentID →
      after.storage path = view.storage path)
    (moved : ∀ publication ∈ log, publication.documentID = ticket.documentID →
      ∀ milestone, view.At publication milestone →
        ticket.stage.Fits publication milestone →
        ∃ reached, after.At publication reached ∧
          ∀ next, kept = some next → next.stage.Fits publication reached) :
    after.Paired log := by
  have mine : ticket ∈ view.tickets := by
    rw [held]
    exact mem_singleton_add.mpr (.inl rfl)
  have others {other : Ticket K} (member : other ∈ rest) : other ∈ view.tickets := by
    rw [held]
    exact mem_singleton_add.mpr (.inr member)
  have distinct := paired.distinct
  rw [held] at distinct
  have different {other : Ticket K} (member : other ∈ rest) :
      other.documentID ≠ ticket.documentID := (distinct_cons.mp distinct).1 other member
  have ticketKnown := paired.known ticket mine
  have otherPath {documentID : String} (free : SlashFree documentID)
      (different : documentID ≠ ticket.documentID) :
      postPhotoPath documentID ≠ postPhotoPath ticket.documentID :=
    fun same => different (postPhotoPath_injective free (paired.free _ ticketKnown) same)
  refine ⟨sameIDs.trans paired.ids, ?_, ?_, ?_, ?_, ?_, ?_, ?_⟩
  · rw [sameIDs]
    exact paired.fresh
  · rw [sameIDs]
    exact paired.free
  · rw [tickets]
    cases kept with
    | none =>
        rw [one_none, zero_add]
        exact (distinct_cons.mp distinct).2
    | some next => exact distinct.replace (sameKey next rfl).1
  · intro other member
    rw [sameIDs]
    rw [tickets] at member
    rcases mem_one_add.mp member with new | old
    · rw [(sameKey other new).1]
      exact ticketKnown
    · exact paired.known other (others old)
  · intro documentID stored
    rw [sameIDs]
    by_cases same : documentID = ticket.documentID
    · rw [same]
      exact ticketKnown
    · rw [otherPosts documentID same] at stored
      exact paired.posts documentID stored
  · intro documentID free stored
    rw [sameIDs]
    by_cases same : documentID = ticket.documentID
    · rw [same]
      exact ticketKnown
    · rw [otherObjects _ (otherPath free same)] at stored
      exact paired.objects documentID free stored
  · intro publication member
    obtain ⟨milestone, reached, fits⟩ := paired.progress publication member
    by_cases same : publication.documentID = ticket.documentID
    · obtain ⟨sameScreen, fitsMine⟩ := fits ticket mine same.symm
      obtain ⟨next, reachedNext, fitsNext⟩ :=
        moved publication member same milestone reached fitsMine
      refine ⟨next, reachedNext, ?_⟩
      intro other otherMember otherSame
      rw [tickets] at otherMember
      rcases mem_one_add.mp otherMember with new | old
      · exact ⟨(sameKey other new).2.trans sameScreen, fitsNext other new⟩
      · exact absurd (otherSame.trans same) (different old)
    · refine ⟨milestone, at_congr reached (otherPosts _ same)
        (otherObjects _ (otherPath (paired.freeOf member) same)), ?_⟩
      intro other otherMember otherSame
      rw [tickets] at otherMember
      rcases mem_one_add.mp otherMember with new | old
      · exact absurd (otherSame.symm.trans (sameKey other new).1) same
      · exact fits other (others old) otherSame

private theorem fewer (paired : view.Paired log) {remaining : Multiset (Ticket K)}
    (fewer : remaining ≤ view.tickets) : Paired { view with tickets := remaining } log := by
  have still {ticket : Ticket K} (member : ticket ∈ remaining) : ticket ∈ view.tickets :=
    Multiset.mem_of_le fewer member
  refine ⟨paired.ids, paired.fresh, paired.free, paired.distinct.drop fewer,
    fun ticket member => paired.known ticket (still member), paired.posts, paired.objects, ?_⟩
  intro publication member
  obtain ⟨milestone, reached, fits⟩ := paired.progress publication member
  exact ⟨milestone, at_congr reached rfl rfl,
    fun ticket ticketMember => fits ticket (still ticketMember)⟩

private theorem pressed (paired : view.Paired log) {publication : Publication K}
    (fresh : publication.documentID ∉ view.documentIDs)
    (free : SlashFree publication.documentID) :
    Paired
      { view with
        documentIDs := publication.documentID :: view.documentIDs
        tickets := {⟨publication.documentID, publication.screen,
          .creating publication.fields publication.image⟩} + view.tickets }
      (publication :: log) := by
  refine ⟨?_, List.nodup_cons.mpr ⟨fresh, paired.fresh⟩, ?_, ?_, ?_, ?_, ?_, ?_⟩
  · rw [List.map_cons, ← paired.ids]
  · intro documentID member
    rcases List.mem_cons.mp member with rfl | old
    · exact free
    · exact paired.free documentID old
  · apply paired.distinct.add
    intro other member same
    change other.documentID = publication.documentID at same
    exact fresh (same ▸ paired.known other member)
  · intro ticket member
    rcases mem_singleton_add.mp member with rfl | old
    · exact List.mem_cons_self
    · exact List.mem_cons_of_mem _ (paired.known ticket old)
  · intro documentID stored
    exact List.mem_cons_of_mem _ (paired.posts documentID stored)
  · intro documentID otherFree stored
    exact List.mem_cons_of_mem _ (paired.objects documentID otherFree stored)
  · intro other member
    rcases List.mem_cons.mp member with rfl | old
    · refine ⟨.nothing, ⟨?_, ?_⟩, ?_⟩
      · by_contra stored
        exact fresh (paired.posts _ stored)
      · by_contra stored
        exact fresh (paired.objects _ free stored)
      · intro ticket ticketMember same
        rcases mem_singleton_add.mp ticketMember with rfl | oldTicket
        · exact ⟨rfl, rfl, rfl, rfl⟩
        · exact absurd (same ▸ paired.known ticket oldTicket) fresh
    · obtain ⟨milestone, reached, fits⟩ := paired.progress other old
      refine ⟨milestone, at_congr reached rfl rfl, ?_⟩
      intro ticket ticketMember same
      rcases mem_singleton_add.mp ticketMember with rfl | oldTicket
      · refine absurd ?_ fresh
        change publication.documentID = other.documentID at same
        rw [same, paired.ids]
        exact List.mem_map_of_mem old
      · exact fits ticket oldTicket same

/-- Storing a profile picture touches no post. -/
private theorem pictured (paired : view.Paired log) {userId : UID} (free : SlashFree userId)
    {object : StoredObject K} :
    Paired
      { view with
        storage := Function.update view.storage (profilePhotoPath userId) (some object) } log := by
  have other {documentID : String} (postFree : SlashFree documentID) :
      Function.update view.storage (profilePhotoPath userId) (some object)
        (postPhotoPath documentID) = view.storage (postPhotoPath documentID) :=
    Function.update_of_ne (postPhotoPath_ne_profilePhotoPath postFree free) _ _
  refine ⟨paired.ids, paired.fresh, paired.free, paired.distinct, paired.known, paired.posts,
    ?_, ?_⟩
  · intro documentID postFree stored
    dsimp only at stored
    rw [other postFree] at stored
    exact paired.objects documentID postFree stored
  · intro publication member
    obtain ⟨milestone, reached, fits⟩ := paired.progress publication member
    refine ⟨milestone, at_congr reached rfl ?_, fits⟩
    dsimp only
    exact other (paired.freeOf member)

private theorem advanced (paired : view.Paired log) {documentID : String}
    {screen : ControllerID} {stage next : Stage K} {rest : Multiset (Ticket K)}
    (held : view.tickets = {⟨documentID, screen, stage⟩} + rest)
    (advances : Advances view documentID stage next) :
    Paired { view with tickets := {⟨documentID, screen, next⟩} + rest } log := by
  have moving : {⟨documentID, screen, next⟩} + rest =
      one (some (⟨documentID, screen, next⟩ : Ticket K)) + rest := rfl
  refine paired.moves held rfl moving
    (fun _ same => Option.some.inj same ▸ ⟨rfl, rfl⟩) (fun _ _ => rfl) (fun _ _ => rfl) ?_
  rintro publication _member rfl milestone reached fits
  refine ⟨milestone, at_congr reached rfl rfl, ?_⟩
  rintro _ ⟨⟩
  cases advances with
  | upload encoded =>
      obtain ⟨rfl, rfl⟩ := fits
      exact ⟨rfl, encoded, rfl⟩
  | locate => exact fits
  | answer stored =>
      obtain ⟨rfl, version, rfl⟩ := fits
      obtain ⟨_posted, imageData, _encoded, found⟩ := reached
      rw [stored] at found
      cases found
      exact ⟨version, rfl, rfl⟩
  | link =>
      obtain ⟨version, rfl, rfl⟩ := fits
      exact ⟨version, rfl, rfl⟩

private theorem stopped (paired : view.Paired log) {ticket : Ticket K}
    {kept : Option (Ticket K)} {rest : Multiset (Ticket K)}
    (held : view.tickets = {ticket} + rest)
    (finished : kept = none ∨ kept = some { ticket with stage := .finished }) :
    Paired { view with tickets := one kept + rest } log := by
  refine paired.moves held rfl rfl ?_ (fun _ _ => rfl) (fun _ _ => rfl) ?_
  · rintro next rfl
    rcases finished with nobody | same
    · cases nobody
    · cases same
      exact ⟨rfl, rfl⟩
  · intro publication _member _same milestone reached _fits
    refine ⟨milestone, at_congr reached rfl rfl, ?_⟩
    rintro next rfl
    rcases finished with nobody | same
    · cases nobody
    · cases same
      trivial

private theorem continues_key {before : World K} {ticket : Ticket K} {kept : Option (Ticket K)}
    (continues : Continues before ticket kept) (next : Ticket K) (same : kept = some next) :
    next = ticket := by
  rcases continues with going | ⟨nobody, _orphan⟩
  · exact Option.some.inj (same.symm.trans going)
  · rw [nobody] at same
    cases same

private theorem created (paired : view.Paired log) {before : World K} {documentID : String}
    {screen : ControllerID} {fields : Fields} {resizeImage : K.Image}
    {kept : Option (Ticket K)} {rest : Multiset (Ticket K)}
    (held : view.tickets = {⟨documentID, screen, .creating fields resizeImage⟩} + rest)
    (continues : Continues before ⟨documentID, screen, .created resizeImage⟩ kept) :
    Paired
      { view with
        posts := Function.update view.posts documentID (some (Document.setData fields))
        tickets := one kept + rest } log := by
  refine paired.moves held rfl rfl ?_ (fun _ other => Function.update_of_ne other _ _)
    (fun _ _ => rfl) ?_
  · intro next same
    rw [continues_key continues next same]
    exact ⟨rfl, rfl⟩
  · rintro publication _member rfl milestone reached ⟨rfl, rfl, rfl⟩
    refine ⟨.document, ⟨Function.update_self _ _ _, reached.2⟩, ?_⟩
    intro next same
    rw [continues_key continues next same]
    exact ⟨rfl, rfl⟩

private theorem uploaded (paired : view.Paired log) {documentID reference : String}
    {screen : ControllerID} {imageData : K.Data} {version : Nat} {kept : Option (Ticket K)}
    {rest : Multiset (Ticket K)}
    (held : view.tickets = {⟨documentID, screen, .uploading reference imageData⟩} + rest)
    (goesOn : ∀ next, kept = some next →
      next = ⟨documentID, screen, .uploaded reference⟩ ∨ next = ⟨documentID, screen, .finished⟩)
    (isPhoto : reference = postPhotoPath documentID) :
    Paired
      { view with
        storage := Function.update view.storage reference
          (some { data := imageData, version := version })
        tickets := one kept + rest } log := by
  subst isPhoto
  refine paired.moves held rfl rfl ?_ (fun _ _ => rfl)
    (fun _ other => Function.update_of_ne other _ _) ?_
  · intro next same
    rcases goesOn next same with rfl | rfl <;> exact ⟨rfl, rfl⟩
  · rintro publication _member rfl milestone reached ⟨_isPath, encoded, rfl⟩
    refine ⟨.photo version, ⟨reached.1, imageData, encoded, Function.update_self _ _ _⟩, ?_⟩
    intro next same
    rcases goesOn next same with rfl | rfl
    · exact ⟨rfl, version, rfl⟩
    · trivial

private theorem linked (paired : view.Paired log) {before : World K} {documentID : String}
    {screen : ControllerID} {fields : Fields} {document : Document}
    {kept : Option (Ticket K)} {rest : Multiset (Ticket K)}
    (held : view.tickets = {⟨documentID, screen, .linking fields⟩} + rest)
    (continues : Continues before ⟨documentID, screen, .finished⟩ kept)
    (stored : view.posts documentID = some document) :
    Paired
      { view with
        posts := Function.update view.posts documentID (some (document.updateData fields))
        tickets := one kept + rest } log := by
  refine paired.moves held rfl rfl ?_ (fun _ other => Function.update_of_ne other _ _)
    (fun _ _ => rfl) ?_
  · intro next same
    rw [continues_key continues next same]
    exact ⟨rfl, rfl⟩
  · rintro publication _member rfl milestone reached ⟨version, rfl, rfl⟩
    rw [reached.1] at stored
    cases stored
    refine ⟨.linked version, ⟨Function.update_self _ _ _, reached.2⟩, ?_⟩
    intro next same
    rw [continues_key continues next same]
    trivial

/-- What a ticket holds, by the press it belongs to. -/
theorem ticket_fits (paired : view.Paired log) {ticket : Ticket K}
    (member : ticket ∈ view.tickets) :
    ∃ publication ∈ log, publication.documentID = ticket.documentID ∧
      publication.screen = ticket.screen ∧
      ∃ milestone, view.At publication milestone ∧ ticket.stage.Fits publication milestone := by
  have known := paired.known ticket member
  rw [paired.ids] at known
  obtain ⟨publication, logged, same⟩ := List.mem_map.mp known
  obtain ⟨milestone, reached, fits⟩ := paired.progress publication logged
  obtain ⟨sameScreen, fitting⟩ := fits ticket member same.symm
  exact ⟨publication, logged, same, sameScreen.symm, milestone, reached, fitting⟩

private theorem uploading_path (paired : view.Paired log) {documentID reference : String}
    {screen : ControllerID} {imageData : K.Data} {rest : Multiset (Ticket K)}
    (held : view.tickets = {⟨documentID, screen, .uploading reference imageData⟩} + rest) :
    reference = postPhotoPath documentID := by
  obtain ⟨publication, _, same, _, _, _, isPath, _⟩ := paired.ticket_fits
    (by rw [held]; exact mem_singleton_add.mpr (.inl rfl))
  rw [isPath, Publication.path, same]

theorem step {before : World K} {event : Event K} {started : Option (Publication K)}
    (paired : view.Paired log) (stepped : PublishingStep before event view started after)
    (pictures : ∀ reference imageData userId editor,
      before.effect? event = some (.putData reference imageData (.profilePicture userId editor)) →
      reference = profilePhotoPath userId ∧ SlashFree userId) :
    after.Paired (started.toList ++ log) := by
  cases stepped with
  | idle => exact paired
  | ended remaining _ends => exact paired.fewer remaining
  | pressed fresh free => exact paired.pressed fresh free
  | advanced held advances => exact paired.advanced held advances
  | stopped held finished _stops => exact paired.stopped held finished
  | created _effect held continues => exact paired.created held continues
  | uploaded _effect held continues =>
      exact paired.uploaded held (fun next same => .inl (continues_key continues next same))
        (paired.uploading_path held)
  | unheard held _cut =>
      exact paired.uploaded held (fun _ same => .inr (Option.some.inj same).symm)
        (paired.uploading_path held)
  | linked _effect held continues stored => exact paired.linked held continues stored
  | pictured effect =>
      obtain ⟨rfl, free⟩ := pictures _ _ _ _ effect
      exact paired.pictured free

end Publishing.Paired

/-! ### Every run -/

/-- The publications started so far, the latest first. -/
def presses (past : Past K) : List (Publication K) :=
  past.filterMap (fun moment => moment.1.publication? moment.2)

theorem presses_cons (before : World K) (event : Event K) (past : Past K) :
    presses ((before, event) :: past) = (before.publication? event).toList ++ presses past :=
  log_cons _ _ _

theorem publishing_paired {past : Past K} {world : World K} (ran : AppRun past world) :
    world.work.publishing.Paired (presses past) := by
  refine ran.invariant (fun past world => world.work.publishing.Paired (presses past)) ?_ ?_
  · exact
      { ids := rfl
        fresh := List.nodup_nil
        free := nofun
        distinct := .zero
        known := fun _ member => absurd member (Multiset.notMem_zero _)
        posts := fun _ stored => absurd rfl stored
        objects := fun _ _ stored => absurd rfl stored
        progress := nofun }
  · intro past before event after earlier paired stepped
    rw [presses_cons]
    apply paired.step (publishingStep_of_workStep (workStep_of_step stepped))
    intro reference imageData userId editor effect
    obtain ⟨isProfile, free, _⟩ := picture_of_pending earlier (pending_of_effect effect)
    exact ⟨isProfile, free⟩

/-- A stored document is that of its press, without or with the link. -/
theorem document_cases {past : Past K} {world : World K} (ran : AppRun past world)
    {documentID : String} {document : Document}
    (stored : world.firebase.posts documentID = some document) :
    ∃ publication ∈ presses past, publication.documentID = documentID ∧
      (document = publication.document ∨
        ∃ version, document = publication.linkedDocument version ∧
          world.work.publishing.HoldsPhoto publication version) := by
  have paired := publishing_paired ran
  have present : world.firebase.posts documentID ≠ none := by
    rw [stored]
    exact Option.some_ne_none _
  have known := paired.posts documentID present
  rw [paired.ids] at known
  obtain ⟨publication, logged, rfl⟩ := List.mem_map.mp known
  obtain ⟨milestone, reached, _⟩ := paired.progress publication logged
  refine ⟨publication, logged, rfl, ?_⟩
  change world.work.publishing.posts publication.documentID = some document at stored
  cases milestone with
  | nothing => rw [reached.1] at stored; cases stored
  | document => rw [reached.1] at stored; cases stored; exact .inl rfl
  | photo version => rw [reached.1] at stored; cases stored; exact .inl rfl
  | linked version =>
      rw [reached.1] at stored
      cases stored
      exact .inr ⟨version, rfl, reached.2⟩

/-! ### What changes a document -/

theorem posts_change {before after : World K} {event : Event K} {documentID : String}
    (stepped : step before event = some after)
    (changed : after.firebase.posts documentID ≠ before.firebase.posts documentID) :
    (∃ fields resizeImage screen writer,
        before.effect? event = some (.setPost documentID fields resizeImage screen writer) ∧
        after.firebase.posts documentID = some (Document.setData fields)) ∨
      ∃ fields screen writer document,
        before.effect? event = some (.updatePost documentID fields screen writer) ∧
        before.firebase.posts documentID = some document ∧
        after.firebase.posts documentID = some (document.updateData fields) := by
  rcases firebase_step stepped with ⟨_noEffect, same⟩ |
    ⟨request, newUID, answer, effect, performed⟩
  · rw [same] at changed
    exact absurd rfl changed
  · generalize result : after.firebase = firebase at performed changed ⊢
    cases performed with
    | @setPost created _ fields resizeImage screen writer =>
        by_cases same : documentID = created
        · subst same
          exact .inl ⟨fields, resizeImage, screen, writer, effect, Function.update_self _ _ _⟩
        · exact absurd (Function.update_of_ne same _ _) changed
    | @updatePost linked _ fields screen writer document stored =>
        by_cases same : documentID = linked
        · subst same
          exact .inr
            ⟨fields, screen, writer, document, effect, stored, Function.update_self _ _ _⟩
        · exact absurd (Function.update_of_ne same _ _) changed
    | _ => exact absurd rfl changed

theorem ticket_of_effect {world : World K} {event : Event K} {request : Request K}
    {ticket : Ticket K} (effect : world.effect? event = some request)
    (marked : publishing.request request = some ticket) :
    ticket ∈ world.work.publishing.tickets :=
  mark_of_effect publishing effect marked

/-- A document is only ever created where there was none. -/
theorem post_creation {past : Past K} {world : World K} (ran : AppRun past world)
    {event : Event K} {documentID : String} {fields : Fields} {resizeImage : K.Image}
    {screen : ControllerID} {writer : Option UID}
    (effect : world.effect? event = some (.setPost documentID fields resizeImage screen writer)) :
    world.firebase.posts documentID = none ∧
      ∃ publication : Publication K, fields = publication.fields := by
  obtain ⟨publication, _, same, _, milestone, reached, isFields, _, rfl⟩ :=
    (publishing_paired ran).ticket_fits (ticket_of_effect effect rfl)
  change publication.documentID = documentID at same
  rw [← same]
  exact ⟨reached.1, publication, isFields⟩

/-- A photo of a post is only ever stored at the place of its document. -/
theorem post_upload {past : Past K} {world : World K} (ran : AppRun past world)
    {event : Event K} {reference documentID : String} {imageData : K.Data}
    {screen : ControllerID}
    (effect : world.effect? event = some (.putData reference imageData (.post documentID screen))) :
    reference = postPhotoPath documentID ∧ SlashFree documentID := by
  have paired := publishing_paired ran
  have ticket := ticket_of_effect effect rfl
  obtain ⟨publication, _, same, _, _, _, isPath, _⟩ := paired.ticket_fits ticket
  change publication.documentID = documentID at same
  rw [← same]
  refine ⟨isPath, paired.free _ ?_⟩
  rw [same]
  exact paired.known _ ticket

/-- A link is only ever set on a document that has none. -/
theorem post_link {past : Past K} {world : World K} (ran : AppRun past world)
    {event : Event K} {documentID : String} {fields : Fields} {screen : ControllerID}
    {writer : Option UID}
    (effect : world.effect? event = some (.updatePost documentID fields screen writer)) :
    ∃ (publication : Publication K) (version : Nat), publication.documentID = documentID ∧
      fields = [("photoURL", K.absoluteString (publication.photoURL version))] ∧
      world.firebase.posts documentID = some publication.document := by
  obtain ⟨publication, _, same, _, milestone, reached, version, isLink, rfl⟩ :=
    (publishing_paired ran).ticket_fits (ticket_of_effect effect rfl)
  change publication.documentID = documentID at same
  refine ⟨publication, version, same, isLink, ?_⟩
  rw [← same]
  exact reached.1

/-- A stored field never changes. -/
theorem post_field_persists {past recent : Past K} {world later : World K}
    (ran : AppRun past world) (longer : AppRun (recent ++ past) later) {documentID field : String}
    {document : Document} {value : FieldValue}
    (stored : world.firebase.posts documentID = some document)
    (present : document field = some value) :
    ∃ document', later.firebase.posts documentID = some document' ∧
      document' field = some value := by
  refine ran.persists longer (fun world => ∃ document',
    world.firebase.posts documentID = some document' ∧ document' field = some value)
    ⟨document, stored, present⟩ ?_
  rintro past before event after earlier ⟨document', stored', present'⟩ stepped
  by_cases same : after.firebase.posts documentID = before.firebase.posts documentID
  · exact ⟨document', same.trans stored', present'⟩
  · rcases posts_change stepped same with ⟨fields, resizeImage, screen, writer, effect, _⟩ |
      ⟨fields, screen, writer, current, effect, found, updated⟩
    · rw [(post_creation earlier effect).1] at stored'
      cases stored'
    · obtain ⟨publication, version, _, rfl, unlinked⟩ := post_link earlier effect
      rw [stored'] at found unlinked
      cases found
      cases unlinked
      refine ⟨_, updated, ?_⟩
      rw [Document.updateData_of_lookup_none]
      · exact present'
      · have notLink : field ≠ "photoURL" := by
          rintro rfl
          cases present'
        simp only [List.lookup_cons, beq_false_of_ne notLink, List.lookup_nil]

/-- The document whose link is set in an event. -/
def World.linked? (world : World K) (event : Event K) : Option String :=
  match world.effect? event with
  | some (.updatePost documentID _ _ _) => some documentID
  | _ => none

def linkedPosts (past : Past K) : List String :=
  past.filterMap (fun moment => moment.1.linked? moment.2)

/-- Links are set once, and a document has one exactly when it was set. -/
structure LinkLog (past : Past K) (world : World K) : Prop where
  once : (linkedPosts past).Nodup
  stored : ∀ documentID, documentID ∈ linkedPosts past ↔
    ∃ document, world.firebase.posts documentID = some document ∧ document "photoURL" ≠ none

private theorem effect_of_linked {world : World K} {event : Event K} {documentID : String}
    (linked : world.linked? event = some documentID) :
    ∃ fields screen writer,
      world.effect? event = some (.updatePost documentID fields screen writer) := by
  unfold World.linked? at linked
  split at linked
  · rename_i fields screen writer effect
    cases linked
    exact ⟨fields, screen, writer, effect⟩
  · cases linked

private theorem linked_of_not_linked {past : Past K} {before after : World K} {event : Event K}
    (earlier : AppRun past before) (stepped : step before event = some after)
    {documentID : String} (other : before.linked? event ≠ some documentID) :
    (∃ document, after.firebase.posts documentID = some document ∧
        document "photoURL" ≠ none) ↔
      ∃ document, before.firebase.posts documentID = some document ∧
        document "photoURL" ≠ none := by
  by_cases same : after.firebase.posts documentID = before.firebase.posts documentID
  · rw [same]
  · rcases posts_change stepped same with
      ⟨fields, resizeImage, screen, writer, effect, created⟩ |
      ⟨fields, screen, writer, document, effect, _⟩
    · obtain ⟨absent, publication, rfl⟩ := post_creation earlier effect
      rw [absent, created]
      constructor
      · rintro ⟨_, ⟨⟩, present⟩
        exact absurd rfl present
      · rintro ⟨_, ⟨⟩, _⟩
    · refine absurd ?_ other
      simp only [World.linked?, effect]

theorem linkLog_step {past : Past K} {before after : World K} {event : Event K}
    (earlier : AppRun past before) (logged : LinkLog past before)
    (stepped : step before event = some after) : LinkLog ((before, event) :: past) after := by
  cases linked : before.linked? event with
  | none =>
      have sameLog : linkedPosts ((before, event) :: past) = linkedPosts past := by
        simp only [linkedPosts, List.filterMap_cons, linked]
      refine ⟨sameLog ▸ logged.once, ?_⟩
      intro documentID
      rw [sameLog, logged.stored documentID]
      refine (linked_of_not_linked earlier stepped ?_).symm
      rw [linked]
      exact nofun
  | some documentID =>
      have longerLog : linkedPosts ((before, event) :: past) = documentID :: linkedPosts past := by
        simp only [linkedPosts, List.filterMap_cons, linked]
      obtain ⟨fields, screen, writer, effect⟩ := effect_of_linked linked
      obtain ⟨publication, version, same, rfl, unlinked⟩ := post_link earlier effect
      have notYet : documentID ∉ linkedPosts past := by
        intro member
        obtain ⟨document, stored, present⟩ := (logged.stored documentID).mp member
        rw [unlinked] at stored
        cases stored
        exact present rfl
      constructor
      · rw [longerLog]
        exact List.nodup_cons.mpr ⟨notYet, logged.once⟩
      · intro other
        rw [longerLog, List.mem_cons]
        by_cases isIt : other = documentID
        · subst isIt
          apply iff_of_true (.inl rfl)
          have changed : after.firebase.posts other = some (publication.linkedDocument version) := by
            rcases firebase_step stepped with ⟨noEffect, _⟩ |
              ⟨request, newUID, answer, effect', performed⟩
            · rw [effect] at noEffect
              cases noEffect
            · rw [effect] at effect'
              cases effect'
              generalize after.firebase = firebase at performed ⊢
              cases performed with
              | updatePost stored =>
                  rw [unlinked] at stored
                  cases stored
                  exact Function.update_self _ _ _
          exact ⟨_, changed, nofun⟩
        · have notIt : before.linked? event ≠ some other := by
            rw [linked]
            rintro ⟨⟩
            exact isIt rfl
          rw [linked_of_not_linked earlier stepped notIt, ← logged.stored other]
          exact ⟨fun either => either.resolve_left isIt, .inr⟩

theorem linkLog {past : Past K} {world : World K} (ran : AppRun past world) :
    LinkLog past world := by
  refine ran.invariant LinkLog ?_ ?_
  · refine ⟨List.nodup_nil, fun documentID => iff_of_false List.not_mem_nil ?_⟩
    rintro ⟨_, ⟨⟩, _⟩
  · intro past before event after earlier logged stepped
    exact linkLog_step earlier logged stepped

/-- Every document belongs to one press of Next and carries its username, userId
and caption.  Its link is set at most once and is the URL of its own object, which
holds the photo of that press.  Distinct documents have distinct objects, none of
them a profile picture.  No stored field ever changes. -/
theorem posts_stay_paired {past : Past K} {world : World K} (ran : AppRun past world) :
    ((presses past).map Publication.documentID).Nodup ∧
    (∀ documentID document, world.firebase.posts documentID = some document →
      ∃ press ∈ presses past, press.documentID = documentID ∧
        document "username" = some (.string press.username) ∧
        document "userId" = some (.string press.userId) ∧
        document "caption" = some (.string press.caption) ∧
        (document "photoURL" = none ∨
          ∃ object, world.firebase.storage (postPhotoPath documentID) = some object ∧
            K.jpegData press.image = some object.data ∧
            document "photoURL" = some (.string (K.absoluteString
              { path := postPhotoPath documentID, version := object.version })))) ∧
    ((linkedPosts past).Nodup ∧ ∀ documentID, documentID ∈ linkedPosts past ↔
      ∃ document, world.firebase.posts documentID = some document ∧
        document "photoURL" ≠ none) ∧
    (∀ documentID other, world.firebase.posts documentID ≠ none →
      world.firebase.posts other ≠ none → postPhotoPath documentID = postPhotoPath other →
      documentID = other) ∧
    (∀ documentID account, world.firebase.posts documentID ≠ none →
      account ∈ world.firebase.accounts →
      postPhotoPath documentID ≠ profilePhotoPath account.uid) ∧
    ∀ recent later documentID document field value, AppRun (recent ++ past) later →
      world.firebase.posts documentID = some document → document field = some value →
      ∃ document', later.firebase.posts documentID = some document' ∧
        document' field = some value := by
  have paired := publishing_paired ran
  have free {documentID : String} (stored : world.firebase.posts documentID ≠ none) :
      SlashFree documentID := paired.free _ (paired.posts documentID stored)
  have links := linkLog ran
  refine ⟨?_, ?_, ⟨links.once, links.stored⟩, ?_, ?_, ?_⟩
  · rw [← paired.ids]
    exact paired.fresh
  · intro documentID document stored
    obtain ⟨press, logged, rfl, rfl | ⟨version, rfl, imageData, encoded, held⟩⟩ :=
      document_cases ran stored
    · exact ⟨press, logged, rfl, rfl, rfl, rfl, .inl rfl⟩
    · exact ⟨press, logged, rfl, rfl, rfl, rfl, .inr ⟨_, held, encoded, rfl⟩⟩
  · intro documentID other stored storedOther same
    exact postPhotoPath_injective (free stored) (free storedOther) same
  · intro documentID account stored known
    exact postPhotoPath_ne_profilePhotoPath (free stored)
      ((directory_integrity ran).usable account known).2
  · intro recent later documentID document field value longer stored present
    exact post_field_persists ran longer stored present

/-- One publication, all of whose steps succeed. -/
def publicationRun : List (Event Platform.plain) :=
  .launch :: signUpEvents "alice@mail" "secret" "alice" ++
    publishEvents "beach" "sunny" "post1" () ++ stepEvents ++ stepEvents ++ stepEvents ++
    stepEvents ++ [.runBlock, .runBlock]

theorem posts_stay_paired_publication :
    linkedPosts (endOf publicationRun).1 = ["post1"] ∧
      ∃ document object, (endOf publicationRun).2.firebase.posts "post1" = some document ∧
        document "caption" = some (.string "sunny") ∧
        (endOf publicationRun).2.firebase.storage (postPhotoPath "post1") = some object := by
  have paired := posts_stay_paired (appRun_endOf publicationRun (by decide +kernel))
  have linked : linkedPosts (endOf publicationRun).1 = ["post1"] := by decide +kernel
  have captions : (presses (endOf publicationRun).1).map Publication.caption = ["sunny"] := by
    decide +kernel
  obtain ⟨document, stored, present⟩ :=
    (paired.2.2.1.2 "post1").mp (by rw [linked]; exact List.mem_cons_self)
  obtain ⟨press, logged, _, _, _, caption, absent | ⟨object, held, _⟩⟩ :=
    paired.2.1 "post1" document stored
  · exact absurd absent present
  · have isSunny : press.caption = "sunny" := by
      have member := (List.mem_map_of_mem logged : press.caption ∈ (presses _).map _)
      rw [captions] at member
      exact List.mem_singleton.mp member
    rw [isSunny] at caption
    exact ⟨linked, document, object, stored, caption, held⟩

end InstagramProject
