/-
Publications.  A press of Next creates a document, uploads the photo, asks for
its URL and links it to the document, one remote step after another.  A ticket
is the place one publication has reached; `PublishingStep` lists what an event
does to the tickets, the posts and the stored objects.
-/

import InstagramProject.Directory

namespace InstagramProject

open Accounting Transition

variable {K : Platform}

/-- How far a publication has come.  Once nothing more is to be stored it is
finished, with or without success. -/
inductive Stage (K : Platform)
  | creating (fields : Fields) (resizeImage : K.Image)
  | created (resizeImage : K.Image)
  | uploading (reference : String) (imageData : K.Data)
  | uploaded (reference : String)
  | locating (reference : String)
  | located (url : URL)
  | linking (fields : Fields)
  | finished

structure Ticket (K : Platform) where
  documentID : String
  screen : ControllerID
  stage : Stage K

def publishing : Marking K (Ticket K) where
  request
    | .setPost documentID fields resizeImage screen _ =>
        some ⟨documentID, screen, .creating fields resizeImage⟩
    | .putData reference imageData (.post documentID screen) =>
        some ⟨documentID, screen, .uploading reference imageData⟩
    | .downloadURL reference (.post documentID screen) =>
        some ⟨documentID, screen, .locating reference⟩
    | .updatePost documentID fields screen _ => some ⟨documentID, screen, .linking fields⟩
    | _ => none
  response
    | .setPost documentID _ resizeImage screen _, .done =>
        some ⟨documentID, screen, .created resizeImage⟩
    | .setPost documentID _ _ screen _, _ => some ⟨documentID, screen, .finished⟩
    | .putData reference _ (.post documentID screen), .done =>
        some ⟨documentID, screen, .uploaded reference⟩
    | .putData _ _ (.post documentID screen), _ => some ⟨documentID, screen, .finished⟩
    | .downloadURL _ (.post documentID screen), .url url =>
        some ⟨documentID, screen, .located url⟩
    | .downloadURL _ (.post documentID screen), _ => some ⟨documentID, screen, .finished⟩
    | .updatePost documentID _ screen _, _ => some ⟨documentID, screen, .finished⟩
    | _, _ => none
  block
    | .addPhotoAlert screen _ _ documentID => some ⟨documentID, screen, .finished⟩
    | .resetDraft screen documentID => some ⟨documentID, screen, .finished⟩
    | _ => none

structure Publishing (K : Platform) where
  documentIDs : List String
  posts : String → Option Document
  storage : String → Option (StoredObject K)
  tickets : Multiset (Ticket K)

def Work.publishing (work : Work K) : Publishing K :=
  { documentIDs := work.documentIDs
    posts := work.firebase.posts
    storage := work.firebase.storage
    tickets := work.marks InstagramProject.publishing }

/-! ### What stops a publication -/

def Request.documentID? : Request K → Option String
  | .setPost documentID _ _ _ _ | .updatePost documentID _ _ _ => some documentID
  | .putData _ _ (.post documentID _) | .downloadURL _ (.post documentID _) => some documentID
  | _ => none

def Block.documentID? : Block K → Option String
  | .addPhotoAlert _ _ _ documentID | .resetDraft _ documentID => some documentID
  | _ => none

namespace World

/-- A request or a callback of the publication is outstanding. -/
def publicationOutstanding (world : World K) (documentID : String) : Bool :=
  world.requests.any (fun request => request.documentID? == some documentID) ||
    world.orphans.any (fun request => request.documentID? == some documentID) ||
    world.responses.any (fun response => response.1.documentID? == some documentID) ||
    world.mainQueue.any (fun block => block.documentID? == some documentID)

/-- The event keeps the publication from being carried on once its document is
stored: a later request is answered with a failure, the controller is gone when a
handler needs it, the photo has no encoding, or the process ends. -/
def cutsShort (world : World K) (documentID : String) (event : Event K) : Bool :=
  (world.endsProcess event && world.publicationOutstanding documentID) ||
    match event with
    | .serve _ (.failure _) | .serve _ (.unconfirmed _ _) =>
        match world.refused? event with
        | some (.putData _ _ (.post failed _)) | some (.downloadURL _ (.post failed _))
        | some (.updatePost failed _ _ _) => failed == documentID
        | _ => false
    | .callback index =>
        match world.responses[index]? with
        | some (.setPost created _ resizeImage screen _, .done) =>
            created == documentID &&
              (!world.addPhotoAlive screen || (K.jpegData resizeImage).isNone)
        | some (.downloadURL _ (.post located screen), .url _) =>
            located == documentID && !world.addPhotoAlive screen
        | _ => false
    | _ => false

end World

/-! ### What an event does -/

/-- A publication goes on to its next remote step, or an answer about the store
arrives.  Nothing is stored. -/
inductive Advances (view : Publishing K) (documentID : String) : Stage K → Stage K → Prop
  | upload {resizeImage : K.Image} {imageData : K.Data} :
      K.jpegData resizeImage = some imageData →
      Advances view documentID (.created resizeImage)
        (.uploading (postPhotoPath documentID) imageData)
  | locate {reference : String} :
      Advances view documentID (.uploaded reference) (.locating reference)
  | answer {reference : String} {object : StoredObject K} :
      view.storage reference = some object →
      Advances view documentID (.locating reference)
        (.located { path := reference, version := object.version })
  | link {url : URL} :
      Advances view documentID (.located url)
        (.linking [("photoURL", K.absoluteString url)])

/-- A remote step has taken effect: its publication goes on, or its request was
orphaned and nobody goes on. -/
def Continues (before : World K) (ticket : Ticket K) (kept : Option (Ticket K)) : Prop :=
  kept = some ticket ∨
    kept = none ∧
      ∃ request ∈ before.orphans, request.documentID? = some ticket.documentID

/-- The publication is the one started by the event. -/
inductive PublishingStep (before : World K) (event : Event K) (view : Publishing K) :
    Option (Publication K) → Publishing K → Prop
  | idle : PublishingStep before event view none view
  | ended {remaining : Multiset (Ticket K)} :
      remaining ≤ view.tickets → before.endsProcess event = true →
      PublishingStep before event view none { view with tickets := remaining }
  | pressed {publication : Publication K} :
      publication.documentID ∉ view.documentIDs → SlashFree publication.documentID →
      PublishingStep before event view (some publication)
        { view with
          documentIDs := publication.documentID :: view.documentIDs
          tickets := {⟨publication.documentID, publication.screen,
            .creating publication.fields publication.image⟩} + view.tickets }
  | advanced {documentID : String} {screen : ControllerID} {stage next : Stage K}
      {rest : Multiset (Ticket K)} :
      view.tickets = {⟨documentID, screen, stage⟩} + rest →
      Advances view documentID stage next →
      PublishingStep before event view none
        { view with tickets := {⟨documentID, screen, next⟩} + rest }
  | stopped {ticket : Ticket K} {kept : Option (Ticket K)} {rest : Multiset (Ticket K)} :
      view.tickets = {ticket} + rest →
      kept = none ∨ kept = some { ticket with stage := .finished } →
      (before.cutsShort ticket.documentID event = true ∨ ticket.stage = .finished ∨
        (∃ fields resizeImage, ticket.stage = .creating fields resizeImage) ∨
        ∃ request ∈ before.orphans, request.documentID? = some ticket.documentID) →
      PublishingStep before event view none { view with tickets := one kept + rest }
  | created {documentID : String} {screen : ControllerID} {fields : Fields}
      {resizeImage : K.Image} {writer : Option UID} {kept : Option (Ticket K)}
      {rest : Multiset (Ticket K)} :
      before.effect? event = some (.setPost documentID fields resizeImage screen writer) →
      view.tickets = {⟨documentID, screen, .creating fields resizeImage⟩} + rest →
      Continues before ⟨documentID, screen, .created resizeImage⟩ kept →
      PublishingStep before event view none
        { view with
          posts := Function.update view.posts documentID (some (Document.setData fields))
          tickets := one kept + rest }
  | uploaded {documentID reference : String} {screen : ControllerID} {imageData : K.Data}
      {version : Nat} {kept : Option (Ticket K)} {rest : Multiset (Ticket K)} :
      before.effect? event = some (.putData reference imageData (.post documentID screen)) →
      view.tickets = {⟨documentID, screen, .uploading reference imageData⟩} + rest →
      Continues before ⟨documentID, screen, .uploaded reference⟩ kept →
      PublishingStep before event view none
        { view with
          storage := Function.update view.storage reference
            (some { data := imageData, version := version })
          tickets := one kept + rest }
  /-- The photo is stored, and the client takes it for lost. -/
  | unheard {documentID reference : String} {screen : ControllerID} {imageData : K.Data}
      {version : Nat} {rest : Multiset (Ticket K)} :
      view.tickets = {⟨documentID, screen, .uploading reference imageData⟩} + rest →
      before.cutsShort documentID event = true →
      PublishingStep before event view none
        { view with
          storage := Function.update view.storage reference
            (some { data := imageData, version := version })
          tickets := {⟨documentID, screen, .finished⟩} + rest }
  | linked {documentID : String} {screen : ControllerID} {fields : Fields}
      {writer : Option UID} {document : Document} {kept : Option (Ticket K)}
      {rest : Multiset (Ticket K)} :
      before.effect? event = some (.updatePost documentID fields screen writer) →
      view.tickets = {⟨documentID, screen, .linking fields⟩} + rest →
      Continues before ⟨documentID, screen, .finished⟩ kept →
      view.posts documentID = some document →
      PublishingStep before event view none
        { view with
          posts := Function.update view.posts documentID (some (document.updateData fields))
          tickets := one kept + rest }
  | pictured {reference : String} {userId : UID} {editor : ControllerID} {imageData : K.Data}
      {object : StoredObject K} :
      before.effect? event = some (.putData reference imageData (.profilePicture userId editor)) →
      PublishingStep before event view none
        { view with storage := Function.update view.storage reference (some object) }

/-! ### Every event is in the list -/

private theorem publishing_same {before after : Work K}
    (sameIDs : after.documentIDs = before.documentIDs)
    (sameFirebase : after.firebase = before.firebase)
    (sameMarks : after.marks publishing = before.marks publishing) :
    after.publishing = before.publishing := by
  simp only [Work.publishing, sameIDs, sameFirebase, sameMarks]

private theorem publishing_send (work : Work K) {request : Request K}
    (unmarked : publishing.request request = none) :
    (work.send request).publishing = work.publishing :=
  publishing_same rfl rfl (Work.marks_send_unmarked publishing work unmarked)

private theorem publishing_async (work : Work K) {block : Block K}
    (unmarked : publishing.block block = none) :
    (work.async block).publishing = work.publishing :=
  publishing_same rfl rfl (Work.marks_async_unmarked publishing work unmarked)

private theorem publishing_save (work : Work K) (entered : Save K) :
    (work.save entered).publishing = work.publishing := by
  unfold Work.save
  rw [publishing_send _ rfl]
  split
  · rfl
  · exact publishing_send _ rfl

private theorem publishingStep_served {before : World K} {index : Nat} {outcome : Outcome}
    {request : Request K} {firebase : Firebase K} {answer : Answer}
    (found : before.requests[index]? = some request)
    (performed : Performed before.firebase before.localUser request outcome firebase answer) :
    PublishingStep before (.serve index outcome) before.work.publishing none
      (before.work.serve index request firebase answer).publishing := by
  obtain ⟨rest, marksBefore, marksAfter⟩ :=
    Work.marks_serve publishing before.work found firebase answer
  have view : (before.work.serve index request firebase answer).publishing =
      { documentIDs := before.documentIDs
        posts := firebase.posts
        storage := firebase.storage
        tickets := one (publishing.response request answer) + rest } := by
    rw [← marksAfter]
    rfl
  have start : before.work.publishing =
      { documentIDs := before.documentIDs
        posts := before.firebase.posts
        storage := before.firebase.storage
        tickets := one (publishing.request request) + rest } := by
    rw [← marksBefore]
    rfl
  have effect {newUID : UID} (success : outcome = .success newUID) :
      before.effect? (.serve index outcome) = some request := by
    rw [success]
    exact found
  rw [view, start]
  cases performed with
  | @refused _ message =>
      have failed : before.refused? (.serve index (.failure message)) = some request := found
      cases request with
      | setPost documentID fields resizeImage screen writer =>
          exact .stopped rfl (.inr rfl) (.inr (.inr (.inl ⟨fields, resizeImage, rfl⟩)))
      | putData reference imageData caller =>
          cases caller with
          | post documentID screen =>
              refine .stopped rfl (.inr rfl) (.inl ?_)
              simp only [World.cutsShort, failed, beq_self_eq_true, Bool.or_true]
          | profilePicture userId editor => exact .idle
      | downloadURL reference caller =>
          cases caller with
          | post documentID screen =>
              refine .stopped rfl (.inr rfl) (.inl ?_)
              simp only [World.cutsShort, failed, beq_self_eq_true, Bool.or_true]
          | profilePicture userId editor => exact .idle
      | updatePost documentID fields screen writer =>
          refine .stopped rfl (.inr rfl) (.inl ?_)
          simp only [World.cutsShort, failed, beq_self_eq_true, Bool.or_true]
      | _ => exact .idle
  | @unconfirmed _ newUID message _ _ loses carriedOut =>
      have lost : before.effect? (.serve index (.unconfirmed newUID message)) =
          some request := found
      have failed : before.refused? (.serve index (.unconfirmed newUID message)) = some request :=
        found
      cases carriedOut with
      | createUser _accepted => exact .idle
      | @putData reference _ imageData caller =>
          cases caller with
          | post documentID screen =>
              refine .unheard rfl ?_
              simp only [World.cutsShort, failed, beq_self_eq_true, Bool.or_true]
          | profilePicture userId editor =>
              simp only [publishing, one_none, zero_add]
              exact .pictured lost
      | commitChanges => exact .idle
      | _ => cases loses
  | setPost => exact .created (effect rfl) rfl (.inl rfl)
  | @putData reference _ imageData caller =>
      cases caller with
      | post documentID screen => exact .uploaded (effect rfl) rfl (.inl rfl)
      | profilePicture userId editor =>
          simp only [publishing, one_none, zero_add]
          exact .pictured (effect rfl)
  | @downloadURL reference _ caller object stored =>
      cases caller with
      | post documentID screen => exact .advanced rfl (.answer stored)
      | profilePicture userId editor =>
          simp only [publishing, one_none, zero_add]
          exact .idle
  | updatePost stored => exact .linked (effect rfl) rfl (.inl rfl) stored
  | _ =>
      simp only [publishing, one_none, zero_add]
      exact .idle

private theorem publishingStep_servedOrphan {before : World K} {index : Nat} {outcome : Outcome}
    {request : Request K} {firebase : Firebase K} {answer : Answer}
    (found : before.orphans[index]? = some request)
    (performed : Performed before.firebase before.localUser request outcome firebase answer) :
    PublishingStep before (.serveOrphan index outcome) before.work.publishing none
      (before.work.serveOrphan index firebase).publishing := by
  have marks := Work.marks_serveOrphan publishing before.work found firebase
  have start : before.work.publishing =
      { documentIDs := before.documentIDs
        posts := before.firebase.posts
        storage := before.firebase.storage
        tickets := one (publishing.request request) +
          (before.work.serveOrphan index firebase).marks publishing } := by
    rw [← marks]
    rfl
  have effect {newUID : UID} (success : outcome = .success newUID) :
      before.effect? (.serveOrphan index outcome) = some request := by
    rw [success]
    exact found
  have orphan {documentID : String} (names : request.documentID? = some documentID) :
      ∃ request ∈ before.orphans, request.documentID? = some documentID :=
    ⟨request, List.mem_of_getElem? found, names⟩
  unfold Work.publishing at start ⊢
  rw [start]
  generalize (before.work.serveOrphan index firebase).marks publishing = rest
  have nobody (posts : String → Option Document) (storage : String → Option (StoredObject K)) :
      ({ documentIDs := before.documentIDs, posts := posts, storage := storage,
         tickets := rest } : Publishing K) =
        { documentIDs := before.documentIDs, posts := posts, storage := storage,
          tickets := one none + rest } := by
    rw [one_none, zero_add]
  change PublishingStep before _ _ none
    { documentIDs := before.documentIDs, posts := firebase.posts, storage := firebase.storage,
      tickets := rest }
  rw [nobody]
  cases performed with
  | refused =>
      cases request with
      | setPost documentID fields resizeImage screen writer =>
          exact .stopped rfl (.inl rfl) (.inr (.inr (.inr (orphan rfl))))
      | putData reference imageData caller =>
          cases caller with
          | post documentID screen =>
              exact .stopped rfl (.inl rfl) (.inr (.inr (.inr (orphan rfl))))
          | profilePicture userId editor => exact .idle
      | downloadURL reference caller =>
          cases caller with
          | post documentID screen =>
              exact .stopped rfl (.inl rfl) (.inr (.inr (.inr (orphan rfl))))
          | profilePicture userId editor => exact .idle
      | updatePost documentID fields screen writer =>
          exact .stopped rfl (.inl rfl) (.inr (.inr (.inr (orphan rfl))))
      | _ => exact .idle
  | @unconfirmed _ newUID message _ _ loses carriedOut =>
      have lost :
          before.effect? (.serveOrphan index (.unconfirmed newUID message)) = some request := found
      cases carriedOut with
      | createUser _accepted => exact .idle
      | @putData reference _ imageData caller =>
          cases caller with
          | post documentID screen => exact .uploaded lost rfl (.inr ⟨rfl, orphan rfl⟩)
          | profilePicture userId editor => exact .pictured lost
      | commitChanges => exact .idle
      | _ => cases loses
  | setPost => exact .created (effect rfl) rfl (.inr ⟨rfl, orphan rfl⟩)
  | @putData reference _ imageData caller =>
      cases caller with
      | post documentID screen => exact .uploaded (effect rfl) rfl (.inr ⟨rfl, orphan rfl⟩)
      | profilePicture userId editor => exact .pictured (effect rfl)
  | @downloadURL reference _ caller object stored =>
      cases caller with
      | post documentID screen =>
          exact .stopped rfl (.inl rfl) (.inr (.inr (.inr (orphan rfl))))
      | profilePicture userId editor => exact .idle
  | updatePost stored => exact .linked (effect rfl) rfl (.inr ⟨rfl, orphan rfl⟩) stored
  | _ => exact .idle

private theorem publishing_handled {request : Request K} {answer : Answer} {block : Block K}
    (handled : handlerBlock request answer = some block) :
    publishing.block block = publishing.response request answer := by
  cases queues_of_handlerBlock handled <;> rfl

private theorem publishing_ignored {request : Request K} {answer : Answer}
    (ignored : request.ignores answer = true) :
    publishing.response request answer = none ∨
      ∃ documentID screen, publishing.response request answer = some ⟨documentID, screen, .finished⟩ := by
  cases request with
  | setPost documentID fields resizeImage screen writer =>
      cases answer with
      | done => cases ignored
      | _ => exact .inr ⟨_, _, rfl⟩
  | putData reference imageData caller =>
      cases caller with
      | post documentID screen =>
          cases answer with
          | done => cases ignored
          | _ => exact .inr ⟨_, _, rfl⟩
      | profilePicture userId editor => exact .inl rfl
  | downloadURL reference caller =>
      cases caller with
      | post documentID screen =>
          cases answer with
          | url url => cases ignored
          | _ => exact .inr ⟨_, _, rfl⟩
      | profilePicture userId editor => exact .inl rfl
  | updatePost documentID fields screen writer => exact .inr ⟨_, _, rfl⟩
  | _ => exact .inl rfl

/-- A publication that is over, or that its handler does not carry on, loses its
ticket. -/
private theorem stopped_here {before : World K} {event : Event K} {work : Work K}
    {view : Publishing K} {ticket : Ticket K}
    (sameView : work.publishing = { view with tickets := work.marks publishing })
    (held : view.tickets = one (some ticket) + work.marks publishing)
    (stops : before.cutsShort ticket.documentID event = true ∨ ticket.stage = .finished) :
    PublishingStep before event view none work.publishing := by
  have stopped : PublishingStep before event view none
      { view with tickets := one none + work.marks publishing } :=
    .stopped held (.inl rfl) (stops.imp_right .inl)
  rw [one_none, zero_add] at stopped
  rw [sameView]
  exact stopped

private theorem publishingStep_called {before : World K} {index : Nat} {request : Request K}
    {answer : Answer} {after : Work K} (found : before.responses[index]? = some (request, answer))
    (answered : Answered { before with responses := before.responses.eraseIdx index }
      request answer after) :
    PublishingStep before (.callback index) before.work.publishing none after.publishing := by
  have marks := Work.marks_takeResponse publishing before.work found
  have taken (unmarked : publishing.response request answer = none) :
      Work.publishing { before.work with responses := before.responses.eraseIdx index } =
        before.work.publishing :=
    publishing_same rfl rfl
      (Work.marks_takeResponse_unmarked publishing before.work found unmarked)
  have idle {work : Work K} (same : work.publishing = before.work.publishing) :
      PublishingStep before (.callback index) before.work.publishing none work.publishing := by
    rw [same]
    exact .idle
  have stopped {ticket : Ticket K} (marked : publishing.response request answer = some ticket)
      (stops : before.cutsShort ticket.documentID (.callback index) = true ∨
        ticket.stage = .finished) :
      PublishingStep before (.callback index) before.work.publishing none
        (Work.publishing { before.work with responses := before.responses.eraseIdx index }) := by
    rw [marked] at marks
    exact stopped_here rfl marks stops
  have advanced {documentID : String} {screen : ControllerID} {stage next : Stage K}
      {sent : Request K}
      (marked : publishing.response request answer = some ⟨documentID, screen, stage⟩)
      (markedNext : publishing.request sent = some ⟨documentID, screen, next⟩)
      (advances : Advances before.work.publishing documentID stage next) :
      PublishingStep before (.callback index) before.work.publishing none
        (Work.send { before.work with responses := before.responses.eraseIdx index }
          sent).publishing := by
    rw [marked] at marks
    unfold Work.publishing
    rw [Work.marks_send, markedNext]
    exact .advanced marks advances
  cases answered with
  | ignored ignored =>
      rcases publishing_ignored ignored with unmarked | ⟨documentID, screen, marked⟩
      · exact idle (taken unmarked)
      · exact stopped marked (.inr rfl)
  | queued handled =>
      exact idle (publishing_same rfl rfl
        (Work.marks_queued publishing before.work found (publishing_handled handled)))
  | uploading _alive encoded => exact advanced rfl rfl (.upload encoded)
  | @notUploading documentID fields resizeImage screen writer cut =>
      refine stopped rfl (.inl ?_)
      simp only [World.cutsShort, found, beq_self_eq_true, Bool.true_and]
      rcases cut with gone | noData
      · have absent : before.addPhotoAlive screen = false := gone
        rw [absent]
        simp only [Bool.not_false, Bool.true_or, Bool.or_true]
      · rw [noData]
        simp only [Option.isNone_none, Bool.or_true]
  | @locating reference imageData caller =>
      cases caller with
      | post documentID screen => exact advanced rfl rfl .locate
      | profilePicture userId editor => exact idle ((publishing_send _ rfl).trans (taken rfl))
  | linking _alive => exact advanced rfl rfl .link
  | @notLinking reference documentID screen url gone =>
      refine stopped rfl (.inl ?_)
      have absent : before.addPhotoAlive screen = false := gone
      simp only [World.cutsShort, found, beq_self_eq_true, absent, Bool.not_false,
        Bool.true_and, Bool.or_true]
  | committing _signedIn => exact idle ((publishing_send _ rfl).trans (taken rfl))
  | notCommitting _signedOut => exact idle (taken rfl)

private theorem publishingStep_ran {before : World K} {block : Block K} {rest : List (Block K)}
    {after : Work K} (queued : before.mainQueue = block :: rest)
    (ran : Ran { before with mainQueue := rest } block after) :
    PublishingStep before .runBlock before.work.publishing none after.publishing := by
  have marks := Work.marks_takeBlock publishing before.work queued
  have taken (unmarked : publishing.block block = none) :
      Work.publishing { before.work with mainQueue := rest } = before.work.publishing :=
    publishing_same rfl rfl
      (Work.marks_takeBlock_unmarked publishing before.work queued unmarked)
  have idle {work : Work K} (same : work.publishing = before.work.publishing) :
      PublishingStep before .runBlock before.work.publishing none work.publishing := by
    rw [same]
    exact .idle
  have stopped {ticket : Ticket K} (marked : publishing.block block = some ticket)
      (isFinished : ticket.stage = .finished) :
      PublishingStep before .runBlock before.work.publishing none
        (Work.publishing { before.work with mainQueue := rest }) := by
    rw [marked] at marks
    exact stopped_here rfl marks (.inr isFinished)
  cases ran with
  | creating _present => exact idle ((publishing_send _ rfl).trans (taken rfl))
  | notCreating _missing => exact idle (taken rfl)
  | @reset screen documentID =>
      have shown : (Work.async { before.work with mainQueue := rest }
          (.previewPost screen)).publishing =
          Work.publishing { before.work with mainQueue := rest } := publishing_async _ rfl
      change PublishingStep before .runBlock _ none (Work.async { before.work with mainQueue := rest }
          (.previewPost screen)).publishing
      rw [shown]
      exact stopped rfl rfl
  | shown _other =>
      cases block with
      | addPhotoAlert screen title message documentID => exact stopped rfl rfl
      | resetDraft screen documentID => exact stopped rfl rfl
      | _ => exact idle (taken rfl)

private theorem noPublication_of_ends {world : World K} {event : Event K}
    (ends : world.endsProcess event = true) : world.publication? event = none := by
  cases event <;> first | rfl | cases ends

theorem publishingStep_of_workStep {before : World K} {event : Event K} {after : Work K}
    (stepped : WorkStep before event after) :
    PublishingStep before event before.work.publishing (before.publication? event)
      after.publishing := by
  have idle {other : Work K} (noPublication : before.publication? event = none)
      (same : other.publishing = before.work.publishing) :
      PublishingStep before event before.work.publishing (before.publication? event)
        other.publishing := by
    rw [noPublication, same]
    exact .idle
  cases stepped with
  | screens quiet => exact idle quiet.noPublication rfl
  | ended ends =>
      rw [noPublication_of_ends ends]
      exact .ended (Work.marks_terminate publishing before.work) ends
  | asked quiet question =>
      refine idle quiet.noPublication (publishing_send _ ?_)
      rename_i request
      cases request <;> first | rfl | cases question
  | displayed quiet display =>
      refine idle quiet.noPublication (publishing_async _ ?_)
      rename_i block
      cases block <;> first | rfl | cases display
  | signedOut => exact .idle
  | published started _noSave fresh free _noDelivery =>
      rw [started]
      unfold Work.publishing Work.publish
      rw [Work.marks_send]
      exact .pressed fresh free
  | saved _started noPublication _noDelivery =>
      exact idle noPublication (publishing_save _ _)
  | served found performed => exact publishingStep_served found (performed_of_perform performed)
  | servedOrphan found performed =>
      exact publishingStep_servedOrphan found (performed_of_perform performed)
  | called found answered => exact publishingStep_called found answered
  | ran queued result => exact publishingStep_ran queued result

end InstagramProject
