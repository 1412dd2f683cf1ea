/-
The documents as the Firestore client of the device shows them: over what the
backend has stored lie the writes of the signed-in account that are still to take
effect, in the order in which they were made.
-/

import InstagramProject.Firestore.Mutations
import InstagramProject.World

namespace InstagramProject

open Firestore (Mutation dataOverlay)

variable {K : Platform}

/-- The documents of the app as values of the client. -/
def fieldValues : Firestore.Values where
  ObjectValue := Document
  empty _ := none
  Patch := Fields
  patchObject fields document := document.updateData fields

def userKey (uid : UID) : Firestore.DocumentKey := ["users", uid]

def postKey (documentID : String) : Firestore.DocumentKey := ["posts", documentID]

theorem postKey_ne_userKey (documentID : String) (uid : UID) :
    postKey documentID ≠ userKey uid := by
  intro same
  have heads := (List.cons.inj same).1
  revert heads
  decide

/-- The write a request asks of Firestore.  `updateData` is for documents that exist. -/
def Request.mutation? : Request K → Option (Mutation fieldValues)
  | .setUser uid fields _ _ =>
      some
        { key := userKey uid
          precondition := .none
          operation := .set (Document.setData fields) }
  | .updateUser uid fields _ =>
      some { key := userKey uid, precondition := .existsIs true, operation := .patch fields }
  | .setPost documentID fields _ _ _ =>
      some
        { key := postKey documentID
          precondition := .none
          operation := .set (Document.setData fields) }
  | .updatePost documentID fields _ _ =>
      some { key := postKey documentID, precondition := .existsIs true, operation := .patch fields }
  | _ => none

/-- Whose queue holds the write. -/
def Request.writer? : Request K → Option (Option UID)
  | .setUser _ _ _ writer | .setPost _ _ _ _ writer | .updatePost _ _ _ writer => some writer
  | .updateUser uid _ _ => some (some uid)
  | _ => none

namespace World

/-- Firestore holds a write back while its account is not signed in or the app is not
running. -/
def held (world : World K) (request : Request K) : Bool :=
  request.writer?.any (fun writer => writer ≠ world.currentUser || world.root.isNone)

/-- The requests in the queue of the signed-in account, those of ended processes first. -/
def queuedWrites (world : World K) : List (Request K) :=
  (world.orphans ++ world.requests).filter (fun request =>
    request.writer? = some world.currentUser)

/-- What `getDocument` finds for a user document. -/
def localUser (world : World K) (uid : UID) : Option Document :=
  let writes := world.queuedWrites.filterMap Request.mutation?
  @dataOverlay fieldValues (writes.filter (fun write => write.key = userKey uid))
    (world.firebase.users uid)

end World

/-! ### Request by request -/

/-- What a request makes of the document of an account. -/
def Request.shown (request : Request K) (u : UID) (data : Option Document) : Option Document :=
  match request with
  | .setUser uid fields _ _ => if uid = u then some (Document.setData fields) else data
  | .updateUser uid fields _ =>
      if uid = u then data.map (fun document => document.updateData fields) else data
  | _ => data

private theorem overlay_shown (request : Request K) (u : UID)
    (writes : List (Mutation fieldValues)) (data : Option Document) :
    @dataOverlay fieldValues
        ((request.mutation?.toList ++ writes).filter (fun write => write.key = userKey u)) data =
      @dataOverlay fieldValues (writes.filter (fun write => write.key = userKey u))
        (request.shown u data) := by
  have sameKey {uid : UID} : userKey uid = userKey u ↔ uid = u := by
    constructor
    · intro same
      exact (List.cons.inj (List.cons.inj same).2).1
    · exact congrArg userKey
  cases request with
  | setUser uid fields login writer =>
      simp only [Request.mutation?, Request.shown, Option.toList_some, List.singleton_append,
        List.filter_cons, decide_eq_true_eq, sameKey]
      split <;> rfl
  | updateUser uid fields editor =>
      simp only [Request.mutation?, Request.shown, Option.toList_some, List.singleton_append,
        List.filter_cons, decide_eq_true_eq, sameKey]
      split <;> rfl
  | setPost documentID fields resizeImage screen writer =>
      simp only [Request.mutation?, Option.toList_some, List.singleton_append, List.filter_cons,
        decide_eq_true_eq, if_neg (postKey_ne_userKey documentID u)]
      rfl
  | updatePost documentID fields screen writer =>
      simp only [Request.mutation?, Option.toList_some, List.singleton_append, List.filter_cons,
        decide_eq_true_eq, if_neg (postKey_ne_userKey documentID u)]
      rfl
  | _ => rfl

namespace World

theorem localUser_eq_foldl (world : World K) (u : UID) :
    world.localUser u =
      world.queuedWrites.foldl (fun data request => request.shown u data)
        (world.firebase.users u) := by
  unfold localUser
  generalize world.firebase.users u = data
  induction world.queuedWrites generalizing data with
  | nil => rfl
  | cons request rest ih =>
      rw [List.foldl_cons, ← ih, ← overlay_shown]
      cases written : request.mutation? with
      | none => rw [List.filterMap_cons_none written]; rfl
      | some write => rw [List.filterMap_cons_some written]; rfl

theorem underway_of_queued {world : World K} {request : Request K}
    (queued : request ∈ world.queuedWrites) : request ∈ world.orphans ++ world.requests :=
  (List.mem_filter.mp queued).1

/-- A user document of the device is made from the stored one by the writes under way. -/
theorem localUser_of_writes {world : World K} {u : UID} {P : Option Document → Prop}
    (stored : P (world.firebase.users u))
    (set : ∀ fields login writer,
      .setUser u fields login writer ∈ world.orphans ++ world.requests →
      P (some (Document.setData fields)))
    (update : ∀ fields editor, .updateUser u fields editor ∈ world.orphans ++ world.requests →
      ∀ document, P (some document) → P (some (document.updateData fields))) :
    P (world.localUser u) := by
  rw [localUser_eq_foldl]
  apply List.foldlRecOn world.queuedWrites _ stored
  intro data holds request queued
  have underway := underway_of_queued queued
  cases request with
  | setUser uid fields login writer =>
      unfold Request.shown
      dsimp only
      split
      · rename_i same
        exact set fields login writer (same ▸ underway)
      · exact holds
  | updateUser uid fields editor =>
      unfold Request.shown
      dsimp only
      split
      · rename_i same
        cases data with
        | none => exact holds
        | some document => exact update fields editor (same ▸ underway) document holds
      · exact holds
  | _ => exact holds

end World

end InstagramProject
