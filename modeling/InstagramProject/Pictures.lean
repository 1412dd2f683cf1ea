/-
Profile pictures as they are stored: what a press of Done uploads, and the
objects stored so far.  A download URL names an object that was stored.
-/

import InstagramProject.Directory
import InstagramProject.Editors

namespace InstagramProject

open Transition

variable {K : Platform}

/-- A press of Done uploads the picture selected in its editor, resized. -/
theorem picture_of_save {world : World K} {event : Event K} {save : Save K}
    {imageData : K.Data} (started : world.save? event = some save)
    (pictured : save.picture = some imageData) :
    ∃ controller profilePicture bounds, .editor controller ∈ world.presented ∧
      controller.id = save.editor ∧ controller.selectedImage = some profilePicture ∧
      K.jpegData (K.resizeImage profilePicture bounds) = some imageData := by
  unfold World.save? at started
  split at started
  · rename_i bounds
    obtain ⟨controller, inFront, entered⟩ := Option.bind_eq_some_iff.mp started
    split at entered
    · cases entered
    · obtain ⟨user, _signedIn, rfl⟩ := Option.map_eq_some_iff.mp entered
      obtain ⟨profilePicture, selects, encoded⟩ := Option.bind_eq_some_iff.mp pictured
      exact ⟨controller, profilePicture, bounds, mem_of_editorInFront inFront, rfl, selects,
        encoded⟩
  · cases started

/-! ### Stored objects -/

/-- The object an event stores, and where. -/
def World.stored? (world : World K) (event : Event K) : Option (String × StoredObject K) :=
  match world.effect? event with
  | some (.putData reference imageData _) =>
      some (reference, { data := imageData, version := world.firebase.nextVersion })
  | _ => none

/-- The objects stored so far with their paths, the latest first. -/
def storedObjects (past : Past K) : List (String × StoredObject K) :=
  past.filterMap (fun moment => moment.1.stored? moment.2)

/-- Each path holds the object stored there last, versions are never used again,
and a download URL names an object that was stored at its path. -/
structure Stores (past : Past K) (world : World K) : Prop where
  latest : ∀ reference, world.firebase.storage reference =
    ((storedObjects past).find? (fun entry => entry.1 == reference)).map Prod.snd
  used : ∀ entry ∈ storedObjects past, entry.2.version < world.firebase.nextVersion
  once : ((storedObjects past).map (fun entry => entry.2.version)).Nodup
  urls : ∀ reference caller url, (.downloadURL reference caller, .url url) ∈ world.responses →
    ∃ object, (reference, object) ∈ storedObjects past ∧
      url = { path := reference, version := object.version }

private theorem storedObjects_cons (past : Past K) (before : World K) (event : Event K) :
    storedObjects ((before, event) :: past) =
      (before.stored? event).toList ++ storedObjects past := log_cons _ _ _

/-- The URL of an answer names the object the path held when it was asked for. -/
private theorem urls_step {past : Past K} {before after : World K} {event : Event K}
    (stores : Stores past before) (stepped : step before event = some after) {reference : String}
    {caller : UploadCaller} {url : URL}
    (answered : (.downloadURL reference caller, .url url) ∈ after.responses) :
    ∃ object, (reference, object) ∈ storedObjects ((before, event) :: past) ∧
      url = { path := reference, version := object.version } := by
  rw [storedObjects_cons]
  rcases (workStep_of_step stepped).responses answered with
    old | ⟨index, outcome, _served, _found, performed⟩
  · obtain ⟨object, member, isURL⟩ := stores.urls reference caller url old
    exact ⟨object, List.mem_append_right _ member, isURL⟩
  · generalize isAnswer : Answer.url url = answer at performed
    generalize after.work.firebase = firebase at performed
    cases performed_of_perform performed with
    | refused => cases isAnswer
    | unconfirmed _loses _carriedOut => cases isAnswer
    | @downloadURL _ _ _ object held =>
        cases isAnswer
        rw [stores.latest] at held
        obtain ⟨entry, found, rfl⟩ := Option.map_eq_some_iff.mp held
        have member := List.mem_of_find?_eq_some found
        have matched := List.find?_some found
        have samePath : entry.1 = reference := beq_iff_eq.mp matched
        refine ⟨entry.2, List.mem_append_right _ ?_, rfl⟩
        rw [← samePath]
        exact member

private theorem stores_unchanged {past : Past K} {before after : World K} {event : Event K}
    (stores : Stores past before) (stepped : step before event = some after)
    (nothing : before.stored? event = none)
    (sameStorage : after.firebase.storage = before.firebase.storage)
    (sameVersion : after.firebase.nextVersion = before.firebase.nextVersion) :
    Stores ((before, event) :: past) after := by
  have sameLog : storedObjects ((before, event) :: past) = storedObjects past := by
    rw [storedObjects_cons, nothing]
    rfl
  refine ⟨?_, ?_, ?_, fun _ _ _ answered => urls_step stores stepped answered⟩
  · intro reference
    rw [sameStorage, sameLog]
    exact stores.latest reference
  · rw [sameLog, sameVersion]
    exact stores.used
  · rw [sameLog]
    exact stores.once

private theorem stores_added {past : Past K} {before after : World K} {event : Event K}
    {reference : String} {object : StoredObject K} (stores : Stores past before)
    (stepped : step before event = some after)
    (stored : before.stored? event = some (reference, object))
    (isFresh : object.version = before.firebase.nextVersion)
    (added : after.firebase.storage =
      Function.update before.firebase.storage reference (some object))
    (advanced : after.firebase.nextVersion = before.firebase.nextVersion + 1) :
    Stores ((before, event) :: past) after := by
  have isLog : storedObjects ((before, event) :: past) =
      (reference, object) :: storedObjects past := by
    rw [storedObjects_cons, stored]
    rfl
  refine ⟨?_, ?_, ?_, fun _ _ _ answered => urls_step stores stepped answered⟩
  · intro other
    rw [added, isLog]
    by_cases same : other = reference
    · rw [same, Function.update_self, List.find?_cons_of_pos]
      · rfl
      · exact beq_self_eq_true reference
    · rw [Function.update_of_ne same, List.find?_cons_of_neg]
      · exact stores.latest other
      · rw [beq_iff_eq]
        exact Ne.symm same
  · rw [advanced, isLog]
    intro entry member
    rcases List.mem_cons.mp member with rfl | old
    · exact Nat.lt_succ_of_le (Nat.le_of_eq isFresh)
    · exact Nat.lt_succ_of_lt (stores.used entry old)
  · rw [isLog, List.map_cons, List.nodup_cons]
    refine ⟨?_, stores.once⟩
    intro member
    obtain ⟨entry, old, same⟩ := List.mem_map.mp member
    have less := stores.used entry old
    dsimp only at same
    omega

theorem stores_step {past : Past K} {before after : World K} {event : Event K}
    (stores : Stores past before) (stepped : step before event = some after) :
    Stores ((before, event) :: past) after := by
  rcases firebase_step stepped with ⟨effect, same⟩ | ⟨request, newUID, answer, effect, performed⟩
  · refine stores_unchanged stores stepped ?_ (by rw [same]) (by rw [same])
    unfold World.stored?
    rw [effect]
  · have stored : before.stored? event = match some request with
        | some (.putData reference imageData _) =>
            some (reference, { data := imageData, version := before.firebase.nextVersion })
        | _ => none := by
      unfold World.stored?
      rw [effect]
    generalize result : after.firebase = firebase at performed
    cases performed with
    | putData => exact stores_added stores stepped stored rfl (by rw [result]) (by rw [result])
    | _ => exact stores_unchanged stores stepped stored (by rw [result]) (by rw [result])

theorem stores {past : Past K} {world : World K} (ran : AppRun past world) :
    Stores past world := by
  refine ran.invariant Stores ?_ ?_
  · exact ⟨fun _ => rfl, nofun, List.nodup_nil, nofun⟩
  · intro past before event after _earlier stores stepped
    exact stores_step stores stepped

end InstagramProject
