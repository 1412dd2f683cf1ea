/-
Image views under Kingfisher's `setImage`, from the vendored sources.  A view
remembers the identifier of its current task, and a retrieval that comes back
under another identifier is ignored.  What a retrieval brings is taken to be the
image of its URL.
-/

import Mathlib.Data.List.Basic

namespace InstagramProject

/-- Addresses and the images behind them. -/
structure Web where
  URL : Type
  /-- `URL(string:)`. -/
  url : String → Option URL
  Image : Type
  image : URL → Image

/-- Addresses that are their own images, for runs that are to be evaluated. -/
abbrev Web.plain : Web where
  URL := String
  url string := if string.isEmpty then none else some string
  Image := String
  image url := url

variable {W : Web}

structure ImageView (W : Web) where
  image : Option W.Image
  taskIdentifier : Option Nat
  /-- The retrievals under way, with the identifiers they were issued. -/
  retrievals : List (Nat × W.URL)
  /-- The next identifier.  Kingfisher counts over all views and compares within one. -/
  nextIdentifier : Nat

namespace ImageView

/-- A view that has never been given an image. -/
def loaded : ImageView W :=
  { image := none, taskIdentifier := none, retrievals := [], nextIdentifier := 0 }

/-- `kf.setImage(with:)`.  Setting the placeholder to nil clears the view. -/
def setImage (view : ImageView W) : Option W.URL → ImageView W
  | none => { view with image := none, taskIdentifier := none }
  | some source =>
      { image := none
        taskIdentifier := some view.nextIdentifier
        retrievals := view.retrievals ++ [(view.nextIdentifier, source)]
        nextIdentifier := view.nextIdentifier + 1 }

/-- The completion handler of a retrieval. -/
def retrieved (view : ImageView W) (index : Nat) : Option (ImageView W) :=
  view.retrievals[index]?.map (fun (issuedIdentifier, source) =>
    let view := { view with retrievals := view.retrievals.eraseIdx index }
    if view.taskIdentifier = some issuedIdentifier then
      { view with taskIdentifier := none, image := some (W.image source) }
    else view)

/-- No retrieval is under way. -/
def AtRest (view : ImageView W) : Prop := view.retrievals = []

/-- The view was last given this URL, or nothing: it shows its image, or has the
retrieval under way that will bring it. -/
structure Given (view : ImageView W) (url : Option W.URL) : Prop where
  issued : ∀ retrieval ∈ view.retrievals, retrieval.1 < view.nextIdentifier
  shows : view.taskIdentifier = none → view.image = url.map W.image
  waits : ∀ identifier, view.taskIdentifier = some identifier →
    ∃ source, url = some source ∧ (identifier, source) ∈ view.retrievals ∧
      ∀ retrieval ∈ view.retrievals, retrieval.1 = identifier → retrieval.2 = source

variable {view after : ImageView W} {url : Option W.URL}

theorem given_loaded : (loaded : ImageView W).Given none :=
  ⟨nofun, fun _ => rfl, nofun⟩

/-- A later image supersedes an earlier one. -/
theorem Given.setImage (given : view.Given url) (newURL : Option W.URL) :
    (view.setImage newURL).Given newURL := by
  cases newURL with
  | none => exact ⟨given.issued, fun _ => rfl, nofun⟩
  | some source =>
      refine ⟨?_, nofun, ?_⟩
      · intro retrieval member
        rcases List.mem_append.mp member with earlier | new
        · exact Nat.lt_succ_of_lt (given.issued retrieval earlier)
        · cases List.mem_singleton.mp new
          exact Nat.lt_succ_self _
      · intro identifier current
        cases current
        refine ⟨source, rfl, List.mem_append_right _ (List.mem_singleton_self _), ?_⟩
        intro retrieval member same
        rcases List.mem_append.mp member with earlier | new
        · exact absurd (given.issued retrieval earlier) (Nat.not_lt.mpr (Nat.le_of_eq same.symm))
        · cases List.mem_singleton.mp new
          rfl

/-- A retrieval brings the image the view waits for, or is ignored. -/
theorem Given.retrieved {index : Nat} (given : view.Given url)
    (came : view.retrieved index = some after) : after.Given url := by
  obtain ⟨⟨issuedIdentifier, source⟩, found, result⟩ := Option.map_eq_some_iff.mp came
  subst result
  have fewer : ∀ retrieval ∈ view.retrievals.eraseIdx index, retrieval ∈ view.retrievals :=
    fun _ member => List.mem_of_mem_eraseIdx member
  dsimp only
  split
  · rename_i current
    obtain ⟨wanted, isURL, _member, unique⟩ := given.waits issuedIdentifier current
    have same : source = wanted := unique _ (List.mem_of_getElem? found) rfl
    refine ⟨fun retrieval member => given.issued retrieval (fewer retrieval member), ?_, nofun⟩
    intro _done
    rw [isURL, same]
    rfl
  · rename_i superseded
    refine ⟨fun retrieval member => given.issued retrieval (fewer retrieval member), given.shows, ?_⟩
    intro identifier current
    obtain ⟨wanted, isURL, member, unique⟩ := given.waits identifier current
    refine ⟨wanted, isURL, ?_, fun retrieval member => unique retrieval (fewer retrieval member)⟩
    rw [List.mem_eraseIdx_iff_getElem?]
    obtain ⟨position, isThere⟩ := List.mem_iff_getElem?.mp member
    refine ⟨position, ?_, isThere⟩
    rintro rfl
    cases found.symm.trans isThere
    exact superseded current

/-- At rest the view shows the image of the URL it was last given. -/
theorem Given.image (given : view.Given url) (rest : view.AtRest) :
    view.image = url.map W.image := by
  apply given.shows
  cases current : view.taskIdentifier with
  | none => rfl
  | some identifier =>
      obtain ⟨_, _, member, _⟩ := given.waits identifier current
      rw [rest] at member
      cases member

/-- One retrieval after the other comes back. -/
theorem retrieved_first (underWay : ¬view.AtRest) :
    ∃ after, view.retrieved 0 = some after ∧
      after.retrievals.length + 1 = view.retrievals.length := by
  unfold AtRest at underWay
  unfold ImageView.retrieved
  cases waiting : view.retrievals with
  | nil => exact absurd waiting underWay
  | cons retrieval rest =>
      refine ⟨_, rfl, ?_⟩
      dsimp only
      split <;> rfl

end ImageView

end InstagramProject
