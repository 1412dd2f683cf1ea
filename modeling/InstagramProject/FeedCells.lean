/-
The cells of the feed.  A cell is recycled: it keeps what earlier uses left in it,
since nothing resets it before the next use.  Its last configuration decides the
name, the image and the caption; the picture, the background view and the colour
depend on the uses before.
-/

import InstagramProject.ImageViews
import InstagramProject.LastWrites
import InstagramProject.PostLists

namespace InstagramProject

open LastWrite Transition

variable {W : Web}

/-- The signed-in user as the cell sees it. -/
structure User (W : Web) where
  photoURL : Option W.URL

/-- The colour of the storyboard and the one of `configureCell`. -/
inductive Colour
  | lightGray
  | systemGray
deriving DecidableEq

structure InstagramFeedCell (W : Web) where
  backgroundView : Option EmptyView
  profilePic : ImageView W
  /-- `profilePic.backgroundColor`. -/
  profilePicColour : Colour
  userNameLabel : String
  optionsButtonIsHidden : Bool
  captionLabel : String
  postImage : ImageView W

/-- What `cellForItemAt` is called for and under whom, and the retrievals of the
two image views. -/
inductive CellEvent (W : Web)
  | cellForItemAt (instagramPosts : List InstagramPost) (row : Nat) (currentUser : Option (User W))
  | profilePicRetrieved (index : Nat)
  | postImageRetrieved (index : Nat)

namespace InstagramFeedCell

/-- As the storyboard has it. -/
def loaded : InstagramFeedCell W :=
  { backgroundView := none
    profilePic := .loaded
    profilePicColour := .lightGray
    userNameLabel := "Username"
    optionsButtonIsHidden := false
    captionLabel := "Caption"
    postImage := .loaded }

def configureCell (cell : InstagramFeedCell W) (currentUser : Option (User W))
    (post : InstagramPost) : InstagramFeedCell W :=
  let cell := { cell with optionsButtonIsHidden := true }
  let cell :=
    match currentUser with
    | some user => { cell with profilePic := cell.profilePic.setImage user.photoURL }
    | none => { cell with profilePicColour := .systemGray, userNameLabel := "username" }
  { cell with
    userNameLabel := post.username
    postImage := cell.postImage.setImage (W.url post.photoURL)
    captionLabel := post.caption }

/-- `none` when the subscript traps. -/
def cellForItemAt (cell : InstagramFeedCell W) (instagramPosts : List InstagramPost) (row : Nat)
    (currentUser : Option (User W)) : Option (InstagramFeedCell W) :=
  if instagramPosts.isEmpty then
    some { cell with backgroundView := some { title := "Empty", message := "add a post!" } }
  else instagramPosts[row]?.map (cell.configureCell currentUser)

def handle (cell : InstagramFeedCell W) : CellEvent W → Option (InstagramFeedCell W)
  | .cellForItemAt instagramPosts row currentUser =>
      cell.cellForItemAt instagramPosts row currentUser
  | .profilePicRetrieved index =>
      (cell.profilePic.retrieved index).map (fun view => { cell with profilePic := view })
  | .postImageRetrieved index =>
      (cell.postImage.retrieved index).map (fun view => { cell with postImage := view })

/-- What an answer of the feed makes of a cell. -/
def fill (cell : InstagramFeedCell W) (currentUser : Option (User W)) :
    Cell → InstagramFeedCell W
  | .empty backgroundView => { cell with backgroundView := some backgroundView }
  | .post post => cell.configureCell currentUser post
  | .photo _ => cell

/-- A cell is filled with what the feed answers for its row. -/
theorem cellForItemAt_eq (cell : InstagramFeedCell W) (instagramPosts : List InstagramPost)
    (row : Nat) (currentUser : Option (User W)) :
    cell.cellForItemAt instagramPosts row currentUser =
      (instagramFeedViewController.cellForItemAt instagramPosts row).map (cell.fill currentUser) := by
  unfold cellForItemAt instagramFeedViewController
  dsimp only
  split
  · rfl
  · rw [Option.map_map]
    rfl

/-- What the cell shows; the button is always hidden once it is configured. -/
structure Contents (W : Web) where
  authorPicture : Option W.Image
  pictureColour : Colour
  backgroundView : Option EmptyView
  name : String
  image : Option W.Image
  caption : String

def contents (cell : InstagramFeedCell W) : Contents W :=
  { authorPicture := cell.profilePic.image
    pictureColour := cell.profilePicColour
    backgroundView := cell.backgroundView
    name := cell.userNameLabel
    image := cell.postImage.image
    caption := cell.captionLabel }

structure AtRest (cell : InstagramFeedCell W) : Prop where
  profilePic : cell.profilePic.AtRest
  postImage : cell.postImage.AtRest

end InstagramFeedCell

abbrev CellRun (past : List (InstagramFeedCell W × CellEvent W)) (cell : InstagramFeedCell W) :
    Prop :=
  Run InstagramFeedCell.handle .loaded past cell

/-! ### What the uses leave -/

namespace CellEvent

/-- The post a use configures the cell with, and the user it finds signed in. -/
def configuration? : CellEvent W → Option (InstagramPost × Option (User W))
  | .cellForItemAt instagramPosts row currentUser =>
      instagramPosts[row]?.map (fun post => (post, currentUser))
  | _ => none

def post? (event : CellEvent W) : Option InstagramPost := event.configuration?.map Prod.fst

/-- The picture a configuration asks for. -/
def picture? (event : CellEvent W) : Option (Option W.URL) :=
  event.configuration?.bind (fun configuration => configuration.2.map User.photoURL)

/-- Nobody is signed in when the cell is configured. -/
def signedOut (event : CellEvent W) : Bool :=
  event.configuration?.any (fun configuration => configuration.2.isNone)

def isUse : CellEvent W → Bool
  | .cellForItemAt _ _ _ => true
  | _ => false

/-- The array is empty when the cell is asked for. -/
def empties : CellEvent W → Bool
  | .cellForItemAt instagramPosts _ _ => instagramPosts.isEmpty
  | _ => false

end CellEvent

section Uses

variable {past : List (InstagramFeedCell W × CellEvent W)} {cell before after : InstagramFeedCell W}
  {event : CellEvent W}

/-- The post the cell was last bound to. -/
def boundPost (past : List (InstagramFeedCell W × CellEvent W)) : Option InstagramPost :=
  latest (fun _ event => event.post?.map some) none past

/-- The picture of the user the cell was last configured under. -/
def viewerPicture (past : List (InstagramFeedCell W × CellEvent W)) : Option W.Image :=
  (latest (fun _ event => event.picture?) none past).map W.image

def everSignedOut (past : List (InstagramFeedCell W × CellEvent W)) : Bool :=
  past.any (fun moment => moment.2.signedOut)

def everEmpty (past : List (InstagramFeedCell W × CellEvent W)) : Bool :=
  past.any (fun moment => moment.2.empties)

/-- Every way an event changes a cell. -/
inductive CellStep (before : InstagramFeedCell W) : CellEvent W → InstagramFeedCell W → Prop
  | emptied {row : Nat} {currentUser : Option (User W)} :
      CellStep before (.cellForItemAt [] row currentUser)
        { before with backgroundView := some { title := "Empty", message := "add a post!" } }
  | configured {instagramPosts : List InstagramPost} {row : Nat} {currentUser : Option (User W)}
      {post : InstagramPost} :
      instagramPosts[row]? = some post → instagramPosts ≠ [] →
      CellStep before (.cellForItemAt instagramPosts row currentUser)
        (before.configureCell currentUser post)
  | profilePicRetrieved {index : Nat} {view : ImageView W} :
      before.profilePic.retrieved index = some view →
      CellStep before (.profilePicRetrieved index) { before with profilePic := view }
  | postImageRetrieved {index : Nat} {view : ImageView W} :
      before.postImage.retrieved index = some view →
      CellStep before (.postImageRetrieved index) { before with postImage := view }

theorem cellStep_of_handle (handled : before.handle event = some after) :
    CellStep before event after := by
  cases event with
  | cellForItemAt instagramPosts row currentUser =>
      simp only [InstagramFeedCell.handle, InstagramFeedCell.cellForItemAt] at handled
      cases instagramPosts with
      | nil =>
          cases handled
          exact .emptied
      | cons first rest =>
          obtain ⟨post, found, result⟩ := Option.map_eq_some_iff.mp handled
          cases result
          exact .configured found (List.cons_ne_nil _ _)
  | profilePicRetrieved index =>
      obtain ⟨view, came, result⟩ := Option.map_eq_some_iff.mp handled
      cases result
      exact .profilePicRetrieved came
  | postImageRetrieved index =>
      obtain ⟨view, came, result⟩ := Option.map_eq_some_iff.mp handled
      cases result
      exact .postImageRetrieved came

theorem configuration?_of_found {instagramPosts : List InstagramPost} {row : Nat}
    {currentUser : Option (User W)} {post : InstagramPost}
    (found : instagramPosts[row]? = some post) :
    (CellEvent.cellForItemAt instagramPosts row currentUser).configuration? =
      some (post, currentUser) := by
  rw [CellEvent.configuration?, found, Option.map_some]

theorem configureCell_profilePic (currentUser : Option (User W)) (post : InstagramPost) :
    (cell.configureCell currentUser post).profilePic =
      ((currentUser.map User.photoURL).map cell.profilePic.setImage).getD cell.profilePic := by
  cases currentUser <;> rfl

theorem configureCell_profilePicColour (currentUser : Option (User W)) (post : InstagramPost) :
    (cell.configureCell currentUser post).profilePicColour =
      if currentUser.isNone then .systemGray else cell.profilePicColour := by
  cases currentUser <;> rfl

theorem configureCell_backgroundView (currentUser : Option (User W)) (post : InstagramPost) :
    (cell.configureCell currentUser post).backgroundView = cell.backgroundView := by
  cases currentUser <;> rfl

theorem configureCell_postImage (currentUser : Option (User W)) (post : InstagramPost) :
    (cell.configureCell currentUser post).postImage =
      cell.postImage.setImage (W.url post.photoURL) := by
  cases currentUser <;> rfl

/-- The cell shows this post, if it shows any. -/
structure BoundTo (cell : InstagramFeedCell W) (bound : Option InstagramPost) : Prop where
  postImage : cell.postImage.Given (bound.bind (fun post => W.url post.photoURL))
  texts : ∀ post, bound = some post →
    cell.userNameLabel = post.username ∧ cell.captionLabel = post.caption

theorem BoundTo.step {bound : Option InstagramPost} (isBound : BoundTo before bound)
    (handled : before.handle event = some after) :
    BoundTo after ((event.post?.map some).getD bound) := by
  cases cellStep_of_handle handled with
  | emptied => exact ⟨isBound.postImage, isBound.texts⟩
  | configured found _nonempty =>
      rw [CellEvent.post?, configuration?_of_found found]
      constructor
      · rw [configureCell_postImage]
        exact isBound.postImage.setImage _
      · intro post isPost
        cases isPost
        exact ⟨rfl, rfl⟩
  | profilePicRetrieved _came => exact ⟨isBound.postImage, isBound.texts⟩
  | postImageRetrieved came => exact ⟨isBound.postImage.retrieved came, isBound.texts⟩

theorem boundTo (ran : CellRun past cell) : BoundTo cell (boundPost past) := by
  apply follows_latest ran
  · exact ⟨ImageView.given_loaded, nofun⟩
  · intro before event after bound earlier handled
    exact earlier.step handled

/-- Only a configuration under a user gives the picture a URL. -/
theorem picture_given (ran : CellRun past cell) :
    cell.profilePic.Given (latest (fun _ event => event.picture?) none past) := by
  apply follows_latest ran ImageView.given_loaded
  intro before event after url given handled
  cases cellStep_of_handle handled with
  | emptied => exact given
  | @configured _ _ currentUser post found _nonempty =>
      rw [CellEvent.picture?, configuration?_of_found found, configureCell_profilePic,
        Option.bind_some]
      cases currentUser with
      | none => exact given
      | some user => exact given.setImage _
  | profilePicRetrieved came => exact given.retrieved came
  | postImageRetrieved _came => exact given

/-- The gray of a configuration with nobody signed in stays. -/
theorem colour_of_run (ran : CellRun past cell) :
    cell.profilePicColour = if everSignedOut past then .systemGray else .lightGray := by
  have writes (before : InstagramFeedCell W) (event : CellEvent W) (after : InstagramFeedCell W)
      (handled : before.handle event = some after) :
      after.profilePicColour =
        (if event.signedOut then some Colour.systemGray else none).getD before.profilePicColour := by
    cases cellStep_of_handle handled with
    | configured found _nonempty =>
        rw [configureCell_profilePicColour, CellEvent.signedOut, configuration?_of_found found,
          Option.any_some]
        split <;> rfl
    | _ => rfl
  rw [field_eq_latest writes ran]
  exact latest_mark (fun _ event => CellEvent.signedOut event) _

/-- The view of a use without posts stays. -/
theorem backgroundView_of_run (ran : CellRun past cell) :
    cell.backgroundView =
      if everEmpty past then some { title := "Empty", message := "add a post!" } else none := by
  let emptyView : EmptyView := { title := "Empty", message := "add a post!" }
  have writes (before : InstagramFeedCell W) (event : CellEvent W) (after : InstagramFeedCell W)
      (handled : before.handle event = some after) :
      after.backgroundView =
        (if event.empties then some (some emptyView) else none).getD before.backgroundView := by
    cases cellStep_of_handle handled with
    | configured _found nonempty =>
        rw [configureCell_backgroundView, CellEvent.empties, List.isEmpty_eq_false_iff.mpr nonempty]
        rfl
    | _ => rfl
  rw [field_eq_latest writes ran]
  exact latest_mark (fun _ event => CellEvent.empties event) _

/-- All that is left in a cell that was last bound to a post. -/
def leftFor (post : InstagramPost) (past : List (InstagramFeedCell W × CellEvent W)) :
    InstagramFeedCell.Contents W :=
  { authorPicture := viewerPicture past
    pictureColour := if everSignedOut past then .systemGray else .lightGray
    backgroundView :=
      if everEmpty past then some { title := "Empty", message := "add a post!" } else none
    name := post.username
    image := (W.url post.photoURL).map W.image
    caption := post.caption }

theorem contents_of_run {post : InstagramPost} (ran : CellRun past cell)
    (bound : boundPost past = some post) (rest : cell.AtRest) :
    cell.contents = leftFor post past := by
  have carried := boundTo ran
  rw [bound] at carried
  obtain ⟨name, caption⟩ := carried.texts post rfl
  rw [InstagramFeedCell.contents, (picture_given ran).image rest.profilePic,
    carried.postImage.image rest.postImage, colour_of_run ran, backgroundView_of_run ran, name,
    caption]
  rfl

/-- The retrievals come back one after the other, without another use. -/
theorem comes_to_rest (ran : CellRun past cell) :
    ∃ recent after, CellRun (recent ++ past) after ∧ after.AtRest ∧
      ∀ moment ∈ recent, moment.2.isUse = false := by
  generalize count : cell.profilePic.retrievals.length + cell.postImage.retrievals.length = size
  induction size generalizing past cell with
  | zero =>
      have none := Nat.add_eq_zero_iff.mp count
      exact ⟨[], cell, ran,
        ⟨List.length_eq_zero_iff.mp none.1, List.length_eq_zero_iff.mp none.2⟩,
        List.forall_mem_nil _⟩
  | succ size ih =>
      have continues {event : CellEvent W} {next : InstagramFeedCell W}
          (handled : cell.handle event = some next) (noUse : event.isUse = false)
          (fewer : next.profilePic.retrievals.length + next.postImage.retrievals.length = size) :
          ∃ recent after, CellRun (recent ++ past) after ∧ after.AtRest ∧
            ∀ moment ∈ recent, moment.2.isUse = false := by
        obtain ⟨recent, after, longer, rest, noUses⟩ := ih (.next ran handled) fewer
        refine ⟨recent ++ [(cell, event)], after, ?_, rest, ?_⟩
        · rw [List.append_assoc]
          exact longer
        · intro moment member
          rcases List.mem_append.mp member with later | first
          · exact noUses moment later
          · cases List.mem_singleton.mp first
            exact noUse
      by_cases rest : cell.profilePic.AtRest
      · have underWay : ¬cell.postImage.AtRest := by
          intro both
          rw [rest, both] at count
          cases count
        obtain ⟨view, came, fewer⟩ := ImageView.retrieved_first underWay
        have handled : cell.handle (.postImageRetrieved 0) = some { cell with postImage := view } := by
          rw [InstagramFeedCell.handle, came, Option.map_some]
        refine continues handled rfl ?_
        dsimp only
        omega
      · obtain ⟨view, came, fewer⟩ := ImageView.retrieved_first rest
        have handled : cell.handle (.profilePicRetrieved 0) =
            some { cell with profilePic := view } := by
          rw [InstagramFeedCell.handle, came, Option.map_some]
        refine continues handled rfl ?_
        dsimp only
        omega

/-! ### What a cell comes to show -/

/-- Once its retrievals have come back and before it is used again, the cell shows
these contents. -/
def ComesToShow (past : List (InstagramFeedCell W × CellEvent W))
    (contents : InstagramFeedCell.Contents W) : Prop :=
  ∃ recent after, CellRun (recent ++ past) after ∧ after.AtRest ∧
    (∀ moment ∈ recent, moment.2.isUse = false) ∧ after.contents = contents

theorem comesToShow_of_rest (ran : CellRun past cell) (rest : cell.AtRest) :
    ComesToShow past cell.contents :=
  ⟨[], cell, ran, rest, List.forall_mem_nil _, rfl⟩

theorem configuration?_of_retrieval (retrieval : event.isUse = false) :
    event.configuration? = none ∧ event.empties = false := by
  cases event with
  | cellForItemAt _ _ _ => cases retrieval
  | _ => exact ⟨rfl, rfl⟩

/-- Retrievals leave what the uses left. -/
theorem leftFor_of_retrievals {recent : List (InstagramFeedCell W × CellEvent W)}
    (retrievals : ∀ moment ∈ recent, moment.2.isUse = false)
    (past : List (InstagramFeedCell W × CellEvent W)) (post : InstagramPost) :
    boundPost (recent ++ past) = boundPost past ∧
      leftFor post (recent ++ past) = leftFor post past := by
  have unconfigured (moment : InstagramFeedCell W × CellEvent W) (member : moment ∈ recent) :=
    (configuration?_of_retrieval (retrievals moment member)).1
  have bound : boundPost (recent ++ past) = boundPost past := by
    apply latest_of_quiet
    intro moment member
    rw [CellEvent.post?, unconfigured moment member]
    rfl
  have picture : viewerPicture (recent ++ past) = viewerPicture past := by
    unfold viewerPicture
    rw [latest_of_quiet]
    intro moment member
    rw [CellEvent.picture?, unconfigured moment member]
    rfl
  have signedOut : everSignedOut (recent ++ past) = everSignedOut past := by
    rw [everSignedOut, List.any_append, List.any_eq_false.mpr, Bool.false_or, everSignedOut]
    intro moment member
    rw [CellEvent.signedOut, unconfigured moment member]
    exact Bool.false_ne_true
  have empty : everEmpty (recent ++ past) = everEmpty past := by
    rw [everEmpty, List.any_append, List.any_eq_false.mpr, Bool.false_or, everEmpty]
    intro moment member
    rw [(configuration?_of_retrieval (retrievals moment member)).2]
    exact Bool.false_ne_true
  refine ⟨bound, ?_⟩
  rw [leftFor, picture, signedOut, empty, leftFor]

/-- A cell that was last bound to a post comes to show what is left in it, and
nothing else. -/
theorem comesToShow_iff {post : InstagramPost} (ran : CellRun past cell)
    (bound : boundPost past = some post) (contents : InstagramFeedCell.Contents W) :
    ComesToShow past contents ↔ contents = leftFor post past := by
  constructor
  · rintro ⟨recent, after, longer, rest, retrievals, shows⟩
    obtain ⟨sameBound, sameLeft⟩ := leftFor_of_retrievals retrievals past post
    rw [← shows, contents_of_run longer (sameBound.trans bound) rest, sameLeft]
  · intro isLeft
    obtain ⟨recent, after, longer, rest, retrievals⟩ := comes_to_rest ran
    obtain ⟨sameBound, sameLeft⟩ := leftFor_of_retrievals retrievals past post
    refine ⟨recent, after, longer, rest, retrievals, ?_⟩
    rw [contents_of_run longer (sameBound.trans bound) rest, sameLeft, isLeft]

/-- Two cells bound to one post come to show the same if the same is left in them. -/
theorem comesToShow_same_iff {post : InstagramPost}
    {past' : List (InstagramFeedCell W × CellEvent W)} {cell' : InstagramFeedCell W}
    (ran : CellRun past cell) (ran' : CellRun past' cell') (bound : boundPost past = some post)
    (bound' : boundPost past' = some post) :
    (∀ contents, ComesToShow past contents ↔ ComesToShow past' contents) ↔
      leftFor post past = leftFor post past' := by
  constructor
  · intro same
    have shown := (same _).mp ((comesToShow_iff ran bound _).mpr rfl)
    exact (comesToShow_iff ran' bound' _).mp shown
  · intro same contents
    rw [comesToShow_iff ran bound, comesToShow_iff ran' bound', same]

theorem leftFor_eq_iff (post : InstagramPost)
    (past past' : List (InstagramFeedCell W × CellEvent W)) :
    leftFor post past = leftFor post past' ↔
      viewerPicture past = viewerPicture past' ∧ everSignedOut past = everSignedOut past' ∧
        everEmpty past = everEmpty past' := by
  simp only [leftFor, InstagramFeedCell.Contents.mk.injEq, and_true]
  refine and_congr_right (fun _ => and_congr ?_ ?_)
  · cases everSignedOut past <;> cases everSignedOut past' <;> decide
  · cases everEmpty past <;> cases everEmpty past' <;> decide

end Uses

/-- Two cells bound to one post come to show the same exactly if the users they were
last configured under have the same picture, both or neither have been configured
with nobody signed in, and both or neither have been asked for without posts. -/
theorem feed_cell_shows_post {post : InstagramPost}
    {past past' : List (InstagramFeedCell W × CellEvent W)} {cell cell' : InstagramFeedCell W}
    (ran : CellRun past cell) (ran' : CellRun past' cell') (bound : boundPost past = some post)
    (bound' : boundPost past' = some post) :
    (∀ contents, ComesToShow past contents ↔ ComesToShow past' contents) ↔
      viewerPicture past = viewerPicture past' ∧ everSignedOut past = everSignedOut past' ∧
        everEmpty past = everEmpty past' :=
  (comesToShow_same_iff ran ran' bound bound').trans (leftFor_eq_iff post past past')

/-- A post of Cleo's, and what binds a cell to it. -/
def seaPost : InstagramPost :=
  { username := "cleo", userId := "cleo", caption := "sea", photoURL := "sea.jpg" }

def seaUse (photoURL : String) : CellEvent Web.plain :=
  .cellForItemAt [seaPost] 0 (some { photoURL := some photoURL })

def finishCell (events : List (CellEvent Web.plain)) :
    List (InstagramFeedCell Web.plain × CellEvent Web.plain) × InstagramFeedCell Web.plain :=
  finish InstagramFeedCell.handle .loaded events

/-- A fresh cell, and one that was used for another post before and has come to rest. -/
theorem feed_cell_shows_post_reused :
    let fresh := finishCell [seaUse "ann.jpg"]
    let reused := finishCell
      [.cellForItemAt [seaPost, { seaPost with caption := "beach", photoURL := "beach.jpg" }] 1
          (some { photoURL := none }),
        seaUse "ann.jpg", .postImageRetrieved 1, .postImageRetrieved 0, .profilePicRetrieved 0]
    ComesToShow reused.1 reused.2.contents ∧ ComesToShow fresh.1 reused.2.contents := by
  intro fresh reused
  have ran : CellRun fresh.1 fresh.2 := Run.finish _ (by decide +kernel)
  have ran' : CellRun reused.1 reused.2 := Run.finish _ (by decide +kernel)
  have bound : boundPost fresh.1 = some seaPost := by decide +kernel
  have bound' : boundPost reused.1 = some seaPost := by decide +kernel
  have rest : reused.2.AtRest :=
    ⟨List.isEmpty_iff.mp (by decide +kernel), List.isEmpty_iff.mp (by decide +kernel)⟩
  have shown : ComesToShow reused.1 reused.2.contents := comesToShow_of_rest ran' rest
  have same := (feed_cell_shows_post ran ran' bound bound').mpr (by decide +kernel)
  exact ⟨shown, (same _).mpr shown⟩

/-- Cleo's post comes with the picture of whoever looks at it, and in a cell that was
once asked for without posts, or configured with nobody signed in, with what that
left. -/
theorem feed_cell_shows_more :
    let ann := finishCell [seaUse "ann.jpg"]
    let bob := finishCell [seaUse "bob.jpg"]
    let emptied := finishCell [.cellForItemAt [] 0 none, seaUse "ann.jpg"]
    let signedOut := finishCell [.cellForItemAt [seaPost] 0 none, seaUse "ann.jpg"]
    (∀ reached ∈ [ann, bob, emptied, signedOut], CellRun reached.1 reached.2 ∧
      boundPost reached.1 = some seaPost) ∧
      ¬(∀ contents, ComesToShow ann.1 contents ↔ ComesToShow bob.1 contents) ∧
      ¬(∀ contents, ComesToShow ann.1 contents ↔ ComesToShow emptied.1 contents) ∧
      ¬(∀ contents, ComesToShow ann.1 contents ↔ ComesToShow signedOut.1 contents) := by
  intro ann bob emptied signedOut
  have ranAnn : CellRun ann.1 ann.2 := Run.finish _ (by decide +kernel)
  have ranBob : CellRun bob.1 bob.2 := Run.finish _ (by decide +kernel)
  have ranEmptied : CellRun emptied.1 emptied.2 := Run.finish _ (by decide +kernel)
  have ranSignedOut : CellRun signedOut.1 signedOut.2 := Run.finish _ (by decide +kernel)
  have boundAnn : boundPost ann.1 = some seaPost := by decide +kernel
  have boundBob : boundPost bob.1 = some seaPost := by decide +kernel
  have boundEmptied : boundPost emptied.1 = some seaPost := by decide +kernel
  have boundSignedOut : boundPost signedOut.1 = some seaPost := by decide +kernel
  refine ⟨?_, ?_, ?_, ?_⟩
  · intro reached member
    simp only [List.mem_cons, List.not_mem_nil, or_false] at member
    rcases member with isAnn | isBob | isEmptied | isSignedOut
    · subst isAnn
      exact ⟨ranAnn, boundAnn⟩
    · subst isBob
      exact ⟨ranBob, boundBob⟩
    · subst isEmptied
      exact ⟨ranEmptied, boundEmptied⟩
    · subst isSignedOut
      exact ⟨ranSignedOut, boundSignedOut⟩
  · intro same
    have left := (comesToShow_same_iff ranAnn ranBob boundAnn boundBob).mp same
    exact absurd (congrArg InstagramFeedCell.Contents.authorPicture left) (by decide +kernel)
  · intro same
    have left := (comesToShow_same_iff ranAnn ranEmptied boundAnn boundEmptied).mp same
    exact absurd (congrArg InstagramFeedCell.Contents.backgroundView left) (by decide +kernel)
  · intro same
    have left := (comesToShow_same_iff ranAnn ranSignedOut boundAnn boundSignedOut).mp same
    exact absurd (congrArg InstagramFeedCell.Contents.pictureColour left) (by decide +kernel)

end InstagramProject
