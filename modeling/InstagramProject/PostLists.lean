/-
The lists of posts on the feed and on the profile.  Each controller listens to
the posts collection, keeps the posts of the latest snapshot in an array whose
observer asks for a reload on the main queue, and answers the questions of its
collection view from that array.  A failure of the listener is a block that shows an
alert; the lists are apart from the app of `World`, and the alert does not enter its
screens.
-/

import InstagramProject.ListViews
import InstagramProject.Posts

namespace InstagramProject

open Transition ListView

/-- `EmptyView(title:message:)`. -/
structure EmptyView where
  title : String
  message : String
deriving DecidableEq

/-- A block a list puts on the main queue. -/
inductive ListBlock
  | reloadData
  | showAlert (title message : String)
deriving DecidableEq

/-- What a cell is configured with. -/
inductive Cell
  | empty (backgroundView : EmptyView)
  | post (post : InstagramPost)
  | photo (photoURL : String)
deriving DecidableEq

structure PostList where
  posts : List InstagramPost
  /-- What the collection view last read from `numberOfItemsInSection`. -/
  numberOfItems : Nat
  backgroundView : Option EmptyView
  mainQueue : List ListBlock
  listener : Option Nat
  /-- The registrations Firestore delivers snapshots to. -/
  live : List Nat
  nextListener : Nat
  /-- False once a subscript has trapped. -/
  running : Bool
deriving DecidableEq

inductive Appearance
  | viewWillAppear
  | viewDidAppear
  | viewWillDisappear
  | viewDidDisappear
deriving DecidableEq

inductive ListEvent
  | appearance (callback : Appearance)
  | snapshot (registration : Nat) (documents : List Document)
  | snapshotError (registration : Nat) (error : String)
  | runBlock
  | numberOfItemsInSection
  | cellForItemAt (row : Nat)

/-- Where the two controllers differ. -/
structure ListController where
  emptyView : EmptyView
  errorTitle : String
  addsListener : Appearance
  removesListener : Appearance
  /-- `none` when the subscript traps. -/
  cellForItemAt : List InstagramPost → Nat → Option Cell

def instagramFeedViewController : ListController where
  emptyView :=
    { title := "No Posts!"
      message := "Add a new post or follow another user to see more posts!" }
  errorTitle := "Fire Store Error"
  addsListener := .viewDidAppear
  removesListener := .viewWillDisappear
  cellForItemAt instagramPosts row :=
    if instagramPosts.isEmpty then some (.empty { title := "Empty", message := "add a post!" })
    else instagramPosts[row]?.map .post

def profileViewController : ListController where
  emptyView := { title := "No posts!", message := "create your own post on the second tab" }
  errorTitle := "Could not get data"
  addsListener := .viewWillAppear
  removesListener := .viewDidDisappear
  cellForItemAt userPosts row := userPosts[row]?.map (fun post => .photo post.photoURL)

namespace PostList

/-- After `viewDidLoad`, with what it put on the main queue. -/
def loaded (mainQueue : List ListBlock) : PostList :=
  { posts := []
    numberOfItems := 0
    backgroundView := none
    mainQueue := mainQueue
    listener := none
    live := []
    nextListener := 0
    running := true }

def async (list : PostList) (block : ListBlock) : PostList :=
  { list with mainQueue := list.mainQueue ++ [block] }

/-- An assignment to the array, with its observer. -/
def assign (list : PostList) (emptyView : EmptyView) (posts : List InstagramPost) : PostList :=
  { list with
    posts := posts
    backgroundView := if posts.isEmpty then some emptyView else none }.async .reloadData

def addSnapshotListener (list : PostList) : PostList :=
  { list with
    listener := some list.nextListener
    live := list.nextListener :: list.live
    nextListener := list.nextListener + 1 }

/-- `listener?.remove()`. -/
def removeListener (list : PostList) : PostList :=
  match list.listener with
  | none => list
  | some listener => { list with live := list.live.filter (fun live => live != listener) }

def appear (list : PostList) (controller : ListController) (callback : Appearance) : PostList :=
  if callback = controller.addsListener then list.addSnapshotListener
  else if callback = controller.removesListener then list.removeListener
  else list

/-- One event.  Between reloads the collection view asks for any row below the
count it last read. -/
def handle (controller : ListController) (list : PostList) (event : ListEvent) :
    Option PostList :=
  if list.running then
    match event with
    | .appearance callback => some (list.appear controller callback)
    | .snapshot registration documents =>
        if registration ∈ list.live then
          some (list.assign controller.emptyView (documents.map InstagramPost.ofDocument))
        else none
    | .snapshotError registration error =>
        if registration ∈ list.live then some (list.async (.showAlert controller.errorTitle error))
        else none
    | .runBlock =>
        match list.mainQueue with
        | [] => none
        | _ :: rest => some { list with mainQueue := rest }
    | .numberOfItemsInSection => some { list with numberOfItems := list.posts.length }
    | .cellForItemAt row =>
        if row < list.numberOfItems then
          some (match controller.cellForItemAt list.posts row with
            | some _ => list
            | none => { list with running := false })
        else none
  else none

end PostList

/-! ### The profile around its list -/

inductive CollectionState
  | threeByThree
  | one
deriving DecidableEq

structure ProfileScreen where
  list : PostList
  collectionState : CollectionState
  /-- The text of the label. -/
  numberOfPosts : String
  currentUser : Option UID
deriving DecidableEq

inductive ProfileEvent
  | list (event : ListEvent)
  | segmentControllerPressed (selectedSegmentIndex : Nat)
  /-- The user data arrives: `instaUser` is assigned. -/
  | setProfileUser
  | sessionChanged (currentUser : Option UID)

/-- `"\(count)\n#posts"`. -/
def numberOfPostsText (count : Nat) : String := toString count ++ "\n#posts"

namespace ProfileScreen

def updateUI (screen : ProfileScreen) : ProfileScreen :=
  match screen.currentUser with
  | none => screen
  | some _ => { screen with numberOfPosts := numberOfPostsText screen.list.posts.length }

/-- After `viewDidLoad`. -/
def loaded (currentUser : Option UID) : ProfileScreen :=
  { list := .loaded [.reloadData]
    collectionState := .threeByThree
    numberOfPosts := "# of \nposts"
    currentUser := currentUser : ProfileScreen }.updateUI

def handle (screen : ProfileScreen) (event : ProfileEvent) : Option ProfileScreen :=
  match event with
  | .list event =>
      (screen.list.handle profileViewController event).map (fun list =>
        let changed := { screen with list := list }
        match event with
        | .appearance .viewWillAppear | .snapshot _ _ => changed.updateUI
        | _ => changed)
  | .segmentControllerPressed selectedSegmentIndex =>
      some { screen with
        list := screen.list.async .reloadData
        collectionState := if selectedSegmentIndex = 0 then .threeByThree else .one }
  | .setProfileUser => some screen.updateUI
  | .sessionChanged currentUser => some { screen with currentUser := currentUser }

end ProfileScreen

/-! ### What the collection view is shown -/

namespace PostList

def shown (list : PostList) : Shown InstagramPost :=
  { items := list.posts, numberOfItems := list.numberOfItems }

/-- Nothing has trapped, and every row the collection view may ask for now is there. -/
structure Sound (list : PostList) : Prop where
  running : list.running = true
  inRange : ∀ row < list.numberOfItems, row < list.posts.length

/-- A snapshot has at least as many posts as the collection view last counted. -/
def Covers (list : PostList) : ListEvent → Prop
  | .snapshot _ documents => list.numberOfItems ≤ documents.length
  | _ => True

instance (list : PostList) : ∀ event, Decidable (list.Covers event)
  | .snapshot _ documents => inferInstanceAs (Decidable (list.numberOfItems ≤ documents.length))
  | .appearance _ | .snapshotError _ _ | .runBlock | .numberOfItemsInSection | .cellForItemAt _ =>
      inferInstanceAs (Decidable True)

end PostList

def ProfileScreen.Covers (screen : ProfileScreen) : ProfileEvent → Prop
  | .list event => screen.list.Covers event
  | _ => True

instance (screen : ProfileScreen) : ∀ event, Decidable (screen.Covers event)
  | .list event => inferInstanceAs (Decidable (screen.list.Covers event))
  | .segmentControllerPressed _ | .setProfileUser | .sessionChanged _ =>
      inferInstanceAs (Decidable True)

def ListEvent.change : ListEvent → Change InstagramPost
  | .snapshot _ documents => .assign (documents.map InstagramPost.ofDocument)
  | .numberOfItemsInSection => .count
  | _ => .keep

namespace PostList

variable {controller : ListController} {list after : PostList} {event : ListEvent}

@[simp] theorem shown_appear (callback : Appearance) :
    (list.appear controller callback).shown = list.shown := by
  unfold appear addSnapshotListener removeListener
  split
  · rfl
  · split
    · split <;> rfl
    · rfl

@[simp] theorem running_appear (callback : Appearance) :
    (list.appear controller callback).running = list.running := by
  unfold appear addSnapshotListener removeListener
  split
  · rfl
  · split
    · split <;> rfl
    · rfl

/-- Every event that can happen, and the list it leaves. -/
inductive Handles (controller : ListController) (list : PostList) : ListEvent → PostList → Prop
  | appeared {callback : Appearance} :
      Handles controller list (.appearance callback) (list.appear controller callback)
  | arrived {registration : Nat} {documents : List Document} (live : registration ∈ list.live) :
      Handles controller list (.snapshot registration documents)
        (list.assign controller.emptyView (documents.map InstagramPost.ofDocument))
  | failed {registration : Nat} {error : String} (live : registration ∈ list.live) :
      Handles controller list (.snapshotError registration error)
        (list.async (.showAlert controller.errorTitle error))
  | ran {block : ListBlock} {rest : List ListBlock} (queued : list.mainQueue = block :: rest) :
      Handles controller list .runBlock { list with mainQueue := rest }
  | counted :
      Handles controller list .numberOfItemsInSection
        { list with numberOfItems := list.posts.length }
  | configured {row : Nat} {cell : Cell} (asked : row < list.numberOfItems)
      (answer : controller.cellForItemAt list.posts row = some cell) :
      Handles controller list (.cellForItemAt row) list
  | trapped {row : Nat} (asked : row < list.numberOfItems)
      (noAnswer : controller.cellForItemAt list.posts row = none) :
      Handles controller list (.cellForItemAt row) { list with running := false }

/-- Nothing happens after a trap. -/
theorem handles_of_handle (handled : list.handle controller event = some after) :
    list.running = true ∧ Handles controller list event after := by
  obtain ⟨running, result⟩ := Option.ite_none_right_eq_some.mp handled
  refine ⟨running, ?_⟩
  cases event with
  | appearance callback =>
      cases result
      exact .appeared
  | snapshot registration documents =>
      obtain ⟨live, assigned⟩ := Option.ite_none_right_eq_some.mp result
      cases assigned
      exact .arrived live
  | snapshotError registration error =>
      obtain ⟨live, shown⟩ := Option.ite_none_right_eq_some.mp result
      cases shown
      exact .failed live
  | runBlock =>
      cases queued : list.mainQueue with
      | nil =>
          rw [queued] at result
          cases result
      | cons block rest =>
          rw [queued] at result
          cases result
          exact .ran queued
  | numberOfItemsInSection =>
      cases result
      exact .counted
  | cellForItemAt row =>
      obtain ⟨asked, shown⟩ := Option.ite_none_right_eq_some.mp result
      cases shown
      split
      · rename_i cell answer
        exact .configured asked answer
      · rename_i noAnswer
        exact .trapped asked noAnswer

/-- Every event is a change of the list or a reading of its length, or neither. -/
theorem shown_handle (handled : list.handle controller event = some after) :
    after.shown = list.shown.apply event.change := by
  cases (handles_of_handle handled).2 with
  | appeared => exact shown_appear _
  | _ => rfl

/-- A controller that can configure a cell for every row of its array keeps
running, as long as the rows asked for are there. -/
theorem running_handle
    (answers : ∀ posts row, row < posts.length → controller.cellForItemAt posts row ≠ none)
    (inRange : list.shown.InRange) (handled : list.handle controller event = some after) :
    after.running = true := by
  obtain ⟨running, handles⟩ := handles_of_handle handled
  cases handles with
  | appeared =>
      rw [running_appear]
      exact running
  | trapped asked noAnswer => exact absurd noAnswer (answers _ _ (inRange _ asked))
  | _ => exact running

theorem covers_iff : list.shown.Covers event.change ↔ list.Covers event := by
  cases event with
  | snapshot registration documents =>
      constructor
      · intro covers
        have within := covers _ rfl
        rwa [List.length_map] at within
      · intro within posts assigned
        cases assigned
        rwa [List.length_map]
  | _ => exact iff_of_true nofun trivial

end PostList

/-! ### Screens with a list -/

section Screens

variable {σ ε : Type} {step : σ → ε → Option σ} {start state : σ} {past : List (σ × ε)}
  {list : σ → PostList} {listEvent : ε → Option ListEvent} {controller : ListController}

/-- How a screen treats its list: it hands on the list's own events and leaves
the array alone in all others. -/
structure Carries (step : σ → ε → Option σ) (list : σ → PostList)
    (listEvent : ε → Option ListEvent) (controller : ListController) : Prop where
  handles : ∀ state event after own, step state event = some after →
    listEvent event = some own → (list state).handle controller own = some (list after)
  spares : ∀ state event after, step state event = some after → listEvent event = none →
    (list after).shown = (list state).shown ∧ (list after).running = (list state).running
  answers : ∀ posts row, row < posts.length → controller.cellForItemAt posts row ≠ none

/-- What an event of the screen does to what the collection view is shown. -/
private def changeOf (listEvent : ε → Option ListEvent) (event : ε) : Change InstagramPost :=
  ((listEvent event).map ListEvent.change).getD .keep

private theorem Carries.changes (carries : Carries step list listEvent controller) (state : σ)
    (event : ε) (after : σ) (stepped : step state event = some after) :
    (list after).shown = (list state).shown.apply (changeOf listEvent event) := by
  unfold changeOf
  cases own : listEvent event with
  | none => exact (carries.spares state event after stepped own).1
  | some own' => exact PostList.shown_handle (carries.handles state event after own' stepped own)

private theorem Carries.running (carries : Carries step list listEvent controller)
    (ran : Run step start past state) (initially : (list start).running = true)
    (inRange : ∀ moment ∈ past, (list moment.1).shown.InRange) :
    (∀ moment ∈ past, (list moment.1).running = true) ∧ (list state).running = true := by
  induction ran with
  | start => exact ⟨nofun, initially⟩
  | @next past state event after earlier stepped ih =>
      rw [List.forall_mem_cons] at inRange ⊢
      obtain ⟨allBefore, before⟩ := ih inRange.2
      refine ⟨⟨before, allBefore⟩, ?_⟩
      cases own : listEvent event with
      | none =>
          rw [(carries.spares state event after stepped own).2]
          exact before
      | some own' =>
          exact PostList.running_handle carries.answers inRange.1
            (carries.handles state event after own' stepped own)

theorem Carries.sound_iff_covers (carries : Carries step list listEvent controller)
    (ran : Run step start past state) (initially : (list start).Sound) :
    ((∀ moment ∈ past, (list moment.1).Sound) ∧ (list state).Sound) ↔
      Throughout (fun _ state event => ∀ own, listEvent event = some own →
        (list state).Covers own) past := by
  have covered : Throughout
      (fun _ state event => (list state).shown.Covers (changeOf listEvent event)) past ↔
      Throughout (fun _ state event => ∀ own, listEvent event = some own →
        (list state).Covers own) past := by
    apply ran.throughout_iff
    intro past state event after _earlier _stepped
    unfold changeOf
    cases own : listEvent event with
    | none => exact iff_of_true nofun nofun
    | some own' =>
        simp only [Option.map_some, Option.getD_some, Option.some.injEq, forall_eq']
        exact PostList.covers_iff
  rw [← covered, ← inRange_iff_covers carries.changes ran initially.inRange]
  constructor
  · rintro ⟨allSound, sound⟩
    exact ⟨fun moment member => (allSound moment member).inRange, sound.inRange⟩
  · rintro ⟨allInRange, inRange⟩
    obtain ⟨allRunning, running⟩ := carries.running ran initially.running allInRange
    exact ⟨fun moment member => ⟨allRunning moment member, allInRange moment member⟩,
      running, inRange⟩

end Screens

/-! ### The two screens -/

abbrev FeedPast := List (PostList × ListEvent)

abbrev FeedRun (past : FeedPast) (feed : PostList) : Prop :=
  Run (PostList.handle instagramFeedViewController) (.loaded []) past feed

abbrev ProfilePast := List (ProfileScreen × ProfileEvent)

abbrev ProfileRun (currentUser : Option UID) (past : ProfilePast) (screen : ProfileScreen) :
    Prop :=
  Run ProfileScreen.handle (.loaded currentUser) past screen

def ProfileEvent.own? : ProfileEvent → Option ListEvent
  | .list event => some event
  | _ => none

theorem PostList.sound_loaded (mainQueue : List ListBlock) : (loaded mainQueue).Sound :=
  ⟨rfl, nofun⟩

@[simp] theorem ProfileScreen.list_updateUI (screen : ProfileScreen) :
    screen.updateUI.list = screen.list := by
  unfold updateUI
  split <;> rfl

theorem ProfileScreen.list_loaded (currentUser : Option UID) :
    (loaded currentUser).list = .loaded [.reloadData] := by
  unfold loaded
  rw [list_updateUI]

theorem feed_carries :
    Carries (PostList.handle instagramFeedViewController) id some
      instagramFeedViewController where
  handles := by
    intro list event after own handled same
    cases same
    exact handled
  spares := by
    intro list event after _handled impossible
    cases impossible
  answers := by
    intro posts row within
    change (if posts.isEmpty then some _ else posts[row]?.map Cell.post) ≠ none
    rw [List.getElem?_eq_getElem within]
    split <;> exact Option.some_ne_none _

theorem profile_carries :
    Carries ProfileScreen.handle ProfileScreen.list ProfileEvent.own? profileViewController where
  handles := by
    intro screen event after own handled same
    cases event with
    | list event =>
        cases same
        obtain ⟨list, listHandled, result⟩ := Option.map_eq_some_iff.mp handled
        rw [listHandled, ← result]
        split
        · rw [ProfileScreen.list_updateUI]
        · rw [ProfileScreen.list_updateUI]
        · rfl
    | _ => cases same
  spares := by
    intro screen event after handled other
    cases event with
    | list event => cases other
    | segmentControllerPressed selectedSegmentIndex =>
        cases handled
        exact ⟨rfl, rfl⟩
    | setProfileUser =>
        cases handled
        rw [ProfileScreen.list_updateUI]
        exact ⟨rfl, rfl⟩
    | sessionChanged currentUser =>
        cases handled
        exact ⟨rfl, rfl⟩
  answers := by
    intro posts row within
    change posts[row]?.map (fun post => Cell.photo post.photoURL) ≠ none
    rw [List.getElem?_eq_getElem within]
    exact Option.some_ne_none _

/-- On both screens: every cell asked for is there, and no subscript traps, exactly
if no snapshot has fewer posts than the collection view last counted. -/
theorem cells_in_range {feedPast : FeedPast} {feed : PostList} (feedRan : FeedRun feedPast feed)
    {currentUser : Option UID} {past : ProfilePast} {screen : ProfileScreen}
    (ran : ProfileRun currentUser past screen) :
    (((∀ moment ∈ feedPast, moment.1.Sound) ∧ feed.Sound) ↔
        Throughout (fun _ feed event => feed.Covers event) feedPast) ∧
      (((∀ moment ∈ past, moment.1.list.Sound) ∧ screen.list.Sound) ↔
        Throughout (fun _ screen event => screen.Covers event) past) := by
  constructor
  · refine (feed_carries.sound_iff_covers feedRan (PostList.sound_loaded [])).trans ?_
    simp only [Option.some.injEq, forall_eq', id_eq]
  · have initially : (ProfileScreen.loaded currentUser).list.Sound := by
      rw [ProfileScreen.list_loaded]
      exact PostList.sound_loaded _
    rw [profile_carries.sound_iff_covers ran initially]
    apply ran.throughout_iff
    intro past screen event after _earlier _handled
    cases event with
    | list event =>
        simp only [ProfileEvent.own?, Option.some.injEq, forall_eq']
        rfl
    | _ => exact iff_of_true nofun trivial

/-- Each screen counts two posts and then gets a third. -/
theorem cells_in_range_growing :
    ∃ feedPast feed, FeedRun feedPast feed ∧ feed.numberOfItems = 2 ∧ feed.posts.length = 3 ∧
      ∃ past screen, ProfileRun (some "alice") past screen ∧ screen.list.numberOfItems = 2 ∧
        screen.list.posts.length = 3 ∧ feed.Sound ∧ screen.list.Sound := by
  let document := Document.setData [("caption", "sunny")]
  obtain ⟨⟨feedPast, feed⟩, feedReached⟩ := Option.isSome_iff_exists.mp
    (rfl : (run (PostList.handle instagramFeedViewController) [] (.loaded [])
      [.appearance .viewDidAppear, .snapshot 0 [document, document], .runBlock,
        .numberOfItemsInSection, .cellForItemAt 1,
        .snapshot 0 [document, document, document]]).isSome = true)
  obtain ⟨⟨past, screen⟩, reached⟩ := Option.isSome_iff_exists.mp
    (rfl : (run ProfileScreen.handle [] (.loaded (some "alice"))
      [.list (.appearance .viewWillAppear), .list (.snapshot 0 [document, document]),
        .list .runBlock, .list .numberOfItemsInSection, .list (.cellForItemAt 1),
        .list (.snapshot 0 [document, document, document])]).isSome = true)
  have feedRan := Run.of_events _ feedReached
  have ran := Run.of_events _ reached
  cases feedReached
  cases reached
  have both := cells_in_range feedRan ran
  exact ⟨_, _, feedRan, rfl, rfl, _, _, ran, rfl, rfl, (both.1.mpr (by decide +kernel)).2,
    (both.2.mpr (by decide +kernel)).2⟩

/-- A snapshot loses a post and the reload is still to come: row 1 of the two that
were counted is asked for, and the subscript traps. -/
theorem cell_out_of_range :
    let document := Document.setData [("caption", "sunny")]
    (∃ past feed, FeedRun past feed ∧ 1 < feed.numberOfItems ∧ feed.posts.length = 1 ∧
      feed.mainQueue = [.reloadData] ∧
      ∃ after, feed.handle instagramFeedViewController (.cellForItemAt 1) = some after ∧
        after.running = false) ∧
    ∃ past screen, ProfileRun (some "alice") past screen ∧ 1 < screen.list.numberOfItems ∧
      screen.list.posts = [InstagramPost.ofDocument document] ∧
      ∃ after, screen.handle (.list (.cellForItemAt 1)) = some after ∧
        after.list.running = false := by
  intro document
  constructor
  · obtain ⟨⟨past, feed⟩, reached⟩ := Option.isSome_iff_exists.mp
      (rfl : (run (PostList.handle instagramFeedViewController) [] (.loaded [])
        [.appearance .viewDidAppear, .snapshot 0 [document, document], .runBlock,
          .numberOfItemsInSection, .snapshot 0 [document]]).isSome = true)
    have ran := Run.of_events _ reached
    cases reached
    exact ⟨_, _, ran, by decide +kernel, rfl, rfl, _, rfl, rfl⟩
  · obtain ⟨⟨past, screen⟩, reached⟩ := Option.isSome_iff_exists.mp
      (rfl : (run ProfileScreen.handle [] (.loaded (some "alice"))
        [.list (.appearance .viewWillAppear), .list (.snapshot 0 [document, document]),
          .list .runBlock, .list .numberOfItemsInSection,
          .list (.snapshot 0 [document])]).isSome = true)
    have ran := Run.of_events _ reached
    cases reached
    exact ⟨_, _, ran, by decide +kernel, rfl, _, rfl, rfl⟩

/-! ### Whose posts the profile shows -/

/-- The account signed in when the latest snapshot arrived, and its documents. -/
def latestSnapshot : ProfilePast → Option (Option UID × List Document)
  | [] => none
  | (screen, .list (.snapshot _ documents)) :: _ => some (screen.currentUser, documents)
  | _ :: past => latestSnapshot past

def ownPosts (u : UID) (documents : List Document) : List Document :=
  documents.filter (fun document => document.string? "userId" = some u)

/-- What the latest snapshot left: its posts, all of them, and their number if
somebody was signed in. -/
structure ShowsSnapshot (signedIn : Option UID) (documents : List Document)
    (screen : ProfileScreen) : Prop where
  posts : screen.list.posts = documents.map InstagramPost.ofDocument
  counted : signedIn ≠ none → screen.numberOfPosts = numberOfPostsText documents.length

namespace ShowsSnapshot

variable {signedIn : Option UID} {documents : List Document} {screen after : ProfileScreen}

theorem updateUI (shows : ShowsSnapshot signedIn documents screen) :
    ShowsSnapshot signedIn documents screen.updateUI := by
  unfold ProfileScreen.updateUI
  split
  · exact shows
  · refine ⟨shows.posts, ?_⟩
    intro _present
    rw [shows.posts, List.length_map]

/-- A snapshot itself. -/
theorem arrived (posts : screen.list.posts = documents.map InstagramPost.ofDocument) :
    ShowsSnapshot screen.currentUser documents screen.updateUI := by
  unfold ProfileScreen.updateUI
  split
  · rename_i nobody
    exact ⟨posts, fun present => absurd nobody present⟩
  · refine ⟨posts, ?_⟩
    intro _present
    rw [posts, List.length_map]

/-- A change of the list alone that keeps its posts. -/
theorem replaced {list : PostList} (shows : ShowsSnapshot signedIn documents screen)
    (same : list.posts = screen.list.posts) :
    ShowsSnapshot signedIn documents { screen with list := list } :=
  ⟨same.trans shows.posts, shows.counted⟩

end ShowsSnapshot

theorem PostList.posts_handle {controller : ListController} {list after : PostList}
    {event : ListEvent} (handled : list.handle controller event = some after) :
    after.posts = match event with
      | .snapshot _ documents => documents.map InstagramPost.ofDocument
      | _ => list.posts := by
  have changed := congrArg Shown.items (shown_handle handled)
  cases event <;> exact changed

theorem showsSnapshot_of_run {currentUser : Option UID} {past : ProfilePast}
    {screen : ProfileScreen} (ran : ProfileRun currentUser past screen) :
    ∀ signedIn documents, latestSnapshot past = some (signedIn, documents) →
      ShowsSnapshot signedIn documents screen := by
  apply ran.invariant (fun past screen => ∀ signedIn documents,
    latestSnapshot past = some (signedIn, documents) → ShowsSnapshot signedIn documents screen)
  · nofun
  · intro past screen event after _earlier ih handled signedIn documents latest
    cases event with
    | list event =>
        obtain ⟨list, listHandled, result⟩ := Option.map_eq_some_iff.mp handled
        have posts := PostList.posts_handle listHandled
        cases event with
        | snapshot registration delivered =>
            cases latest
            cases result
            exact @ShowsSnapshot.arrived _ { screen with list := list } posts
        | appearance callback =>
            have kept := (ih signedIn documents latest).replaced posts
            cases callback with
            | viewWillAppear =>
                cases result
                exact kept.updateUI
            | _ =>
                cases result
                exact kept
        | _ =>
            cases result
            exact (ih signedIn documents latest).replaced posts
    | segmentControllerPressed selectedSegmentIndex =>
        cases handled
        have kept := ih signedIn documents latest
        exact ⟨kept.posts, kept.counted⟩
    | setProfileUser =>
        cases handled
        exact (ih signedIn documents latest).updateUI
    | sessionChanged currentUser =>
        cases handled
        have kept := ih signedIn documents latest
        exact ⟨kept.posts, kept.counted⟩

/-- From a snapshot delivered while `u` is signed in to the next one, the profile
shows exactly the posts of `u`, and their number, if and only if the snapshot has
no document of anybody else. -/
theorem profile_shows_own_posts {currentUser : Option UID} {past : ProfilePast}
    {screen : ProfileScreen} (ran : ProfileRun currentUser past screen) {u : UID}
    {documents : List Document} (latest : latestSnapshot past = some (some u, documents)) :
    (screen.list.posts = (ownPosts u documents).map InstagramPost.ofDocument ∧
        screen.numberOfPosts = numberOfPostsText (ownPosts u documents).length) ↔
      ∀ document ∈ documents, document.string? "userId" = some u := by
  have shows := showsSnapshot_of_run ran _ _ latest
  rw [shows.posts, shows.counted (Option.some_ne_none u)]
  constructor
  · rintro ⟨same, _counted⟩
    have lengths := congrArg List.length same
    rw [List.length_map, List.length_map] at lengths
    intro document member
    exact of_decide_eq_true (List.length_filter_eq_length_iff.mp lengths.symm document member)
  · intro all
    have own : ownPosts u documents = documents :=
      List.filter_eq_self.mpr (fun document member => decide_eq_true (all document member))
    rw [own]
    exact ⟨rfl, rfl⟩

/-- Alice publishes a second post after the first one, and the profile gets a snapshot
after each. -/
theorem profile_shows_own_posts_publications :
    let first := ["post1"].filterMap (endOf publicationRun).2.firebase.posts
    let both := ["post1", "post2"].filterMap (endOf (publicationRun ++
      [.selectTab 1, .galleryButtonPressed, .sourceChosen, .imagePicked (some "city"), .runBlock,
        .captionEdited "rainy", .nextButtonPressed "post2" ()] ++ stepEvents)).2.firebase.posts
    ∃ past screen, ProfileRun (some "alice") past screen ∧
      past.map Prod.snd = [.list (.snapshot 0 both), .list (.snapshot 0 first),
        .list (.appearance .viewWillAppear)] ∧
      screen.list.posts = (ownPosts "alice" both).map InstagramPost.ofDocument ∧
      screen.list.posts.map InstagramPost.caption = ["sunny", "rainy"] ∧
      screen.numberOfPosts = "2\n#posts" := by
  intro first both
  obtain ⟨⟨past, screen⟩, reached⟩ := Option.isSome_iff_exists.mp
    (rfl : (run ProfileScreen.handle [] (.loaded (some "alice"))
      [.list (.appearance .viewWillAppear), .list (.snapshot 0 first),
        .list (.snapshot 0 both)]).isSome = true)
  have ran := Run.of_events _ reached
  cases reached
  have own : ∀ document ∈ both, document.string? "userId" = some "alice" := by
    decide +kernel
  have shown := (profile_shows_own_posts ran rfl).mpr own
  refine ⟨_, _, ran, rfl, shown.1, ?_, shown.2.trans ?_⟩
  · rw [shown.1]
    decide +kernel
  · decide +kernel

/-- Alice and bob publish one post each; the profile of bob shows both. -/
theorem others_posts_on_profile :
    let reached := endOf (publicationRun ++ profileEvents ++ [.signOutButtonPressed none] ++
      signUpEvents "bob@mail" "hidden" "bob" ++ publishEvents "city" "rainy" "post2" () ++
      stepEvents : List (Event Platform.plain))
    let documents := ["post1", "post2"].filterMap reached.2.firebase.posts
    AppRun reached.1 reached.2 ∧
    ∃ past screen, ProfileRun (some "bob") past screen ∧
      latestSnapshot past = some (some "bob", documents) ∧
      screen.list.posts.map InstagramPost.userId = ["alice", "bob"] ∧
      screen.numberOfPosts = "2\n#posts" := by
  intro reached documents
  refine ⟨appRun_endOf _ (by decide +kernel), ?_⟩
  obtain ⟨⟨past, screen⟩, shown⟩ := Option.isSome_iff_exists.mp
    (rfl : (run ProfileScreen.handle [] (.loaded (some "bob"))
      [.list (.appearance .viewWillAppear), .list (.snapshot 0 documents)]).isSome = true)
  have ran := Run.of_events _ shown
  cases shown
  exact ⟨_, _, ran, rfl, by decide +kernel, by decide +kernel⟩

end InstagramProject
