/-
Outboxes.  Each user adds items; those of the current user are sent in order over a
connection that can be lost, and the receiver commits them.  An answer that is lost
with its connection makes the sender send the item again, and what was sent on a lost
connection may still be committed.  Items are told apart by their positions.

Nothing here refers to a particular program.
-/

import Mathlib.Data.List.Range
import Mathlib.Logic.Function.Basic
import Mathlib.Logic.Relation

namespace InstagramProject.Outboxes

variable {User Item : Type*} [DecidableEq User]

structure Outbox (User Item : Type*) where
  user : User
  added : User → List Item
  /-- Whose item was answered, and whether it was accepted, the latest first. -/
  answers : List (User × Bool)
  /-- How many items the receiver has committed whose answers are still on their way. -/
  replied : Nat
  /-- The items on their way on lost connections. -/
  late : List (List (User × Nat))
  /-- What the receiver has committed, the earliest first. -/
  log : List (User × Nat)

namespace Outbox

def empty (user : User) : Outbox User Item :=
  { user := user, added := fun _ => [], answers := [], replied := 0, late := [], log := [] }

end Outbox

/-- How many items of a user are answered. -/
def count (answers : List (User × Bool)) (user : User) : Nat :=
  answers.countP (fun answer => answer.1 = user)

/-- The positions of the accepted items, the earliest first. -/
def confirmed : List (User × Bool) → List (User × Nat)
  | [] => []
  | (user, accepted) :: earlier =>
      if accepted then confirmed earlier ++ [(user, count earlier user)] else confirmed earlier

/-- The first positions of a user from a start on. -/
def positions (user : User) (start length : Nat) : List (User × Nat) :=
  (List.range' start length).map (Prod.mk user)

namespace Outbox

def answered (outbox : Outbox User Item) (user : User) : Nat := count outbox.answers user

end Outbox

open Outbox

inductive Step : Outbox User Item → Outbox User Item → Prop
  | add (outbox : Outbox User Item) (item : Item) :
      Step outbox
        { outbox with
          added := Function.update outbox.added outbox.user (outbox.added outbox.user ++ [item]) }
  | commit {outbox : Outbox User Item}
      (waiting : outbox.answered outbox.user + outbox.replied < (outbox.added outbox.user).length) :
      Step outbox
        { outbox with
          replied := outbox.replied + 1
          log := outbox.log ++ [(outbox.user, outbox.answered outbox.user + outbox.replied)] }
  | confirm {outbox : Outbox User Item} {replied : Nat} (isReplied : outbox.replied = replied + 1) :
      Step outbox
        { outbox with answers := (outbox.user, true) :: outbox.answers, replied := replied }
  | refuse {outbox : Outbox User Item} (disconnected : outbox.replied = 0)
      (waiting : outbox.answered outbox.user < (outbox.added outbox.user).length) :
      Step outbox { outbox with answers := (outbox.user, false) :: outbox.answers }
  | disconnect {outbox : Outbox User Item} (sent : Nat)
      (within : outbox.answered outbox.user + outbox.replied + sent ≤
        (outbox.added outbox.user).length) :
      Step outbox
        { outbox with
          replied := 0
          late := positions outbox.user (outbox.answered outbox.user + outbox.replied) sent ::
            outbox.late }
  | commitLate {outbox : Outbox User Item} {index : Nat} {position : User × Nat}
      {rest : List (User × Nat)} (waiting : outbox.late[index]? = some (position :: rest)) :
      Step outbox
        { outbox with
          log := outbox.log ++ [position]
          late := outbox.late.set index rest }
  | switch {outbox : Outbox User Item} (user : User) (disconnected : outbox.replied = 0) :
      Step outbox { outbox with user := user }

/-! ### Positions -/

omit [DecidableEq User] in
theorem mem_positions {user : User} {start length : Nat} {position : User × Nat} :
    position ∈ positions user start length ↔
      position.1 = user ∧ start ≤ position.2 ∧ position.2 < start + length := by
  obtain ⟨other, index⟩ := position
  rw [positions, List.mem_map]
  constructor
  · rintro ⟨value, member, same⟩
    cases same
    rw [List.mem_range'_1] at member
    exact ⟨rfl, member⟩
  · rintro ⟨rfl, within⟩
    exact ⟨index, List.mem_range'_1.mpr within, rfl⟩

omit [DecidableEq User] in
theorem positions_succ (user : User) (start length : Nat) :
    positions user start (length + 1) = positions user start length ++ [(user, start + length)] := by
  rw [positions, List.range'_concat, List.map_append, Nat.one_mul]
  rfl

omit [DecidableEq User] in
theorem positions_cons (user : User) (start length : Nat) :
    positions user start (length + 1) = (user, start) :: positions user (start + 1) length := rfl

omit [DecidableEq User] in
/-- A position comes behind all smaller ones. -/
private theorem mem_before {user : User} {start length earlier later : Nat}
    {before after : List (User × Nat)}
    (split : positions user start length = before ++ (user, later) :: after)
    (from' : start ≤ earlier) (below : earlier < later) : (user, earlier) ∈ before := by
  have increasing : (positions user start length).Pairwise (fun left right => left.2 < right.2) :=
    List.pairwise_map.mpr List.pairwise_lt_range'
  have isLater : (user, later) ∈ positions user start length := by
    rw [split]
    exact List.mem_append_right _ List.mem_cons_self
  have member : (user, earlier) ∈ positions user start length :=
    mem_positions.mpr ⟨rfl, from', Nat.lt_trans below (mem_positions.mp isLater).2.2⟩
  rw [split] at member increasing
  rcases List.mem_append.mp member with isBefore | behind
  · exact isBefore
  · have sorted := (List.pairwise_cons.mp (List.pairwise_append.mp increasing).2.1).1
    rcases List.mem_cons.mp behind with same | isAfter
    · cases same
      omega
    · have impossible := sorted _ isAfter
      dsimp only at impossible
      omega

theorem count_cons (user : User) (accepted : Bool) (answers : List (User × Bool)) (other : User) :
    count ((user, accepted) :: answers) other =
      count answers other + if user = other then 1 else 0 := by
  unfold count
  rw [List.countP_cons]
  congr 1
  by_cases same : user = other
  · rw [if_pos (decide_eq_true same), if_pos same]
  · rw [if_neg (by rw [decide_eq_true_iff]; exact same), if_neg same]

theorem count_le_cons (user : User) (accepted : Bool) (answers : List (User × Bool))
    (other : User) : count answers other ≤ count ((user, accepted) :: answers) other := by
  rw [count_cons]
  exact Nat.le_add_right _ _

/-- An answered item was accepted or refused. -/
theorem confirmed_or_refused {answers : List (User × Bool)} {user : User} {index : Nat}
    (below : index < count answers user) :
    (user, index) ∈ confirmed answers ∨
      (answers.filter (fun answer => answer.1 = user)).reverse[index]? = some (user, false) := by
  induction answers with
  | nil => cases below
  | cons answer earlier ih =>
      obtain ⟨other, accepted⟩ := answer
      have length : (earlier.filter (fun answer => answer.1 = user)).reverse.length =
          count earlier user := by
        rw [List.length_reverse, ← List.countP_eq_length_filter]
        rfl
      rw [count_cons] at below
      by_cases same : other = user
      · subst same
        rw [if_pos rfl] at below
        have latest : ((other, accepted) :: earlier).filter (fun answer => answer.1 = other) =
            (other, accepted) :: earlier.filter (fun answer => answer.1 = other) :=
          List.filter_cons_of_pos (decide_eq_true rfl)
        rw [confirmed, latest, List.reverse_cons]
        by_cases isEarlier : index < count earlier other
        · rw [List.getElem?_append_left (by omega)]
          refine (ih isEarlier).imp_left (fun member => ?_)
          split
          · exact List.mem_append_left _ member
          · exact member
        · have isLast : index = count earlier other := by omega
          cases accepted with
          | true =>
              left
              rw [if_pos rfl, isLast]
              exact List.mem_append_right _ List.mem_cons_self
          | false =>
              right
              rw [List.getElem?_append_right (by omega), length, isLast, Nat.sub_self]
              rfl
      · rw [if_neg same] at below
        have skipped : ((other, accepted) :: earlier).filter (fun answer => answer.1 = user) =
            earlier.filter (fun answer => answer.1 = user) :=
          List.filter_cons_of_neg (by rw [decide_eq_true_iff]; exact same)
        rw [confirmed, skipped]
        refine (ih below).imp_left (fun member => ?_)
        split
        · exact List.mem_append_left _ member
        · exact member

/-! ### The order of commits -/

/-- A position the receiver no longer waits for. -/
def Settled (outbox : Outbox User Item) (user : User) (index : Nat) : Prop :=
  index < outbox.answered user ∨ (user, index) ∈ outbox.log

/-- Nothing is committed before what was added earlier. -/
structure Ordered (outbox : Outbox User Item) : Prop where
  /-- The accepted items, and those whose answers are on their way, were committed in
  this order. -/
  confirmed : (confirmed outbox.answers ++
    positions outbox.user (outbox.answered outbox.user) outbox.replied).Sublist outbox.log
  /-- An earlier item is committed or given up. -/
  log : ∀ user earlier later, (user, later) ∈ outbox.log → earlier < later →
    Settled outbox user earlier
  /-- On a lost connection too the earlier item comes first. -/
  late : ∀ sent ∈ outbox.late, ∀ before user later after, sent = before ++ (user, later) :: after →
    ∀ earlier < later, Settled outbox user earlier ∨ (user, earlier) ∈ before

omit [DecidableEq User] in
private theorem sublist_of_append {left right log : List (User × Nat)}
    (within : (left ++ right).Sublist log) : left.Sublist log :=
  (List.sublist_append_left left right).trans within

theorem ordered_empty (user : User) : Ordered (Outbox.empty user : Outbox User Item) where
  confirmed := List.Sublist.refl []
  log user earlier later member := by cases member
  late sent member := by cases member

/-- The items answered on the connection are committed. -/
theorem Ordered.replied {outbox : Outbox User Item} (ordered : Ordered outbox) {index : Nat}
    (from' : outbox.answered outbox.user ≤ index)
    (below : index < outbox.answered outbox.user + outbox.replied) :
    (outbox.user, index) ∈ outbox.log :=
  ordered.confirmed.subset (List.mem_append_right _ (mem_positions.mpr ⟨rfl, from', below⟩))

private theorem settled_before {outbox : Outbox User Item} (ordered : Ordered outbox) {index : Nat}
    (below : index < outbox.answered outbox.user + outbox.replied) :
    Settled outbox outbox.user index := by
  by_cases isAnswered : index < outbox.answered outbox.user
  · exact .inl isAnswered
  · exact .inr (ordered.replied (Nat.le_of_not_lt isAnswered) below)

/-- What is settled stays settled. -/
private theorem Ordered.grow {outbox after : Outbox User Item} (ordered : Ordered outbox)
    (settled : ∀ user index, Settled outbox user index → Settled after user index)
    (sameLog : after.log = outbox.log) (sameLate : after.late = outbox.late)
    (confirmed : (Outboxes.confirmed after.answers ++
      positions after.user (after.answered after.user) after.replied).Sublist after.log) :
    Ordered after where
  confirmed := confirmed
  log user earlier later member before :=
    settled user earlier (ordered.log user earlier later (sameLog ▸ member) before)
  late sent member before user later after isSent earlier below :=
    (ordered.late sent (sameLate ▸ member) before user later after isSent earlier below).imp_left
      (settled user earlier)

theorem Ordered.step {outbox after : Outbox User Item} (ordered : Ordered outbox)
    (stepped : Step outbox after) : Ordered after := by
  cases stepped with
  | add item => exact ordered.grow (fun _ _ => id) rfl rfl ordered.confirmed
  | commit waiting =>
      refine ⟨?_, ?_, ?_⟩
      · dsimp only
        rw [positions_succ, ← List.append_assoc]
        exact ordered.confirmed.append (List.Sublist.refl _)
      · intro user earlier later member before
        rcases List.mem_append.mp member with logged | isNew
        · exact (ordered.log user earlier later logged before).imp_right (List.mem_append_left _)
        · obtain ⟨rfl, rfl⟩ := Prod.mk.inj (List.mem_singleton.mp isNew)
          exact (settled_before ordered before).imp_right (List.mem_append_left _)
      · intro sent member before user later after isSent earlier below
        exact (ordered.late sent member before user later after isSent earlier below).imp_left
          (fun settled => settled.imp_right (List.mem_append_left _))
  | @confirm replied isReplied =>
      refine ordered.grow ?_ rfl rfl ?_
      · intro user index settled
        exact settled.imp_left (fun below =>
          Nat.lt_of_lt_of_le below (count_le_cons _ _ _ _))
      · have within := ordered.confirmed
        rw [isReplied, positions_cons] at within
        unfold answered
        dsimp only
        rw [count_cons, if_pos rfl, Outboxes.confirmed, if_pos rfl, List.append_assoc]
        exact within
  | refuse disconnected waiting =>
      refine ordered.grow ?_ rfl rfl ?_
      · intro user index settled
        exact settled.imp_left (fun below =>
          Nat.lt_of_lt_of_le below (count_le_cons _ _ _ _))
      · dsimp only
        rw [disconnected, Outboxes.confirmed, if_neg Bool.false_ne_true]
        exact (List.append_nil _).symm ▸ sublist_of_append ordered.confirmed
  | disconnect count within =>
      refine ⟨?_, ordered.log, ?_⟩
      · exact (List.append_nil _).symm ▸ sublist_of_append ordered.confirmed
      · intro sent member before user later after isSent earlier below
        rcases List.mem_cons.mp member with rfl | isLate
        · have isPosition := mem_positions.mp
            (show (user, later) ∈ positions outbox.user _ count by
              rw [isSent]
              exact List.mem_append_right _ List.mem_cons_self)
          obtain ⟨rfl, from', _⟩ := isPosition
          by_cases isReplied : earlier < outbox.answered outbox.user + outbox.replied
          · exact .inl (settled_before ordered isReplied)
          · exact .inr (mem_before isSent (Nat.le_of_not_lt isReplied) below)
        · exact ordered.late sent isLate before user later after isSent earlier below
  | @commitLate index position rest waiting =>
      have isLate := List.mem_of_getElem? waiting
      refine ⟨ordered.confirmed.trans (List.sublist_append_left _ _), ?_, ?_⟩
      · intro user earlier later member before
        rcases List.mem_append.mp member with logged | isNew
        · exact (ordered.log user earlier later logged before).imp_right (List.mem_append_left _)
        · obtain rfl := List.mem_singleton.mp isNew
          rcases ordered.late _ isLate [] user later rest rfl earlier before with settled | none
          · exact settled.imp_right (List.mem_append_left _)
          · cases none
      · intro sent member before user later after isSent earlier below
        rcases List.mem_or_eq_of_mem_set member with other | rfl
        · exact (ordered.late sent other before user later after isSent earlier below).imp_left
            (fun settled => settled.imp_right (List.mem_append_left _))
        · rcases ordered.late _ isLate (position :: before) user later after
              (by rw [isSent]; rfl) earlier below with settled | isBefore
          · exact .inl (settled.imp_right (List.mem_append_left _))
          · rcases List.mem_cons.mp isBefore with rfl | isBefore
            · exact .inl (.inr (List.mem_append_right _ List.mem_cons_self))
            · exact .inr isBefore
  | switch user disconnected =>
      refine ordered.grow (fun _ _ => id) rfl rfl ?_
      dsimp only
      rw [disconnected]
      exact (List.append_nil _).symm ▸ sublist_of_append ordered.confirmed

/-- Whatever happens, the receiver commits in order. -/
theorem ordered_of_reachable {user : User} {outbox : Outbox User Item}
    (reached : Relation.ReflTransGen Step (Outbox.empty user) outbox) : Ordered outbox := by
  induction reached with
  | refl => exact ordered_empty user
  | tail _ stepped ih => exact ih.step stepped

end InstagramProject.Outboxes
