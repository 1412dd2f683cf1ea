/-
A source hands out numbered registrations, and an owner keeps the number of the
last one it asked for.  Removing means removing that one: a registration whose
number was overwritten is never removed.

Nothing here refers to a particular program.
-/

import InstagramProject.Transition
import Mathlib.Data.List.Nodup

namespace InstagramProject.Registration

open Transition

variable {σ ε : Type*}

structure Slot where
  held : Option Nat
  /-- The registrations the source still serves. -/
  live : List Nat
  next : Nat

inductive Operation
  | add
  | remove
  | keep
deriving DecidableEq

namespace Slot

def add (slot : Slot) : Slot :=
  { held := some slot.next, live := slot.next :: slot.live, next := slot.next + 1 }

def remove (slot : Slot) : Slot :=
  match slot.held with
  | none => slot
  | some held => { slot with live := slot.live.filter (fun live => live != held) }

def apply (slot : Slot) : Operation → Slot
  | .add => slot.add
  | .remove => slot.remove
  | .keep => slot

/-- At most one registration is live, and the live one is the one held. -/
structure Sound (slot : Slot) : Prop where
  single : slot.live.length ≤ 1
  held : ∀ live ∈ slot.live, slot.held = some live

/-- What the source guarantees of its numbers. -/
structure Numbered (slot : Slot) : Prop where
  distinct : slot.live.Nodup
  older : ∀ live ∈ slot.live, live < slot.next

variable {slot : Slot}

theorem sound_of_none_live (none : slot.live = []) : slot.Sound := by
  constructor
  · rw [none]
    exact Nat.zero_le 1
  · rw [none]
    nofun

theorem Numbered.apply (numbered : slot.Numbered) (operation : Operation) :
    (slot.apply operation).Numbered := by
  cases operation with
  | add =>
      constructor
      · refine List.nodup_cons.mpr ⟨?_, numbered.distinct⟩
        intro member
        exact Nat.lt_irrefl _ (numbered.older _ member)
      · intro live member
        rcases List.mem_cons.mp member with same | before
        · rw [same]
          exact Nat.lt_succ_self _
        · exact Nat.lt_succ_of_lt (numbered.older live before)
  | remove =>
      change slot.remove.Numbered
      unfold remove
      split
      · exact numbered
      · constructor
        · exact numbered.distinct.filter _
        · intro live member
          exact numbered.older live (List.mem_filter.mp member).1
  | keep => exact numbered

/-- A list of distinct numbers that are all the same has one at most. -/
private theorem single_of_same {numbers : List Nat} {only : Nat} (distinct : numbers.Nodup)
    (same : ∀ number ∈ numbers, number = only) : numbers.length ≤ 1 := by
  cases numbers with
  | nil => exact Nat.zero_le 1
  | cons first rest =>
      cases rest with
      | nil => exact Nat.le_refl 1
      | cons second rest =>
          have firstSame := same first List.mem_cons_self
          have secondSame := same second (List.mem_cons_of_mem _ List.mem_cons_self)
          rw [firstSame, secondSame] at distinct
          exact absurd List.mem_cons_self (List.nodup_cons.mp distinct).1

/-- Only an addition can break the slot, and only if a registration is live; and
no operation mends it. -/
theorem sound_apply_iff (numbered : slot.Numbered) (operation : Operation) :
    (slot.apply operation).Sound ↔ slot.Sound ∧ (operation = .add → slot.live = []) := by
  cases operation with
  | add =>
      constructor
      · intro sound
        have none : slot.live = [] := by
          rw [List.eq_nil_iff_forall_not_mem]
          intro live member
          have same := sound.held live (List.mem_cons_of_mem _ member)
          have older := numbered.older live member
          cases same
          exact Nat.lt_irrefl _ older
        exact ⟨sound_of_none_live none, fun _ => none⟩
      · rintro ⟨_before, none⟩
        constructor
        · change slot.live.length + 1 ≤ 1
          rw [none rfl]
          exact Nat.le_refl 1
        · intro live member
          rcases List.mem_cons.mp member with same | before
          · rw [same]
            rfl
          · rw [none rfl] at before
            cases before
  | remove =>
      refine Iff.trans ?_ (and_iff_left nofun).symm
      change slot.remove.Sound ↔ slot.Sound
      unfold remove
      split
      · exact Iff.rfl
      · rename_i held present
        constructor
        · intro sound
          have same : ∀ live ∈ slot.live, live = held := by
            intro live member
            by_contra other
            have kept : live ∈ slot.live.filter (fun live => live != held) :=
              List.mem_filter.mpr ⟨member, bne_iff_ne.mpr other⟩
            have heldToo := sound.held live kept
            rw [present] at heldToo
            exact other (Option.some.inj heldToo).symm
          constructor
          · exact single_of_same numbered.distinct same
          · intro live member
            rw [present, same live member]
        · intro sound
          constructor
          · exact Nat.le_trans (List.length_filter_le _ _) sound.single
          · intro live member
            exact sound.held live (List.mem_filter.mp member).1
  | keep => exact (and_iff_left nofun).symm

/-- A removal from a sound slot leaves nothing live. -/
theorem none_live_of_remove (sound : slot.Sound) : slot.remove.live = [] := by
  rw [List.eq_nil_iff_forall_not_mem]
  unfold remove
  split
  · rename_i absent
    intro live member
    have held := sound.held live member
    rw [absent] at held
    cases held
  · rename_i held present
    intro live member
    obtain ⟨before, different⟩ := List.mem_filter.mp member
    have same := sound.held live before
    rw [present] at same
    exact bne_iff_ne.mp different (Option.some.inj same).symm

end Slot

/-! ### Owners that add and remove on a schedule -/

section Schedules

variable {step : σ → ε → Option σ} {start state : σ} {past : List (σ × ε)}
  {slot : σ → Slot} {operation : ε → Operation} {expected : σ → Prop}

/-- When the owner means to be registered: from an addition to the next removal. -/
structure Scheduled (step : σ → ε → Option σ) (slot : σ → Slot) (operation : ε → Operation)
    (expected : σ → Prop) : Prop where
  applies : ∀ state event after, step state event = some after →
    slot after = (slot state).apply (operation event)
  adds : ∀ state event after, step state event = some after → operation event = .add →
    expected after
  removes : ∀ state event after, step state event = some after → operation event = .remove →
    ¬expected after
  keeps : ∀ state event after, step state event = some after → operation event = .keep →
    (expected after ↔ expected state)

theorem Scheduled.numbered (scheduled : Scheduled step slot operation expected)
    (ran : Run step start past state) (initially : (slot start).Numbered) :
    (slot state).Numbered := by
  apply ran.invariant (fun _ state => (slot state).Numbered) initially
  intro past state event after _earlier numbered stepped
  rw [scheduled.applies state event after stepped]
  exact numbered.apply _

/-- As long as the slot is sound, a registration is live exactly when one is meant
to be. -/
theorem Scheduled.none_live_iff (scheduled : Scheduled step slot operation expected)
    (ran : Run step start past state) (numbered : (slot start).Numbered)
    (initially : (slot start).live = [] ∧ ¬expected start) (sound : (slot state).Sound) :
    (slot state).live = [] ↔ ¬expected state := by
  induction ran with
  | start => exact iff_of_true initially.1 initially.2
  | @next past state event after earlier stepped ih =>
      have applied := scheduled.applies state event after stepped
      rw [applied] at sound ⊢
      have before := ((Slot.sound_apply_iff (scheduled.numbered earlier numbered) _).mp sound).1
      cases done : operation event with
      | add =>
          refine iff_of_false (List.cons_ne_nil _ _) ?_
          exact not_not_intro (scheduled.adds state event after stepped done)
      | remove =>
          exact iff_of_true (Slot.none_live_of_remove before)
            (scheduled.removes state event after stepped done)
      | keep =>
          rw [scheduled.keeps state event after stepped done]
          exact ih before

theorem Scheduled.sound_iff_throughout (scheduled : Scheduled step slot operation expected)
    (ran : Run step start past state) (numbered : (slot start).Numbered)
    (initially : (slot start).live = [] ∧ ¬expected start) :
    (slot state).Sound ↔
      Throughout (fun _ state event => operation event = .add → ¬expected state) past := by
  induction ran with
  | start => exact iff_of_true (Slot.sound_of_none_live initially.1) trivial
  | @next past state event after earlier stepped ih =>
      have stays := Slot.sound_apply_iff (scheduled.numbered earlier numbered) (operation event)
      rw [scheduled.applies state event after stepped, stays]
      constructor
      · rintro ⟨sound, noneLive⟩
        refine ⟨fun adds => ?_, ih.mp sound⟩
        exact (scheduled.none_live_iff earlier numbered initially sound).mp (noneLive adds)
      · rintro ⟨unexpected, before⟩
        have sound := ih.mpr before
        refine ⟨sound, fun adds => ?_⟩
        exact (scheduled.none_live_iff earlier numbered initially sound).mpr (unexpected adds)

/-- The slot is sound, and nothing is live when nothing is meant to be, exactly if
the owner never added while it meant to be registered already. -/
theorem Scheduled.sound_iff (scheduled : Scheduled step slot operation expected)
    (ran : Run step start past state) (numbered : (slot start).Numbered)
    (initially : (slot start).live = [] ∧ ¬expected start) :
    ((slot state).Sound ∧ (¬expected state → (slot state).live = [])) ↔
      Throughout (fun _ state event => operation event = .add → ¬expected state) past := by
  rw [← scheduled.sound_iff_throughout ran numbered initially]
  constructor
  · exact And.left
  · intro sound
    exact ⟨sound, (scheduled.none_live_iff ran numbered initially sound).mpr⟩

end Schedules

end InstagramProject.Registration
