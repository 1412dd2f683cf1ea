/-
A list and a view of it that remembers how long it was.  Between two readings of
the length the view asks for any row below the length it last read, and the list
may be replaced in the meantime.

Nothing here refers to a particular program.
-/

import InstagramProject.Transition
import Mathlib.Data.List.Basic

namespace InstagramProject.ListView

open Transition

variable {α σ ε : Type*}

structure Shown (α : Type*) where
  items : List α
  /-- The length last read; zero before the first reading. -/
  numberOfItems : Nat

inductive Change (α : Type*)
  | assign (items : List α)
  | count
  | keep

namespace Shown

def apply (shown : Shown α) : Change α → Shown α
  | .assign items => { shown with items := items }
  | .count => { shown with numberOfItems := shown.items.length }
  | .keep => shown

/-- Every row the view may ask for is there. -/
def InRange (shown : Shown α) : Prop := ∀ row < shown.numberOfItems, row < shown.items.length

/-- A change does not make the list shorter than the view remembers. -/
def Covers (shown : Shown α) (change : Change α) : Prop :=
  ∀ items, change = .assign items → shown.numberOfItems ≤ items.length

theorem inRange_iff (shown : Shown α) :
    shown.InRange ↔ shown.numberOfItems ≤ shown.items.length := by
  constructor
  · intro inRange
    by_contra beyond
    exact Nat.lt_irrefl _ (inRange shown.items.length (Nat.lt_of_not_le beyond))
  · intro within row asked
    exact Nat.lt_of_lt_of_le asked within

theorem inRange_apply_iff {shown : Shown α} (inRange : shown.InRange) (change : Change α) :
    (shown.apply change).InRange ↔ shown.Covers change := by
  rw [inRange_iff]
  cases change with
  | assign items =>
      constructor
      · intro within other same
        cases same
        exact within
      · intro covers
        exact covers items rfl
  | count => exact iff_of_true (Nat.le_refl _) nofun
  | keep => exact iff_of_true (shown.inRange_iff.mp inRange) nofun

end Shown

/-- In every state of a run every row the view may ask for is there, exactly if no
step of the run makes the list shorter than the view remembers. -/
theorem inRange_iff_covers {step : σ → ε → Option σ} {start state : σ} {past : List (σ × ε)}
    {shown : σ → Shown α} {change : σ → ε → Change α}
    (changes : ∀ state event after, step state event = some after →
      shown after = (shown state).apply (change state event))
    (ran : Run step start past state) (initially : (shown start).InRange) :
    ((∀ moment ∈ past, (shown moment.1).InRange) ∧ (shown state).InRange) ↔
      Throughout (fun _ state event => (shown state).Covers (change state event)) past := by
  induction ran with
  | start => exact iff_of_true ⟨nofun, initially⟩ trivial
  | next earlier stepped ih =>
      rw [List.forall_mem_cons, changes _ _ _ stepped]
      constructor
      · rintro ⟨⟨before, allBefore⟩, inRange⟩
        exact ⟨(Shown.inRange_apply_iff before _).mp inRange, ih.mp ⟨allBefore, before⟩⟩
      · rintro ⟨covers, coversBefore⟩
        obtain ⟨allBefore, before⟩ := ih.mpr coversBefore
        exact ⟨⟨before, allBefore⟩, (Shown.inRange_apply_iff before _).mpr covers⟩

end InstagramProject.ListView
