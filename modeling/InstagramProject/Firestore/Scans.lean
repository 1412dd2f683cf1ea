/-
Range scans of an ordered list.  A scan starts at the first item that is not
below a bound and stops at the first item outside a range.  It finds what a test
of every item would find, if what is tested for lies above the bound and the range
has no gaps.

Nothing here refers to a particular program.
-/

import Mathlib.Data.List.Basic

namespace InstagramProject.Scans

open Std

variable {α : Type*} [Ord α]

/-- The items from a bound on. -/
def valuesFrom (items : List α) (start : α) : List α :=
  items.dropWhile (fun item => (compare item start).isLT)

/-- From the bound on, an item below one in the range is in the range. -/
def NoGaps (start : α) (within : α → Bool) : Prop :=
  ∀ lower upper, (compare lower start).isLT = false → compare lower upper = .lt →
    within upper = true → within lower = true

variable {items : List α} {start : α} {within exact : α → Bool}

private theorem filter_takeWhile (sorted : items.Pairwise (fun lower upper => compare lower upper = .lt))
    (above : ∀ item ∈ items, (compare item start).isLT = false)
    (noGaps : NoGaps start within) (narrows : ∀ item, exact item = true → within item = true) :
    (items.takeWhile within).filter exact = items.filter exact := by
  induction items with
  | nil => rfl
  | cons item rest ih =>
      rw [List.pairwise_cons] at sorted
      rw [List.forall_mem_cons] at above
      cases inside : within item with
      | true =>
          rw [List.takeWhile_cons_of_pos inside, List.filter_cons, List.filter_cons,
            ih sorted.2 above.2]
      | false =>
          rw [List.takeWhile_cons_of_neg (by rw [inside]; exact Bool.false_ne_true)]
          symm
          rw [List.filter_nil, List.filter_eq_nil_iff]
          intro found member tested
          have insideToo : within item = true := by
            rcases List.mem_cons.mp member with rfl | later
            · exact narrows _ tested
            · exact noGaps _ _ above.1 (sorted.1 found later) (narrows _ tested)
          rw [inside] at insideToo
          cases insideToo

theorem filter_scan [TransOrd α]
    (sorted : items.Pairwise (fun lower upper => compare lower upper = .lt))
    (noGaps : NoGaps start within) (narrows : ∀ item, exact item = true → within item = true)
    (bounded : ∀ item ∈ items, exact item = true → (compare item start).isLT = false) :
    ((valuesFrom items start).takeWhile within).filter exact = items.filter exact := by
  unfold valuesFrom
  induction items with
  | nil => rfl
  | cons item rest ih =>
      rw [List.forall_mem_cons] at bounded
      have sortedRest := (List.pairwise_cons.mp sorted).2
      cases below : (compare item start).isLT with
      | true =>
          have notExact : ¬exact item = true := by
            intro tested
            rw [bounded.1 tested] at below
            cases below
          simp only [List.dropWhile_cons, below, if_true]
          rw [ih sortedRest bounded.2, List.filter_cons_of_neg notExact]
      | false =>
          simp only [List.dropWhile_cons, below, Bool.false_eq_true, if_false]
          apply filter_takeWhile sorted _ noGaps narrows
          rw [List.forall_mem_cons]
          refine ⟨below, ?_⟩
          intro later member
          have after := (List.pairwise_cons.mp sorted).1 later member
          by_contra belowLater
          rw [Bool.not_eq_false, Ordering.isLT_iff_eq_lt] at belowLater
          rw [TransCmp.lt_trans after belowLater] at below
          cases below

/-- A scan of a range above its bound finds the range. -/
theorem scan_eq_filter [TransOrd α]
    (sorted : items.Pairwise (fun lower upper => compare lower upper = .lt))
    (noGaps : NoGaps start within)
    (bounded : ∀ item ∈ items, within item = true → (compare item start).isLT = false) :
    (valuesFrom items start).takeWhile within = items.filter within := by
  rw [← filter_scan sorted noGaps (fun _ inside => inside) bounded, List.filter_eq_self.mpr]
  intro item member
  exact List.all_eq_true.mp List.all_takeWhile item member

/-! ### Paths -/

theorem compare_append_left [ReflOrd α] (path left right : List α) :
    compare (path ++ left) (path ++ right) = compare left right := by
  induction path with
  | nil => rfl
  | cons segment rest ih =>
      rw [List.cons_append, List.cons_append, List.compare_cons_cons, ReflOrd.compare_self, ih]
      rfl

/-- The paths below a path follow one another. -/
theorem isPrefixOf_of_between [OrientedOrd α] [LawfulEqOrd α] [BEq α] [LawfulBEq α]
    {path lower upper : List α} (suffix : List α) (above : compare lower (path ++ suffix) ≠ .lt)
    (below : compare lower upper ≠ .gt) (inside : path.isPrefixOf upper = true) :
    path.isPrefixOf lower = true := by
  induction path generalizing lower upper with
  | nil => exact List.isPrefixOf_nil_left
  | cons segment rest ih =>
      cases upper with
      | nil => cases inside
      | cons upperSegment upperRest =>
          rw [List.isPrefixOf_cons_cons, Bool.and_eq_true, beq_iff_eq] at inside
          obtain ⟨rfl, insideRest⟩ := inside
          cases lower with
          | nil => exact absurd List.compare_nil_cons above
          | cons lowerSegment lowerRest =>
              rw [List.cons_append, List.compare_cons_cons] at above
              rw [List.compare_cons_cons] at below
              cases order : compare lowerSegment segment with
              | lt =>
                  rw [order] at above
                  exact absurd rfl above
              | gt =>
                  rw [order] at below
                  exact absurd rfl below
              | eq =>
                  rw [order] at above below
                  rw [List.isPrefixOf_cons_cons, LawfulEqCmp.eq_of_compare order, beq_self_eq_true,
                    Bool.true_and]
                  exact ih above below insideRest

end InstagramProject.Scans
