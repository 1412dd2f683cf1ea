/-
Accounting for outstanding work.  Work items wait in lists; a partial function
marks the items of interest with a value, and the marks of a list form a
multiset.  Keys that occur at most once stay so when an item is replaced by one
of the same key or dropped.

Nothing here refers to a particular program.
-/

import Mathlib.Algebra.Order.Group.Multiset
import Mathlib.Data.List.Perm.Basic
import Mathlib.Data.Multiset.Filter
import Mathlib.Data.Multiset.MapFold
import Mathlib.Data.Multiset.ZeroCons

namespace InstagramProject.Accounting

variable {α β κ : Type*}

/-- No mark or one mark. -/
def one (mark : Option β) : Multiset β := ↑mark.toList

@[simp] theorem one_none : one (none : Option β) = 0 := rfl

@[simp] theorem one_some (mark : β) : one (some mark) = {mark} := rfl

theorem one_eq_zero_iff {mark : Option β} : one mark = 0 ↔ mark = none := by
  cases mark with
  | none => exact iff_of_true rfl rfl
  | some value => exact iff_of_false (Multiset.singleton_ne_zero value) (Option.some_ne_none value)

/-- The marks of a list of work items. -/
def tally (mark : α → Option β) (items : List α) : Multiset β :=
  ↑(items.filterMap mark)

@[simp] theorem tally_nil (mark : α → Option β) : tally mark [] = 0 := rfl

theorem tally_cons (mark : α → Option β) (head : α) (tail : List α) :
    tally mark (head :: tail) = one (mark head) + tally mark tail := by
  unfold tally one
  cases marked : mark head with
  | none => simp only [List.filterMap_cons, marked, Option.toList_none, Multiset.coe_nil, zero_add]
  | some value =>
      simp only [List.filterMap_cons, marked, Option.toList_some, Multiset.coe_add,
        List.singleton_append]

@[simp] theorem tally_append (mark : α → Option β) (first second : List α) :
    tally mark (first ++ second) = tally mark first + tally mark second := by
  unfold tally
  rw [List.filterMap_append, Multiset.coe_add]

@[simp] theorem tally_singleton (mark : α → Option β) (item : α) :
    tally mark [item] = one (mark item) := by
  rw [tally_cons, tally_nil, add_zero]

/-- Taking an item out of a list takes its mark out of the tally. -/
theorem tally_take (mark : α → Option β) {items : List α} {index : Nat} {item : α}
    (found : items[index]? = some item) :
    tally mark items = one (mark item) + tally mark (items.eraseIdx index) := by
  obtain ⟨inside, atIndex⟩ := List.getElem?_eq_some_iff.mp found
  have rearranged := List.getElem_cons_eraseIdx_perm inside
  rw [atIndex] at rearranged
  rw [← tally_cons]
  exact Multiset.coe_eq_coe.mpr (rearranged.symm.filterMap mark)

theorem mem_tally {mark : α → Option β} {items : List α} {value : β} :
    value ∈ tally mark items ↔ ∃ item ∈ items, mark item = some value := by
  unfold tally
  rw [Multiset.mem_coe, List.mem_filterMap]

theorem tally_eq_zero_iff {mark : α → Option β} {items : List α} :
    tally mark items = 0 ↔ ∀ item ∈ items, mark item = none := by
  unfold tally
  rw [Multiset.coe_eq_zero, List.filterMap_eq_nil_iff]

theorem mem_one_add {kept : Option β} {mark : β} {rest : Multiset β} :
    mark ∈ one kept + rest ↔ kept = some mark ∨ mark ∈ rest := by
  cases kept with
  | none => simp only [one_none, zero_add, reduceCtorEq, false_or]
  | some other =>
      rw [one_some, Multiset.mem_add, Multiset.mem_singleton, Option.some.injEq, eq_comm]

theorem mem_singleton_add {mark other : β} {rest : Multiset β} :
    mark ∈ {other} + rest ↔ mark = other ∨ mark ∈ rest := by
  rw [Multiset.mem_add, Multiset.mem_singleton]

/-! ### Keys that occur at most once -/

def Distinct (key : β → κ) (marks : Multiset β) : Prop := (marks.map key).Nodup

variable {key : β → κ} {marks rest : Multiset β} {mark added : β}

theorem Distinct.zero : Distinct key (0 : Multiset β) := by
  unfold Distinct
  rw [Multiset.map_zero]
  exact Multiset.nodup_zero

theorem Distinct.drop (distinct : Distinct key marks) (fewer : rest ≤ marks) :
    Distinct key rest :=
  Multiset.nodup_of_le (Multiset.map_le_map fewer) distinct

theorem distinct_cons :
    Distinct key ({mark} + rest) ↔
      (∀ other ∈ rest, key other ≠ key mark) ∧ Distinct key rest := by
  unfold Distinct
  rw [Multiset.singleton_add, Multiset.map_cons, Multiset.nodup_cons]
  simp only [Multiset.mem_map, not_exists, not_and, ne_eq]

/-- An item moves on under the same key. -/
theorem Distinct.replace (distinct : Distinct key ({mark} + rest))
    (sameKey : key added = key mark) : Distinct key ({added} + rest) := by
  rw [distinct_cons] at distinct ⊢
  rw [sameKey]
  exact distinct

theorem Distinct.add (distinct : Distinct key rest)
    (fresh : ∀ other ∈ rest, key other ≠ key added) : Distinct key ({added} + rest) :=
  distinct_cons.mpr ⟨fresh, distinct⟩

/-- With distinct keys an item is determined by its key. -/
theorem Distinct.unique {left right : β} (distinct : Distinct key marks)
    (leftMember : left ∈ marks) (rightMember : right ∈ marks)
    (sameKey : key left = key right) : left = right :=
  Multiset.inj_on_of_nodup_map distinct left leftMember right rightMember sameKey

end InstagramProject.Accounting
