/-
Maps built and changed by loops over keys.  Where each turn of a loop changes the
entry of its own key only, an entry can be read off from its own turn.

Nothing here refers to a particular program.
-/

import Mathlib.Data.List.Basic

namespace InstagramProject.Maps

open Std

variable {κ β ι : Type*} {cmp : κ → κ → Ordering} [TransCmp cmp]

theorem getElem?_insert_self_or_ne [LawfulEqCmp cmp] [DecidableEq κ] {map : ExtTreeMap κ β cmp} {key other : κ}
    {value : β} : (map.insert key value)[other]? = if other = key then some value else map[other]? := by
  rw [ExtTreeMap.getElem?_insert]
  by_cases same : other = key
  · rw [if_pos same, same, if_pos ReflCmp.compare_self]
  · rw [if_neg same, if_neg]
    intro equal
    exact same (LawfulEqCmp.eq_of_compare equal).symm

theorem getElem?_erase_self_or_ne [LawfulEqCmp cmp] [DecidableEq κ] {map : ExtTreeMap κ β cmp} {key other : κ} :
    (map.erase key)[other]? = if other = key then none else map[other]? := by
  rw [ExtTreeMap.getElem?_erase]
  by_cases same : other = key
  · rw [if_pos same, same, if_pos ReflCmp.compare_self]
  · rw [if_neg same, if_neg]
    intro equal
    exact same (LawfulEqCmp.eq_of_compare equal).symm

/-! ### Loops -/

/-- A turn changes the entry of its own key only. -/
def Own (key : ι → κ) (turn : ExtTreeMap κ β cmp → ι → ExtTreeMap κ β cmp) : Prop :=
  ∀ map item other, other ≠ key item → (turn map item)[other]? = map[other]?

variable {key : ι → κ} {turn : ExtTreeMap κ β cmp → ι → ExtTreeMap κ β cmp}

theorem Own.untouched (own : Own key turn) {items : List ι} {map : ExtTreeMap κ β cmp} {other : κ}
    (absent : ∀ item ∈ items, key item ≠ other) :
    (items.foldl turn map)[other]? = map[other]? := by
  induction items generalizing map with
  | nil => rfl
  | cons item rest ih =>
      rw [List.forall_mem_cons] at absent
      rw [List.foldl_cons, ih absent.2, own map item other absent.1.symm]

/-- The entry of a key that comes once is what its turn makes of the entry before the loop. -/
theorem Own.touched (own : Own key turn) {items : List ι} {map : ExtTreeMap κ β cmp}
    (distinct : items.Pairwise (fun left right => key left ≠ key right)) {item : ι}
    (member : item ∈ items) :
    ∃ earlier : ExtTreeMap κ β cmp, earlier[key item]? = map[key item]? ∧
      (items.foldl turn map)[key item]? = (turn earlier item)[key item]? := by
  induction items generalizing map with
  | nil => cases member
  | cons first rest ih =>
      rw [List.pairwise_cons] at distinct
      rw [List.foldl_cons]
      rcases List.mem_cons.mp member with rfl | later
      · refine ⟨map, rfl, ?_⟩
        exact own.untouched (fun other otherMember same => distinct.1 other otherMember same.symm)
      · obtain ⟨earlier, same, result⟩ := @ih (turn map first) distinct.2 later
        refine ⟨earlier, same.trans ?_, result⟩
        exact own map first _ (distinct.1 item later).symm

/-- The map with a value for each of some keys. -/
theorem getElem?_foldl_insert [LawfulEqCmp cmp] (keys : List κ) (value : κ → β) (other : κ) :
    (other ∈ keys → (keys.foldl (fun map key => map.insert key (value key))
        (∅ : ExtTreeMap κ β cmp))[other]? = some (value other)) ∧
      (other ∉ keys → (keys.foldl (fun map key => map.insert key (value key))
        (∅ : ExtTreeMap κ β cmp))[other]? = none) := by
  classical
  have general : ∀ map : ExtTreeMap κ β cmp,
      (keys.foldl (fun map key => map.insert key (value key)) map)[other]? =
        if other ∈ keys then some (value other) else map[other]? := by
    induction keys with
    | nil => exact fun _ => rfl
    | cons key rest ih =>
        intro map
        rw [List.foldl_cons, ih, getElem?_insert_self_or_ne]
        by_cases later : other ∈ rest
        · rw [if_pos later, if_pos (List.mem_cons_of_mem _ later)]
        · rw [if_neg later]
          by_cases same : other = key
          · rw [if_pos same, if_pos (by rw [same]; exact List.mem_cons_self), same]
          · rw [if_neg same, if_neg]
            intro member
            exact (List.mem_cons.mp member).elim same later
  rw [general]
  constructor
  · intro member
    rw [if_pos member]
  · intro absent
    rw [if_neg absent]
    exact ExtTreeMap.getElem?_empty

end InstagramProject.Maps
