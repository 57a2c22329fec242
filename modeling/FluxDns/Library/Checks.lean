import Mathlib.Data.List.Nodup

/-!
# Checks along a list

Findings collected over the items of a list.  Each check knows the position of its item and whether
the key of the item was used before.
-/

namespace Checks

open List

variable {α β ε : Type*} [DecidableEq β]

/-- Whether the key of the item at a position is also the key of an earlier one. -/
def isRepeated (key : α → β) (items : List α) (index : Nat) (item : α) : Bool :=
  decide (key item ∈ (items.take index).map key)

def perItem (key : α → β) (check : Nat → Bool → α → List ε) (items : List α) : List ε :=
  items.zipIdx.flatMap fun (item, index) => check index (isRepeated key items index item) item

variable {key : α → β} {check : Nat → Bool → α → List ε} {items : List α}

theorem perItem_eq_nil_iff : perItem key check items = [] ↔
      ∀ index item, items[index]? = some item →
        check index (isRepeated key items index item) item = [] := by
  simp only [perItem, List.flatMap_eq_nil_iff, Prod.forall, List.mk_mem_zipIdx_iff_getElem?]
  exact forall_comm

/-- Keys differ where no position repeats one. -/
theorem nodup_of_isRepeated_eq_false
    (fresh : ∀ index item, items[index]? = some item → isRepeated key items index item = false) :
    (items.map key).Nodup := by
  rw [List.nodup_iff_pairwise_ne, List.pairwise_iff_getElem]
  intro first second first_lt second_lt ordered same
  rw [length_map] at first_lt second_lt
  rw [getElem_map, getElem_map] at same
  have new := fresh second items[second] (List.getElem?_eq_getElem second_lt)
  rw [isRepeated, decide_eq_false_iff_not] at new
  apply new
  rw [← same]
  exact List.mem_map_of_mem (mem_take_iff_getElem.mpr ⟨first, by omega, rfl⟩)

theorem isRepeated_eq_false_of_nodup (distinct : (items.map key).Nodup) {index : Nat} {item : α}
    (found : items[index]? = some item) : isRepeated key items index item = false := by
  rw [isRepeated, decide_eq_false_iff_not]
  intro earlier
  obtain ⟨other, other_mem, same⟩ := List.mem_map.mp earlier
  obtain ⟨position, bound, other_eq⟩ := mem_take_iff_getElem.mp other_mem
  obtain ⟨index_lt, item_eq⟩ := List.getElem?_eq_some_iff.mp found
  have mapped_lt : index < (items.map key).length := by rwa [length_map]
  have same_key : (items.map key)[position] = (items.map key)[index] := by
    rw [getElem_map, getElem_map, other_eq, item_eq, same]
  have positions : position = index := (List.Nodup.getElem_inj_iff distinct).mp same_key
  omega

/-- A check that reports every repeated key leaves distinct keys, and passes as for a new one. -/
theorem of_perItem_eq_nil (passed : perItem key check items = [])
    (strict : ∀ index item, check index true item ≠ []) :
    (items.map key).Nodup ∧
      ∀ index item, items[index]? = some item → check index false item = [] := by
  rw [perItem_eq_nil_iff] at passed
  have fresh (index : Nat) (item : α) (found : items[index]? = some item) :
      isRepeated key items index item = false := by
    by_contra repeated
    rw [Bool.not_eq_false] at repeated
    have refused := passed index item found
    rw [repeated] at refused
    exact strict index item refused
  refine ⟨nodup_of_isRepeated_eq_false fresh, fun index item found => ?_⟩
  have accepted := passed index item found
  rwa [fresh index item found] at accepted

end Checks
