import Mathlib.Data.List.DropRight
import Mathlib.Data.List.Sort

/-!
# Ordered scans of a partitioned collection

A comparison sorts the items of several parts.  A scan keeps only the first items of each part and
merges them through a bounded buffer; it finds the first items of the whole collection.  In an
ordered listing the items on either side of an anchor are those that compare as less or greater.
-/

namespace Keyset

open Std List OrientedCmp

variable {α : Type*} {part : Type*} (compareItems : α → α → Ordering) {items : List α} {item : α}

variable (items)

/-- No two entries of the list compare as equal. -/
def Distinct : Prop :=
  items.Pairwise fun left right => compareItems left right ≠ .eq

/-- Every entry of the list is less than all later ones. -/
def Ascending : Prop :=
  items.Pairwise fun left right => compareItems left right = .lt

def sortBy : List α :=
  items.insertionSort fun left right => (compareItems left right).isLE

/-- Put an item into a sorted buffer and drop the last entry when the buffer overflows. -/
def insertBounded (limit : Nat) (buffer : List α) (item : α) : List α :=
  let sorted := sortBy compareItems (buffer ++ [item])
  if limit < sorted.length then sorted.dropLast else sorted

theorem perm_sortBy : (sortBy compareItems items).Perm items :=
  perm_insertionSort _ _

@[simp]
theorem length_sortBy : (sortBy compareItems items).length = items.length :=
  (perm_sortBy compareItems items).length_eq

variable {items}

@[simp]
theorem mem_sortBy : item ∈ sortBy compareItems items ↔ item ∈ items :=
  (perm_sortBy compareItems items).mem_iff

variable {compareItems}

theorem Distinct.sublist {rest : List α} (distinct : Distinct compareItems items)
    (sublist : rest.Sublist items) : Distinct compareItems rest :=
  List.Pairwise.sublist sublist distinct

theorem Ascending.distinct (ascending : Ascending compareItems items) :
    Distinct compareItems items :=
  List.Pairwise.imp (fun less => by simp [less]) ascending

section Sorting

variable [TransCmp compareItems] {items : List α} {rest : List α}

theorem Distinct.perm (distinct : Distinct compareItems items) (perm : items.Perm rest) :
    Distinct compareItems rest :=
  perm.pairwise distinct fun different equal =>
    different (OrientedCmp.eq_comm.mp equal)

/-- A comparison leaves only one ascending order for a collection. -/
theorem Ascending.eq_of_perm (ascending : Ascending compareItems items)
    (ascending_rest : Ascending compareItems rest) (perm : items.Perm rest) : items = rest := by
  refine perm.eq_of_pairwise ?_ ascending ascending_rest
  intro left right _ _ less greater
  have swapped : compareItems left right = (compareItems right left).swap := eq_swap
  rw [greater, less] at swapped
  cases swapped

theorem Distinct.ascending_sortBy (distinct : Distinct compareItems items) :
    Ascending compareItems (sortBy compareItems items) := by
  have total : Std.Total fun left right => (compareItems left right).isLE = true := by
    constructor
    intro left right
    have swapped : compareItems right left = (compareItems left right).swap := eq_swap
    rw [swapped]
    cases compareItems left right <;> simp
  have transitive : IsTrans α fun left right => (compareItems left right).isLE = true :=
    ⟨fun _ _ _ => TransCmp.isLE_trans⟩
  have sorted : (sortBy compareItems items).Pairwise fun left right =>
      (compareItems left right).isLE = true := pairwise_insertionSort _ _
  have different := distinct.perm (perm_sortBy compareItems items).symm
  refine (sorted.and different).imp ?_
  rintro left right ⟨le, ne⟩
  revert le ne
  cases compareItems left right <;> simp

theorem Ascending.sortBy_eq_self (ascending : Ascending compareItems items) :
    sortBy compareItems items = items :=
  ascending.distinct.ascending_sortBy.eq_of_perm ascending (perm_sortBy _ items)

variable (distinct : Distinct compareItems items)

include distinct

theorem Distinct.sortBy_eq (perm : items.Perm rest) :
    sortBy compareItems items = sortBy compareItems rest :=
  distinct.ascending_sortBy.eq_of_perm (distinct.perm perm).ascending_sortBy
    (((perm_sortBy _ items).trans perm).trans (perm_sortBy _ rest).symm)

theorem Distinct.sortBy_filter (keep : α → Bool) :
    sortBy compareItems (items.filter keep) = (sortBy compareItems items).filter keep := by
  refine (distinct.sublist filter_sublist).ascending_sortBy.eq_of_perm
    (distinct.ascending_sortBy.sublist filter_sublist) ?_
  exact (perm_sortBy _ _).trans ((perm_sortBy _ items).symm.filter keep)

/-- The opposite comparison lists the collection backwards. -/
theorem Distinct.sortBy_swap : sortBy (fun left right => (compareItems left right).swap) items =
      (sortBy compareItems items).reverse := by
  have swapped : ∀ left right, (compareItems left right).swap = compareItems right left :=
    fun left right => eq_swap.symm
  simp only [swapped]
  have distinct_swap : Distinct (fun left right => compareItems right left) items :=
    distinct.imp fun different equal => different (OrientedCmp.eq_comm.mp equal)
  refine distinct_swap.ascending_sortBy.eq_of_perm ?_
    ((perm_sortBy _ items).trans ((perm_sortBy _ items).symm.trans
      (reverse_perm _).symm))
  exact pairwise_reverse.mpr distinct.ascending_sortBy

end Sorting

/-- The first entries after an insertion depend only on the first entries before it. -/
theorem take_orderedInsert (relation : α → α → Prop) [DecidableRel relation] (limit : Nat)
    (item : α) (items : List α) :
    ((items.take limit).orderedInsert relation item).take limit =
      (items.orderedInsert relation item).take limit := by
  induction items generalizing limit with
  | nil => simp
  | cons head tail induction =>
    cases limit with
    | zero => simp
    | succ limit =>
      simp only [take_succ_cons, orderedInsert_cons]
      split
      · cases limit <;> simp [take_take]
      · simp [induction]

theorem take_foldr_orderedInsert (relation : α → α → Prop) [DecidableRel relation] (limit : Nat)
    (items base : List α) :
    (items.foldr (orderedInsert relation) (base.take limit)).take limit =
      (items.foldr (orderedInsert relation) base).take limit := by
  induction items with
  | nil => simp [take_take]
  | cons head tail induction =>
    rw [foldr_cons, foldr_cons, ← take_orderedInsert, induction, take_orderedInsert]

theorem sortBy_append (items rest : List α) : sortBy compareItems (items ++ rest) =
      items.foldr (orderedInsert fun left right => (compareItems left right).isLE)
        (sortBy compareItems rest) := by
  simp [sortBy, insertionSort, foldr_append]

section Merging

variable [TransCmp compareItems]

/-- Only the first entries of a part can be among the first entries of the whole. -/
theorem take_sortBy_append (limit : Nat) (items : List α) {rest : List α}
    (distinct : Distinct compareItems rest) :
    (sortBy compareItems (items ++ (sortBy compareItems rest).take limit)).take limit =
      (sortBy compareItems (items ++ rest)).take limit := by
  have sorted : Ascending compareItems ((sortBy compareItems rest).take limit) :=
    distinct.ascending_sortBy.sublist (take_sublist _ _)
  rw [sortBy_append, sorted.sortBy_eq_self, take_foldr_orderedInsert, ← sortBy_append]

theorem insertBounded_take {limit : Nat} {seen : List α}
    (distinct : Distinct compareItems (seen ++ [item])) :
    insertBounded compareItems limit ((sortBy compareItems seen).take limit) item =
      (sortBy compareItems (seen ++ [item])).take limit := by
  have short : insertBounded compareItems limit ((sortBy compareItems seen).take limit) item =
      (sortBy compareItems ((sortBy compareItems seen).take limit ++ [item])).take limit := by
    set sorted := sortBy compareItems ((sortBy compareItems seen).take limit ++ [item])
      with sorted_eq
    have length_le : sorted.length ≤ limit + 1 := by simp [sorted_eq]
    change (if limit < sorted.length then sorted.dropLast else sorted) = sorted.take limit
    split_ifs with overflow
    · rw [dropLast_eq_take, show sorted.length - 1 = limit by omega]
    · rw [take_of_length_le (by omega)]
  have distinct_seen : Distinct compareItems seen := distinct.sublist (sublist_append_left _ _)
  have front : Distinct compareItems ([item] ++ seen) := distinct.perm perm_append_comm
  have buffer : Distinct compareItems ((sortBy compareItems seen).take limit ++ [item]) := by
    have whole : Distinct compareItems (sortBy compareItems seen ++ [item]) :=
      distinct.perm ((perm_sortBy _ seen).symm.append_right _)
    exact whole.sublist ((take_sublist _ _).append_right _)
  rw [short, buffer.sortBy_eq perm_append_comm, take_sortBy_append limit _ distinct_seen,
    front.sortBy_eq perm_append_comm]

theorem foldl_insertBounded {limit : Nat} {seen items : List α}
    (distinct : Distinct compareItems (seen ++ items)) :
    items.foldl (insertBounded compareItems limit) ((sortBy compareItems seen).take limit) =
      (sortBy compareItems (seen ++ items)).take limit := by
  induction items generalizing seen with
  | nil => simp
  | cons item items induction =>
    have regrouped : seen ++ item :: items = (seen ++ [item]) ++ items := by simp
    rw [regrouped] at distinct ⊢
    rw [foldl_cons, insertBounded_take (distinct.sublist (sublist_append_left _ _)),
      induction distinct]

/-- Merging the first entries of every part finds the first entries of the whole collection. -/
theorem foldl_parts (limit : Nat) {parts : List part} (seen : List α) (itemsOf : part → List α)
    (distinct : Distinct compareItems (seen ++ parts.flatMap itemsOf)) :
    parts.foldl (fun buffer part =>
        ((sortBy compareItems (itemsOf part)).take limit).foldl
          (insertBounded compareItems limit) buffer)
        ((sortBy compareItems seen).take limit) =
      (sortBy compareItems (seen ++ parts.flatMap itemsOf)).take limit := by
  induction parts generalizing seen with
  | nil => simp
  | cons part parts induction =>
    rw [flatMap_cons, ← append_assoc] at distinct
    have distinct_part : Distinct compareItems (seen ++ itemsOf part) :=
      distinct.sublist (sublist_append_left _ _)
    have distinct_items : Distinct compareItems (itemsOf part) :=
      distinct_part.sublist (sublist_append_right _ _)
    have distinct_first : Distinct compareItems
        (seen ++ (sortBy compareItems (itemsOf part)).take limit) := by
      have whole : Distinct compareItems (seen ++ sortBy compareItems (itemsOf part)) :=
        distinct_part.perm ((perm_sortBy _ _).symm.append_left _)
      exact whole.sublist ((take_sublist _ _).append_left _)
    rw [foldl_cons, foldl_insertBounded distinct_first,
      take_sortBy_append limit _ distinct_items, induction _ distinct, flatMap_cons,
      append_assoc]

end Merging

section Anchors

variable [TransCmp compareItems] {before after : List α} {anchor : α}

/-- The items on either side of an anchor. -/
theorem filter_anchor (ascending : Ascending compareItems (before ++ anchor :: after)) :
    (before ++ anchor :: after).filter (fun item => compareItems anchor item == .lt) = after ∧
    (before ++ anchor :: after).filter (fun item => compareItems item anchor == .lt) = before := by
  obtain ⟨-, ascending_rest, cross⟩ := pairwise_append.mp ascending
  obtain ⟨after_greater, -⟩ := pairwise_cons.mp ascending_rest
  have swapped (left right : α) : compareItems left right = (compareItems right left).swap :=
    eq_swap
  constructor
  · rw [filter_append, filter_cons_of_neg (by simp [ReflCmp.compare_self]),
      filter_eq_nil_iff.mpr, filter_eq_self.mpr, nil_append]
    · intro item mem
      simp [after_greater item mem]
    · intro item mem
      simp [swapped anchor, cross item mem anchor mem_cons_self]
  · rw [filter_append, filter_cons_of_neg (by simp [ReflCmp.compare_self]),
      filter_eq_self.mpr, filter_eq_nil_iff.mpr, append_nil]
    · intro item mem
      simp [swapped item, after_greater item mem]
    · intro item mem
      simp [cross item mem anchor mem_cons_self]

end Anchors

theorem Ascending.mem_take_or_last_less (ascending : Ascending compareItems items) {size : Nat}
    (positive : 0 < size) (mem : item ∈ items) :
    item ∈ items.take size ∨ items.drop size ≠ [] ∧
      ∃ last, (items.take size).getLast? = some last ∧ compareItems last item = .lt := by
  rw [← take_append_drop size items] at ascending
  obtain ⟨-, -, cross⟩ := pairwise_append.mp ascending
  rw [← take_append_drop size items, mem_append] at mem
  refine mem.imp_right fun later => ⟨ne_nil_of_mem later, ?_⟩
  have nonempty : items.take size ≠ [] := by
    intro empty
    rcases take_eq_nil_iff.mp empty with zero | none
    · omega
    · simp [none] at later
  exact ⟨_, getLast?_eq_some_getLast nonempty, cross _ (getLast_mem nonempty) item later⟩

theorem take_filter_of_forall {size : Nat} {keep : α → Bool}
    (kept : ∀ item ∈ items.take size, keep item = true) :
    (items.filter keep).take size = items.take size := by
  have split_eq : items.filter keep = items.take size ++ (items.drop size).filter keep := by
    conv_lhs => rw [← take_append_drop size items]
    rw [filter_append, filter_eq_self.mpr kept]
  rcases Nat.le_total items.length size with short | long
  · rw [take_of_length_le short, filter_eq_self.mpr (by
      rwa [take_of_length_le short] at kept), take_of_length_le short]
  · rw [split_eq, take_append_of_le_length (by simpa using long), take_take, Nat.min_self]

end Keyset
