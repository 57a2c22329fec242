import Mathlib.Data.List.AList

/-!
# Finite maps with value updates

Operations that walk over all entries of an association list, described by their lookups, and the
number of entries that meet a predicate under insertion and removal.
-/

/-- A finite map from keys to values of one type. -/
abbrev Map (α β : Type*) := AList fun _ : α => β

namespace AList

open List Option

variable {α β γ : Type*}

variable {s : Map α β} {key : α} {value : β} {meets : β → Bool}

def mapValues (f : α → β → γ) (s : Map α β) : Map α γ where
  entries := s.entries.map fun entry => ⟨entry.1, f entry.1 entry.2⟩
  nodupKeys := by
    have keys_eq : (s.entries.map fun entry =>
        (⟨entry.1, f entry.1 entry.2⟩ : Sigma fun _ => γ)).keys = s.entries.keys := by
      simp [List.keys, Function.comp_def]
    rw [List.NodupKeys, keys_eq]
    exact s.nodupKeys

def retain (keep : α → β → Bool) (s : Map α β) : Map α β where
  entries := s.entries.filter fun entry => keep entry.1 entry.2
  nodupKeys := s.nodupKeys.sublist filter_sublist

def count (meets : β → Bool) (s : Map α β) : Nat :=
  s.entries.countP fun entry => meets entry.2

@[simp]
theorem count_empty (meets : β → Bool) : count meets (∅ : Map α β) = 0 := by
  rfl

variable [DecidableEq α]

theorem lookup_eq_some_iff : s.lookup key = some value ↔ ⟨key, value⟩ ∈ s.entries := mem_lookup_iff

@[simp]
theorem lookup_mapValues (f : α → β → γ) (s : Map α β) (key : α) :
    (s.mapValues f).lookup key = (s.lookup key).map (f key) := by
  ext value
  simp only [lookup_eq_some_iff, mapValues, List.mem_map, Option.map_eq_some_iff]
  constructor
  · rintro ⟨entry, mem, same⟩
    cases same
    exact ⟨entry.2, mem, rfl⟩
  · rintro ⟨old, mem, rfl⟩
    exact ⟨⟨key, old⟩, mem, rfl⟩

@[simp]
theorem lookup_retain (keep : α → β → Bool) (s : Map α β) (key : α) :
    (s.retain keep).lookup key = (s.lookup key).filter (keep key) := by
  ext value
  simp [lookup_eq_some_iff, retain, Option.filter_eq_some_iff]

theorem lookup_insert_eq_ite (s : Map α β) (key other : α) (value : β) :
    (s.insert key value).lookup other = if other = key then some value else s.lookup other := by
  split
  · next same => subst same; simp
  · next different => rw [lookup_insert_ne different]

theorem of_lookup_insert {other : α} {stored : β}
    (found : (s.insert key value).lookup other = some stored) :
    other = key ∧ stored = value ∨ other ≠ key ∧ s.lookup other = some stored := by
  rw [lookup_insert_eq_ite] at found
  split at found
  · next same => exact .inl ⟨same, (some.inj found).symm⟩
  · next different => exact .inr ⟨different, found⟩

theorem forall_lookup_insert {holds : α → β → Prop} (own : holds key value)
    (others : ∀ other stored, s.lookup other = some stored → holds other stored) :
    ∀ other stored, (s.insert key value).lookup other = some stored → holds other stored := by
  intro other stored found
  rcases of_lookup_insert found with ⟨rfl, rfl⟩ | ⟨_, found⟩
  · exact own
  · exact others other stored found

theorem notMem_of_forall_lookup_lt {s : Map Nat β} {next : Nat}
    (below : ∀ id value, s.lookup id = some value → id < next) : next ∉ s := by
  intro mem
  obtain ⟨value, found⟩ := Option.isSome_iff_exists.mp (lookup_isSome.mpr mem)
  exact Nat.lt_irrefl _ (below next value found)

theorem lookup_erase_eq_ite (s : Map α β) (key other : α) :
    (s.erase key).lookup other = if other = key then none else s.lookup other := by
  split
  · next same => subst same; simp
  · next different => rw [lookup_erase_ne different]

/-- What a fold over all entries does to the part of the state that belongs to one key. -/
theorem foldl_at {State View : Type*} (step : State → α → β → State) (view : State → View)
    (change : View → β → View)
    (own : ∀ state value, view (step state key value) = change (view state) value)
    (frame : ∀ state other value, other ≠ key → view (step state other value) = view state)
    (s : Map α β) (start : State) :
    view (s.foldl step start) = (s.lookup key).elim (view start) (change (view start)) := by
  obtain ⟨entries, nodup⟩ := s
  change view (entries.foldl (fun state entry => step state entry.1 entry.2) start) =
    (entries.dlookup key).elim (view start) (change (view start))
  induction entries generalizing start with
  | nil => rfl
  | cons entry entries induction =>
    obtain ⟨other, value⟩ := entry
    rw [List.nodupKeys_cons] at nodup
    rw [foldl_cons, induction _ nodup.2]
    by_cases same : other = key
    · subst same
      rw [List.dlookup_eq_none.mpr nodup.1, List.dlookup_cons_eq]
      exact own start value
    · rw [List.dlookup_cons_ne _ _ (Ne.symm same), frame start other value same]

theorem lookup_of_lookup_erase {removed : α} (found : (s.erase removed).lookup key = some value) :
    s.lookup key = some value := by
  rw [lookup_erase_eq_ite] at found
  split at found
  · cases found
  · exact found

/-- Removing an entry that does not count is not seen by those who look for entries that do. -/
theorem filter_lookup_erase {keep : β → Bool} (ended : (s.lookup key).any (!keep ·) = true)
    (other : α) : ((s.erase key).lookup other).filter keep = (s.lookup other).filter keep := by
  rw [lookup_erase_eq_ite]
  split
  · next same =>
    subst same
    cases found : s.lookup other with
    | none => rfl
    | some value =>
      rw [found, any_some, Bool.not_eq_true'] at ended
      rw [Option.filter_none, filter_some, ended]
      rfl
  · rfl

theorem filter_lookup_of_any_eq_false {keep : β → Bool}
    (kept : (s.lookup key).any (!keep ·) = false) : (s.lookup key).filter keep = s.lookup key := by
  cases found : s.lookup key with
  | none => rfl
  | some value =>
    rw [found, any_some, Bool.not_eq_false'] at kept
    rw [filter_some, kept]
    rfl

theorem count_insert_of_notMem (fresh : key ∉ s) (meets : β → Bool) (value : β) :
    (s.insert key value).count meets = s.count meets + if meets value then 1 else 0 := by
  rw [count, entries_insert_of_notMem fresh, countP_cons]
  rfl

theorem count_erase (present : s.lookup key = some value) (meets : β → Bool) :
    s.count meets = (s.erase key).count meets + if meets value then 1 else 0 := by
  have mem : key ∈ s.entries.keys := by
    have found : (s.lookup key).isSome := by simp [present]
    exact lookup_isSome.mp found
  obtain ⟨stored, front, back, outside, split, erased⟩ := List.exists_of_kerase mem
  have stored_eq : stored = value := by
    have found : s.lookup key = some stored := by simp [lookup_eq_some_iff, split]
    exact some.inj (found.symm.trans present)
  subst stored_eq
  have erase_entries : (s.erase key).entries = front ++ back := erased
  rw [count, count, erase_entries, split]
  simp only [List.countP_append, countP_cons]
  omega

/-- Replacing a value changes the count only through the two values. -/
theorem count_insert_of_lookup {old : β} (present : s.lookup key = some old) (meets : β → Bool)
    (value : β) (same : meets value = meets old) :
    (s.insert key value).count meets = s.count meets := by
  have split := count_erase present meets
  rw [count, entries_insert, countP_cons, same, split]
  rfl

theorem count_insert_add {old : β} (present : s.lookup key = some old) (meets : β → Bool)
    (value : β) :
    (s.insert key value).count meets + (if meets old then 1 else 0) =
      s.count meets + if meets value then 1 else 0 := by
  have split := count_erase present meets
  have inserted : (s.insert key value).count meets =
      (s.erase key).count meets + if meets value then 1 else 0 := by
    rw [count, entries_insert, countP_cons]
    rfl
  omega

theorem count_pos_of_lookup (present : s.lookup key = some value) (holds : meets value = true) :
    0 < s.count meets := by
  rw [count_erase present meets, if_pos holds]
  omega

theorem exists_of_count_pos (positive : 0 < s.count meets) :
    ∃ key value, s.lookup key = some value ∧ meets value := by
  obtain ⟨entry, mem, holds⟩ := List.countP_pos_iff.mp positive
  exact ⟨entry.1, entry.2, lookup_eq_some_iff.mpr mem, holds⟩

/-- There are at most as many entries that meet a predicate as there are keys for them. -/
theorem count_le_length {keys : List α}
    (covered : ∀ key value, s.lookup key = some value → meets value = true → key ∈ keys) :
    s.count meets ≤ keys.length := by
  have nodup : ((s.entries.filter fun entry => meets entry.2).map Sigma.fst).Nodup :=
    s.nodupKeys.sublist filter_sublist
  have subset : (s.entries.filter fun entry => meets entry.2).map Sigma.fst ⊆ keys := by
    intro key mem
    obtain ⟨entry, entry_mem, rfl⟩ := List.mem_map.mp mem
    obtain ⟨stored, holds⟩ := List.mem_filter.mp entry_mem
    exact covered entry.1 entry.2 (lookup_eq_some_iff.mpr stored) holds
  rw [count, List.countP_eq_length_filter, ← List.length_map Sigma.fst]
  exact (List.subperm_of_subset nodup subset).length_le

variable (s : Map α Nat)

/-- The counter of a key, zero when it has no entry. -/
def tally (key : α) : Nat := (s.lookup key).getD 0

/-- Add one to the counter of a key. -/
def increment (key : α) : Map α Nat :=
  s.insert key (s.tally key + 1)

@[simp]
theorem tally_empty (key : α) : tally (∅ : Map α Nat) key = 0 := by
  simp [tally]

theorem tally_increment (key other : α) :
    (s.increment key).tally other = s.tally other + if other = key then 1 else 0 := by
  simp only [tally, increment, lookup_insert_eq_ite]
  split
  · next same => rw [same, Option.getD_some]
  · simp

theorem tally_foldl_increment [BEq α] [LawfulBEq α] (keys : List α) (s : Map α Nat)
    (key : α) : (keys.foldl increment s).tally key = s.tally key + keys.count key := by
  induction keys generalizing s with
  | nil => simp
  | cons head tail induction =>
    rw [foldl_cons, induction, tally_increment, List.count_cons]
    split
    · next same =>
      simp only [same, beq_self_eq_true, if_true]
      omega
    · next different => simp [Ne.symm different]

theorem tally_retain (keep : α → Bool) (s : Map α Nat) (key : α) :
    (s.retain fun key _ => keep key).tally key = if keep key then s.tally key else 0 := by
  simp only [tally, lookup_retain]
  cases s.lookup key with
  | none => simp
  | some value => cases keep key <;> simp [Option.filter]

end AList
