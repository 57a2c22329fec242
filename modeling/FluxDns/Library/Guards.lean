import FluxDns.Library.AssociationList

/-!
# Guards that exclude each other

Tasks hold guards, and a task may take a guard only while no other task holds one that excludes it.
Mutexes and both sides of a readers-writer lock are guards of this kind.
-/

namespace Guards

variable {Task Guard : Type*} (excludes : Guard → Guard → Bool) (holds : Task → List Guard)

/-- Guards of two different tasks never exclude each other. -/
def Exclusive (tasks : Map Nat Task) : Prop :=
  ∀ first second task other, first ≠ second →
    tasks.lookup first = some task → tasks.lookup second = some other →
    ∀ guard ∈ holds task, ∀ held ∈ holds other, excludes guard held = false

/-- No task holds a guard that excludes the given one. -/
def free (tasks : Map Nat Task) (guard : Guard) : Bool :=
  tasks.entries.all fun entry => (holds entry.2).all fun held => !excludes guard held

variable {excludes : Guard → Guard → Bool} {holds : Task → List Guard}
  {tasks : Map Nat Task} {id : Nat}

theorem excludes_eq_false_of_free {guard : Guard} (is_free : free excludes holds tasks guard = true)
    {task : Task} (found : tasks.lookup id = some task) {held : Guard}
    (held_mem : held ∈ holds task) : excludes guard held = false := by
  have all_free := List.all_eq_true.mp is_free _ (AList.lookup_eq_some_iff.mp found)
  have held_free := List.all_eq_true.mp all_free held held_mem
  simpa using held_free

variable (exclusive : Exclusive excludes holds tasks)

include exclusive

theorem Exclusive.erase (id : Nat) : Exclusive excludes holds (tasks.erase id) := by
  intro first second task other different found_first found_second
  rw [AList.lookup_erase_eq_ite] at found_first found_second
  split_ifs at found_first found_second
  exact exclusive first second task other different found_first found_second

/-- A task is put in place whose guards are not excluded by the guards of the others. -/
theorem Exclusive.insert (symmetric : ∀ guard held, excludes guard held = excludes held guard)
    {task : Task}
    (fits : ∀ other_id other, other_id ≠ id → tasks.lookup other_id = some other →
      ∀ guard ∈ holds task, ∀ held ∈ holds other, excludes guard held = false) :
    Exclusive excludes holds (tasks.insert id task) := by
  intro first second left right different found_first found_second guard guard_mem held held_mem
  rw [AList.lookup_insert_eq_ite] at found_first found_second
  split_ifs at found_first found_second with first_eq second_eq second_eq
  · exact absurd (first_eq.trans second_eq.symm) different
  · cases found_first
    exact fits second right second_eq found_second guard guard_mem held held_mem
  · cases found_second
    rw [symmetric]
    exact fits first left first_eq found_first held held_mem guard guard_mem
  · exact exclusive first second left right different found_first found_second guard guard_mem held
      held_mem

/-- A task that keeps its guards, gives some of them up or takes a free one fits in. -/
theorem Exclusive.fits {before after : Task} (found : tasks.lookup id = some before)
    (taken : ∀ guard ∈ holds after, guard ∈ holds before ∨ free excludes holds tasks guard = true)
    {other_id : Nat} {other : Task} (different : other_id ≠ id)
    (found_other : tasks.lookup other_id = some other) {guard : Guard}
    (guard_mem : guard ∈ holds after) {held : Guard} (held_mem : held ∈ holds other) :
    excludes guard held = false := by
  rcases taken guard guard_mem with kept | is_free
  · exact exclusive id other_id before other different.symm found found_other guard kept held
      held_mem
  · exact excludes_eq_false_of_free is_free found_other held_mem

end Guards
