import FluxDns.Library.AssociationList

/-!
# Traversals that may fail

A list mapped by a partial function, and finite maps filled from lists, described by the elements
that they are made of.
-/

namespace Traversal

open List AList

variable {α β γ ε : Type*}

variable {f : α → Option β} {images : List β} {key : γ → α} {map filled : Map α β}
  {items : List γ} {value : γ → Except ε (Option β)}

/-- A partial map succeeds when each element has an image. -/
theorem mapM_eq_some_iff {items : List α} :
    items.mapM f = some images ↔ items.map f = images.map some := by
  induction items generalizing images with
  | nil => cases images <;> simp
  | cons head tail ih => cases images <;> simp [Option.bind_eq_some_iff, ih]

/-- Every image comes from an element. -/
theorem exists_source_of_mem {items : List α} (mapped : items.mapM f = some images) {image : β}
    (mem : image ∈ images) : ∃ item ∈ items, f item = some image := by
  apply mem_map.mp
  rw [mapM_eq_some_iff.mp mapped]
  exact mem_map_of_mem mem

theorem exists_image_of_mem {items : List α} (mapped : items.mapM f = some images) {item : α}
    (mem : item ∈ items) : ∃ image ∈ images, f item = some image := by
  have among : f item ∈ items.map f := mem_map_of_mem mem
  rw [mapM_eq_some_iff.mp mapped] at among
  obtain ⟨image, image_mem, same⟩ := mem_map.mp among
  exact ⟨image, image_mem, same.symm⟩

/-- What images have in common with their elements. -/
theorem map_eq_of_mapM {left : α → γ} {right : β → γ}
    (same : ∀ item image, f item = some image → right image = left item) {items : List α}
    (mapped : items.mapM f = some images) : images.map right = items.map left := by
  rw [mapM_eq_some_iff] at mapped
  induction items generalizing images with
  | nil => rw [List.map_eq_nil_iff.mp mapped.symm, map_nil, map_nil]
  | cons item items ih =>
    obtain ⟨image, rest, rfl, image_eq, rest_eq⟩ := List.map_eq_cons_iff.mp mapped.symm
    rw [map_cons, map_cons, same item image image_eq.symm, ih rest_eq.symm]

/-- A check along a list passes when it passes everywhere. -/
theorem forM_eq_ok {check : α → Except ε PUnit} {items : List α}
    (valid : items.forM check = .ok ⟨⟩) : ∀ item ∈ items, check item = .ok ⟨⟩ := by
  induction items with
  | nil => simp
  | cons head tail ih =>
    rw [List.forM] at valid
    cases checked : check head with
    | error failure =>
      rw [checked] at valid
      cases valid
    | ok passed =>
      rw [checked] at valid
      exact List.forall_mem_cons.mpr ⟨checked, ih valid⟩

theorem mapError_eq_ok {result : Except ε β} {f : ε → γ} {value : β}
    (mapped : result.mapError f = .ok value) : result = .ok value := by
  cases result with
  | error failure => cases mapped
  | ok found =>
    cases mapped
    rfl

/-- A sequence fails in its first part or in its second one. -/
theorem bind_eq_error {α β : Type} {first : Except ε α} {next : α → Except ε β} {failure : ε}
    (failed : first >>= next = .error failure) :
    first = .error failure ∨ ∃ value, first = .ok value ∧ next value = .error failure := by
  cases first with
  | error error =>
    cases failed
    exact .inl rfl
  | ok value => exact .inr ⟨value, rfl, failed⟩

variable [DecidableEq α]

/-- Insert the values of a list one after the other; a key that is already present is an error. -/
def insertUnique (key : γ → α) (value : γ → Except ε β) (duplicate : γ → ε) :
    (Map α β) → List γ → Except ε (Map α β)
  | map, [] => .ok map
  | map, item :: rest =>
    match value item with
    | .error failure => .error failure
    | .ok image =>
      if key item ∈ map then .error (duplicate item)
      else insertUnique key value duplicate (map.insert (key item) image) rest

theorem lookup_insertUnique {value : γ → Except ε β} {duplicate : γ → ε}
    (built : insertUnique key value duplicate map items = .ok filled) (at_ : α) (image : β) :
    filled.lookup at_ = some image ↔
      map.lookup at_ = some image ∨ ∃ item ∈ items, key item = at_ ∧ value item = .ok image := by
  induction items generalizing map with
  | nil =>
    cases built
    simp
  | cons item rest ih =>
    rw [insertUnique] at built
    cases computed : value item with
    | error failure =>
      rw [computed] at built
      cases built
    | ok first =>
      simp only [computed] at built
      split at built <;> try cases built
      next fresh =>
      rw [ih built, lookup_insert_eq_ite]
      have absent : map.lookup (key item) = none := lookup_eq_none.mpr fresh
      by_cases same : at_ = key item
      · subst same
        simp [absent, computed]
      · simp [same, Ne.symm same, computed]

/-- The insertion succeeds when the keys are new and different. -/
theorem insertUnique_isOk_iff {duplicate : γ → ε} {value : γ → β} :
    (∃ filled, insertUnique key (fun item => .ok (value item)) duplicate map items = .ok filled) ↔
      (items.map key).Nodup ∧ ∀ item ∈ items, key item ∉ map := by
  induction items generalizing map with
  | nil => simp [insertUnique]
  | cons item rest ih =>
    by_cases known : key item ∈ map
    · simp [insertUnique, known]
    · simp only [insertUnique, known, if_false, ih, map_cons, nodup_cons, forall_mem_cons,
        AList.mem_insert]
      grind

/-- Insert the values that items have one after the other; a later one replaces an earlier one. -/
def insertEach (key : γ → α) (value : γ → Except ε (Option β)) :
    (Map α β) → List γ → Except ε (Map α β)
  | map, [] => .ok map
  | map, item :: rest =>
    match value item with
    | .error failure => .error failure
    | .ok none => insertEach key value map rest
    | .ok (some image) => insertEach key value (map.insert (key item) image) rest

theorem insertEach_eq_ok (computed : ∀ item ∈ items, ∃ image, value item = .ok image)
    (map : Map α β) : ∃ filled, insertEach key value map items = .ok filled := by
  induction items generalizing map with
  | nil => exact ⟨map, rfl⟩
  | cons item rest ih =>
    obtain ⟨image, image_eq⟩ := computed item List.mem_cons_self
    have later := ih fun other mem => computed other (List.mem_cons_of_mem _ mem)
    rw [insertEach, image_eq]
    cases image with
    | none => exact later map
    | some image => exact later _

theorem value_of_insertEach (built : insertEach key value map items = .ok filled) {item : γ}
    (mem : item ∈ items) : ∃ image, value item = .ok image := by
  induction items generalizing map with
  | nil => cases mem
  | cons first rest ih =>
    rw [insertEach] at built
    split at built
    · cases built
    all_goals
      next computed =>
      rcases mem_cons.mp mem with rfl | later
      · exact ⟨_, computed⟩
      · exact ih built later

/-- Each item decides about its own key. -/
theorem lookup_insertEach (distinct : (items.map key).Nodup)
    (built : insertEach key value map items = .ok filled) (at_ : α) (image : β) :
    filled.lookup at_ = some image ↔
      (∃ item ∈ items, key item = at_ ∧ value item = .ok (some image)) ∨
      (∀ item ∈ items, key item = at_ → value item = .ok none) ∧ map.lookup at_ = some image := by
  induction items generalizing map with
  | nil =>
    cases built
    simp
  | cons item rest ih =>
    rw [map_cons, List.nodup_cons] at distinct
    have others : ∀ other ∈ rest, key other = key item → False := fun other mem same =>
      distinct.1 (mem_map.mpr ⟨other, mem, same⟩)
    rw [insertEach] at built
    split at built
    · cases built
    · next absent =>
      rw [ih distinct.2 built]
      simp [absent]
    · next first present =>
      rw [ih distinct.2 built, lookup_insert_eq_ite]
      by_cases same : at_ = key item
      · subst same
        have later : ¬∃ other ∈ rest, key other = key item ∧ value other = .ok (some image) :=
          fun ⟨other, mem, same, _⟩ => others other mem same
        have vacuous : ∀ other ∈ rest, key other = key item → value other = .ok none :=
          fun other mem same => (others other mem same).elim
        simpa [present, later] using fun _ => vacuous
      · simp [same, Ne.symm same]

theorem lookup_of_insertUnique {value : γ → Except ε β} {duplicate : γ → ε}
    (built : insertUnique key value duplicate map items = .ok filled) {item : γ}
    (mem : item ∈ items) : ∃ image, filled.lookup (key item) = some image := by
  have computed : ∃ image, value item = .ok image := by
    induction items generalizing map with
    | nil => simp at mem
    | cons head rest ih =>
      rw [insertUnique] at built
      cases head_eq : value head with
      | error failure =>
        rw [head_eq] at built
        cases built
      | ok first =>
        simp only [head_eq] at built
        split at built <;> try cases built
        rcases mem_cons.mp mem with rfl | later
        · exact ⟨first, head_eq⟩
        · exact ih built later
  obtain ⟨image, image_eq⟩ := computed
  exact ⟨image, (lookup_insertUnique built _ _).mpr (.inr ⟨item, mem, rfl, image_eq⟩)⟩

end Traversal
