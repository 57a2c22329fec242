import FluxDns.Config.Resolved
import FluxDns.Library.Execution
import FluxDns.Library.ByteReader
import Mathlib.Algebra.BigOperators.Intervals
import Mathlib.Algebra.BigOperators.Ring.Finset
import Mathlib.Tactic.Linarith

/-!
# Selecting the members of an upstream group

Round robin adds its weight to the value of every member, takes the member with the largest value
and takes the sum of the weights from it.  Load balancing takes the member with the smallest number
of leases for its weight.
-/

namespace FluxDns.Upstream

open Config ByteReader List Function

inductive SelectionPolicy where
  | sequential
  | roundRobin
  | loadBalance
  | parallel
  | failover
  deriving DecidableEq

inductive GroupSelectorError where
  | emptyMembers
  | zeroWeight (index : Nat)
  | duplicateMember (index : Nat)
  | invalidMode (mode : SelectionPolicy)
  | noPrimary (mode : SelectionPolicy)
  | fixedWeightRequired (index : Nat) (mode : SelectionPolicy)

/-- The values of the members by their index; the sums of 32-bit weights are far from the bounds of
`i128`. -/
structure SmoothState where
  current : Nat → Int
  totalWeight : Int

/-- The counters of the members by their index, and the cursor. -/
structure LoadState where
  inFlight : Nat → UInt64
  cursor : UInt64

/-- The selector of a group with its counters. -/
structure GroupSelector where
  mode : SelectionPolicy
  members : List ResolvedUpstreamMember
  smooth : SmoothState
  load : LoadState

namespace GroupSelector

variable (mode : SelectionPolicy) (members : List ResolvedUpstreamMember)

def checkMember (member : ResolvedUpstreamMember) (index : Nat) : Except GroupSelectorError Unit :=
  if member.weight = 0 then .error (.zeroWeight index)
  else if (members.take index).any fun previous => previous.name == member.name then
    .error (.duplicateMember index)
  else if (mode = .parallel ∨ mode = .failover) ∧ member.weight ≠ 1 then
    .error (.fixedWeightRequired index mode)
  else .ok ()

/-- The loop over the members, which adds up their weights. -/
def addMembers : List (ResolvedUpstreamMember × Nat) → Int → Except GroupSelectorError Int
  | [], totalWeight => .ok totalWeight
  | (member, index) :: rest, totalWeight => do
    checkMember mode members member index
    addMembers rest (totalWeight + member.weight.toNat)

def new : Except GroupSelectorError GroupSelector :=
  if members.isEmpty then .error .emptyMembers
  else if mode = .sequential then .error (.invalidMode mode)
  else do
    let totalWeight ← addMembers mode members members.zipIdx 0
    return ⟨mode, members, ⟨fun _ => 0, totalWeight⟩, ⟨fun _ => 0, 0⟩⟩

end GroupSelector

def weightAt (members : List ResolvedUpstreamMember) (index : Nat) : UInt32 :=
  (members[index]?.map (·.weight)).getD 0

/-- One turn of the loop of `smooth_select`. -/
def smoothTurn (turn : (Nat → Int) × Nat) (entry : ResolvedUpstreamMember × Nat) :
    (Nat → Int) × Nat :=
  let current := update turn.1 entry.2 (turn.1 entry.2 + entry.1.weight.toNat)
  (current, if current turn.2 < current entry.2 then entry.2 else turn.2)

def smoothSelect (state : SmoothState) (members : List ResolvedUpstreamMember) :
    Nat × SmoothState :=
  let (current, selected) := members.zipIdx.foldl smoothTurn (state.current, 0)
  (selected, { state with
    current := update current selected (current selected - state.totalWeight) })

/-- The products are of type `u128`. -/
def loadRatioIsLess (candidateInFlight : UInt64) (candidateWeight : UInt32)
    (currentInFlight : UInt64) (currentWeight : UInt32) : Bool :=
  decide (candidateInFlight.toNat * currentWeight.toNat % 2 ^ 128 <
    currentInFlight.toNat * candidateWeight.toNat % 2 ^ 128)

namespace GroupSelector

variable (selector : GroupSelector)

def weight (index : Nat) : UInt32 := weightAt selector.members index

def loadBalanceIndex : Nat × GroupSelector :=
  let count := selector.members.length
  let start := selector.load.cursor.toNat % count
  let best := (range' 1 (count - 1)).foldl (fun best offset =>
    let candidate := (start + offset) % count
    if loadRatioIsLess (selector.load.inFlight candidate) (selector.weight candidate)
        (selector.load.inFlight best) (selector.weight best) then candidate
    else best) start
  (best, { selector with load := { selector.load with cursor := selector.load.cursor + 1 } })

def selectPrimary : Except GroupSelectorError (Nat × GroupSelector) :=
  match selector.mode with
  | .roundRobin =>
    let (selected, smooth) := smoothSelect selector.smooth selector.members
    .ok (selected, { selector with smooth })
  | .loadBalance => .ok selector.loadBalanceIndex
  | .failover => .ok (0, selector)
  | .parallel => .error (.noPrimary .parallel)
  | .sequential => .error (.invalidMode .sequential)

/-- A number of calls of `select_primary`: the members that they have selected in order. -/
def selections : Nat → GroupSelector → Except GroupSelectorError (List Nat × GroupSelector)
  | 0, selector => .ok ([], selector)
  | turns + 1, selector => do
    let (selected, selector) ← selector.selectPrimary
    let (later, selector) ← selections turns selector
    return (selected :: later, selector)

def setInFlight (index : Nat) (value : UInt64) : GroupSelector :=
  { selector with load :=
    { selector.load with inFlight := update selector.load.inFlight index value } }

def acquirePrimary : Except GroupSelectorError (Nat × GroupSelector) :=
  if selector.mode ≠ .loadBalance then .error (.invalidMode selector.mode)
  else
    let (index, selector) := selector.loadBalanceIndex
    .ok (index, selector.setInFlight index (selector.load.inFlight index + 1))

/-- The drop of a `SelectionLease`, whose subtraction is checked. -/
def dropLease (index : Nat) : GroupSelector :=
  if selector.load.inFlight index = 0 then selector
  else selector.setInFlight index (selector.load.inFlight index - 1)

end GroupSelector

section Members

variable {members : List ResolvedUpstreamMember} {selector : GroupSelector} {mode : SelectionPolicy}
  (member : ResolvedUpstreamMember)

theorem weightAt_append (index : Nat) :
    weightAt (members ++ [member]) index =
      if index = members.length then member.weight else weightAt members index := by
  split
  · next last => simp [weightAt, last]
  · next other =>
    rcases Nat.lt_or_gt_of_ne other with before | after
    · rw [weightAt, weightAt, getElem?_append_left before]
    · rw [weightAt, weightAt, getElem?_eq_none after.le, getElem?_eq_none (by simp; omega)]

theorem weightAt_of_le {index : Nat} (outside : members.length ≤ index) :
    weightAt members index = 0 := by
  simp [weightAt, outside]

def totalWeight (members : List ResolvedUpstreamMember) : Nat :=
  ∑ index ∈ Finset.range members.length, (weightAt members index).toNat

theorem totalWeight_append :
    totalWeight (members ++ [member]) = totalWeight members + member.weight.toNat := by
  rw [totalWeight, length_append, length_singleton, Finset.sum_range_succ,
    weightAt_append, if_pos rfl]
  congr 1
  refine Finset.sum_congr rfl fun index within => ?_
  rw [weightAt_append, if_neg (Finset.mem_range.mp within).ne]

theorem weight_ne_zero_of_checkMember {member : ResolvedUpstreamMember} {index : Nat}
    {checked : Unit} (passed : GroupSelector.checkMember mode members member index = .ok checked) :
    member.weight ≠ 0 := by
  intro zero
  rw [GroupSelector.checkMember, if_pos zero] at passed
  cases passed

theorem addMembers_eq_ok {all before : List ResolvedUpstreamMember} {total : Int}
    (added : GroupSelector.addMembers mode all (members.zipIdx before.length) (totalWeight before) =
      .ok total) :
    total = totalWeight (before ++ members) ∧ ∀ member ∈ members, member.weight ≠ 0 := by
  induction members generalizing before with
  | nil =>
    cases added
    simp
  | cons member members induction =>
    rw [zipIdx_cons, GroupSelector.addMembers, bind_eq_ok] at added
    obtain ⟨checked, passed, added⟩ := added
    have next := @induction (before ++ [member])
    rw [totalWeight_append, length_append, append_assoc, Nat.cast_add] at next
    obtain ⟨total_eq, positive⟩ := next added
    exact ⟨total_eq, forall_mem_cons.mpr ⟨weight_ne_zero_of_checkMember passed, positive⟩⟩

theorem new_eq_ok (made : GroupSelector.new mode members = .ok selector) :
    members ≠ [] ∧ (∀ index < members.length, weightAt members index ≠ 0) ∧
      selector = ⟨mode, members, ⟨fun _ => 0, totalWeight members⟩, ⟨fun _ => 0, 0⟩⟩ := by
  unfold GroupSelector.new at made
  split at made <;> try cases made
  next nonempty =>
  split at made <;> try cases made
  obtain ⟨total, added, made⟩ := bind_eq_ok.mp made
  have added : GroupSelector.addMembers mode members
      (members.zipIdx ([] : List ResolvedUpstreamMember).length) (totalWeight []) =
      .ok total := added
  obtain ⟨rfl, positive⟩ := addMembers_eq_ok added
  cases made
  refine ⟨by simpa using nonempty, fun index within => ?_, rfl⟩
  simpa [weightAt, within] using positive _ (getElem_mem within)

end Members

section RoundRobin

variable (members : List ResolvedUpstreamMember)

/-- The loop adds the weights and finds a member with the largest value. -/
structure Turned (current : Nat → Int)
    (turn : (Nat → Int) × Nat) : Prop where
  values : ∀ index, turn.1 index = current index + (weightAt members index).toNat
  selected_le : turn.2 ≤ members.length - 1
  largest : ∀ index < members.length, turn.1 index ≤ turn.1 turn.2

theorem turned_foldl (current : Nat → Int) :
    Turned members current (members.zipIdx.foldl smoothTurn (current, 0)) := by
  induction members using reverseRecOn with
  | nil => exact ⟨by simp [weightAt], by simp, by simp⟩
  | append_singleton members member induction =>
    rw [zipIdx_append, foldl_append]
    generalize members.zipIdx.foldl smoothTurn (current, 0) = turn at induction
    obtain ⟨values, selected_le, largest⟩ := induction
    obtain ⟨before, selected⟩ := turn
    simp only [zipIdx_singleton, Nat.zero_add, foldl_cons, foldl_nil, smoothTurn]
    dsimp only at values selected_le largest
    generalize added : update before members.length
      (before members.length + member.weight.toNat) = after
    have unchanged : ∀ index, index ≠ members.length → after index = before index := by
      intro index other
      rw [← added, update_of_ne other]
    refine ⟨fun index => ?_, ?_, ?_⟩ <;> dsimp only
    · rw [weightAt_append]
      split
      · next last => rw [last, ← added, update_self, values, weightAt_of_le le_rfl]; simp
      · next other => rw [unchanged index other, values]
    · rw [length_append, length_singleton]
      split <;> omega
    · rw [length_append, length_singleton, Nat.forall_lt_succ_right]
      refine ⟨fun index within => ?_, ?_⟩
      · have before_le : after index ≤ after selected := by
          rw [unchanged index within.ne, unchanged selected (by omega)]
          exact largest index within
        split
        · next less => exact before_le.trans less.le
        · exact before_le
      · split
        · exact le_rfl
        · next no_less => exact not_lt.mp no_less

/-- The value of a member that was taken `count` times in a number of turns. -/
def share (turns count index : Nat) : Int :=
  turns * (weightAt members index).toNat - count * totalWeight members

/-- The selector after a list of selections from the initial state. -/
def after (choices : List Nat) : GroupSelector :=
  ⟨.roundRobin, members, ⟨fun index => share members choices.length (choices.count index) index,
    totalWeight members⟩, ⟨fun _ => 0, 0⟩⟩

variable {members} {choices : List Nat} {selector : GroupSelector}

/-- One selection takes a member whose value, with its weight added, is the largest one. -/
theorem selectPrimary_after (nonempty : members ≠ []) (choices : List Nat) :
    ∃ selected < members.length,
      (after members choices).selectPrimary =
        .ok (selected, after members (choices ++ [selected])) ∧
      ∀ index < members.length, share members (choices.length + 1) (choices.count index) index ≤
        share members (choices.length + 1) (choices.count selected) selected := by
  have turned := turned_foldl members (after members choices).smooth.current
  have positive := length_pos_iff.mpr nonempty
  unfold GroupSelector.selectPrimary smoothSelect
  dsimp only [after] at turned ⊢
  generalize members.zipIdx.foldl smoothTurn _ = turn at turned
  obtain ⟨values, selected⟩ := turn
  obtain ⟨added, selected_le, largest⟩ := turned
  dsimp only at added selected_le largest
  have values_eq (index : Nat) :
      values index = share members (choices.length + 1) (choices.count index) index := by
    rw [added index, share, share]
    push_cast
    ring
  refine ⟨selected, by omega, ?_, fun index within => ?_⟩
  · congr 4
    funext index
    rw [update_apply, length_append, length_singleton, count_append, count_singleton]
    split
    · next same => simp [same, values_eq, share]; ring
    · next other => simp [values_eq, Ne.symm other]
  · rw [← values_eq, ← values_eq]
    exact largest index within

theorem sum_count {bound : Nat} (within : ∀ choice ∈ choices, choice < bound) :
    ∑ index ∈ Finset.range bound, choices.count index = choices.length := by
  have listed : ∀ choice ∈ (choices : Multiset Nat), choice ∈ Finset.range bound := by
    simpa using within
  simpa using Multiset.sum_count_eq_card listed

theorem sum_share (within : ∀ choice ∈ choices, choice < members.length) (turns : Nat) :
    ∑ index ∈ Finset.range members.length,
      share members turns (choices.count index) index =
        turns * totalWeight members - choices.length * totalWeight members := by
  simp only [share, Finset.sum_sub_distrib, ← Finset.mul_sum, ← Finset.sum_mul]
  rw [← sum_count within, totalWeight]
  push_cast
  rfl

/-- As long as the turns are fewer than the weights, only a member with turns left is taken. -/
theorem count_le_of_largest {selected : Nat} (within : ∀ choice ∈ choices, choice < members.length)
    (early : choices.length < totalWeight members)
    (fair : ∀ index, choices.count index ≤ (weightAt members index).toNat)
    (largest : ∀ index < members.length,
      share members (choices.length + 1) (choices.count index) index ≤
      share members (choices.length + 1) (choices.count selected) selected)
    (index : Nat) : (choices ++ [selected]).count index ≤ (weightAt members index).toNat := by
  rw [count_append, count_singleton]
  split
  · next same =>
    obtain rfl : selected = index := by simpa using same
    by_contra! exceeds
    have taken : choices.count selected = (weightAt members selected).toNat :=
      Nat.le_antisymm (fair selected) (by omega)
    have selected_nonpos :
        share members (choices.length + 1) (choices.count selected) selected ≤ 0 := by
      rw [taken, share, ← mul_comm, ← mul_sub]
      have : ((choices.length + 1 : Nat) : Int) ≤ totalWeight members := by exact_mod_cast early
      exact mul_nonpos_of_nonneg_of_nonpos (by positivity) (by linarith)
    have sum_nonpos := Finset.sum_nonpos fun index member =>
      (largest index (Finset.mem_range.mp member)).trans selected_nonpos
    rw [sum_share within] at sum_nonpos
    push_cast at sum_nonpos
    linarith
  · exact fair index

theorem selections_after (nonempty : members ≠ []) (turns : Nat) {earlier : List Nat}
    (within : ∀ choice ∈ earlier, choice < members.length) : ∃ choices,
      (after members earlier).selections turns = .ok (choices, after members (earlier ++ choices)) ∧
      choices.length = turns ∧ (∀ choice ∈ earlier ++ choices, choice < members.length) ∧
      (earlier.length + turns ≤ totalWeight members →
        (∀ index, earlier.count index ≤ (weightAt members index).toNat) →
        ∀ index, (earlier ++ choices).count index ≤ (weightAt members index).toNat) := by
  induction turns generalizing earlier with
  | zero => exact ⟨[], by simp [GroupSelector.selections], rfl, by simpa using within, by simp⟩
  | succ turns induction =>
    obtain ⟨selected, selected_lt, taken, largest⟩ := selectPrimary_after nonempty earlier
    have within_next : ∀ choice ∈ earlier ++ [selected], choice < members.length := by
      simpa [or_imp, forall_and, selected_lt] using within
    obtain ⟨choices, later, length_eq, within_all, fair⟩ := induction within_next
    rw [append_assoc] at later within_all fair
    refine ⟨selected :: choices, ?_, by rw [length_cons, length_eq], within_all,
      fun early fair_before => fair ?_ ?_⟩
    · rw [GroupSelector.selections, taken]
      simp only [ok_bind, later]
      rfl
    · rw [length_append, length_singleton]
      omega
    · exact count_le_of_largest within (by omega) fair_before largest

theorem selections_add {first second : Nat} {selector middle final : GroupSelector}
    {later : List Nat} (taken : selector.selections first = .ok (choices, middle))
    (continued : middle.selections second = .ok (later, final)) :
    selector.selections (first + second) = .ok (choices ++ later, final) := by
  induction first generalizing selector choices with
  | zero =>
    cases taken
    simpa using continued
  | succ first induction =>
    rw [GroupSelector.selections, bind_eq_ok] at taken
    obtain ⟨⟨selected, next⟩, once, taken⟩ := taken
    obtain ⟨⟨rest, last⟩, many, taken⟩ := bind_eq_ok.mp taken
    cases taken
    rw [Nat.add_right_comm, GroupSelector.selections, once]
    simp only [ok_bind, induction many]
    rfl

/-- A block of selections takes every member as often as its weight and leads back to the initial
state. -/
theorem selections_totalWeight (nonempty : members ≠ []) : ∃ choices,
    (after members []).selections (totalWeight members) = .ok (choices, after members []) ∧
      ∀ index, choices.count index = (weightAt members index).toNat := by
  obtain ⟨choices, taken, length_eq, within, fair⟩ :=
    selections_after nonempty (totalWeight members) (forall_mem_nil (· < members.length))
  simp only [nil_append] at taken within fair
  have count_le := fair (by simp) (by simp)
  have sums : ∑ index ∈ Finset.range members.length, choices.count index = totalWeight members :=
    (sum_count within).trans length_eq
  have counts : ∀ index, choices.count index = (weightAt members index).toNat := by
    intro index
    rcases Nat.lt_or_ge index members.length with inside | outside
    · exact (Finset.sum_eq_sum_iff_of_le fun index _ => count_le index).mp sums index
        (Finset.mem_range.mpr inside)
    · have := count_le index
      rw [weightAt_of_le outside] at this ⊢
      exact Nat.le_zero.mp this
  refine ⟨choices, ?_, counts⟩
  rw [taken, after, after]
  congr 4
  funext index
  rw [share, share, length_eq, counts]
  simp [mul_comm]

theorem after_nil (made : GroupSelector.new .roundRobin members = .ok selector) :
    members ≠ [] ∧ selector = after members [] := by
  obtain ⟨nonempty, -, rfl⟩ := new_eq_ok made
  exact ⟨nonempty, by simp [after, share]⟩

/-- The values of the members add up to zero after every selection.  A block of as many selections
as the weights add up to takes each member as often as its weight and ends with all values zero. -/
theorem round_robin_fair (made : GroupSelector.new .roundRobin members = .ok selector) :
    (∀ turns, ∃ choices final, selector.selections turns = .ok (choices, final) ∧
      ∑ index ∈ Finset.range members.length, final.smooth.current index = 0) ∧
    ∀ blocks, ∃ earlier before choices final,
      selector.selections (blocks * totalWeight members) = .ok (earlier, before) ∧
      before.selections (totalWeight members) = .ok (choices, final) ∧
      (∀ index < members.length, choices.count index = (weightAt members index).toNat) ∧
      ∀ index < members.length, final.smooth.current index = 0 := by
  obtain ⟨nonempty, rfl⟩ := after_nil made
  constructor
  · intro turns
    obtain ⟨choices, taken, -, within, -⟩ :=
      selections_after nonempty turns (forall_mem_nil (· < members.length))
    refine ⟨choices, _, taken, ?_⟩
    exact (sum_share within _).trans (sub_self _)
  · intro blocks
    obtain ⟨choices, block, counts⟩ := selections_totalWeight nonempty
    have repeated : ∃ earlier, (after members []).selections (blocks * totalWeight members) =
        .ok (earlier, after members []) := by
      induction blocks with
      | zero => exact ⟨[], by rw [Nat.zero_mul]; rfl⟩
      | succ blocks induction =>
        obtain ⟨earlier, taken⟩ := induction
        rw [Nat.succ_mul]
        exact ⟨_, selections_add taken block⟩
    obtain ⟨earlier, taken⟩ := repeated
    exact ⟨earlier, _, choices, _, taken, block, fun index _ => counts index,
      fun index _ => by simp [after, share]⟩

end RoundRobin

/-- The members of the tests, with the weights two and one. -/
def sampleMembers : List ResolvedUpstreamMember :=
  [⟨⟨"upstream-0", by decide, by decide, by decide⟩, 2⟩,
    ⟨⟨"upstream-1", by decide, by decide, by decide⟩, 1⟩]

theorem round_robin_fair_two_members : ∃ selector choices final,
    GroupSelector.new .roundRobin sampleMembers = .ok selector ∧
    selector.selections 3 = .ok (choices, final) ∧ choices.count 0 = 2 ∧ choices.count 1 = 1 := by
  have made : ∃ selector, GroupSelector.new .roundRobin sampleMembers = .ok selector := ⟨_, rfl⟩
  obtain ⟨selector, made⟩ := made
  obtain ⟨earlier, before, choices, final, start, taken, counts, -⟩ := (round_robin_fair made).2 0
  cases start
  exact ⟨selector, choices, final, made, taken, counts 0 (by decide), counts 1 (by decide)⟩

end FluxDns.Upstream
