import FluxDns.Library.RetryLoop
import FluxDns.Policy.Publication

/-!
# Concurrent publications

`publish_hosts_resource` and `publish_rule_set_resource` as they run beside each other: both load
the state of the policy, rebuild it with their snapshot and exchange the two unless another
publication came first.
-/

namespace FluxDns.Policy

open Config Resource Execution RetryLoop RefreshedResourceSnapshot AList PolicyState Function List

/-- A resource by its kind and its name. -/
inductive ResourceKey where
  | hosts (id : ConfigId)
  | ruleSet (id : ConfigId)
  deriving DecidableEq

/-- What a policy state shows of a resource. -/
structure ResourceEntry where
  index : Option (HostsIndex ⊕ RuleIndex)
  contentHash : Option String
  version : Option ResourceVersion

def PolicyState.entry (state : PolicyState) : ResourceKey → ResourceEntry
  | .hosts id =>
    ⟨(state.index.hosts.lookup id).map .inl, state.hostContentHashes.lookup id,
      state.hostVersions.lookup id⟩
  | .ruleSet id =>
    ⟨(state.index.ruleSets.lookup id).map .inr, state.ruleSetContentHashes.lookup id,
      state.ruleSetVersions.lookup id⟩

namespace RefreshedResourceSnapshot

def key : RefreshedResourceSnapshot → ResourceKey
  | .hosts snapshot => .hosts snapshot.resourceId
  | .ruleSet snapshot => .ruleSet snapshot.resourceId

def version : RefreshedResourceSnapshot → ResourceVersion
  | .hosts snapshot => snapshot.version
  | .ruleSet snapshot => snapshot.version

/-- The entry that a publication is meant to leave. -/
def entry : RefreshedResourceSnapshot → ResourceEntry
  | .hosts snapshot => ⟨some (.inl snapshot.compiled), some snapshot.contentHash,
      some snapshot.version⟩
  | .ruleSet snapshot => ⟨some (.inr snapshot.compiled), some snapshot.contentHash,
      some snapshot.version⟩

end RefreshedResourceSnapshot

theorem publish_entry {state next : PolicyState} {snapshot : RefreshedResourceSnapshot}
    (published : state.publish snapshot = .ok next) :
    (∃ current, (state.entry snapshot.key).version = some current ∧ current < snapshot.version) ∧
    next.entry = update state.entry snapshot.key snapshot.entry := by
  cases snapshot with
  | hosts snapshot =>
    obtain ⟨current, found, newer, -, rfl⟩ := publishHostsResource_eq_ok.mp published
    refine ⟨⟨current, found, newer⟩, funext fun key => ?_⟩
    cases key with
    | hosts id =>
      simp only [PolicyState.entry, lookup_insert_eq_ite, update_apply,
        key, ResourceKey.hosts.injEq]
      split_ifs <;> rfl
    | ruleSet id => rfl
  | ruleSet snapshot =>
    obtain ⟨current, found, newer, -, rfl⟩ := publishRuleSetResource_eq_ok.mp published
    refine ⟨⟨current, found, newer⟩, funext fun key => ?_⟩
    cases key with
    | hosts id => rfl
    | ruleSet id =>
      simp only [PolicyState.entry, lookup_insert_eq_ite, update_apply,
        key, ResourceKey.ruleSet.injEq]
      split_ifs <;> rfl

@[simp]
theorem version_entry (snapshot : RefreshedResourceSnapshot) :
    snapshot.entry.version = some snapshot.version := by
  cases snapshot <;> rfl

theorem versions_increase {snapshots : List RefreshedResourceSnapshot} {state final : PolicyState}
    (carried : snapshots.foldlM publish state = .ok final) (key : ResourceKey) :
    (∀ current, (state.entry key).version = some current →
      ∀ snapshot ∈ snapshots.filter (·.key = key), current < snapshot.version) ∧
    (snapshots.filter (·.key = key)).Pairwise fun earlier later =>
      earlier.version < later.version := by
  induction snapshots generalizing state with
  | nil => simp
  | cons snapshot snapshots induction =>
    rw [foldlM_cons] at carried
    cases published : state.publish snapshot with
    | error reason => simp [published, Bind.bind, Except.bind] at carried
    | ok next =>
      simp only [published, Bind.bind, Except.bind] at carried
      obtain ⟨above, increasing⟩ := induction carried
      obtain ⟨⟨previous, found, raised⟩, replaced⟩ := publish_entry published
      by_cases own : snapshot.key = key
      · subst own
        rw [filter_cons_of_pos (by simp)]
        have later_above := above snapshot.version (by simp [replaced])
        refine ⟨fun current current_eq => ?_, .cons later_above increasing⟩
        have same : current = previous := Option.some.inj (current_eq.symm.trans found)
        subst same
        exact forall_mem_cons.mpr
          ⟨raised, fun later mem => raised.trans (later_above later mem)⟩
      · rw [filter_cons_of_neg (by simpa using own)]
        rw [replaced, update_of_ne (Ne.symm own)] at above
        exact ⟨above, increasing⟩

/-- A step of concurrent publications. -/
abbrev PublicationTransition := Transition (World PolicyState RefreshedResourceSnapshot)
  (Action RefreshedResourceSnapshot)
  (Report RefreshedResourceSnapshot PolicyResourcePublishError)

/-- What one step of concurrent publications may do to the state of the policy. -/
def PublicationTransition.Sound (transition : PublicationTransition) : Prop :=
  let before := transition.before.cell.value
  let after := transition.after.cell.value
  match transition.output with
  | .accepted snapshot =>
    (∃ current, (before.entry snapshot.key).version = some current ∧
      current < snapshot.version) ∧
    after.entry = update before.entry snapshot.key snapshot.entry
  | .pending | .refused _ _ => after = before

/-- In every interleaving of publications the state of the policy only changes by accepted ones;
each raises the version of its resource and replaces its index, hash and version, and no other
resource.  The state shows of each resource the last accepted publication, whatever was published of
other resources, and the accepted versions of a resource strictly increase. -/
theorem concurrent_publications (state : PolicyState)
    (actions : List (Action RefreshedResourceSnapshot)) :
    let steps := transitions (step publish) (.start state) actions
    (∀ transition ∈ steps, PublicationTransition.Sound transition) ∧
    ∀ final, run (step publish) (.start state) actions = some final →
      final.cell.value.entry = latest key entry
        state.entry (accepted steps) ∧
      ∀ key, ((accepted steps).filter (·.key = key)).Pairwise fun earlier later =>
        earlier.version < later.version := by
  refine ⟨fun transition member => ?_, fun final reached => ?_⟩
  · have atomic := atomic_of_mem_transitions member
    unfold PublicationTransition.Sound
    split
    · next snapshot reported =>
      rw [reported] at atomic
      exact publish_entry atomic
    · next reported =>
      rw [reported] at atomic
      exact atomic
    · next snapshot reason reported =>
      rw [reported] at atomic
      exact atomic.2
  · have carried := foldlM_accepted reached
    have sets (before : PolicyState) (snapshot : RefreshedResourceSnapshot) (after : PolicyState)
        (published : before.publish snapshot = .ok after) :
        after.entry = update before.entry snapshot.key snapshot.entry :=
      (publish_entry published).2
    exact ⟨entry_eq_latest sets carried, fun key => (versions_increase carried key).2⟩

namespace PublicationSample

def hosts : ConfigId := ⟨"hosts", by decide, by decide, by decide⟩
def rules : ConfigId := ⟨"rules", by decide, by decide, by decide⟩

def state : PolicyState where
  index := {
    routes := ⟨∅, ∅⟩
    clients := .empty
    clientConfigs := ∅
    upstreamEcs := ∅
    globalCache := ⟨false, ⟨false, 0, 0, 0⟩⟩
    hosts := singleton hosts ⟨∅, ∅⟩
    ruleSets := singleton rules ⟨⟨[], [], [], []⟩, ∅⟩ }
  hostVersions := singleton hosts ⟨1, 1⟩
  ruleSetVersions := singleton rules ⟨1, 1⟩
  hostContentHashes := singleton hosts "first"
  ruleSetContentHashes := singleton rules "first"

/-- Both calls load the same state, and the second exchange has to be tried again. -/
def actions : List (Action RefreshedResourceSnapshot) :=
  [.call 0 (.hosts ⟨hosts, ⟨2, 0⟩, "second", ⟨∅, ∅⟩⟩),
    .call 1 (.ruleSet ⟨rules, ⟨2, 0⟩, "second", ⟨⟨[], [], [], []⟩, ∅⟩⟩),
    .load 0, .load 1, .exchange 0, .exchange 1, .load 1, .exchange 1]

end PublicationSample

open PublicationSample

theorem concurrent_publications_retried :
    ∃ final, run (step publish) (.start state)
        actions = some final ∧
      (final.cell.value.entry (.hosts hosts)).version = some ⟨2, 0⟩ ∧
      (final.cell.value.entry (.ruleSet rules)).version = some ⟨2, 0⟩ := by
  obtain ⟨final, reached⟩ : ∃ final, run (step publish)
      (.start state) actions = some final := ⟨_, rfl⟩
  have shown := ((concurrent_publications state actions).2 final reached).1
  exact ⟨final, reached, by rw [shown]; rfl, by rw [shown]; rfl⟩

end FluxDns.Policy
