import FluxDns.Config.Model

/-!
# Reference validation

Every reference of a configuration document has to name an entity of the right kind.  A reference
to a rule set may add a selector, which the resource has to offer when it is used.
-/

namespace FluxDns.Config

open List

/-- `str::split_once` on characters. -/
def splitOnce (separator : Char) : List Char → Option (List Char × List Char)
  | [] => none
  | char :: rest =>
    if char = separator then some ([], rest)
    else (splitOnce separator rest).map fun (before, after) => (char :: before, after)

theorem splitOnce_eq_none {separator : Char} {text : List Char} (absent : separator ∉ text) :
    splitOnce separator text = none := by
  induction text with
  | nil => rfl
  | cons char rest ih =>
    rw [mem_cons, not_or] at absent
    rw [splitOnce, if_neg (Ne.symm absent.1), ih absent.2]
    rfl

/-- The name and the selector of a rule set reference. -/
def splitReference (value : String) : String × Option String :=
  match splitOnce ':' value.toList with
  | none => (value, none)
  | some (name, selector) => (String.ofList name, some (String.ofList selector))

def maxRuleSetSelectorBytes : Nat := 128

/-- Visible ASCII characters other than the separators of a reference. -/
def isSelectorChar (char : Char) : Bool :=
  decide ('!' ≤ char) && decide (char ≤ '~') && char != ':' && char != '@'

def normalizeRuleSetSelector (value : String) (maxBytes : Nat) : Option String :=
  if value.utf8ByteSize = 0 ∨ maxBytes < value.utf8ByteSize then none
  else if value.toList.all isSelectorChar then some (String.ofList (value.toList.map Char.toLower))
  else none

/-- The names of the entities that references lead to. -/
structure EntityNames where
  strategies : List String
  upstreams : List String
  hosts : List String
  ruleSets : List String
  outbounds : List String

variable (names : EntityNames)

def EntityNames.all : List String :=
  names.strategies ++ names.upstreams ++ names.hosts ++ names.ruleSets ++ names.outbounds

def ConfigV2.entityNames {Sections : Type} (config : ConfigV2 Sections) : EntityNames where
  strategies := config.strategy.map (·.name)
  upstreams := config.upstreams.map (·.name)
  hosts := config.hosts.map (·.name)
  ruleSets := config.ruleSet.map (·.name)
  outbounds := config.outbound.map (·.name)

/-- One reference: an entity of another kind is told apart from one that does not exist. -/
def checkReference (target : List String) (expected path value : String) :
    List ConfigError :=
  if value ∈ target then []
  else
    [⟨if value ∈ names.all then .wrongReferenceKind else .missingReference, path,
      s!"reference must point to {expected}"⟩]

def checkStrategy : String → String → List ConfigError :=
  checkReference names names.strategies "strategy"

def checkUpstream : String → String → List ConfigError :=
  checkReference names names.upstreams "upstream"

def checkHosts : String → String → List ConfigError :=
  checkReference names names.hosts "hosts"

def checkOutbound : String → String → List ConfigError :=
  checkReference names names.outbounds "outbound"

def checkRuleSetSelector (path value : String) : List ConfigError :=
  if value ∈ names.ruleSets then []
  else
    match splitOnce ':' value.toList with
    | some (base, selector) =>
      (if String.ofList base ∈ names.ruleSets then []
        else [⟨.missingReference, s!"{path}.rule_set", "rule_set selector base does not exist"⟩]) ++
      (if (normalizeRuleSetSelector (String.ofList selector) maxRuleSetSelectorBytes).isSome then []
        else
          [⟨.invalidValue, s!"{path}.rule_set",
            "rule_set selector must be non-empty printable ASCII without ':' or '@'"⟩])
    | none => [⟨.missingReference, s!"{path}.rule_set", "rule_set reference does not exist"⟩]

def checkOptional (check : String → List ConfigError) : Option String → List ConfigError
  | some value => check value
  | none => []

variable (path : String)

def validateListener : ListenerDto → List ConfigError
  | .udp _ _ _ strategy hosts | .tcp _ _ _ strategy hosts =>
    checkStrategy names s!"{path}.strategy" strategy ++
      checkOptional (checkHosts names s!"{path}.hosts") hosts
  | .doh _ routes _ =>
    routes.zipIdx.flatMap fun (route, index) =>
      checkStrategy names s!"{path}.routes[{index}].strategy" route.strategy

def validateMembers (members : List UpstreamMemberDto) : List ConfigError :=
  members.zipIdx.flatMap fun (member, index) =>
    checkUpstream names s!"{path}[{index}].name" member.name

def validateUpstream : UpstreamDto → List ConfigError
  | .doh _ _ bootstrap _ proxy _ =>
    checkOptional (checkUpstream names s!"{path}.bootstrap") bootstrap ++
      checkOptional (checkOutbound names s!"{path}.proxy") proxy
  | .group _ upstreams _ _ fallbacks _ _ =>
    validateMembers names s!"{path}.upstreams" upstreams ++
      validateMembers names s!"{path}.fallbacks" (fallbacks.getD [])
  | .hosts .. => []

def validateRule (rule : StrategyRuleDto) : List ConfigError :=
  checkOptional (checkHosts names s!"{path}.hosts") rule.hosts ++
    checkOptional (checkRuleSetSelector names path) rule.ruleSet ++
    checkOptional (checkUpstream names s!"{path}.upstream") rule.upstream

def validateStrategy (strategy : StrategyDto) : List ConfigError :=
  checkUpstream names s!"{path}.default_upstream" strategy.defaultUpstream ++
    strategy.rules.zipIdx.flatMap fun (rule, index) =>
      validateRule names s!"{path}.rules[{index}]" rule

def validateRuleSet : RuleSetDto → List ConfigError
  | .remote _ _ _ proxy _ _ => checkOptional (checkOutbound names s!"{path}.proxy") proxy
  | .const .. | .file .. => []

def ConfigV2.validateReferences {Sections : Type} (config : ConfigV2 Sections) : List ConfigError :=
  let names := config.entityNames
  (config.listener.zipIdx.flatMap fun (listener, index) =>
      validateListener names s!"listener[{index}]" listener) ++
    (config.upstreams.zipIdx.flatMap fun (upstream, index) =>
      validateUpstream names s!"upstreams[{index}]" upstream) ++
    (config.strategy.zipIdx.flatMap fun (strategy, index) =>
      validateStrategy names s!"strategy[{index}]" strategy) ++
    config.ruleSet.zipIdx.flatMap fun (ruleSet, index) =>
      validateRuleSet names s!"rule_set[{index}]" ruleSet

theorem ruleSet_of_checkRuleSetSelector {names : EntityNames} {path value : String}
    (passed : checkRuleSetSelector names path value = []) :
    value ∈ names.ruleSets ∨ (splitReference value).1 ∈ names.ruleSets := by
  by_cases named : value ∈ names.ruleSets
  · exact .inl named
  · right
    rw [checkRuleSetSelector, if_neg named] at passed
    rw [splitReference]
    split at passed
    · next base selector split =>
      rw [split]
      by_cases base_named : String.ofList base ∈ names.ruleSets
      · exact base_named
      · simp [base_named] at passed
    · simp at passed

theorem ConfigV2.checkRuleSetSelector_of_validateReferences {Sections : Type}
    {config : ConfigV2 Sections} (valid : config.validateReferences = []) {strategy : StrategyDto}
    (strategy_mem : strategy ∈ config.strategy) {rule : StrategyRuleDto}
    (rule_mem : rule ∈ strategy.rules) {value : String} (referenced : rule.ruleSet = some value) :
    ∃ path, checkRuleSetSelector config.entityNames path value = [] := by
  obtain ⟨index, strategy_at⟩ := mem_iff_getElem?.mp strategy_mem
  obtain ⟨position, rule_at⟩ := mem_iff_getElem?.mp rule_mem
  have strategy_valid : ∃ path, validateStrategy config.entityNames path strategy = [] := by
    simp only [ConfigV2.validateReferences, append_eq_nil_iff, flatMap_eq_nil_iff] at valid
    exact ⟨_, valid.1.2 (strategy, index) (mk_mem_zipIdx_iff_getElem?.mpr strategy_at)⟩
  obtain ⟨strategyPath, strategy_valid⟩ := strategy_valid
  simp only [validateStrategy, append_eq_nil_iff, flatMap_eq_nil_iff] at strategy_valid
  have rule_valid := strategy_valid.2 (rule, position) (mk_mem_zipIdx_iff_getElem?.mpr rule_at)
  simp only [validateRule, append_eq_nil_iff, referenced, checkOptional] at rule_valid
  exact ⟨_, rule_valid.1.2⟩

end FluxDns.Config
