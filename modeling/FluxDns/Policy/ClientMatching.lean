import FluxDns.Library.ByteReader
import FluxDns.Policy.Routes

/-!
# Matching of clients

A client is found by its identifier or by the longest configured prefix of its address.  Networks
are kept without host bits, so that only one prefix of a length contains an address, and an IPv6
address that is an IPv4 address counts as the latter.
-/

namespace FluxDns.Config

/-- The address is a network of its own. -/
def IpNet.ofAddr : IpAddr → IpNet
  | .v4 addr => .v4 addr (Fin.last 32)
  | .v6 addr => .v6 addr (Fin.last 128)

/-- `trunc`: the host bits are cleared. -/
def IpNet.trunc : IpNet → IpNet
  | .v4 addr len => .v4 (addr >>> (32 - len.val) <<< (32 - len.val)) len
  | .v6 addr len => .v6 (addr >>> (128 - len.val) <<< (128 - len.val)) len

/-- `parse_client_ip`, with the parsers of networks and addresses. -/
def parseClientIp (readNet : String → Option IpNet) (readIp : String → Option IpAddr)
    (value : String) : Except String IpNet :=
  match readNet value <|> (readIp value).map .ofAddr with
  | none => .error "invalid IP or CIDR"
  | some (.v4 addr len) => .ok (IpNet.trunc (.v4 addr len))
  | some (.v6 addr len) =>
    match toIpv4Mapped addr with
    | none => .ok (IpNet.trunc (.v6 addr len))
    | some ip =>
      if len.val < 96 then .error "IPv4-mapped CIDR prefix must be at least 96"
      else .ok (IpNet.trunc (.v4 ip ⟨len.val - 96, by omega⟩))

theorem IpNet.trunc_trunc (network : IpNet) : network.trunc.trunc = network.trunc := by
  have again {width : Nat} (bits : BitVec width) (count : Nat) :
      bits >>> count <<< count >>> count <<< count = bits >>> count <<< count := by
    ext index
    grind
  cases network <;> simp only [trunc, again]

theorem trunc_of_parseClientIp {readNet : String → Option IpNet} {readIp : String → Option IpAddr}
    {value : String} {network : IpNet} (parsed : parseClientIp readNet readIp value = .ok network) :
    network.trunc = network := by
  unfold parseClientIp at parsed
  repeat' split at parsed
  all_goals cases parsed
  all_goals exact IpNet.trunc_trunc _

/-- Only one network of a length contains an address. -/
theorem IpNet.eq_of_contains {left right : IpNet} {addr : IpAddr} (left_trunc : left.trunc = left)
    (right_trunc : right.trunc = right) (same : left.prefixLen = right.prefixLen)
    (left_contains : left.contains addr = true) (right_contains : right.contains addr = true) :
    left = right := by
  cases left <;> cases right <;> cases addr <;>
    simp only [contains, Bool.false_eq_true, beq_iff_eq] at left_contains right_contains
  all_goals
    obtain rfl := Fin.ext same
    rw [← left_trunc, trunc, left_contains, ← right_contains, ← trunc, right_trunc]

end FluxDns.Config

namespace FluxDns.Policy

open Config ClientIndex List Option ByteReader

variable {rules others : List ClientRule} {index : ClientIndex} {addr : IpAddr}
  {client : ClientRule}

variable (rules)

/-- No other configured network that contains the address has a longer prefix. -/
def IsLongest (addr : IpAddr) (network : IpNet) (client : ClientRule) : Prop :=
  client ∈ rules ∧ network ∈ client.ips ∧ network.contains addr = true ∧
    ∀ other ∈ rules, ∀ range ∈ other.ips, range.contains addr = true →
      range.prefixLen ≤ network.prefixLen

/-- The identifiers and networks of the rules have been taken, each network once. -/
structure Gathered (index : ClientIndex) : Prop where
  names : ∀ name, name ∈ index.names ↔ ∃ rule ∈ rules, rule.name = name
  exactIds : ∀ id rule, index.exactIds.lookup id = some rule ↔ rule ∈ rules ∧ id ∈ rule.clientIds
  cidrs : ∀ network rule, (network, rule) ∈ index.cidrs ↔ rule ∈ rules ∧ network ∈ rule.ips
  distinct : (index.cidrs.map Prod.fst).Nodup

/-- What the index holds of the rules: each network once, from the longest prefix on. -/
structure Indexed (index : ClientIndex) : Prop
    extends Gathered rules index where
  sorted : index.cidrs.Pairwise fun left right => right.1.prefixLen ≤ left.1.prefixLen

variable {rules}

theorem insertCidrs_ok {rule : ClientRule} {cidrs filled : List (IpNet × ClientRule)}
    {networks : List IpNet} (inserted : insertCidrs rule cidrs networks = .ok filled)
    (distinct : (cidrs.map Prod.fst).Nodup) :
    filled = cidrs ++ networks.map (·, rule) ∧ (filled.map Prod.fst).Nodup := by
  induction networks generalizing cidrs with
  | nil =>
    cases inserted
    simp [distinct]
  | cons network networks induction =>
    rw [insertCidrs] at inserted
    split_ifs at inserted with known
    have fresh : network ∉ cidrs.map Prod.fst := by simpa using known
    obtain ⟨rfl, distinct⟩ := induction inserted (by simpa using distinct.concat fresh)
    exact ⟨by simp, distinct⟩

theorem Gathered.insertRule {next : ClientIndex} {rule : ClientRule}
    (gathered : Gathered rules index) (inserted : index.insertRule rule = .ok next) :
    Gathered (rules ++ [rule]) next := by
  unfold ClientIndex.insertRule at inserted
  split_ifs at inserted <;> try cases inserted
  simp only [bind_eq_ok] at inserted
  obtain ⟨exactIds, ids_eq, cidrs, cidrs_eq, ⟨⟩⟩ := inserted
  obtain ⟨rfl, distinct⟩ := insertCidrs_ok cidrs_eq gathered.distinct
  refine ⟨fun name => ?_, fun id client => ?_, fun network client => ?_, distinct⟩
  · simp [gathered.names]
    grind
  · rw [Traversal.lookup_insertUnique ids_eq, gathered.exactIds]
    grind
  · simp [gathered.cidrs]
    grind

theorem Gathered.foldlM {final : ClientIndex} (gathered : Gathered others index)
    (inserted : rules.foldlM ClientIndex.insertRule index = .ok final) :
    Gathered (others ++ rules) final := by
  induction rules generalizing index others with
  | nil =>
    cases inserted
    simpa using gathered
  | cons rule rules induction =>
    obtain ⟨next, taken, inserted⟩ := bind_eq_ok.mp inserted
    simpa using induction (gathered.insertRule taken) inserted

theorem gathered_empty : Gathered [] .empty :=
  ⟨by simp [empty], by simp [empty], by simp [empty], .nil⟩

/-- The rule names a client, and names it once. -/
structure WellFormed (rule : ClientRule) : Prop where
  nonempty : ¬ (rule.clientIds = [] ∧ rule.ips = [])
  clientIds : rule.clientIds.Nodup
  ips : rule.ips.Nodup

/-- The rules have no name, identifier or network in common. -/
structure Apart (left right : ClientRule) : Prop where
  name : left.name ≠ right.name
  clientIds : left.clientIds.Disjoint right.clientIds
  ips : left.ips.Disjoint right.ips

theorem insertCidrs_isOk_iff {rule : ClientRule} {cidrs : List (IpNet × ClientRule)}
    {networks : List IpNet} : (∃ filled, insertCidrs rule cidrs networks = .ok filled) ↔
      networks.Nodup ∧ ∀ network ∈ networks, network ∉ cidrs.map Prod.fst := by
  induction networks generalizing cidrs with
  | nil => simp [insertCidrs]
  | cons network networks induction =>
    have known_iff : (cidrs.any (·.1 == network)) = true ↔ network ∈ cidrs.map Prod.fst := by simp
    rw [insertCidrs, nodup_cons, forall_mem_cons]
    by_cases known : network ∈ cidrs.map Prod.fst
    · rw [if_pos (known_iff.mpr known)]
      exact iff_of_false nofun fun fresh => fresh.2.1 known
    · rw [if_neg (mt known_iff.mp known), induction]
      grind

theorem Gathered.insertRule_isOk_iff {rule : ClientRule} (gathered : Gathered rules index) :
    (∃ next, index.insertRule rule = .ok next) ↔
      WellFormed rule ∧ ∀ other ∈ rules, Apart other rule := by
  have ids_iff (id : String) : id ∈ index.exactIds ↔ ∃ other ∈ rules, id ∈ other.clientIds := by
    simp [← AList.lookup_isSome, isSome_iff_exists, gathered.exactIds]
  have ips_iff (network : IpNet) :
      network ∈ index.cidrs.map Prod.fst ↔ ∃ other ∈ rules, network ∈ other.ips := by
    simp [gathered.cidrs]
  have checks : (∃ next, index.insertRule rule = .ok next) ↔
      ¬ (rule.clientIds = [] ∧ rule.ips = []) ∧ rule.name ∉ index.names ∧
        (∃ exactIds, insertIds rule index.exactIds = .ok exactIds) ∧
        ∃ cidrs, insertCidrs rule index.cidrs rule.ips = .ok cidrs := by
    unfold ClientIndex.insertRule
    by_cases empty : rule.clientIds = [] ∧ rule.ips = []
    · rw [if_pos empty]
      exact iff_of_false nofun fun fresh => fresh.1 empty
    by_cases known : rule.name ∈ index.names
    · rw [if_neg empty, if_pos known]
      exact iff_of_false nofun fun fresh => fresh.2.1 known
    · rw [if_neg empty, if_neg known, and_iff_right empty, and_iff_right known]
      simp only [bind_eq_ok]
      constructor
      · rintro ⟨_, exactIds, ids_eq, cidrs, cidrs_eq, -⟩
        exact ⟨⟨exactIds, ids_eq⟩, cidrs, cidrs_eq⟩
      · rintro ⟨⟨exactIds, ids_eq⟩, cidrs, cidrs_eq⟩
        exact ⟨_, exactIds, ids_eq, cidrs, cidrs_eq, rfl⟩
  rw [checks, insertIds, Traversal.insertUnique_isOk_iff, insertCidrs_isOk_iff, gathered.names]
  simp only [ids_iff, ips_iff, List.map_id, id]
  constructor
  · rintro ⟨nonempty, name, ⟨ids, new_ids⟩, ips, new_ips⟩
    refine ⟨⟨nonempty, ids, ips⟩, fun other mem => ⟨fun same => name ⟨other, mem, same⟩, ?_, ?_⟩⟩
    · exact fun id known own => new_ids id own ⟨other, mem, known⟩
    · exact fun network known own => new_ips network own ⟨other, mem, known⟩
  · rintro ⟨⟨nonempty, ids, ips⟩, apart⟩
    refine ⟨nonempty, ?_, ⟨ids, ?_⟩, ips, ?_⟩
    · exact fun ⟨other, mem, same⟩ => (apart other mem).name same
    · exact fun id own ⟨other, mem, known⟩ => (apart other mem).clientIds known own
    · exact fun network own ⟨other, mem, known⟩ => (apart other mem).ips known own

theorem Gathered.foldlM_isOk_iff (gathered : Gathered others index) :
    (∃ final, rules.foldlM ClientIndex.insertRule index = .ok final) ↔
      (∀ rule ∈ rules, WellFormed rule) ∧ rules.Pairwise Apart ∧
        ∀ other ∈ others, ∀ rule ∈ rules, Apart other rule := by
  induction rules generalizing index others with
  | nil => simp [pure, Except.pure]
  | cons rule rules induction =>
    simp only [foldlM_cons, bind_eq_ok, forall_mem_cons, pairwise_cons]
    constructor
    · rintro ⟨final, next, taken, inserted⟩
      obtain ⟨own, apart⟩ := gathered.insertRule_isOk_iff.mp ⟨next, taken⟩
      obtain ⟨each, pairs, across⟩ := (induction (gathered.insertRule taken)).mp ⟨final, inserted⟩
      refine ⟨⟨own, each⟩, ⟨across rule (by simp), pairs⟩, fun other mem => ⟨apart other mem, ?_⟩⟩
      exact across other (mem_append_left _ mem)
    · rintro ⟨⟨own, each⟩, ⟨first, pairs⟩, across⟩
      obtain ⟨next, taken⟩ :=
        gathered.insertRule_isOk_iff.mpr ⟨own, fun other mem => (across other mem).1⟩
      obtain ⟨final, inserted⟩ := (induction (gathered.insertRule taken)).mpr
        ⟨each, pairs, by grind⟩
      exact ⟨final, next, taken, inserted⟩

/-- The rules that `build` accepts. -/
theorem build_isOk_iff : (∃ index, build rules = .ok index) ↔
      (∀ rule ∈ rules, WellFormed rule) ∧ rules.Pairwise Apart := by
  have sorts : (∃ index, build rules = .ok index) ↔
      ∃ index, rules.foldlM ClientIndex.insertRule empty = .ok index := by
    simp [build, bind_eq_ok, pure, Except.pure]
  rw [sorts, gathered_empty.foldlM_isOk_iff]
  simp

theorem build_isOk_of_perm (perm : others.Perm rules) (built : ∃ index, build rules = .ok index) :
    ∃ index, build others = .ok index := by
  have pairwise_iff := perm.pairwise_iff fun {left right} (apart : Apart left right) =>
    ⟨apart.name.symm, apart.clientIds.symm, apart.ips.symm⟩
  rw [build_isOk_iff] at built ⊢
  simpa only [perm.mem_iff, pairwise_iff] using built

theorem indexed_of_build (built : build rules = .ok index) : Indexed rules index := by
  obtain ⟨before, inserted, ⟨⟩⟩ := bind_eq_ok.mp built
  obtain ⟨names, exactIds, cidrs, distinct⟩ := gathered_empty.foldlM inserted
  have total : Std.Total fun left right : IpNet × ClientRule =>
      right.1.prefixLen ≤ left.1.prefixLen := ⟨fun _ _ => Nat.le_total _ _⟩
  have trans : IsTrans (IpNet × ClientRule) fun left right =>
      right.1.prefixLen ≤ left.1.prefixLen := ⟨fun _ _ _ first second => second.trans first⟩
  have perm := perm_insertionSort
    (fun left right : IpNet × ClientRule => right.1.prefixLen ≤ left.1.prefixLen) before.cidrs
  exact ⟨⟨names, exactIds, fun _ _ => perm.mem_iff.trans (cidrs _ _),
    (perm.map Prod.fst).nodup_iff.mpr distinct⟩, pairwise_insertionSort _ _⟩

/-- The first network that contains the address is the longest. -/
theorem Indexed.isLongest (indexed : Indexed rules index) {network : IpNet}
    (found : (index.cidrs.find? fun entry => entry.1.contains addr) = some (network, client)) :
    IsLongest rules addr network client := by
  obtain ⟨contained, before, after, cidrs_eq, skipped⟩ := find?_eq_some_iff_append.mp found
  have listed := (indexed.cidrs network client).mp (by simp [cidrs_eq])
  refine ⟨listed.1, listed.2, contained, fun other mem range own inside => ?_⟩
  have entry := (indexed.cidrs range other).mpr ⟨mem, own⟩
  rw [cidrs_eq, mem_append] at entry
  rcases entry with earlier | later
  · simpa [inside] using skipped _ earlier
  · have sorted := indexed.sorted
    rw [cidrs_eq, pairwise_append, pairwise_cons] at sorted
    rcases mem_cons.mp later with same | later
    · cases same
      exact le_rfl
    · exact sorted.2.1.1 _ later

variable (truncated : ∀ rule ∈ rules, ∀ network ∈ rule.ips, network.trunc = network)

include truncated

theorem Indexed.eq_of_isLongest (indexed : Indexed rules index) {left right : IpNet}
    {other : ClientRule} (longest : IsLongest rules addr left client)
    (also : IsLongest rules addr right other) : left = right ∧ client = other := by
  obtain ⟨client_mem, left_mem, left_contains, left_most⟩ := longest
  obtain ⟨other_mem, right_mem, right_contains, right_most⟩ := also
  obtain rfl := IpNet.eq_of_contains (truncated _ client_mem _ left_mem)
    (truncated _ other_mem _ right_mem)
    (le_antisymm (right_most _ client_mem _ left_mem left_contains)
      (left_most _ other_mem _ right_mem right_contains)) left_contains right_contains
  exact ⟨rfl, congrArg Prod.snd (inj_on_of_nodup_map indexed.distinct
    ((indexed.cidrs _ _).mpr ⟨client_mem, left_mem⟩)
    ((indexed.cidrs _ _).mpr ⟨other_mem, right_mem⟩) rfl)⟩

theorem Indexed.find?_eq_some_iff (indexed : Indexed rules index) {network : IpNet} :
    (index.cidrs.find? fun entry => entry.1.contains addr) = some (network, client) ↔
      IsLongest rules addr network client := by
  refine ⟨indexed.isLongest, fun longest => ?_⟩
  cases found : index.cidrs.find? fun entry => entry.1.contains addr with
  | none =>
    have listed := (indexed.cidrs network client).mpr ⟨longest.1, longest.2.1⟩
    exact absurd longest.2.2.1 (find?_eq_none.mp found _ listed)
  | some entry =>
    obtain ⟨rfl, rfl⟩ := indexed.eq_of_isLongest truncated longest (indexed.isLongest found)
    rfl

theorem Indexed.matchClient_eq (indexed : Indexed rules index) {other : ClientIndex}
    (reindexed : Indexed rules other) : other.matchClient = index.matchClient := by
  have ids : other.exactIds.lookup = index.exactIds.lookup := by
    ext id client
    rw [reindexed.exactIds, indexed.exactIds]
  have networks (addr : IpAddr) : (other.cidrs.find? fun entry => entry.1.contains addr) =
      index.cidrs.find? fun entry => entry.1.contains addr := by
    ext ⟨network, client⟩
    rw [reindexed.find?_eq_some_iff truncated, indexed.find?_eq_some_iff truncated]
  funext clientId addr
  simp only [matchClient, ids, networks]

omit truncated

/-- A client is found by its identifier, else by the longest prefix of its address, of which there
is one at most; the order of the rules does not matter. -/
theorem matchClient_longest {readNet : String → Option IpNet} {readIp : String → Option IpAddr}
    (parsed : ∀ rule ∈ rules, ∀ network ∈ rule.ips,
      ∃ value, parseClientIp readNet readIp value = .ok network)
    (built : build rules = .ok index) :
    (∀ id client addr, client ∈ rules → id ∈ client.clientIds →
      index.matchClient (some id) addr = .matched client .exactId) ∧
    (∀ clientId, (∀ id ∈ clientId, ∀ client ∈ rules, id ∉ client.clientIds) →
      index.matchClient clientId none = .unknown ∧
      ∀ addr, (∃ network client, IsLongest rules (normalizeClientAddr addr) network client ∧
          index.matchClient clientId (some addr) = .matched client (.cidr network.prefixLen)) ∨
        (∀ client ∈ rules, ∀ network ∈ client.ips,
          network.contains (normalizeClientAddr addr) = false) ∧
          index.matchClient clientId (some addr) = .unknown) ∧
    (∀ addr network client range other, IsLongest rules addr network client →
      IsLongest rules addr range other → network = range ∧ client = other) ∧
    ∀ others, others.Perm rules → ∃ other, build others = .ok other ∧
      other.matchClient = index.matchClient := by
  have indexed := indexed_of_build built
  have truncated (rule : ClientRule) (mem : rule ∈ rules) (network : IpNet)
      (own : network ∈ rule.ips) : network.trunc = network := by
    obtain ⟨value, read⟩ := parsed rule mem network own
    exact trunc_of_parseClientIp read
  refine ⟨fun id client addr mem own => ?_, fun clientId unnamed => ?_,
    fun _ _ _ _ _ longest also => indexed.eq_of_isLongest truncated longest also,
    fun others perm => ?_⟩
  · rw [matchClient, bind_some, (indexed.exactIds id client).mpr ⟨mem, own⟩]
  · have absent : clientId.bind index.exactIds.lookup = none := by
      rw [bind_eq_none_iff]
      refine fun id given => eq_none_iff_forall_ne_some.mpr fun client found => ?_
      exact unnamed id given client ((indexed.exactIds _ _).mp found).1
        ((indexed.exactIds _ _).mp found).2
    simp only [matchClient, absent, map_none, map_some, true_and]
    intro addr
    split
    · next network client found => exact .inl ⟨network, client, indexed.isLongest found, rfl⟩
    · next none_found =>
      refine .inr ⟨fun client mem network own => ?_, rfl⟩
      simpa using find?_eq_none.mp none_found _ ((indexed.cidrs _ _).mpr ⟨mem, own⟩)
  · obtain ⟨other, rebuilt⟩ := build_isOk_of_perm perm ⟨index, built⟩
    obtain ⟨⟨names, exactIds, cidrs, distinct⟩, sorted⟩ := indexed_of_build rebuilt
    simp only [perm.mem_iff] at names exactIds cidrs
    exact ⟨other, rebuilt,
      indexed.matchClient_eq truncated ⟨⟨names, exactIds, cidrs, distinct⟩, sorted⟩⟩

namespace NestedNetworks

/-- The network 10.0.0.0/8. -/
def wide : IpNet := .v4 0x0a000000#32 ⟨8, by decide⟩

/-- The network 10.1.0.0/16, a part of the other one. -/
def narrow : IpNet := .v4 0x0a010000#32 ⟨16, by decide⟩

def office : ClientRule := ⟨⟨"office", by decide, by decide, by decide⟩, ["laptop"], [wide]⟩

def lab : ClientRule := ⟨⟨"lab", by decide, by decide, by decide⟩, [], [narrow]⟩

def readNet (value : String) : Option IpNet :=
  if value = "10.0.0.0/8" then some wide
  else if value = "10.1.0.0/16" then some narrow
  else none

theorem parsed : ∀ rule ∈ [office, lab], ∀ network ∈ rule.ips, ∃ value,
    parseClientIp readNet (fun _ => none) value = .ok network := by
  simp only [forall_mem_cons, office, lab]
  exact ⟨⟨⟨"10.0.0.0/8", by decide⟩, by simp⟩, ⟨⟨"10.1.0.0/16", by decide⟩, by simp⟩, by simp⟩

end NestedNetworks

open NestedNetworks

/-- In both orders of the rules the identifier decides first, 10.1.2.3 belongs to the narrower of
two networks, and 10.2.0.1 to the wider one. -/
theorem matchClient_longest_nested : ∃ index other,
    build [office, lab] = .ok index ∧ build [lab, office] = .ok other ∧
    ∀ built ∈ [index, other],
      built.matchClient (some "laptop") (some (.v4 0x0a010203#32)) = .matched office .exactId ∧
      built.matchClient none (some (.v4 0x0a010203#32)) = .matched lab (.cidr 16) ∧
      built.matchClient none (some (.v4 0x0a020001#32)) = .matched office (.cidr 8) := by
  have built : ∃ index, build [office, lab] = .ok index := ⟨_, rfl⟩
  obtain ⟨index, built⟩ := built
  obtain ⟨byId, byAddr, unique, reordered⟩ := matchClient_longest parsed built
  obtain ⟨other, rebuilt, same⟩ := reordered [lab, office] (.swap ..)
  have found (addr : IpAddr) {network : IpNet} {client : ClientRule}
      (longest : IsLongest [office, lab] (normalizeClientAddr addr) network client) :
      index.matchClient none (some addr) = .matched client (.cidr network.prefixLen) := by
    rcases (byAddr none (by simp)).2 addr with ⟨range, rule, also, matched⟩ | ⟨outside, -⟩
    · obtain ⟨rfl, rfl⟩ := unique _ _ _ _ _ longest also
      exact matched
    · exact absurd longest.2.2.1 (by simp [outside client longest.1 network longest.2.1])
  refine ⟨index, other, built, rebuilt, ?_⟩
  simp only [forall_mem_cons, same, not_mem_nil, false_implies, implies_true, and_true, and_self]
  have narrowest : IsLongest [office, lab] (.v4 0x0a010203#32) narrow lab :=
    ⟨by simp, by decide, by decide, by simp [office, lab]; decide⟩
  have only : IsLongest [office, lab] (.v4 0x0a020001#32) wide office :=
    ⟨by simp, by decide, by decide, by simp [office, lab]; decide⟩
  exact ⟨byId _ office _ (by simp) (by decide), found (.v4 _) narrowest,
    found (.v4 _) only⟩

/-- All IPv6 addresses. -/
def anyIpv6 : IpNet := .v6 0#128 ⟨0, by decide⟩

def ipv6Client : ClientRule := ⟨⟨"ipv6", by decide, by decide, by decide⟩, [], [anyIpv6]⟩

def readAnyIpv6 (value : String) : Option IpNet := if value = "::/0" then some anyIpv6 else none

/-- The network of all IPv6 addresses does not match one that is an IPv4 address. -/
theorem mapped_address_unmatched : ∃ index, build [ipv6Client] = .ok index ∧
      parseClientIp readAnyIpv6 (fun _ => none) "::/0" = .ok anyIpv6 ∧
      IsLongest [ipv6Client] (.v6 0xffff01020304#128) anyIpv6 ipv6Client ∧
      index.matchClient none (some (.v6 0xffff01020304#128)) = .unknown := by
  refine ⟨_, rfl, by decide, ⟨by simp, by decide, by decide, ?_⟩, rfl⟩
  simp [ipv6Client]

end FluxDns.Policy
