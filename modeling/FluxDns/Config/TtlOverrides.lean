import FluxDns.Config.Accepted
import FluxDns.Config.Resolved

/-!
# Bounds of TTL overrides

A strategy or a client inherits the bounds that it does not set.  Validation compares the bounds of
each level by itself, so merged bounds are in order exactly when no level contradicts the bound that
it inherits.  All TTLs are moved between them when, besides, every minimum is a TTL itself:
`clamp_ttl` rounds the bounds down to seconds.
-/

namespace FluxDns.Config

variable (low high : Option Duration)

/-- A minimum is at most the maximum; a zero bound is none. -/
def BoundsConsistent : Prop :=
  ∀ lower ∈ low, ∀ upper ∈ high, lower ≠ 0 → upper ≠ 0 → lower ≤ upper

theorem boundsConsistent_none_left (high : Option Duration) : BoundsConsistent none high := nofun

theorem boundsConsistent_none_right (low : Option Duration) : BoundsConsistent low none :=
  fun _ _ _ absent => nomatch absent

theorem validateTtl_eq_nil_iff {ttl : TtlOverrideDto} {path : String} :
    validateTtl ttl path = [] ↔ BoundsConsistent ttl.min ttl.max := by
  rw [validateTtl]
  split
  · next low high low_eq high_eq =>
    rw [low_eq, high_eq, reportIf_eq_nil, decide_eq_false_iff_not]
    simp only [BoundsConsistent, Option.mem_some_iff, forall_eq']
    constructor
    · intro ordered low_ne high_ne
      by_contra exceeds
      exact ordered ⟨high_ne, low_ne, not_le.mp exceeds⟩
    · rintro ordered ⟨high_ne, low_ne, exceeds⟩
      exact absurd (ordered low_ne high_ne) (not_le.mpr exceeds)
  · next missing =>
    refine iff_of_true rfl fun lower lower_mem upper upper_mem => ?_
    exact (missing lower upper lower_mem upper_mem).elim

/-- An override that sets only one bound does not contradict the other one of its parent. -/
def InheritsConsistently (parent : Option TtlOverrideDto) (own : TtlOverrideDto) : Prop :=
  (own.max = none → BoundsConsistent own.min (parent.bind (·.max))) ∧
    (own.min = none → BoundsConsistent (parent.bind (·.min)) own.max)

theorem boundsConsistent_merged_iff {parent : Option TtlOverrideDto} {own : TtlOverrideDto}
    (own_valid : BoundsConsistent own.min own.max)
    (parent_valid : BoundsConsistent (parent.bind (·.min)) (parent.bind (·.max))) :
    BoundsConsistent (own.min <|> parent.bind (·.min)) (own.max <|> parent.bind (·.max)) ↔
      InheritsConsistently parent own := by
  rw [InheritsConsistently]
  cases low : own.min with
  | none =>
    cases high : own.max with
    | none =>
      exact iff_of_true parent_valid
        ⟨fun _ => boundsConsistent_none_left _, fun _ => boundsConsistent_none_right _⟩
    | some upper => simp
  | some lower =>
    cases high : own.max with
    | none => simp
    | some upper =>
      rw [low, high] at own_valid
      simpa using own_valid

/-- The overrides of all levels after inheritance. -/
def ResolvedConfig.ttlOverrides (config : ResolvedConfig) : List ResolvedTtlOverride :=
  config.dns.ttlOverride ::
    (config.strategies.map (·.ttlOverride) ++ config.clients.map (·.ttlOverride))

/-- The overrides below the global level, as written. -/
def ConfigV2.ownOverrides (config : ConfigV2 SectionsV2) : List TtlOverrideDto :=
  config.strategy.filterMap (·.ttlOverride) ++ config.clients.filterMap (·.ttlOverride)

theorem resolveTtl_bounds (parent : Option TtlOverrideDto) :
    (resolveTtl parent none .global).min = parent.bind (·.min) ∧
      (resolveTtl parent none .global).max = parent.bind (·.max) := by
  cases parent with
  | none => exact ⟨rfl, rfl⟩
  | some parent => simp [resolveTtl]

/-- A TTL can be equal to the bound. -/
def Representable (bound : Option Duration) : Prop :=
  ∀ value ∈ bound, second ∣ value ∧ value < u32Size * second

section Inherited

variable {parent own : Option TtlOverrideDto} {source : ValueSource}

theorem boundsConsistent_resolveTtl_iff
    (own_valid : ∀ ttl ∈ own, BoundsConsistent ttl.min ttl.max)
    (parent_valid : ∀ ttl ∈ parent, BoundsConsistent ttl.min ttl.max) :
    BoundsConsistent (resolveTtl own (some (resolveTtl parent none .global)) source).min
        (resolveTtl own (some (resolveTtl parent none .global)) source).max ↔
      ∀ ttl ∈ own, InheritsConsistently parent ttl := by
  have inherited : BoundsConsistent (parent.bind (·.min)) (parent.bind (·.max)) := by
    cases parent with
    | none => exact boundsConsistent_none_left _
    | some parent => exact parent_valid parent rfl
  obtain ⟨low_eq, high_eq⟩ := resolveTtl_bounds parent
  generalize resolveTtl parent none .global = resolved at low_eq high_eq
  cases own with
  | none =>
    simp only [resolveTtl, Option.getD_some]
    rw [low_eq, high_eq]
    exact iff_of_true inherited nofun
  | some own =>
    simp only [resolveTtl, Option.getD_some, Option.mem_some_iff, forall_eq']
    rw [low_eq, high_eq]
    exact boundsConsistent_merged_iff (own_valid own rfl) inherited

theorem representable_resolveTtl_iff {inherited : ResolvedTtlOverride}
    (whole : Representable inherited.min) :
    Representable (resolveTtl own (some inherited) source).min ↔
      ∀ ttl ∈ own, Representable ttl.min := by
  cases own with
  | none => exact iff_of_true whole nofun
  | some own =>
    simp only [resolveTtl, Option.getD_some, Option.mem_some_iff, forall_eq']
    cases low : own.min with
    | none => exact iff_of_true whole nofun
    | some lower => exact Iff.rfl

end Inherited

/-- The TTL respects the bounds that are set and not zero. -/
def InsideBounds (ttl : UInt32) : Prop :=
  (∀ lower ∈ low, lower ≠ 0 → lower ≤ ttl.toNat * second) ∧
    ∀ upper ∈ high, upper ≠ 0 → ttl.toNat * second ≤ upper

theorem toNat_ttlSeconds_mul_le (duration : Duration) :
    (ttlSeconds duration).toNat * second ≤ duration := by
  rw [toNat_ttlSeconds]
  calc min (duration / second) (u32Size - 1) * second
      ≤ duration / second * second := Nat.mul_le_mul_right _ (Nat.min_le_left _ _)
    _ ≤ duration := Nat.div_mul_le_self _ _

theorem le_toNat_ttlSeconds_mul_iff {duration bound : Duration} :
    bound ≤ (ttlSeconds duration).toNat * second ↔
      bound ≤ duration / second * second ∧ bound ≤ (u32Size - 1) * second := by
  rw [toNat_ttlSeconds]
  rcases Nat.le_total (duration / second) (u32Size - 1) with small | large
  · rw [Nat.min_eq_left small]
    refine ⟨fun below => ⟨below, below.trans (Nat.mul_le_mul_right _ small)⟩, fun both => both.1⟩
  · rw [Nat.min_eq_right large]
    refine ⟨fun below => ⟨below.trans (Nat.mul_le_mul_right _ large), below⟩, fun both => both.2⟩

theorem le_own_ttlSeconds_iff {bound : Nat} :
    bound ≤ (ttlSeconds bound).toNat * second ↔ Representable (some bound) := by
  simp only [le_toNat_ttlSeconds_mul_iff, ← Nat.dvd_iff_le_div_mul, Representable,
    Option.mem_some_iff, forall_eq']
  refine and_congr_right fun divides => ?_
  obtain ⟨seconds, rfl⟩ := divides
  show (1000000000 * seconds : Nat) ≤ (2 ^ 32 - 1) * 1000000000 ↔
    (1000000000 * seconds : Nat) < 2 ^ 32 * 1000000000
  omega

theorem le_ttlSeconds_iff {bound duration : Nat} (whole : Representable (some bound)) :
    bound ≤ (ttlSeconds duration).toNat * second ↔ bound ≤ duration := by
  obtain ⟨⟨seconds, rfl⟩, fits⟩ := whole bound rfl
  rw [le_toNat_ttlSeconds_mul_iff]
  have small : (1000000000 * seconds : Nat) < 2 ^ 32 * 1000000000 := fits
  show (1000000000 * seconds : Nat) ≤ duration / 1000000000 * 1000000000 ∧
    (1000000000 * seconds : Nat) ≤ (2 ^ 32 - 1) * 1000000000 ↔
      (1000000000 * seconds : Nat) ≤ duration
  omega

theorem ttlBoundSeconds_some {bound : Duration} (nonzero : bound ≠ 0) :
    ttlBoundSeconds (some bound) = some (ttlSeconds bound) := by
  simp [ttlBoundSeconds, Option.filter_some, nonzero]

theorem clampSeconds_le (ttl : UInt32) : ∀ upper ∈ high, upper ≠ 0 →
      (clampSeconds (ttlBoundSeconds low) (ttlBoundSeconds high) ttl).toNat * second ≤ upper := by
  rintro upper ⟨⟩ nonzero
  rw [ttlBoundSeconds_some nonzero, clampSeconds, Option.elim_some, toNat_min]
  exact (Nat.mul_le_mul_right _ (Nat.min_le_right _ _)).trans (toNat_ttlSeconds_mul_le upper)

theorem clampSeconds_mono (low high : Option UInt32) (ttl : UInt32) :
    (clampSeconds low high 0).toNat ≤ (clampSeconds low high ttl).toNat := by
  have zero : (0 : UInt32).toNat = 0 := rfl
  cases low <;> cases high <;>
    simp only [clampSeconds, Option.elim_none, Option.elim_some, toNat_min, toNat_max, zero] <;>
    omega

/-- A lower bound is kept when it is representable and the upper bound leaves room for it. -/
theorem le_clampSeconds_zero_iff {lower : Duration} (nonzero : lower ≠ 0) (high : Option Duration) :
    lower ≤ (clampSeconds (ttlBoundSeconds (some lower)) (ttlBoundSeconds high) 0).toNat * second ↔
      BoundsConsistent (some lower) high ∧ Representable (some lower) := by
  have zero : (0 : UInt32).toNat = 0 := rfl
  have raised : (max 0 (ttlSeconds lower)).toNat = (ttlSeconds lower).toNat := by
    rw [toNat_max, zero, Nat.zero_max]
  have unbounded (absent : ttlBoundSeconds high = none)
      (trivial : BoundsConsistent (some lower) high) :
      lower ≤
          (clampSeconds (ttlBoundSeconds (some lower)) (ttlBoundSeconds high) 0).toNat * second ↔
        BoundsConsistent (some lower) high ∧ Representable (some lower) := by
    rw [absent, ttlBoundSeconds_some nonzero, clampSeconds, Option.elim_some, Option.elim_none,
      raised, le_own_ttlSeconds_iff]
    exact (and_iff_right trivial).symm
  cases high with
  | none => exact unbounded rfl (boundsConsistent_none_right _)
  | some upper =>
    by_cases upper_zero : upper = 0
    · subst upper_zero
      refine unbounded rfl ?_
      rintro _ _ _ ⟨⟩ _ impossible
      exact absurd rfl impossible
    · have consistent_iff : BoundsConsistent (some lower) (some upper) ↔ lower ≤ upper := by
        simp [BoundsConsistent, nonzero, upper_zero]
      rw [ttlBoundSeconds_some nonzero, ttlBoundSeconds_some upper_zero, clampSeconds,
        Option.elim_some, Option.elim_some, toNat_min, raised, ← Nat.mul_min_mul_right, le_min_iff,
        le_own_ttlSeconds_iff, consistent_iff, and_comm]
      exact and_congr_left le_ttlSeconds_iff

/-- All TTLs are moved between the bounds when these are in order and the lower one can be met. -/
theorem forall_insideBounds_iff :
    (∀ ttl, InsideBounds low high (clampSeconds (ttlBoundSeconds low) (ttlBoundSeconds high) ttl)) ↔
      BoundsConsistent low high ∧ Representable low := by
  have lower_only (ttl : UInt32) := and_iff_left_of_imp
    (a := ∀ lower ∈ low, lower ≠ 0 →
      lower ≤ (clampSeconds (ttlBoundSeconds low) (ttlBoundSeconds high) ttl).toNat * second)
    fun _ => clampSeconds_le low high ttl
  simp only [InsideBounds, lower_only]
  cases low with
  | none =>
    exact iff_of_true (fun _ _ absent => nomatch absent) ⟨boundsConsistent_none_left _, nofun⟩
  | some lower =>
    by_cases lower_zero : lower = 0
    · subst lower_zero
      refine iff_of_true ?_ ⟨?_, ?_⟩
      · rintro _ _ ⟨⟩ impossible
        exact absurd rfl impossible
      · rintro _ ⟨⟩ _ _ impossible
        exact absurd rfl impossible
      · rintro _ ⟨⟩
        exact ⟨⟨0, rfl⟩, by decide⟩
    · rw [← le_clampSeconds_zero_iff lower_zero high]
      constructor
      · intro inside
        exact inside 0 lower rfl lower_zero
      · rintro least ttl _ ⟨⟩ _
        exact least.trans (Nat.mul_le_mul_right _ (clampSeconds_mono _ _ ttl))

/-- A response with one record. -/
def answerWith (ttl : UInt32) : CanonicalResponse :=
  let query : Query := ⟨⟨[], true⟩, 1, 1⟩
  let message : Message :=
    { Message.ask (Metadata.new .response) query none with
      answers := [⟨⟨[], true⟩, 1, ttl, .other 1 [127, 0, 0, 1]⟩] }
  { message
    responseClass := classifyResponse message
    ttl := extractTtlMetadata message (classifyResponse message)
    question := ⟨.fromQuery query, rfl, rfl, rfl, nofun⟩
    id_eq := rfl
    class_eq := rfl
    ttl_eq := rfl }

theorem mem_clampTtl_ttls {response : CanonicalResponse} {low high : Option Duration}
    {ttl : UInt32} :
    ttl ∈ (response.clampTtl low high).message.records.map (·.ttl) ↔
      ∃ old ∈ response.message.records.map (·.ttl),
        clampSeconds (ttlBoundSeconds low) (ttlBoundSeconds high) old = ttl := by
  have mapped : (response.clampTtl low high).message.records.map (·.ttl) =
      (response.message.records.map (·.ttl)).map
        (clampSeconds (ttlBoundSeconds low) (ttlBoundSeconds high)) :=
    records_mapTtl response.message _
  rw [mapped, List.mem_map]

/-- `clamp_ttl` leaves the TTLs of every response between the bounds when these are in order and
the lower one can be met. -/
theorem forall_clampTtl_inside_iff :
    (∀ response : CanonicalResponse, ∀ record ∈ (response.clampTtl low high).message.records,
        InsideBounds low high record.ttl) ↔
      BoundsConsistent low high ∧ Representable low := by
  rw [← forall_insideBounds_iff]
  constructor
  · intro inside ttl
    have member : clampSeconds (ttlBoundSeconds low) (ttlBoundSeconds high) ttl ∈
        ((answerWith ttl).clampTtl low high).message.records.map (·.ttl) :=
      mem_clampTtl_ttls.mpr ⟨ttl, List.mem_singleton_self ttl, rfl⟩
    obtain ⟨record, record_mem, record_ttl⟩ := List.mem_map.mp member
    rw [← record_ttl]
    exact inside (answerWith ttl) record record_mem
  · intro inside response record record_mem
    obtain ⟨ttl, _, ttl_eq⟩ := mem_clampTtl_ttls.mp (List.mem_map_of_mem (f := (·.ttl)) record_mem)
    rw [← ttl_eq]
    exact inside ttl

section Accepted

variable {parseUrl : String → Option UrlParts} {config : ConfigV2 SectionsV2}

variable (valid : config.validate parseUrl = [])

include valid

theorem global_consistent :
    ∀ ttl ∈ config.sections.ttlOverride, BoundsConsistent ttl.min ttl.max := by
  intro ttl ttl_mem
  have passed := List.flatMap_eq_nil_iff.mp (accepted_of_validate valid).ttlOverride
  exact validateTtl_eq_nil_iff.mp (passed ttl (Option.mem_toList.mpr ttl_mem))

theorem strategy_consistent {strategy : StrategyDto} (member : strategy ∈ config.strategy) :
    ∀ ttl ∈ strategy.ttlOverride, BoundsConsistent ttl.min ttl.max := by
  intro ttl ttl_mem
  obtain ⟨path, _, passed⟩ :=
    (of_validateEntities (accepted_of_validate valid).strategies).2 strategy member
  simp only [validateStrategyFields, List.append_eq_nil_iff, List.flatMap_eq_nil_iff] at passed
  exact validateTtl_eq_nil_iff.mp (passed.1.1.2 ttl (Option.mem_toList.mpr ttl_mem))

theorem client_consistent {client : ClientV2} (member : client ∈ config.clients) :
    ∀ ttl ∈ client.ttlOverride, BoundsConsistent ttl.min ttl.max := by
  intro ttl ttl_mem
  obtain ⟨index, found⟩ := List.mem_iff_getElem?.mp member
  have passed :=
    Checks.perItem_eq_nil_iff.mp (accepted_of_validate valid).clients index client found
  simp only [validateClient, List.append_eq_nil_iff, List.flatMap_eq_nil_iff] at passed
  exact validateTtl_eq_nil_iff.mp (passed.1.2 ttl (Option.mem_toList.mpr ttl_mem))

end Accepted

theorem ttlOverride_of_resolveClient {dns : ResolvedDns} {client : ClientV2}
    {resolved : ResolvedClient} (resolves : resolveClient dns client = some resolved) :
    resolved.ttlOverride = resolveTtl client.ttlOverride (some dns.ttlOverride) .client := by
  simp only [resolveClient, Option.bind_eq_bind, Option.bind_eq_some_iff] at resolves
  obtain ⟨id, _, strategy, _, made⟩ := resolves
  cases made
  rfl

/-- What holds of every resolved override, traced back to the levels that were written. -/
theorem forall_ttlOverrides_iff {resolvePath : String → String} {config : ConfigV2 SectionsV2}
    {resolved : ResolvedConfig} (holds : ResolvedTtlOverride → Prop)
    {allowed : TtlOverrideDto → Prop}
    (resolves : resolveConfig resolvePath config.forRequests = some resolved)
    (strategy_iff : holds (resolveTtl config.sections.ttlOverride none .global) →
      ∀ strategy ∈ config.strategy,
      holds
      (resolveTtl strategy.ttlOverride (some (resolveTtl config.sections.ttlOverride none .global))
      .strategy) ↔ ∀ own ∈ strategy.ttlOverride, allowed own)
    (client_iff : holds (resolveTtl config.sections.ttlOverride none .global) →
      ∀ client ∈ config.clients,
      holds
      (resolveTtl client.ttlOverride (some (resolveTtl config.sections.ttlOverride none .global))
      .client) ↔ ∀ own ∈ client.ttlOverride, allowed own) :
    (∀ ttl ∈ resolved.ttlOverrides, holds ttl) ↔
      holds (resolveTtl config.sections.ttlOverride none .global) ∧
        ∀ own ∈ config.ownOverrides, allowed own := by
  simp only [resolveConfig, Option.bind_eq_bind, Option.bind_eq_some_iff] at resolves
  obtain ⟨listeners, _, upstreams, _, strategies, strategies_eq, hosts, _, outbounds, _, ruleSets,
    _, clients, clients_eq, made⟩ := resolves
  cases made
  simp only [ResolvedConfig.ttlOverrides, ConfigV2.ownOverrides, List.mem_cons, List.mem_append,
    List.mem_map, List.mem_filterMap]
  constructor
  · intro holding
    refine ⟨holding _ (.inl rfl), ?_⟩
    rintro own (⟨source, source_mem, own_eq⟩ | ⟨source, source_mem, own_eq⟩)
    · obtain ⟨image, image_mem, image_eq⟩ := Traversal.exists_image_of_mem strategies_eq source_mem
      have image_holds := holding _ (.inr (.inl ⟨image, image_mem, rfl⟩))
      rw [(fields_of_resolveStrategy image_eq).2.1] at image_holds
      exact (strategy_iff (holding _ (.inl rfl)) source source_mem).mp image_holds own own_eq
    · obtain ⟨image, image_mem, image_eq⟩ := Traversal.exists_image_of_mem clients_eq source_mem
      have image_holds := holding _ (.inr (.inr ⟨image, image_mem, rfl⟩))
      rw [ttlOverride_of_resolveClient image_eq] at image_holds
      exact (client_iff (holding _ (.inl rfl)) source source_mem).mp image_holds own own_eq
  · rintro ⟨global, written⟩ ttl (rfl | ⟨image, image_mem, rfl⟩ | ⟨image, image_mem, rfl⟩)
    · exact global
    · obtain ⟨source, source_mem, source_eq⟩ :=
        Traversal.exists_source_of_mem strategies_eq image_mem
      rw [(fields_of_resolveStrategy source_eq).2.1]
      exact (strategy_iff global source source_mem).mpr fun own own_mem =>
        written own (.inl ⟨source, source_mem, own_mem⟩)
    · obtain ⟨source, source_mem, source_eq⟩ := Traversal.exists_source_of_mem clients_eq image_mem
      rw [ttlOverride_of_resolveClient source_eq]
      exact (client_iff global source source_mem).mpr fun own own_mem =>
        written own (.inr ⟨source, source_mem, own_mem⟩)

/-- The merged bounds of an accepted configuration are in order exactly when no strategy and no
client contradicts the bound that it inherits.  They are in order and `clamp_ttl` moves every TTL
between them exactly when, besides, every minimum that is written is a TTL. -/
theorem ttl_bounds_after_inheritance (parseUrl : String → Option UrlParts)
    (resolvePath : String → String) (config : ConfigV2 SectionsV2) (resolved : ResolvedConfig)
    (valid : config.validate parseUrl = [])
    (resolves : resolveConfig resolvePath config.forRequests = some resolved) :
    ((∀ ttl ∈ resolved.ttlOverrides, BoundsConsistent ttl.min ttl.max) ↔
      ∀ own ∈ config.ownOverrides, InheritsConsistently config.sections.ttlOverride own) ∧
    ((∀ ttl ∈ resolved.ttlOverrides, BoundsConsistent ttl.min ttl.max ∧
        ∀ response : CanonicalResponse,
          ∀ record ∈ (response.clampTtl ttl.min ttl.max).message.records,
            InsideBounds ttl.min ttl.max record.ttl) ↔
      (∀ own ∈ config.ownOverrides, InheritsConsistently config.sections.ttlOverride own) ∧
        (∀ ttl ∈ config.sections.ttlOverride, Representable ttl.min) ∧
          ∀ own ∈ config.ownOverrides, Representable own.min) := by
  have global := global_consistent valid
  have consistent_iff := forall_ttlOverrides_iff
    (fun ttl => BoundsConsistent ttl.min ttl.max) resolves
    (fun _ _ member => boundsConsistent_resolveTtl_iff (strategy_consistent valid member) global)
    (fun _ _ member => boundsConsistent_resolveTtl_iff (client_consistent valid member) global)
  have whole_iff := forall_ttlOverrides_iff (fun ttl => Representable ttl.min) resolves
    (fun inherited _ _ => representable_resolveTtl_iff inherited)
    (fun inherited _ _ => representable_resolveTtl_iff inherited)
  have global_consistent : BoundsConsistent
      (resolveTtl config.sections.ttlOverride none .global).min
      (resolveTtl config.sections.ttlOverride none .global).max := by
    rw [(resolveTtl_bounds _).1, (resolveTtl_bounds _).2]
    cases written : config.sections.ttlOverride with
    | none => exact boundsConsistent_none_left _
    | some own => exact global own written
  rw [and_iff_right global_consistent] at consistent_iff
  have global_whole : Representable (resolveTtl config.sections.ttlOverride none .global).min ↔
      ∀ ttl ∈ config.sections.ttlOverride, Representable ttl.min := by
    rw [(resolveTtl_bounds _).1]
    cases config.sections.ttlOverride <;> simp [Representable]
  refine ⟨consistent_iff, ?_⟩
  simp only [forall_clampTtl_inside_iff, and_self_left]
  rw [forall₂_and, consistent_iff, whole_iff, global_whole]

namespace InheritedMinimum

/-- All strategies get a minimum, and one of them a maximum. -/
def config (low high : Duration) : ConfigV2 SectionsV2 :=
  { Sample.config with
    sections := { Sample.sections with ttlOverride := some ⟨some true, some low, none⟩ }
    strategy := [{ Sample.strategy with ttlOverride := some ⟨none, none, some high⟩ }] }

/-- Ten minutes and five minutes. -/
def contradicting : ConfigV2 SectionsV2 := config (600 * second) (300 * second)

/-- One minute and five minutes. -/
def fitting : ConfigV2 SectionsV2 := config (60 * second) (300 * second)

end InheritedMinimum

open InheritedMinimum

/-- A strategy inherits a minimum below its maximum: every TTL is at least a minute, and at most
five minutes where the maximum applies. -/
theorem ttl_bounds_after_inheritance_fitting :
    fitting.validate Sample.parseUrl = [] ∧
      ∃ resolved, resolveConfig id fitting.forRequests = some resolved ∧
        resolved.ttlOverrides = [⟨true, some (60 * second), none, .global⟩,
          ⟨true, some (60 * second), some (300 * second), .strategy⟩] ∧
        ∀ ttl ∈ resolved.ttlOverrides, ∀ response : CanonicalResponse,
          ∀ record ∈ (response.clampTtl ttl.min ttl.max).message.records,
            InsideBounds ttl.min ttl.max record.ttl := by
  have accepted : fitting.validate Sample.parseUrl = [] := by decide +kernel
  have overrides : (resolveConfig id fitting.forRequests).map (·.ttlOverrides) =
      some [⟨true, some (60 * second), none, .global⟩,
        ⟨true, some (60 * second), some (300 * second), .strategy⟩] := by decide +kernel
  obtain ⟨resolved, resolves, overrides_eq⟩ := Option.map_eq_some_iff.mp overrides
  refine ⟨accepted, resolved, resolves, overrides_eq, fun ttl member => ?_⟩
  refine ((ttl_bounds_after_inheritance Sample.parseUrl id _ resolved accepted resolves).2.mpr
    ⟨?_, ?_, ?_⟩ ttl member).2
  · rintro own (_ | ⟨_, ⟨⟩⟩)
    refine ⟨nofun, fun _ => ?_⟩
    rintro _ ⟨⟩ _ ⟨⟩ _ _
    decide
  · rintro ttl ⟨⟩ _ ⟨⟩
    decide
  · rintro own (_ | ⟨_, ⟨⟩⟩) _ ⟨⟩

/-- An accepted configuration answers with a TTL below the minimum that it sets. -/
theorem clamped_below_minimum : contradicting.validate Sample.parseUrl = [] ∧
      ∃ resolved, resolveConfig id contradicting.forRequests = some resolved ∧
        ∃ ttl ∈ resolved.ttlOverrides, ttl.enabled = true ∧ ttl.min = some (600 * second) ∧
          ttl.max = some (300 * second) ∧
          ((answerWith 1000).clampTtl ttl.min ttl.max).message.records.map (·.ttl) = [300] := by
  have overrides : (resolveConfig id contradicting.forRequests).map (·.ttlOverrides) =
      some [⟨true, some (600 * second), none, .global⟩,
        ⟨true, some (600 * second), some (300 * second), .strategy⟩] := by decide +kernel
  refine ⟨by decide +kernel, ?_⟩
  obtain ⟨resolved, resolves, overrides_eq⟩ := Option.map_eq_some_iff.mp overrides
  refine ⟨resolved, resolves, ⟨true, some (600 * second), some (300 * second), .strategy⟩, ?_, rfl,
    rfl, rfl, by decide +kernel⟩
  rw [overrides_eq]
  simp

end FluxDns.Config
