import FluxDns.Cache.RestoredTtl
import FluxDns.Policy.Selectors

/-!
# Stale windows of the cache pools

The store is shared by all pools, so an entry is admitted with the widest windows of any pool, and a
lookup narrows them to those of its own pool.
-/

namespace FluxDns.Policy

open Config Cache Cache.Refresh Option CacheDecision Instant

/-- The variables of the loop in `cache_runtime_options`. -/
structure WidestWindows where
  enabled : Bool
  optimisticMaxAge : Option Duration
  negativeMaxAge : Option Duration

def WidestWindows.add (widest : WidestWindows) (cache : ResolvedCacheOverride) : WidestWindows :=
  match cache.optimistic.filter (·.enabled) with
  | none => { widest with enabled := true }
  | some optimistic =>
    { enabled := true
      optimisticMaxAge :=
        some (widest.optimisticMaxAge.elim optimistic.maxAge (max · optimistic.maxAge))
      negativeMaxAge :=
        some (widest.negativeMaxAge.elim optimistic.negativeMaxAge
          (max · optimistic.negativeMaxAge)) }

/-- The caches of strategies and clients that are enabled. -/
def enabledCaches (config : ResolvedConfig) : List ResolvedCacheOverride :=
  (config.strategies.filterMap (·.cache) ++ config.clients.filterMap (·.cache)).filter (·.enabled)

def widestWindows (config : ResolvedConfig) : WidestWindows :=
  let globalOptimistic :=
    if config.dns.cache.enabled && config.dns.cache.optimistic.enabled then
      some config.dns.cache.optimistic
    else none
  (enabledCaches config).foldl .add
    ⟨config.dns.cache.enabled, globalOptimistic.map (·.maxAge),
      globalOptimistic.map (·.negativeMaxAge)⟩

/-- `cache_runtime_options`, with `failure_ttl` and `negative_ttl_max` of the global cache. -/
def cacheRuntimeOptions (config : ResolvedConfig) (failureTtl negativeTtlMax : Duration) :
    CacheFacadeOptions :=
  let widest := widestWindows config
  { enabled := widest.enabled
    optimisticEnabled := widest.optimisticMaxAge.isSome
    admission := ⟨failureTtl, widest.optimisticMaxAge, some negativeTtlMax, widest.negativeMaxAge⟩ }

/-- The TTL of the stale answer to a lookup at the instant `now`, if there is one.  The store reads
its clock at `read`, and the window is compared with the clock at `later`. -/
def staleAnswer (options : CacheFacadeOptions) (admission : RefreshAdmission) (key : CacheKey)
    (record : CacheRecord) (decision : CacheDecision) (now read later : Instant) :
    Option Duration :=
  let got := if record.isVisible read then some record else none
  match (lookupAt options admission (.ok got) key now).2 with
  | .ok (.stale record _) => staleAnswerTtl decision record.entry later
  | _ => none

/-- The enabled pools of a configuration, by their optimistic settings. -/
inductive CachePool (config : ResolvedConfig) : Option ResolvedOptimistic → Prop
  | global (enabled : config.dns.cache.enabled = true) :
      CachePool config (some config.dns.cache.optimistic)
  | strategy {strategy : ResolvedStrategy} {cache : ResolvedCacheOverride}
      (mem : strategy ∈ config.strategies) (own : strategy.cache = some cache)
      (enabled : cache.enabled = true) : CachePool config cache.optimistic
  | client {client : ResolvedClient} {cache : ResolvedCacheOverride}
      (mem : client ∈ config.clients) (own : client.cache = some cache)
      (enabled : cache.enabled = true) : CachePool config cache.optimistic

/-- The window of a pool for entries of a quality; failures never have one. -/
def optimisticWindow (optimistic : ResolvedOptimistic) : CacheQuality → Option Duration
  | .complete => some optimistic.maxAge
  | .negative => some optimistic.negativeMaxAge
  | .failure => none

section Windows

variable {widest : WidestWindows} {config : ResolvedConfig} {optimistic : ResolvedOptimistic}
  {cache : ResolvedCacheOverride} {pool : Option ResolvedOptimistic}

/-- The windows are at least those of a pool. -/
structure WidestWindows.Cover (widest : WidestWindows) (optimistic : ResolvedOptimistic) :
    Prop where
  enabled : widest.enabled = true
  maxAge : ∃ age, widest.optimisticMaxAge = some age ∧ optimistic.maxAge ≤ age
  negativeMaxAge : ∃ age, widest.negativeMaxAge = some age ∧ optimistic.negativeMaxAge ≤ age

theorem WidestWindows.Cover.add (cover : widest.Cover optimistic) (cache : ResolvedCacheOverride) :
    (widest.add cache).Cover optimistic := by
  obtain ⟨-, ⟨age, age_eq, age_le⟩, negative, negative_eq, negative_le⟩ := cover
  unfold WidestWindows.add
  split
  · exact ⟨rfl, ⟨age, age_eq, age_le⟩, negative, negative_eq, negative_le⟩
  · rw [age_eq, negative_eq]
    exact ⟨rfl, ⟨_, rfl, le_max_of_le_left age_le⟩, _, rfl, le_max_of_le_left negative_le⟩

theorem WidestWindows.cover_add (own : cache.optimistic.filter (·.enabled) = some optimistic) :
    (widest.add cache).Cover optimistic := by
  have le_elim (current : Option Duration) (age : Duration) :
      age ≤ current.elim age (max · age) := by
    cases current with
    | none => exact Nat.le_refl age
    | some current => exact le_max_right current age
  rw [WidestWindows.add, own]
  exact ⟨rfl, ⟨_, rfl, le_elim _ _⟩, _, rfl, le_elim _ _⟩

theorem WidestWindows.Cover.foldl (cover : widest.Cover optimistic)
    (caches : List ResolvedCacheOverride) : (caches.foldl .add widest).Cover optimistic := by
  induction caches generalizing widest with
  | nil => exact cover
  | cons cache caches induction => exact induction (cover.add cache)

theorem WidestWindows.cover_foldl {caches : List ResolvedCacheOverride} (mem : cache ∈ caches)
    (own : cache.optimistic.filter (·.enabled) = some optimistic) :
    (caches.foldl .add widest).Cover optimistic := by
  induction caches generalizing widest with
  | nil => cases mem
  | cons first caches induction =>
    rcases List.mem_cons.mp mem with rfl | later
    · exact (cover_add own).foldl caches
    · exact induction later

theorem CachePool.cover (isPool : CachePool config pool)
    (own : pool.filter (·.enabled) = some optimistic) :
    (widestWindows config).Cover optimistic := by
  cases isPool with
  | global enabled =>
    obtain ⟨same, optimistic_enabled⟩ := filter_eq_some_iff.mp own
    cases same
    apply WidestWindows.Cover.foldl
    simp only [enabled, optimistic_enabled, Bool.and_self, if_true, map_some]
    exact ⟨rfl, ⟨_, rfl, Nat.le_refl _⟩, _, rfl, Nat.le_refl _⟩
  | strategy mem has enabled =>
    refine WidestWindows.cover_foldl (List.mem_filter.mpr ⟨List.mem_append_left _ ?_, enabled⟩) own
    exact List.mem_filterMap.mpr ⟨_, mem, has⟩
  | client mem has enabled =>
    refine WidestWindows.cover_foldl (List.mem_filter.mpr ⟨List.mem_append_right _ ?_, enabled⟩) own
    exact List.mem_filterMap.mpr ⟨_, mem, has⟩

/-- A request is answered without a cache or from a pool of the configuration. -/
theorem pool_of_selectCache {client : Option ResolvedClient} {strategy : ResolvedStrategy}
    {digest : Option ClientCacheDigest} {decision : CacheDecision}
    (client_mem : ∀ own, client = some own → own ∈ config.clients)
    (strategy_mem : strategy ∈ config.strategies)
    (selected : selectCache config.dns.cache client strategy digest = .ok decision) :
    decision = .disabled ∨
      ∃ namespace_ pool, CachePool config pool ∧ decision = poolDecision namespace_ pool := by
  unfold selectCache at selected
  split at selected
  · next cache found =>
    obtain ⟨own, rfl, has⟩ := bind_eq_some_iff.mp found
    split_ifs at selected with enabled
    · split at selected
      · cases selected
        exact .inl rfl
      · obtain ⟨id, -, made⟩ := ByteReader.bind_eq_ok.mp selected
        cases made
        exact .inr ⟨_, _, .client (client_mem own rfl) has enabled, rfl⟩
    · cases selected
      exact .inl rfl
  · split at selected
    · next cache has =>
      split_ifs at selected with enabled
      · obtain ⟨id, -, made⟩ := ByteReader.bind_eq_ok.mp selected
        cases made
        exact .inr ⟨_, _, .strategy strategy_mem has enabled, rfl⟩
      · cases selected
        exact .inl rfl
    · split_ifs at selected with enabled
      · cases selected
        exact .inr ⟨_, _, .global enabled, rfl⟩
      · cases selected
        exact .inl rfl

/-- An entry is visible as long as it may answer. -/
theorem isVisible_of_lt {record : CacheRecord} {staleUntil now : Instant}
    (stale : record.entry.staleUntil = some staleUntil) (within : now < staleUntil) :
    record.isVisible now = true := by
  have answerable : now < record.entry.answerableUntil := by
    rw [CacheEntry.answerableUntil, stale]
    exact lt_max_of_lt_right within
  rw [CacheRecord.isVisible, decide_eq_true_iff, CacheEntry.retentionDeadline, checkedAdd]
  split
  · exact Nat.lt_add_right _ answerable
  · exact answerable

variable {options : CacheFacadeOptions} {admission : RefreshAdmission} {key : CacheKey}
  {record : CacheRecord} {decision : CacheDecision} {now read later : Instant} {ttl : Duration}

/-- What has to hold for a stale answer, by the window of the entry and the one of the pool. -/
theorem staleAnswer_eq_some : staleAnswer options admission key record decision now read later =
      some ttl ↔ options.enabled = true ∧ record.isVisible read = true ∧
        record.entry.expiresAt ≤ now ∧ options.optimisticEnabled = true ∧
        (∃ staleUntil, record.entry.staleUntil = some staleUntil ∧ now < staleUntil) ∧
        staleAnswerTtl decision record.entry later = some ttl := by
  unfold staleAnswer lookupAt
  by_cases enabled : options.enabled = true
  · by_cases visible : record.isVisible read = true
    · simp only [enabled, visible, not_true_eq_false, if_true, if_false]
      by_cases fresh : now < record.entry.expiresAt
      · simp [fresh]
      · by_cases window : (options.optimisticEnabled &&
            record.entry.staleUntil.any (now < ·)) = true
        · rw [if_neg fresh, if_pos window]
          simp only [Bool.and_eq_true, any_eq_true, decide_eq_true_iff] at window
          cases admission.tryAcquire <;> simp [window, Nat.not_lt.mp fresh]
        · rw [if_neg fresh, if_neg window]
          simp only [Bool.and_eq_true, any_eq_true, decide_eq_true_iff, not_and] at window
          constructor
          · rintro ⟨⟩
          · rintro ⟨-, -, -, optimistic, stale, -⟩
            exact absurd stale (window optimistic)
    · simp [enabled, visible]
  · simp [enabled]

theorem staleAnswerTtl_poolDecision {namespace_ : CacheNamespace} {entry : CacheEntry} :
    staleAnswerTtl (poolDecision namespace_ pool) entry later = some ttl ↔
      ∃ optimistic, pool = some optimistic ∧ optimistic.enabled = true ∧
        ∃ window, optimisticWindow optimistic entry.quality = some window ∧ window ≠ 0 ∧
          (∃ ended, checkedAdd entry.expiresAt window = some ended ∧ later < ended) ∧
          optimistic.answerTtl = ttl := by
  cases pool with
  | none => simp [staleAnswerTtl, poolDecision, optimisticAnswerTtl]
  | some optimistic =>
    by_cases enabled : optimistic.enabled = true
    · have pooled : (some optimistic).filter (·.enabled) = some optimistic := by simp [enabled]
      simp only [staleAnswerTtl, poolDecision, pooled, optimisticAnswerTtl,
        optimisticMaxAge, optimisticNegativeMaxAge, map_some]
      cases entry.quality with
      | failure => simp [optimisticWindow]
      | complete | negative =>
        simp [optimisticWindow, enabled, any_eq_true]
    · have pooled : (some optimistic).filter (·.enabled) = none := by simp [enabled]
      simp [staleAnswerTtl, poolDecision, pooled, enabled, optimisticAnswerTtl]

theorem WidestWindows.Cover.staleWindow (cover : (widestWindows config).Cover optimistic)
    {quality : CacheQuality} {window failureTtl negativeTtlMax : Duration}
    (own : optimisticWindow optimistic quality = some window) :
    ∃ widest, (cacheRuntimeOptions config failureTtl negativeTtlMax).admission.staleWindow quality =
      some widest ∧ window ≤ widest := by
  cases quality with
  | complete =>
    cases own
    exact cover.maxAge
  | negative =>
    cases own
    exact cover.negativeMaxAge
  | failure => cases own

theorem checkedAdd_eq_some {instant ended : Instant} {duration : Duration} :
    checkedAdd instant duration = some ended ↔
      instant + duration < u64Size * second ∧ instant + duration = ended := by
  rw [checkedAdd]
  split_ifs with fits <;> simp [fits]

theorem stale_answer_iff (config : ResolvedConfig) (failureTtl negativeTtlMax : Duration) :
    let options := cacheRuntimeOptions config failureTtl negativeTtlMax
    (∀ client strategy digest decision, (∀ own, client = some own → own ∈ config.clients) →
      strategy ∈ config.strategies →
      selectCache config.dns.cache client strategy digest = .ok decision →
      decision = .disabled ∨
        ∃ namespace_ pool, CachePool config pool ∧ decision = poolDecision namespace_ pool) ∧
    ∀ pool, CachePool config pool → ∀ codec response upstream inserted revision entry,
      admitResponse codec options.admission response upstream inserted revision =
        some (.accepted entry) →
      (∀ window, options.admission.staleWindow entry.quality = some window →
        (checkedAdd entry.expiresAt window).isSome) →
      ∀ namespace_ admission key version now read later ttl, now ≤ read → read ≤ later →
        (staleAnswer options admission key ⟨version, entry⟩ (poolDecision namespace_ pool) now read
            later = some ttl ↔
          ∃ optimistic, pool = some optimistic ∧ optimistic.enabled = true ∧
            ∃ window, optimisticWindow optimistic entry.quality = some window ∧ window ≠ 0 ∧
              entry.expiresAt ≤ now ∧ later < entry.expiresAt + window ∧
              optimistic.answerTtl = ttl) := by
  refine ⟨fun _ _ _ _ => pool_of_selectCache, ?_⟩
  intro pool isPool codec response upstream inserted revision entry admitted fits namespace_
    admission key version now read later ttl now_le read_le
  rw [staleAnswer_eq_some, staleAnswerTtl_poolDecision]
  constructor
  · rintro ⟨-, -, expired, -, -, optimistic, rfl, enabled, window, own, positive,
      ⟨ended, added, within⟩, ttl_eq⟩
    rw [← (checkedAdd_eq_some.mp added).2] at within
    exact ⟨optimistic, rfl, enabled, window, own, positive, expired, within, ttl_eq⟩
  · rintro ⟨optimistic, rfl, enabled, window, own, positive, expired, within, ttl_eq⟩
    have cover := isPool.cover (filter_eq_some_iff.mpr ⟨rfl, enabled⟩)
    obtain ⟨widest, widest_eq, window_le⟩ := cover.staleWindow own
    obtain ⟨staleUntil, stale⟩ := isSome_iff_exists.mp (fits widest widest_eq)
    have admitted_until : entry.staleUntil = some staleUntil := by
      have nonzero : widest ≠ 0 := fun zero =>
        positive (Nat.eq_zero_of_le_zero (zero ▸ window_le))
      rw [(admitted_of_admitResponse admitted).staleUntil, widest_eq,
        filter_some_pos (by simpa using nonzero)]
      exact stale
    obtain ⟨representable, rfl⟩ := checkedAdd_eq_some.mp stale
    have le_widest := Nat.add_le_add_left window_le entry.expiresAt
    have read_lt := Nat.lt_of_le_of_lt read_le (Nat.lt_of_lt_of_le within le_widest)
    obtain ⟨age, age_eq, -⟩ := cover.maxAge
    refine ⟨cover.enabled, isVisible_of_lt admitted_until read_lt, expired, ?_,
      ⟨_, admitted_until, Nat.lt_of_le_of_lt now_le read_lt⟩, optimistic, rfl, enabled, window, own,
      positive, ⟨_, checkedAdd_eq_some.mpr ⟨Nat.lt_of_le_of_lt le_widest representable, rfl⟩,
        within⟩, ttl_eq⟩
    exact isSome_iff_exists.mpr ⟨age, age_eq⟩

end Windows

namespace StrategyPool

variable (maxAge : Duration)

def optimistic : ResolvedOptimistic := ⟨true, 5 * second, maxAge, 0⟩

def strategy : ResolvedStrategy :=
  { GeoRefresh.strategy with cache := some ⟨true, some (optimistic maxAge), .strategy⟩ }

/-- A pool with a window of ten seconds beside one with a minute. -/
def config : ResolvedConfig :=
  { GeoRefresh.resolved with strategies := [strategy (10 * second), strategy (60 * second)] }

def entry : CacheEntry := { sampleAdmitted with staleUntil := some (90 * second) }

def ttlAt (now : Instant) : Option Duration :=
  staleAnswer (cacheRuntimeOptions config (5 * second) 0) ⟨1, 0⟩ sampleStoredKey ⟨1, entry⟩
    (poolDecision .global (some (optimistic maxAge))) now now now

end StrategyPool

open StrategyPool in
/-- Five seconds after its end the entry answers a request of the first pool, after fifteen seconds
only one of the second pool. -/
theorem stale_answer_strategy_pool :
    ttlAt (10 * second) (35 * second) = some (5 * second) ∧
      ttlAt (10 * second) (45 * second) = none ∧
      ttlAt (60 * second) (45 * second) = some (5 * second) := by
  have admitted : admitResponse sampleCodec
      (cacheRuntimeOptions config (5 * second) 0).admission sampleAnswer sampleUpstream 0 1 =
        some (.accepted entry) := by decide +kernel
  have answers {maxAge : Duration} (mem : strategy maxAge ∈ config.strategies) (now : Instant)
      (ttl : Duration) := (stale_answer_iff config (5 * second) 0).2 _ (.strategy mem rfl rfl) _ _ _
    _ _ _ admitted (by rintro window ⟨⟩; decide +kernel) .global ⟨1, 0⟩ sampleStoredKey 1 now now
    now ttl (Nat.le_refl _) (Nat.le_refl _)
  have first : strategy (10 * second) ∈ config.strategies := .head _
  refine ⟨(answers first _ _).mpr ?_, eq_none_iff_forall_ne_some.mpr fun ttl answered => ?_,
    (answers (.tail _ (.head _)) _ _).mpr ?_⟩
  · exact ⟨_, rfl, rfl, 10 * second, rfl, by decide, by decide, by decide, rfl⟩
  · obtain ⟨_, same, -, window, own, -, -, within, -⟩ := (answers first _ _).mp answered
    cases same
    cases own
    exact absurd within (by decide)
  · exact ⟨_, rfl, rfl, 60 * second, rfl, by decide, by decide, by decide, rfl⟩

end FluxDns.Policy
