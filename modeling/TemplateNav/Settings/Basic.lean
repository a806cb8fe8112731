/-!
# Settings

What a client may configure, the values that hold when it configures nothing,
and the limits that are enforced on them.  Durations are in milliseconds unless
a name says otherwise.
-/

namespace TemplateNav

/-- Limits of the analysis cache. -/
structure CacheLimits where
  /-- The most entries of each kind; past that the oldest are evicted. -/
  capacity : Nat
  /-- How long an entry may be used. -/
  timeToLive : Nat
  /-- How often expired entries are swept. -/
  sweepInterval : Nat
  deriving DecidableEq

/-- The limits of an unconfigured cache. -/
def CacheLimits.standard : CacheLimits :=
  ⟨50, 300000, 60000⟩

/-- When navigation counts as slow.  Both thresholds are in nanoseconds. -/
structure Thresholds where
  warning : Nat
  hard : Nat
  /-- The number of recent samples that are judged. -/
  window : Nat
  deriving DecidableEq

/-- The thresholds of an unconfigured monitor. -/
def Thresholds.standard : Thresholds :=
  ⟨100000000, 500000000, 100⟩

/-- The cache part of the settings. -/
structure CacheSettings where
  capacity : Nat
  ttlSeconds : Nat
  sweepIntervalSeconds : Nat
  deriving DecidableEq

/-- The cache settings that hold by default. -/
def CacheSettings.standard : CacheSettings :=
  ⟨50, 300, 60⟩

/-- The performance part of the settings. -/
structure PerformanceSettings where
  warningThresholdMs : Nat
  hardThresholdMs : Nat
  sampleWindow : Nat
  deriving DecidableEq

/-- The performance settings that hold by default. -/
def PerformanceSettings.standard : PerformanceSettings :=
  ⟨100, 500, 100⟩

/-- Everything a client may configure, as given. -/
structure Settings where
  queryTimeoutMs : Nat
  cache : CacheSettings
  performance : PerformanceSettings
  deriving DecidableEq

namespace Settings

/-- The settings that hold by default. -/
def standard : Settings :=
  ⟨500, CacheSettings.standard, PerformanceSettings.standard⟩

/-- How long a query may take: at least a millisecond. -/
def queryTimeout (settings : Settings) : Nat :=
  max settings.queryTimeoutMs 1

/-- The cache limits: room for an entry and a second between sweeps at least. -/
def cacheLimits (settings : Settings) : CacheLimits :=
  ⟨max settings.cache.capacity 1, settings.cache.ttlSeconds * 1000,
    max settings.cache.sweepIntervalSeconds 1 * 1000⟩

/-- The latency thresholds, over a window of at least one sample. -/
def thresholds (settings : Settings) : Thresholds :=
  ⟨settings.performance.warningThresholdMs * 1000000,
    settings.performance.hardThresholdMs * 1000000, max settings.performance.sampleWindow 1⟩

end Settings

end TemplateNav
