import TemplateNav.Analysis
import TemplateNav.Cache.RevisionMap
import TemplateNav.Latency.Report

/-!
# The analysis cache

Fragments and symbol indexes are kept apart, each in a revision map.  Both
expire, are evicted and are missed independently, so an index may be computed
from stored fragments.  The cache counts what happens to its entries.
-/

namespace TemplateNav

/-- What happened to the entries of a cache so far. -/
structure Tally where
  hits : Nat
  misses : Nat
  evictions : Nat
  expirations : Nat
  deriving DecidableEq

/-- Nothing happened. -/
def Tally.zero : Tally := ⟨0, 0, 0, 0⟩

/-- Two tallies together. -/
def Tally.add (first second : Tally) : Tally :=
  ⟨first.hits + second.hits, first.misses + second.misses, first.evictions + second.evictions,
    first.expirations + second.expirations⟩

/-- Counts of a cache. -/
structure CacheStats where
  tally : Tally
  fragmentEntries : Nat
  symbolEntries : Nat
  deriving DecidableEq

/-- A value that was looked up or computed, the map behind that, and what happened. -/
structure Fetched (α : Type) where
  value : α
  map : RevisionMap α
  tally : Tally

/-- Looks up a value, or computes and stores it.  An expired entry is dropped and counted. -/
def RevisionMap.fetch {α : Type} (map : RevisionMap α) (limits : CacheLimits) (now : Nat)
    (uri : Uri) (revision : Int) (compute : Unit → α) : Fetched α :=
  let store (map : RevisionMap α) (expirations : Nat) : Fetched α :=
    let value := compute ()
    let (map, evictions) := map.insert ⟨uri, revision, value, now⟩ limits.capacity
    ⟨value, map, ⟨0, 1, evictions, expirations⟩⟩
  match map.lookup uri revision now limits.timeToLive with
  | .hit value => ⟨value, map, ⟨1, 0, 0, 0⟩⟩
  | .miss => store map 0
  | .expired => store (map.erase uri) 1

/-- Stored analyses of documents, with the latency of the queries they serve. -/
structure Cache where
  limits : CacheLimits
  fragments : RevisionMap (List Fragment)
  symbols : RevisionMap SymbolIndex
  latency : LatencyMonitor
  tally : Tally

/-- The latency and cache figures that a client may ask for. -/
structure PerformanceReport where
  latency : LatencyReport
  cache : CacheStats

namespace Cache

/-- A cache without entries. -/
def new (limits : CacheLimits) (thresholds : Thresholds) : Cache :=
  ⟨limits, .empty, .empty, .new thresholds, .zero⟩

/-- The cache of a server that is not configured. -/
def standard : Cache :=
  new .standard .standard

/-- Changes the limits and thresholds; entries stay. -/
def reconfigure (cache : Cache) (limits : CacheLimits) (thresholds : Thresholds) : Cache :=
  { cache with limits := limits, latency := cache.latency.setThresholds thresholds }

/-- The fragments of a document at a revision. -/
def fetchFragments (cache : Cache) (now : Nat) (uri : Uri) (revision : Int)
    (compute : Unit → List Fragment) : List Fragment × Cache :=
  let fetched := cache.fragments.fetch cache.limits now uri revision compute
  (fetched.value,
    { cache with fragments := fetched.map, tally := cache.tally.add fetched.tally })

/-- The symbol index of a document at a revision. -/
def fetchSymbols (cache : Cache) (now : Nat) (uri : Uri) (revision : Int)
    (compute : Unit → SymbolIndex) : SymbolIndex × Cache :=
  let fetched := cache.symbols.fetch cache.limits now uri revision compute
  (fetched.value, { cache with symbols := fetched.map, tally := cache.tally.add fetched.tally })

/-- The analysis of a document at a revision.  The text is read only where something has to be
computed. -/
def analyze (cache : Cache) (now : Nat) (uri : Uri) (revision : Int) (text : Text) :
    Analysis × Cache :=
  let (fragments, cache) := cache.fetchFragments now uri revision fun _ => Fragment.extract text
  let (index, cache) := cache.fetchSymbols now uri revision fun _ => Analysis.indexOf fragments
  (⟨fragments, index⟩, cache)

/-- Drops what is stored for a document. -/
def invalidate (cache : Cache) (uri : Uri) : Cache :=
  { cache with fragments := cache.fragments.erase uri, symbols := cache.symbols.erase uri }

/-- Drops everything that is stored. -/
def invalidateAll (cache : Cache) : Cache :=
  { cache with fragments := .empty, symbols := .empty }

/-- The number of entries in both maps. -/
def size (cache : Cache) : Nat :=
  cache.fragments.size + cache.symbols.size

/-- Drops all expired entries and counts them. -/
def sweep (cache : Cache) (now : Nat) : Cache × Nat :=
  let swept := { cache with
    fragments := cache.fragments.sweep now cache.limits.timeToLive
    symbols := cache.symbols.sweep now cache.limits.timeToLive }
  let removed := cache.size - swept.size
  ({ swept with tally := cache.tally.add ⟨0, 0, 0, removed⟩ }, removed)

/-- Records how long a query took. -/
def recordLatency (cache : Cache) (sample : Sample) : Cache :=
  { cache with latency := cache.latency.record sample }

/-- The counts of a cache. -/
def stats (cache : Cache) : CacheStats :=
  ⟨cache.tally, cache.fragments.size, cache.symbols.size⟩

/-- The report for a client. -/
def report (cache : Cache) : PerformanceReport :=
  ⟨cache.latency.report, cache.stats⟩

end Cache

end TemplateNav
