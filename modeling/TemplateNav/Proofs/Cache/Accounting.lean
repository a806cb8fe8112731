import TemplateNav.Cache.Command
import TemplateNav.Proofs.Cache.Agreement
import TemplateNav.Uri.Parse

/-!
# The counts of a cache balance

Every miss stores one entry, and every entry that is gone was evicted, has
expired, gave way to another revision of its document, or was dropped on demand.
The cache counts the misses and the first two ways of leaving; a ledger beside it
counts the look-ups and the others.  One call keeps the balance between the
counts, the ledger and the entries that are left, so every run keeps it.
-/

namespace TemplateNav

/-- What calls have met with in a cache: the look-ups made, and the entries that had expired, that
gave way to another revision, and that were dropped on demand. -/
structure Ledger where
  lookups : Nat
  expired : Nat
  overwritten : Nat
  invalidated : Nat
  deriving DecidableEq

/-- A ledger without items. -/
def Ledger.zero : Ledger := ⟨0, 0, 0, 0⟩

/-- Two ledgers together. -/
def Ledger.add (first second : Ledger) : Ledger :=
  ⟨first.lookups + second.lookups, first.expired + second.expired,
    first.overwritten + second.overwritten, first.invalidated + second.invalidated⟩

namespace RevisionMap

variable {α : Type}

/-- What a look-up meets with: an entry of the document that has expired, or one that has not and
belongs to another revision. -/
def metBy (map : RevisionMap α) (limits : CacheLimits) (now : Nat) (uri : Uri) (revision : Int) :
    Ledger :=
  let found := map.entries.filter fun entry => entry.uri = uri
  { lookups := 1
    expired := found.countP fun entry => limits.timeToLive < entry.age now
    overwritten := found.countP fun entry =>
      entry.age now ≤ limits.timeToLive && entry.revision ≠ revision
    invalidated := 0 }

/-- The number of entries whose time is over. -/
def expiredCount (map : RevisionMap α) (now timeToLive : Nat) : Nat :=
  map.entries.countP fun entry => timeToLive < entry.age now

/-- The number of entries of documents for which the other map has none. -/
def lostCount (map other : RevisionMap α) : Nat :=
  map.entries.countP fun entry => !other.entries.any fun kept => kept.uri = entry.uri

theorem size_restrict (map : RevisionMap α) (isKept : Entry α → Bool) :
    (map.restrict isKept).size + map.entries.countP (fun entry => !isKept entry) = map.size := by
  rw [size, size, restrict, ← List.countP_eq_length_filter,
    List.length_eq_countP_add_countP isKept]
  simp

/-- A document has at most one entry, the one that is found. -/
theorem filter_uri_eq (map : RevisionMap α) (uri : Uri) :
    (map.entries.filter fun entry => entry.uri = uri) = (map.find? uri).toList := by
  obtain ⟨entries, distinct⟩ := map
  simp only [find?]
  induction entries with
  | nil => rfl
  | cons first rest ih =>
    obtain ⟨others, later⟩ := List.pairwise_cons.1 distinct
    by_cases own : first.uri = uri
    · have none : (rest.filter fun entry => entry.uri = uri) = [] := by
        apply List.filter_eq_nil_iff.2
        intro entry member
        simpa [own] using (others entry member).symm
      simp [own, none]
    · simpa [own] using ih later

theorem size_erase (map : RevisionMap α) (uri : Uri) :
    (map.erase uri).size + (map.find? uri).toList.length = map.size := by
  have sizes := map.size_restrict fun entry => decide (entry.uri ≠ uri)
  rw [← filter_uri_eq, ← List.countP_eq_length_filter]
  simpa [erase] using sizes

theorem size_sweep (map : RevisionMap α) (now timeToLive : Nat) :
    (map.sweep now timeToLive).size + map.expiredCount now timeToLive = map.size := by
  have sizes := map.size_restrict fun entry => decide (entry.age now ≤ timeToLive)
  simpa [sweep, expiredCount, ← decide_not] using sizes

theorem eq_of_uri {map : RevisionMap α} {first second : Entry α} (member : first ∈ map.entries)
    (otherMember : second ∈ map.entries) (same : first.uri = second.uri) : first = second := by
  have firstFound : first ∈ (map.find? second.uri).toList := by
    rw [← filter_uri_eq]
    exact List.mem_filter.2 ⟨member, decide_eq_true same⟩
  have secondFound : second ∈ (map.find? second.uri).toList := by
    rw [← filter_uri_eq]
    exact List.mem_filter.2 ⟨otherMember, decide_eq_true rfl⟩
  rw [Option.mem_toList] at firstFound secondFound
  exact Option.some.inj (firstFound.symm.trans secondFound)

theorem lostCount_restrict (map : RevisionMap α) (isKept : Entry α → Bool) :
    (map.restrict isKept).size + map.lostCount (map.restrict isKept) = map.size := by
  rw [← map.size_restrict isKept, lostCount]
  congr 1
  apply List.countP_congr
  intro entry member
  have kept : ((map.restrict isKept).entries.any fun other => other.uri = entry.uri) =
      isKept entry := by
    rw [Bool.eq_iff_iff, List.any_eq_true]
    constructor
    · rintro ⟨other, listed, same⟩
      obtain ⟨otherMember, accepted⟩ := List.mem_filter.1 listed
      rwa [eq_of_uri otherMember member (of_decide_eq_true same)] at accepted
    · exact fun accepted => ⟨entry, List.mem_filter.2 ⟨member, accepted⟩, decide_eq_true rfl⟩
  rw [kept]

theorem lostCount_empty (map : RevisionMap α) : map.lostCount .empty = map.size := by
  simp [lostCount, empty, size]

theorem lostCount_self (map : RevisionMap α) : map.lostCount map = 0 := by
  apply List.countP_eq_zero.2
  intro entry member lost
  rw [Bool.not_eq_true', List.any_eq_false] at lost
  exact lost entry member (decide_eq_true rfl)

/-- The evicted entries are as many as are counted. -/
theorem size_restrict_oldest (map : RevisionMap α) (count : Nat) :
    (map.restrict fun other =>
        !((oldest count map.entries).map Entry.uri).contains other.uri).size +
      ((oldest count map.entries).map Entry.uri).length = map.size := by
  have sizes := map.size_restrict fun other =>
    !((oldest count map.entries).map Entry.uri).contains other.uri
  have sorted := List.mergeSort_perm map.entries
    fun first second => decide (first.populatedAt ≤ second.populatedAt)
  generalize split : (map.entries.mergeSort fun first second =>
    decide (first.populatedAt ≤ second.populatedAt)) = ordered at sorted
  have distinct : ordered.Pairwise fun first second => first.uri ≠ second.uri :=
    (sorted.pairwise_iff fun different => Ne.symm different).2 map.distinct
  rw [← List.take_append_drop count ordered, List.pairwise_append] at distinct
  -- The entries beyond the oldest have other documents, so none of them is evicted.
  have counted : map.entries.countP (fun other =>
      ((ordered.take count).map Entry.uri).contains other.uri) = (ordered.take count).length := by
    rw [← sorted.countP_eq, ← List.take_append_drop count ordered, List.countP_append,
      List.take_append_drop]
    have evicted : (ordered.take count).countP (fun other =>
        ((ordered.take count).map Entry.uri).contains other.uri) =
        (ordered.take count).length := by
      apply List.countP_eq_length.2
      intro entry member
      exact List.contains_iff_mem.2 (List.mem_map_of_mem member)
    have kept : (ordered.drop count).countP (fun other =>
        ((ordered.take count).map Entry.uri).contains other.uri) = 0 := by
      apply List.countP_eq_zero.2
      intro entry member listed
      obtain ⟨other, older, same⟩ := List.mem_map.1 (List.contains_iff_mem.1 listed)
      exact distinct.2.2 other older entry member same
    rw [evicted, kept, Nat.add_zero]
  simp only [oldest, split, Bool.not_not, counted] at sizes ⊢
  rw [List.length_map]
  exact sizes

/-- Storing an entry adds one to the entries of other documents, less those evicted. -/
theorem size_insert (map : RevisionMap α) (entry : Entry α) (capacity : Nat) :
    (map.insert entry capacity).1.size + (map.insert entry capacity).2 =
      (map.erase entry.uri).size + 1 := by
  simp only [insert]
  split
  · simp [append, size]
  · have sizes := (map.erase entry.uri).size_restrict_oldest
      (evictionCount ((map.erase entry.uri).size + 1))
    simp only [size, append, List.length_append, List.length_singleton] at sizes ⊢
    omega

/-- Storing an entry replaces the one its document has, so it may as well be dropped first. -/
theorem insert_erase (map : RevisionMap α) (entry : Entry α) (capacity : Nat) :
    (map.erase entry.uri).insert entry capacity = map.insert entry capacity := by
  have once : (map.erase entry.uri).erase entry.uri = map.erase entry.uri := by
    simp [erase, restrict]
  simp only [insert, once]

/-- A look-up meets with what decides its answer. -/
theorem metBy_eq (map : RevisionMap α) (limits : CacheLimits) (now : Nat) (uri : Uri)
    (revision : Int) :
    map.metBy limits now uri revision =
      match map.find? uri with
      | none => ⟨1, 0, 0, 0⟩
      | some entry =>
        if limits.timeToLive < entry.age now then ⟨1, 1, 0, 0⟩
        else if entry.revision ≠ revision then ⟨1, 0, 1, 0⟩
        else ⟨1, 0, 0, 0⟩ := by
  simp only [metBy, filter_uri_eq]
  cases map.find? uri with
  | none => rfl
  | some entry =>
    by_cases expired : limits.timeToLive < entry.age now
    · simp [expired, Nat.not_le.2 expired]
    · by_cases other : entry.revision = revision
      · simp [expired, other]
      · simp [expired, other, Nat.not_lt.1 expired]

end RevisionMap

/-- A look-up makes one hit or one miss; a miss stores an entry, and what leaves for it was evicted,
had expired, or gave way. -/
structure Fetched.Balances {α : Type} (fetched : Fetched α) (map : RevisionMap α) (met : Ledger) :
    Prop where
  lookups : fetched.tally.hits + fetched.tally.misses = met.lookups
  expired : fetched.tally.expirations = met.expired
  entries : map.size + fetched.tally.misses = fetched.map.size + fetched.tally.evictions +
    fetched.tally.expirations + met.overwritten

theorem RevisionMap.balances_fetch {α : Type} (map : RevisionMap α) (limits : CacheLimits)
    (now : Nat) (uri : Uri) (revision : Int) (compute : Unit → α) :
    (map.fetch limits now uri revision compute).Balances map
      (map.metBy limits now uri revision) := by
  have sizes := map.size_erase uri
  have stored := map.size_insert ⟨uri, revision, compute (), now⟩ limits.capacity
  have storedBehind := map.insert_erase ⟨uri, revision, compute (), now⟩ limits.capacity
  simp only at stored storedBehind
  rw [metBy_eq, fetch, lookup]
  cases found : map.find? uri with
  | none =>
    simp only [found, Option.toList_none, List.length_nil] at sizes
    exact ⟨rfl, rfl, by simp only; omega⟩
  | some entry =>
    simp only [found, Option.toList_some, List.length_singleton] at sizes
    by_cases expired : limits.timeToLive < entry.age now
    · simp only [expired, ↓reduceIte, storedBehind]
      exact ⟨rfl, rfl, by simp only; omega⟩
    · by_cases other : entry.revision = revision
      · simp only [expired, other, ne_eq, not_true_eq_false, ↓reduceIte]
        exact ⟨rfl, rfl, rfl⟩
      · simp only [expired, other, ne_eq, not_false_eq_true, ↓reduceIte]
        exact ⟨rfl, rfl, by simp only; omega⟩

namespace Cache

/-- What may be asked of a cache, with the reading of the clock where it is read, with what a
look-up computes if it has to, and with the reader of the addresses in a command. -/
inductive Call where
  | fetchFragments (uri : Uri) (revision : Int) (now : Nat) (computed : List Fragment)
  | fetchSymbols (uri : Uri) (revision : Int) (now : Nat) (computed : SymbolIndex)
  /-- Both look-ups for one document, the second one at a time of its own. -/
  | analyze (uri : Uri) (revision : Int) (text : Text) (parsedAt indexedAt : Nat)
  | sweep (now : Nat)
  | invalidate (uri : Uri)
  | invalidateAll
  | command (readUri : UriReader) (name : String) (arguments : List Json)
  | reconfigure (limits : CacheLimits) (thresholds : Thresholds)
  | recordLatency (sample : Sample)

/-- The cache behind one call. -/
def afterCall (cache : Cache) : Call → Cache
  | .fetchFragments uri revision now computed =>
    (cache.fetchFragments now uri revision fun _ => computed).2
  | .fetchSymbols uri revision now computed =>
    (cache.fetchSymbols now uri revision fun _ => computed).2
  | .analyze uri revision text parsedAt indexedAt =>
    (cache.analyzeBetween parsedAt indexedAt uri revision text).2
  | .sweep now => (cache.sweep now).1
  | .invalidate uri => cache.invalidate uri
  | .invalidateAll => cache.invalidateAll
  | .command readUri name arguments => (cache.execute readUri name arguments).2
  | .reconfigure limits thresholds => cache.reconfigure limits thresholds
  | .recordLatency sample => cache.recordLatency sample

/-- The number of entries of documents for which the other cache has none, map by map. -/
def lostCount (cache other : Cache) : Nat :=
  cache.fragments.lostCount other.fragments + cache.symbols.lostCount other.symbols

/-- What one call meets with. -/
def metBy (cache : Cache) : Call → Ledger
  | .fetchFragments uri revision now _ => cache.fragments.metBy cache.limits now uri revision
  | .fetchSymbols uri revision now _ => cache.symbols.metBy cache.limits now uri revision
  | .analyze uri revision _ parsedAt indexedAt =>
    (cache.fragments.metBy cache.limits parsedAt uri revision).add
      (cache.symbols.metBy cache.limits indexedAt uri revision)
  | .sweep now =>
    let expired := cache.fragments.expiredCount now cache.limits.timeToLive +
      cache.symbols.expiredCount now cache.limits.timeToLive
    ⟨0, expired, 0, 0⟩
  | .invalidate uri => ⟨0, 0, 0, cache.lostCount (cache.invalidate uri)⟩
  | .invalidateAll => ⟨0, 0, 0, cache.lostCount cache.invalidateAll⟩
  | .command readUri name arguments =>
    ⟨0, 0, 0, cache.lostCount (cache.execute readUri name arguments).2⟩
  | .reconfigure _ _ => .zero
  | .recordLatency _ => .zero

/-- The cache behind a run of calls. -/
def afterCalls (cache : Cache) (calls : List Call) : Cache :=
  calls.foldl afterCall cache

/-- What a run of calls meets with, each call in the cache that the calls before it have left. -/
def ledger (cache : Cache) : List Call → Ledger
  | [] => .zero
  | call :: rest => (cache.metBy call).add ((cache.afterCall call).ledger rest)

/-- Between two moments the counts have grown by what was met with: each new miss has left an entry
behind, unless one was evicted, had expired, gave way or was dropped. -/
structure Balances (first second : Cache) (met : Ledger) : Prop where
  lookups : second.tally.hits + second.tally.misses =
    first.tally.hits + first.tally.misses + met.lookups
  expired : second.tally.expirations = first.tally.expirations + met.expired
  entries : first.size + second.tally.misses + (first.tally.evictions + first.tally.expirations) =
    second.size + first.tally.misses + (second.tally.evictions + second.tally.expirations) +
      met.overwritten + met.invalidated

theorem Balances.trans {first second third : Cache} {met later : Ledger}
    (left : Balances first second met) (right : Balances second third later) :
    Balances first third (met.add later) := by
  obtain ⟨lookups, expired, entries⟩ := left
  obtain ⟨lookupsLater, expiredLater, entriesLater⟩ := right
  constructor
  · simp only [Ledger.add]
    omega
  · simp only [Ledger.add]
    omega
  · simp only [Ledger.add]
    omega

/-- A call that counts nothing keeps the balance if what is missing behind it was dropped. -/
theorem balances_of_tally {first second : Cache} {dropped : Nat}
    (tally : second.tally = first.tally) (sizes : second.size + dropped = first.size) :
    Balances first second ⟨0, 0, 0, dropped⟩ := by
  constructor
  · simp [tally]
  · simp [tally]
  · simp only [tally]
    omega

/-- A look-up keeps the balance of the cache that takes over its map and its counts. -/
theorem balances_of_fetched {α : Type} {fetched : Fetched α} {map : RevisionMap α} {met : Ledger}
    {first second : Cache} (fetches : fetched.Balances map met) (nothing : met.invalidated = 0)
    (tally : second.tally = first.tally.add fetched.tally)
    (sizes : second.size + map.size = first.size + fetched.map.size) :
    Balances first second met := by
  obtain ⟨lookups, expired, entries⟩ := fetches
  constructor
  · simp only [tally, Tally.add]
    omega
  · simp only [tally, Tally.add]
    omega
  · simp only [tally, Tally.add]
    omega

variable (cache : Cache)

theorem balances_fetchFragments (now : Nat) (uri : Uri) (revision : Int)
    (compute : Unit → List Fragment) :
    Balances cache (cache.fetchFragments now uri revision compute).2
      (cache.fragments.metBy cache.limits now uri revision) := by
  refine balances_of_fetched
    (cache.fragments.balances_fetch cache.limits now uri revision compute) rfl rfl ?_
  simp only [fetchFragments, size]
  omega

theorem balances_fetchSymbols (now : Nat) (uri : Uri) (revision : Int)
    (compute : Unit → SymbolIndex) :
    Balances cache (cache.fetchSymbols now uri revision compute).2
      (cache.symbols.metBy cache.limits now uri revision) := by
  refine balances_of_fetched
    (cache.symbols.balances_fetch cache.limits now uri revision compute) rfl rfl ?_
  simp only [fetchSymbols, size]
  omega

theorem balances_sweep (now : Nat) :
    Balances cache (cache.sweep now).1 (cache.metBy (.sweep now)) := by
  have fragments := cache.fragments.size_sweep now cache.limits.timeToLive
  have symbols := cache.symbols.size_sweep now cache.limits.timeToLive
  constructor
  · simp [sweep, Tally.add, metBy]
  · simp only [sweep, Tally.add, metBy, size]
    omega
  · simp only [sweep, Tally.add, metBy, size]
    omega

theorem size_invalidate (uri : Uri) :
    (cache.invalidate uri).size + cache.lostCount (cache.invalidate uri) = cache.size := by
  have fragments := cache.fragments.lostCount_restrict fun entry => decide (entry.uri ≠ uri)
  have symbols := cache.symbols.lostCount_restrict fun entry => decide (entry.uri ≠ uri)
  simp only [size, lostCount, invalidate, RevisionMap.erase]
  omega

theorem size_invalidateAll :
    cache.invalidateAll.size + cache.lostCount cache.invalidateAll = cache.size := by
  have none : cache.invalidateAll.size = 0 := rfl
  rw [none, Nat.zero_add, lostCount, invalidateAll, RevisionMap.lostCount_empty,
    RevisionMap.lostCount_empty, size]

theorem balances_execute (readUri : UriReader) (name : String) (arguments : List Json) :
    Balances cache (cache.execute readUri name arguments).2
      ⟨0, 0, 0, cache.lostCount (cache.execute readUri name arguments).2⟩ := by
  rcases cache.execute_cases readUri name arguments with same | all | ⟨uri, one⟩
  · rw [same]
    exact balances_of_tally rfl (by simp [lostCount, RevisionMap.lostCount_self])
  · rw [all]
    exact balances_of_tally rfl cache.size_invalidateAll
  · rw [one]
    exact balances_of_tally rfl (cache.size_invalidate uri)

/-- One call keeps the balance. -/
theorem balances_afterCall (call : Call) : Balances cache (cache.afterCall call)
    (cache.metBy call) := by
  cases call with
  | fetchFragments uri revision now computed =>
    exact cache.balances_fetchFragments now uri revision _
  | fetchSymbols uri revision now computed => exact cache.balances_fetchSymbols now uri revision _
  | analyze uri revision text parsedAt indexedAt =>
    exact (cache.balances_fetchFragments parsedAt uri revision _).trans
      (Cache.balances_fetchSymbols _ indexedAt uri revision _)
  | sweep now => exact cache.balances_sweep now
  | invalidate uri => exact balances_of_tally rfl (cache.size_invalidate uri)
  | invalidateAll => exact balances_of_tally rfl cache.size_invalidateAll
  | command readUri name arguments => exact cache.balances_execute readUri name arguments
  | reconfigure limits thresholds => exact balances_of_tally rfl rfl
  | recordLatency sample => exact balances_of_tally rfl rfl

theorem balances_afterCalls (calls : List Call) :
    Balances cache (cache.afterCalls calls) (cache.ledger calls) := by
  induction calls generalizing cache with
  | nil => exact balances_of_tally rfl rfl
  | cons call rest ih => exact (cache.balances_afterCall call).trans (ih (cache.afterCall call))

/-- Behind every run from an empty cache the hits and misses are the look-ups made, the expirations
the entries that had expired, and the misses the entries that are left together with those that were
evicted, have expired, gave way to another revision and were dropped on demand. -/
theorem counts_balance (limits : CacheLimits) (thresholds : Thresholds) (calls : List Call) :
    let stats := ((new limits thresholds).afterCalls calls).stats
    let ledger := (new limits thresholds).ledger calls
    stats.tally.hits + stats.tally.misses = ledger.lookups ∧
      stats.tally.expirations = ledger.expired ∧
      stats.tally.misses = stats.fragmentEntries + stats.symbolEntries + stats.tally.evictions +
        stats.tally.expirations + ledger.overwritten + ledger.invalidated := by
  intro stats ledger
  obtain ⟨lookups, expired, entries⟩ := (new limits thresholds).balances_afterCalls calls
  have tally : (new limits thresholds).tally = .zero := rfl
  have none : (new limits thresholds).size = 0 := rfl
  rw [tally] at lookups expired
  rw [tally, none, size] at entries
  refine ⟨lookups.trans (Nat.zero_add _), expired.trans (Nat.zero_add _), ?_⟩
  simp only [Tally.zero] at entries
  simp only [stats, ledger, Cache.stats]
  omega

/-- An entry gives way to another revision, one is evicted, one has expired when it is looked up,
one is dropped by a command that names its document and one is swept. -/
theorem counts_balance_of_lost_entries :
    let first : Uri := ⟨"file:///a.ejs"⟩
    let second : Uri := ⟨"file:///b.ejs"⟩
    let calls : List Call :=
      [.fetchFragments first 1 0 [], .fetchFragments first 1 1 [], .fetchFragments first 2 2 [],
        .fetchFragments second 1 3 [], .fetchFragments second 1 20 [],
        .command Uri.read Command.clearCache [.string "file:///b.ejs"],
        .fetchSymbols first 1 21 ⟨[]⟩, .sweep 40]
    let stats := ((new ⟨1, 10, 1⟩ .standard).afterCalls calls).stats
    let ledger := (new ⟨1, 10, 1⟩ .standard).ledger calls
    stats = ⟨⟨1, 5, 1, 2⟩, 0, 0⟩ ∧ ledger = ⟨6, 2, 1, 1⟩ ∧
      stats.tally.hits + stats.tally.misses = ledger.lookups ∧
      stats.tally.expirations = ledger.expired ∧
      stats.tally.misses = stats.fragmentEntries + stats.symbolEntries + stats.tally.evictions +
        stats.tally.expirations + ledger.overwritten + ledger.invalidated := by
  intro first second calls stats ledger
  exact ⟨by decide +kernel, by decide +kernel, counts_balance ⟨1, 10, 1⟩ .standard calls⟩

end Cache

end TemplateNav
