import TemplateNav.Proofs.Cache.Eviction
import TemplateNav.Proofs.Cache.Transparency

/-!
# Sweeping is invisible to readers

Of a map a reader sees the entries whose time is not over yet.  What a look-up
answers, and what later readers see behind it, depends on these entries alone as
long as nothing has to be evicted.  A sweep drops the other ones, so a run with
sweeps and the same run without them are alike to every reader.
-/

namespace TemplateNav

/-- Whether a look-up found a value. -/
def Lookup.isHit {α : Type} : Lookup α → Bool
  | .hit _ => true
  | .miss => false
  | .expired => false

namespace RevisionMap

variable {α : Type} {map first second : RevisionMap α} {limits : CacheLimits} {now : Nat}
  {uri : Uri} {touched : Finset Uri}

/-- The entry of a document, if its time is not over. -/
def liveAt (map : RevisionMap α) (now timeToLive : Nat) (uri : Uri) : Option (Entry α) :=
  (map.find? uri).filter fun entry => entry.age now ≤ timeToLive

/-- The entry that a look-up may use. -/
def usable? (map : RevisionMap α) (now timeToLive : Nat) (uri : Uri) (revision : Int) :
    Option (Entry α) :=
  (map.liveAt now timeToLive uri).filter fun entry => entry.revision = revision

/-- A look-up uses the entry it may use, or else stores one. -/
theorem fetch_cases (map : RevisionMap α) (limits : CacheLimits) (now : Nat) (uri : Uri)
    (revision : Int) (compute : Unit → α) :
    let fetched := map.fetch limits now uri revision compute
    let isHit := (map.lookup uri revision now limits.timeToLive).isHit
    (∃ entry, map.usable? now limits.timeToLive uri revision = some entry ∧ isHit = true ∧
        fetched.value = entry.value ∧ fetched.map = map) ∨
      map.usable? now limits.timeToLive uri revision = none ∧ isHit = false ∧
        fetched.value = compute () ∧
        fetched.map = (map.insert ⟨uri, revision, compute (), now⟩ limits.capacity).1 := by
  have stored := map.insert_erase ⟨uri, revision, compute (), now⟩ limits.capacity
  simp only [fetch, lookup, usable?, liveAt]
  cases map.find? uri with
  | none => exact .inr ⟨rfl, rfl, rfl, rfl⟩
  | some entry =>
    by_cases expired : limits.timeToLive < entry.age now
    · simp [expired, Nat.not_le.2 expired, Lookup.isHit, congrArg Prod.fst stored]
    · by_cases same : entry.revision = revision
      · simp [expired, same, Nat.not_lt.1 expired, Lookup.isHit]
      · simp [expired, same, Nat.not_lt.1 expired, Lookup.isHit]

/-- Where the documents are no more than the capacity, storing an entry changes nothing else. -/
theorem find?_insert_of_card_le (within : map.documents ⊆ touched) {entry : Entry α}
    (member : entry.uri ∈ touched) {capacity : Nat} (few : touched.card ≤ capacity)
    (other : Uri) :
    (map.insert entry capacity).1.find? other =
      if other = entry.uri then some entry else map.find? other := by
  obtain ⟨gone, stored, counted⟩ := map.exists_storedWith_insert entry capacity
  have fits : (map.erase entry.uri).size + 1 ≤ capacity := by
    rw [← card_documents_union]
    exact (Finset.card_le_card (Finset.union_subset within (by simpa using member))).trans few
  rw [evicted_insert, if_pos fits, Finset.card_eq_zero] at counted
  split
  · next own => rw [own, stored.present]
  · next different => exact stored.kept other (by simp [counted]) different

/-- Two maps of which a reader sees the same, and no documents but some. -/
structure Alike (limits : CacheLimits) (touched : Finset Uri) (now : Nat)
    (first second : RevisionMap α) : Prop where
  live : ∀ uri, first.liveAt now limits.timeToLive uri = second.liveAt now limits.timeToLive uri
  firstWithin : first.documents ⊆ touched
  secondWithin : second.documents ⊆ touched

theorem liveAt_restrict (map : RevisionMap α) (isKept : Entry α → Bool) (now timeToLive : Nat)
    (uri : Uri) :
    (map.restrict isKept).liveAt now timeToLive uri =
      (map.liveAt now timeToLive uri).filter isKept := by
  rw [liveAt, liveAt, find?_restrict, Option.filter_filter, Option.filter_filter]
  simp only [Bool.and_comm]

theorem documents_restrict_subset (map : RevisionMap α) (isKept : Entry α → Bool) :
    (map.restrict isKept).documents ⊆ map.documents := by
  intro uri member
  obtain ⟨entry, found⟩ := mem_documents_iff.1 member
  rw [find?_restrict, Option.filter_eq_some_iff] at found
  exact mem_documents_iff.2 ⟨entry, found.1⟩

namespace Alike

theorem empty (limits : CacheLimits) (touched : Finset Uri) (now : Nat) :
    (RevisionMap.empty : RevisionMap α).Alike limits touched now .empty :=
  ⟨fun _ => rfl, Finset.empty_subset _, Finset.empty_subset _⟩

/-- What is over at one time is over later. -/
theorem later (alike : first.Alike limits touched now second) {time : Nat} (passed : now ≤ time) :
    first.Alike limits touched time second := by
  have narrowed (map : RevisionMap α) (uri : Uri) : map.liveAt time limits.timeToLive uri =
      (map.liveAt now limits.timeToLive uri).filter fun entry =>
        entry.age time ≤ limits.timeToLive := by
    rw [liveAt, liveAt, Option.filter_filter]
    congr 1
    funext entry
    rw [Bool.eq_iff_iff, Bool.and_eq_true, decide_eq_true_eq, decide_eq_true_eq, Entry.age,
      Entry.age]
    omega
  exact ⟨fun uri => by rw [narrowed, narrowed, alike.live], alike.firstWithin, alike.secondWithin⟩

theorem restrict (alike : first.Alike limits touched now second) (isKept : Entry α → Bool) :
    (first.restrict isKept).Alike limits touched now (second.restrict isKept) where
  live := fun uri => by rw [liveAt_restrict, liveAt_restrict, alike.live]
  firstWithin := (documents_restrict_subset _ _).trans alike.firstWithin
  secondWithin := (documents_restrict_subset _ _).trans alike.secondWithin

/-- A sweep drops nothing that a reader sees. -/
theorem sweep (alike : first.Alike limits touched now second) :
    (first.sweep now limits.timeToLive).Alike limits touched now second where
  live := by
    intro uri
    rw [RevisionMap.sweep, liveAt_restrict, alike.live, liveAt, Option.filter_filter]
    simp only [Bool.and_self]
  firstWithin := (documents_restrict_subset _ _).trans alike.firstWithin
  secondWithin := alike.secondWithin

theorem insert (alike : first.Alike limits touched now second) {entry : Entry α}
    (member : entry.uri ∈ touched) (few : touched.card ≤ limits.capacity) :
    (first.insert entry limits.capacity).1.Alike limits touched now
      (second.insert entry limits.capacity).1 := by
  have documents {map : RevisionMap α} (within : map.documents ⊆ touched) :
      (map.insert entry limits.capacity).1.documents ⊆ touched := by
    intro uri found
    rw [mem_documents_iff, find?_insert_of_card_le within member few] at found
    split at found
    · next own => exact own ▸ member
    · exact within (mem_documents_iff.2 found)
  refine ⟨?_, documents alike.firstWithin, documents alike.secondWithin⟩
  intro uri
  have seen := alike.live uri
  rw [liveAt, liveAt] at seen ⊢
  rw [find?_insert_of_card_le alike.firstWithin member few,
    find?_insert_of_card_le alike.secondWithin member few]
  split
  · rfl
  · exact seen

/-- A look-up answers alike in both maps and leaves them alike. -/
theorem fetch (alike : first.Alike limits touched now second) (member : uri ∈ touched)
    (few : touched.card ≤ limits.capacity) (revision : Int) (compute : Unit → α) :
    (first.lookup uri revision now limits.timeToLive).isHit =
        (second.lookup uri revision now limits.timeToLive).isHit ∧
      (first.fetch limits now uri revision compute).value =
        (second.fetch limits now uri revision compute).value ∧
      (first.fetch limits now uri revision compute).map.Alike limits touched now
        (second.fetch limits now uri revision compute).map := by
  have usable : first.usable? now limits.timeToLive uri revision =
      second.usable? now limits.timeToLive uri revision := by
    rw [usable?, usable?, alike.live]
  rcases first.fetch_cases limits now uri revision compute with
    ⟨entry, found, hit, value, map⟩ | ⟨none, hit, value, map⟩
  · rcases second.fetch_cases limits now uri revision compute with
      ⟨other, otherFound, otherHit, otherValue, otherMap⟩ | ⟨otherNone, _⟩
    · obtain rfl : entry = other := Option.some.inj (found.symm.trans (usable.trans otherFound))
      rw [hit, otherHit, value, otherValue, map, otherMap]
      exact ⟨rfl, rfl, alike⟩
    · rw [usable, otherNone] at found
      cases found
  · rcases second.fetch_cases limits now uri revision compute with
      ⟨other, otherFound, _⟩ | ⟨_, otherHit, otherValue, otherMap⟩
    · rw [usable, otherFound] at none
      cases none
    · rw [hit, otherHit, value, otherValue, map, otherMap]
      exact ⟨rfl, rfl, alike.insert member few⟩

end Alike

end RevisionMap

namespace Cache

namespace Operation

/-- Whether an operation is a sweep. -/
def isSweep : Operation → Bool
  | sweep _ => true
  | _ => false

/-- Whether an operation changes the limits. -/
def isReconfigure : Operation → Bool
  | reconfigure _ _ => true
  | _ => false

/-- The readings of the clock that an operation makes. -/
def times : Operation → List Nat
  | analyze _ _ _ parsedAt indexedAt => [parsedAt, indexedAt]
  | fragments _ _ _ now => [now]
  | symbols _ _ _ now => [now]
  | sweep now => [now]
  | _ => []

/-- The document that an operation looks up. -/
def lookedUp : Operation → List Uri
  | analyze uri _ _ _ _ => [uri]
  | fragments uri _ _ _ => [uri]
  | symbols uri _ _ _ => [uri]
  | _ => []

end Operation

/-- What the look-ups of one operation return, and whether they were hits. -/
def answersTo (cache : Cache) : Operation → List (Value × Bool)
  | .analyze uri revision text parsedAt indexedAt =>
    let analysis := (cache.analyzeBetween parsedAt indexedAt uri revision text).1
    [(.fragments analysis.fragments,
        (cache.fragments.lookup uri revision parsedAt cache.limits.timeToLive).isHit),
      (.symbols analysis.index,
        (cache.symbols.lookup uri revision indexedAt cache.limits.timeToLive).isHit)]
  | .fragments uri revision text now =>
    [((cache.perform (.fragments uri revision text now)).1,
      (cache.fragments.lookup uri revision now cache.limits.timeToLive).isHit)]
  | .symbols uri revision text now =>
    [((cache.perform (.symbols uri revision text now)).1,
      (cache.symbols.lookup uri revision now cache.limits.timeToLive).isHit)]
  | _ => []

/-- What the look-ups of a run return, one after the other, and whether they were hits. -/
def answers (cache : Cache) : List Operation → List (Value × Bool)
  | [] => []
  | operation :: rest => cache.answersTo operation ++ (cache.perform operation).2.answers rest

/-- Two caches of which a reader sees the same, and no documents but some. -/
structure Alike (limits : CacheLimits) (touched : Finset Uri) (now : Nat) (first second : Cache) :
    Prop where
  firstLimits : first.limits = limits
  secondLimits : second.limits = limits
  fragments : first.fragments.Alike limits touched now second.fragments
  symbols : first.symbols.Alike limits touched now second.symbols

variable {limits : CacheLimits} {touched : Finset Uri} {now : Nat} {first second : Cache}

namespace Alike

theorem new (limits : CacheLimits) (thresholds : Thresholds) (touched : Finset Uri) (now : Nat) :
    (Cache.new limits thresholds).Alike limits touched now (Cache.new limits thresholds) :=
  ⟨rfl, rfl, .empty limits touched now, .empty limits touched now⟩

theorem later (alike : first.Alike limits touched now second) {time : Nat} (passed : now ≤ time) :
    first.Alike limits touched time second :=
  { alike with fragments := alike.fragments.later passed, symbols := alike.symbols.later passed }

theorem sweep (alike : first.Alike limits touched now second) :
    (first.sweep now).1.Alike limits touched now second where
  firstLimits := alike.firstLimits
  secondLimits := alike.secondLimits
  fragments := by
    rw [← alike.firstLimits]
    exact (alike.firstLimits ▸ alike.fragments).sweep
  symbols := by
    rw [← alike.firstLimits]
    exact (alike.firstLimits ▸ alike.symbols).sweep

theorem invalidate (alike : first.Alike limits touched now second) (uri : Uri) :
    (first.invalidate uri).Alike limits touched now (second.invalidate uri) :=
  { alike with fragments := alike.fragments.restrict _, symbols := alike.symbols.restrict _ }

theorem invalidateAll (alike : first.Alike limits touched now second) :
    first.invalidateAll.Alike limits touched now second.invalidateAll :=
  { alike with fragments := .empty limits touched now, symbols := .empty limits touched now }

theorem fetchFragments (alike : first.Alike limits touched now second) {uri : Uri}
    (member : uri ∈ touched) (few : touched.card ≤ limits.capacity) (revision : Int)
    (compute : Unit → List Fragment) :
    (first.fragments.lookup uri revision now limits.timeToLive).isHit =
        (second.fragments.lookup uri revision now limits.timeToLive).isHit ∧
      (first.fetchFragments now uri revision compute).1 =
        (second.fetchFragments now uri revision compute).1 ∧
      (first.fetchFragments now uri revision compute).2.Alike limits touched now
        (second.fetchFragments now uri revision compute).2 := by
  obtain ⟨hit, value, map⟩ := alike.fragments.fetch member few revision compute
  simp only [Cache.fetchFragments, alike.firstLimits, alike.secondLimits]
  exact ⟨hit, value, rfl, rfl, map, alike.symbols⟩

theorem fetchSymbols (alike : first.Alike limits touched now second) {uri : Uri}
    (member : uri ∈ touched) (few : touched.card ≤ limits.capacity) (revision : Int)
    (compute : Unit → SymbolIndex) :
    (first.symbols.lookup uri revision now limits.timeToLive).isHit =
        (second.symbols.lookup uri revision now limits.timeToLive).isHit ∧
      (first.fetchSymbols now uri revision compute).1 =
        (second.fetchSymbols now uri revision compute).1 ∧
      (first.fetchSymbols now uri revision compute).2.Alike limits touched now
        (second.fetchSymbols now uri revision compute).2 := by
  obtain ⟨hit, value, map⟩ := alike.symbols.fetch member few revision compute
  simp only [Cache.fetchSymbols, alike.firstLimits, alike.secondLimits]
  exact ⟨hit, value, rfl, rfl, alike.fragments, map⟩

/-- An operation that is no sweep answers alike in both caches and leaves them alike. -/
theorem perform (alike : first.Alike limits touched now second)
    (few : touched.card ≤ limits.capacity) {operation : Operation}
    (clock : (now :: operation.times).Pairwise (· ≤ ·))
    (looks : ∀ uri ∈ operation.lookedUp, uri ∈ touched)
    (keeps : operation.isReconfigure = false) (other : operation.isSweep = false) :
    first.answersTo operation = second.answersTo operation ∧
      (first.perform operation).2.Alike limits touched (operation.times.getLast?.getD now)
        (second.perform operation).2 := by
  obtain ⟨after, _⟩ := List.pairwise_cons.1 clock
  cases operation with
  | analyze uri revision text parsedAt indexedAt =>
    have member := looks uri (by simp [Operation.lookedUp])
    have parsed := alike.later (after parsedAt (by simp [Operation.times]))
    obtain ⟨hit, fragments, left⟩ :=
      parsed.fetchFragments member few revision fun _ => Fragment.extract text
    have between : parsedAt ≤ indexedAt := by simpa [Operation.times] using clock.tail
    obtain ⟨symbolsHit, index, behind⟩ := (left.later between).fetchSymbols member few revision
      fun _ => Analysis.indexOf
        (second.fetchFragments parsedAt uri revision fun _ => Fragment.extract text).1
    simp only [answersTo, analyzeBetween, Cache.perform, alike.firstLimits, alike.secondLimits,
      hit, fragments, index]
    exact ⟨congrArg (fun isHit => [_, (_, isHit)]) symbolsHit, behind⟩
  | fragments uri revision text time =>
    have member := looks uri (by simp [Operation.lookedUp])
    have current := alike.later (after time (by simp [Operation.times]))
    obtain ⟨hit, value, left⟩ :=
      current.fetchFragments member few revision fun _ => Fragment.extract text
    simp only [answersTo, alike.firstLimits, alike.secondLimits, hit, Cache.perform, value]
    exact ⟨trivial, left⟩
  | symbols uri revision text time =>
    have member := looks uri (by simp [Operation.lookedUp])
    have current := alike.later (after time (by simp [Operation.times]))
    obtain ⟨hit, value, left⟩ := current.fetchSymbols member few revision
      fun _ => Analysis.indexOf (Fragment.extract text)
    simp only [answersTo, alike.firstLimits, alike.secondLimits, hit, Cache.perform, value]
    exact ⟨trivial, left⟩
  | invalidate uri => exact ⟨rfl, alike.invalidate uri⟩
  | invalidateAll => exact ⟨rfl, alike.invalidateAll⟩
  | sweep time => cases other
  | reconfigure limits thresholds => cases keeps

end Alike

/-- The clock goes on from the last reading of an operation. -/
theorem pairwise_of_append {times rest : List Nat}
    (clock : (now :: (times ++ rest)).Pairwise (· ≤ ·)) :
    (times.getLast?.getD now :: rest).Pairwise (· ≤ ·) := by
  obtain ⟨after, sorted⟩ := List.pairwise_cons.1 clock
  obtain ⟨_, later, between⟩ := List.pairwise_append.1 sorted
  refine List.pairwise_cons.2 ⟨?_, later⟩
  intro time member
  cases last : times.getLast? with
  | none => exact after time (List.mem_append_right _ member)
  | some reading => exact between reading (List.mem_of_getLast? last) time member

/-- A run answers like the same run without its sweeps in a cache of which readers see the same. -/
theorem Alike.answers (alike : first.Alike limits touched now second)
    (few : touched.card ≤ limits.capacity) {operations : List Operation}
    (keep : ∀ operation ∈ operations, operation.isReconfigure = false)
    (clock : (now :: operations.flatMap Operation.times).Pairwise (· ≤ ·))
    (looks : ∀ uri ∈ operations.flatMap Operation.lookedUp, uri ∈ touched) :
    first.answers operations =
      second.answers (operations.filter fun operation => !operation.isSweep) := by
  induction operations generalizing first second now with
  | nil => rfl
  | cons operation rest ih =>
    obtain ⟨keeps, others⟩ := List.forall_mem_cons.1 keep
    rw [List.flatMap_cons] at clock looks
    have onwards := pairwise_of_append clock
    have looksLater : ∀ uri ∈ rest.flatMap Operation.lookedUp, uri ∈ touched :=
      fun uri member => looks uri (List.mem_append_right _ member)
    cases swept : operation.isSweep with
    | true =>
      cases operation with
      | sweep time =>
        have passed : now ≤ time :=
          (List.pairwise_cons.1 clock).1 time (by simp [Operation.times])
        exact ih (alike.later passed).sweep others onwards looksLater
      | _ => cases swept
    | false =>
      have sorted : (now :: operation.times).Pairwise (· ≤ ·) :=
        clock.sublist ((List.sublist_append_left _ _).cons_cons now)
      obtain ⟨same, left⟩ := alike.perform few sorted
        (fun uri member => looks uri (List.mem_append_left _ member)) keeps swept
      have filtered : ((operation :: rest).filter fun operation => !operation.isSweep) =
          operation :: rest.filter fun operation => !operation.isSweep := by simp [swept]
      rw [filtered, Cache.answers, Cache.answers, same, ih left others onwards looksLater]

theorem limits_afterAll (cache : Cache) {operations : List Operation}
    (keep : ∀ operation ∈ operations, operation.isReconfigure = false) :
    (cache.afterAll operations).limits = cache.limits := by
  induction operations generalizing cache with
  | nil => rfl
  | cons operation rest ih =>
    obtain ⟨keeps, others⟩ := List.forall_mem_cons.1 keep
    have first : (cache.perform operation).2.limits = cache.limits := by
      cases operation with
      | reconfigure limits thresholds => cases keeps
      | _ => rfl
    exact (ih (cache.perform operation).2 others).trans first

/-- Let the clock never go back, and let no more documents be looked up than the capacity.  Then all
look-ups of a run from an empty cache return the same and are the same hits and misses if the sweeps
of the run are left out, and behind each sweep exactly those entries are left whose time is not
over. -/
theorem sweeps_change_no_answer (limits : CacheLimits) (thresholds : Thresholds)
    {operations : List Operation}
    (keep : ∀ operation ∈ operations, operation.isReconfigure = false)
    (clock : (operations.flatMap Operation.times).Pairwise (· ≤ ·))
    (few : (operations.flatMap Operation.lookedUp).toFinset.card ≤ limits.capacity) :
    (new limits thresholds).answers operations =
        (new limits thresholds).answers (operations.filter fun operation => !operation.isSweep) ∧
      ∀ earlier now later, operations = earlier ++ .sweep now :: later →
        let before := (new limits thresholds).afterAll earlier
        let after := (new limits thresholds).afterAll (earlier ++ [.sweep now])
        (∀ entry, entry ∈ after.fragments.entries ↔
          entry ∈ before.fragments.entries ∧ entry.age now ≤ limits.timeToLive) ∧
        ∀ entry, entry ∈ after.symbols.entries ↔
          entry ∈ before.symbols.entries ∧ entry.age now ≤ limits.timeToLive := by
  constructor
  · have sorted : (0 :: operations.flatMap Operation.times).Pairwise (· ≤ ·) :=
      List.pairwise_cons.2 ⟨fun _ _ => Nat.zero_le _, clock⟩
    exact (Alike.new limits thresholds _ 0).answers few keep sorted
      fun uri member => List.mem_toFinset.2 member
  · rintro earlier now later rfl before after
    have unchanged : before.limits = limits :=
      limits_afterAll _ fun operation member => keep operation (List.mem_append_left _ member)
    have swept : after = (before.sweep now).1 := by
      simp [after, before, afterAll, perform]
    rw [swept]
    simp [sweep, RevisionMap.sweep, RevisionMap.restrict, unchanged]

/-- An entry is as old as it may be when it is swept first and used, and a moment older when it is
swept again and missed. -/
theorem sweeps_change_no_answer_at_expiry :
    let first : Uri := ⟨"file:///a.ejs"⟩
    let second : Uri := ⟨"file:///b.ejs"⟩
    let operations : List Operation :=
      [.fragments first 1 [] 0, .sweep 10, .analyze first 1 [] 10 10, .sweep 11,
        .fragments first 1 [] 11, .invalidate second, .symbols second 1 [] 12]
    let cache := new ⟨2, 10, 1⟩ .standard
    (∀ operation ∈ operations, operation.isReconfigure = false) ∧
      (operations.flatMap Operation.times).Pairwise (· ≤ ·) ∧
      (operations.flatMap Operation.lookedUp).toFinset.card ≤ 2 ∧
      (cache.answers operations).map Prod.snd = [false, true, false, false, false] ∧
      cache.answers operations =
        cache.answers (operations.filter fun operation => !operation.isSweep) := by
  intro first second operations cache
  have keep : ∀ operation ∈ operations, operation.isReconfigure = false := by
    simp [operations, Operation.isReconfigure]
  have clock : (operations.flatMap Operation.times).Pairwise (· ≤ ·) := by decide
  have few : (operations.flatMap Operation.lookedUp).toFinset.card ≤ 2 := by decide
  exact ⟨keep, clock, few, by cbv, (sweeps_change_no_answer _ _ keep clock few).1⟩

end Cache

end TemplateNav
