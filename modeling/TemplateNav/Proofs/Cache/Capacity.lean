import Mathlib.Data.Fintype.EquivFin
import TemplateNav.Proofs.Cache.Eviction

/-!
# When a cache stays within its capacity

Storing an entry evicts a fifth of a map that is over its capacity and no more.  That
is enough for a map that was within its capacity before, so a map outgrows its
capacity only if the capacity is lowered while the map holds entries.  How far it may
be lowered is decided by one comparison: four fifths of the entries, with the next one
among them, have to fit.  A map without that room is over its capacity as soon as a
document is stored that it does not hold.
-/

namespace TemplateNav

namespace RevisionMap

variable {α : Type} {map before after : RevisionMap α} {capacity : Nat}

/-- Four fifths of the entries, with one more among them, are within a capacity. -/
def HasRoom (map : RevisionMap α) (capacity : Nat) : Prop :=
  4 * (map.size + 1) < 5 * (max 1 capacity + 1)

/-- If an entry was stored in between, the second map is within a capacity. -/
def StoresWithin (before after : RevisionMap α) (capacity : Nat) : Prop :=
  ¬ before.Shrinks after → after.size ≤ max 1 capacity

/-- A map either loses entries at most, or one is stored in it. -/
def Stepped (before after : RevisionMap α) (capacity : Nat) : Prop :=
  before.Shrinks after ∨ ∃ entry, after = (before.insert entry capacity).1

theorem size_le_of_shrinks (shrinks : before.Shrinks after) : after.size ≤ before.size := by
  rw [← card_documents, ← card_documents]
  apply Finset.card_le_card
  intro uri member
  obtain ⟨entry, found⟩ := mem_documents_iff.1 member
  obtain ⟨listed, named⟩ := find?_eq_some_iff.1 found
  exact mem_documents_iff.2 ⟨entry, find?_eq_some_iff.2 ⟨shrinks entry listed, named⟩⟩

theorem hasRoom_of_size_le (within : map.size ≤ max 1 capacity) : map.HasRoom capacity := by
  rw [HasRoom]
  omega

theorem HasRoom.size_insert_le (room : map.HasRoom capacity) (entry : Entry α) :
    (map.insert entry capacity).1.size ≤ max 1 capacity := by
  apply (map.size_insert_le_iff entry capacity).2
  have others := map.size_erase_le entry.uri
  rw [HasRoom] at room
  omega

/-- Storing an entry never makes a map larger than its capacity, unless it was. -/
theorem size_insert_le_max (map : RevisionMap α) (entry : Entry α) (capacity : Nat) :
    (map.insert entry capacity).1.size ≤ max map.size (max 1 capacity) := by
  have sizes := map.size_insert entry capacity
  have others := map.size_erase_le entry.uri
  have evicted := map.evicted_insert entry capacity
  split at evicted
  · omega
  · rw [evictionCount] at evicted
    omega

theorem Stepped.hasRoom (stepped : before.Stepped after capacity) (room : before.HasRoom capacity) :
    after.HasRoom capacity := by
  rcases stepped with shrinks | ⟨entry, rfl⟩
  · have sizes := size_le_of_shrinks shrinks
    rw [HasRoom] at room ⊢
    omega
  · exact hasRoom_of_size_le (room.size_insert_le entry)

theorem Stepped.storesWithin (stepped : before.Stepped after capacity)
    (room : before.HasRoom capacity) : before.StoresWithin after capacity := by
  intro stores
  rcases stepped with shrinks | ⟨entry, rfl⟩
  · exact absurd shrinks stores
  · exact room.size_insert_le entry

theorem Stepped.size_le (stepped : before.Stepped after capacity) :
    after.size ≤ max before.size (max 1 capacity) := by
  rcases stepped with shrinks | ⟨entry, rfl⟩
  · exact Nat.le_trans (size_le_of_shrinks shrinks) (Nat.le_max_left _ _)
  · exact before.size_insert_le_max entry capacity

theorem stepped_fetch (map : RevisionMap α) (limits : CacheLimits) (now : Nat) (uri : Uri)
    (revision : Int) (compute : Unit → α) :
    map.Stepped (map.fetch limits now uri revision compute).map limits.capacity := by
  unfold fetch
  split
  · exact .inl (Shrinks.refl map)
  · exact .inr ⟨_, rfl⟩
  · have stored := map.insert_erase ⟨uri, revision, compute (), now⟩ limits.capacity
    exact .inr ⟨⟨uri, revision, compute (), now⟩, congrArg Prod.fst stored⟩

/-- A document without an entry shows whether there is room. -/
theorem hasRoom_of_storesWithin_fetch {limits : CacheLimits} {uri : Uri}
    (absent : uri ∉ map.documents) (now : Nat) (revision : Int) (compute : Unit → α)
    (within : map.StoresWithin (map.fetch limits now uri revision compute).map limits.capacity) :
    map.HasRoom limits.capacity := by
  have missing : map.find? uri = none := by
    cases found : map.find? uri with
    | none => rfl
    | some entry => exact absurd (mem_documents_iff.2 ⟨entry, found⟩) absent
  have stored : (map.fetch limits now uri revision compute).map =
      (map.insert ⟨uri, revision, compute (), now⟩ limits.capacity).1 := by
    rw [fetch, lookup, missing]
  obtain ⟨gone, stores, _⟩ :=
    map.exists_storedWith_insert ⟨uri, revision, compute (), now⟩ limits.capacity
  have others : (map.erase uri).size = map.size := by
    rw [← card_documents, documents_erase, Finset.erase_eq_of_notMem absent, card_documents]
  rw [HasRoom, ← others]
  apply (map.size_insert_le_iff ⟨uri, revision, compute (), now⟩ limits.capacity).1
  rw [stored] at within
  apply within
  intro shrinks
  obtain ⟨listed, named⟩ := find?_eq_some_iff.1 stores.present
  exact absent (mem_documents_iff.2 ⟨_, find?_eq_some_iff.2 ⟨shrinks _ listed, named⟩⟩)

end RevisionMap

instance : Infinite Uri :=
  Infinite.of_injective (fun text : List Char => Uri.mk (String.ofList text)) fun _ _ same =>
    String.ofList_injective (Uri.mk.inj same)

namespace Cache

variable {cache before after : Cache} {call : Call}

/-- The limits that a call sets. -/
def Call.limits? : Call → Option CacheLimits
  | .reconfigure limits _ => some limits
  | _ => none

/-- Both maps have room for another entry. -/
structure HasRoom (cache : Cache) : Prop where
  fragments : cache.fragments.HasRoom cache.limits.capacity
  symbols : cache.symbols.HasRoom cache.limits.capacity

/-- Each map that an entry was stored in since is within the capacity. -/
structure StoresWithin (before after : Cache) : Prop where
  fragments : before.fragments.StoresWithin after.fragments after.limits.capacity
  symbols : before.symbols.StoresWithin after.symbols after.limits.capacity

/-- Behind each call of a run, the maps that it has stored an entry in are within the capacity. -/
def StoresWithinAlong (cache : Cache) : List Call → Prop
  | [] => True
  | call :: rest =>
    cache.StoresWithin (cache.afterCall call) ∧ (cache.afterCall call).StoresWithinAlong rest

theorem limits_afterCall (cache : Cache) (call : Call) :
    (cache.afterCall call).limits = call.limits?.getD cache.limits := by
  cases call with
  | command readUri name arguments =>
    rcases cache.execute_cases readUri name arguments with same | all | ⟨uri, one⟩
    · rw [afterCall, same]
      rfl
    · rw [afterCall, all]
      rfl
    · rw [afterCall, one]
      rfl
  | _ => rfl

/-- What one call does to the two maps. -/
theorem stepped_afterCall (cache : Cache) (call : Call) :
    cache.fragments.Stepped (cache.afterCall call).fragments cache.limits.capacity ∧
      cache.symbols.Stepped (cache.afterCall call).symbols cache.limits.capacity := by
  have fragmentsSame := RevisionMap.Shrinks.refl cache.fragments
  have symbolsSame := RevisionMap.Shrinks.refl cache.symbols
  cases call with
  | fetchFragments uri revision now computed =>
    exact ⟨RevisionMap.stepped_fetch _ _ _ _ _ _, .inl symbolsSame⟩
  | fetchSymbols uri revision now computed =>
    exact ⟨.inl fragmentsSame, RevisionMap.stepped_fetch _ _ _ _ _ _⟩
  | analyze uri revision text parsedAt indexedAt =>
    exact ⟨RevisionMap.stepped_fetch _ _ _ _ _ _, RevisionMap.stepped_fetch _ _ _ _ _ _⟩
  | sweep now =>
    exact ⟨.inl (RevisionMap.shrinks_restrict _ _), .inl (RevisionMap.shrinks_restrict _ _)⟩
  | invalidate uri =>
    exact ⟨.inl (RevisionMap.shrinks_restrict _ _), .inl (RevisionMap.shrinks_restrict _ _)⟩
  | invalidateAll =>
    exact ⟨.inl (RevisionMap.shrinks_empty _), .inl (RevisionMap.shrinks_empty _)⟩
  | command readUri name arguments =>
    rcases cache.execute_cases readUri name arguments with same | all | ⟨uri, one⟩
    · rw [afterCall, same]
      exact ⟨.inl fragmentsSame, .inl symbolsSame⟩
    · rw [afterCall, all]
      exact ⟨.inl (RevisionMap.shrinks_empty _), .inl (RevisionMap.shrinks_empty _)⟩
    · rw [afterCall, one]
      exact ⟨.inl (RevisionMap.shrinks_restrict _ _), .inl (RevisionMap.shrinks_restrict _ _)⟩
  | reconfigure limits thresholds => exact ⟨.inl fragmentsSame, .inl symbolsSame⟩
  | recordLatency sample => exact ⟨.inl fragmentsSame, .inl symbolsSame⟩

/-- A call that sets no limits stores within the capacity where there is room, and leaves room. -/
theorem HasRoom.afterCall (room : cache.HasRoom) (keeps : call.limits? = none) :
    (cache.afterCall call).HasRoom ∧ cache.StoresWithin (cache.afterCall call) := by
  obtain ⟨fragments, symbols⟩ := cache.stepped_afterCall call
  have limits : (cache.afterCall call).limits = cache.limits := by
    rw [limits_afterCall, keeps, Option.getD_none]
  constructor
  · constructor
    · rw [limits]
      exact fragments.hasRoom room.fragments
    · rw [limits]
      exact symbols.hasRoom room.symbols
  · constructor
    · rw [limits]
      exact fragments.storesWithin room.fragments
    · rw [limits]
      exact symbols.storesWithin room.symbols

theorem HasRoom.storesWithinAlong (room : cache.HasRoom) {calls : List Call}
    (keep : ∀ call ∈ calls, call.limits? = none) : cache.StoresWithinAlong calls := by
  induction calls generalizing cache with
  | nil => trivial
  | cons call rest ih =>
    obtain ⟨first, others⟩ := List.forall_mem_cons.1 keep
    obtain ⟨left, within⟩ := room.afterCall first
    exact ⟨within, ih left others⟩

/-- Where every run stores within the capacity there is room, which a document shows that neither
map holds. -/
theorem hasRoom_of_storesWithinAlong
    (within : ∀ calls : List Call, (∀ call ∈ calls, call.limits? = none) →
      cache.StoresWithinAlong calls) : cache.HasRoom := by
  obtain ⟨uri, fresh⟩ :=
    Infinite.exists_notMem_finset (cache.fragments.documents ∪ cache.symbols.documents)
  rw [Finset.notMem_union] at fresh
  have fragments := within [.fetchFragments uri 0 0 []] (by simp [Call.limits?])
  have symbols := within [.fetchSymbols uri 0 0 ⟨[]⟩] (by simp [Call.limits?])
  exact ⟨RevisionMap.hasRoom_of_storesWithin_fetch fresh.1 _ _ _ fragments.1.fragments,
    RevisionMap.hasRoom_of_storesWithin_fetch fresh.2 _ _ _ symbols.1.symbols⟩

/-- No map outgrows every capacity that was in force. -/
theorem size_afterCalls_le {bound : Nat} {calls : List Call} (cache : Cache)
    (fragments : cache.fragments.size ≤ max 1 bound) (symbols : cache.symbols.size ≤ max 1 bound)
    (now : cache.limits.capacity ≤ bound)
    (later : ∀ call ∈ calls, ∀ limits ∈ call.limits?, limits.capacity ≤ bound) :
    (cache.afterCalls calls).fragments.size ≤ max 1 bound ∧
      (cache.afterCalls calls).symbols.size ≤ max 1 bound := by
  induction calls generalizing cache with
  | nil => exact ⟨fragments, symbols⟩
  | cons call rest ih =>
    obtain ⟨first, others⟩ := List.forall_mem_cons.1 later
    obtain ⟨fragmentsStep, symbolsStep⟩ := cache.stepped_afterCall call
    have fragmentsLe := fragmentsStep.size_le
    have symbolsLe := symbolsStep.size_le
    refine ih (cache.afterCall call) (by omega) (by omega) ?_ others
    rw [limits_afterCall]
    cases set : call.limits? with
    | none => exact now
    | some limits => exact first limits set

/-- Whatever was called before, all entries that calls store from then on with the limits as they
are leave their map within the capacity exactly if both maps have room.  A new cache has room, and
no map ever holds more entries than the largest capacity that was in force. -/
theorem stores_within_capacity_iff_room (limits : CacheLimits) (thresholds : Thresholds)
    (calls : List Call) :
    let cache := (new limits thresholds).afterCalls calls
    (new limits thresholds).HasRoom ∧
      (cache.HasRoom ↔ ∀ later : List Call, (∀ call ∈ later, call.limits? = none) →
        cache.StoresWithinAlong later) ∧
      ∀ bound, limits.capacity ≤ bound →
        (∀ call ∈ calls, ∀ set ∈ call.limits?, set.capacity ≤ bound) →
        cache.fragments.size ≤ max 1 bound ∧ cache.symbols.size ≤ max 1 bound := by
  intro cache
  have empty : (new limits thresholds).HasRoom :=
    ⟨RevisionMap.hasRoom_of_size_le (Nat.zero_le _), RevisionMap.hasRoom_of_size_le (Nat.zero_le _)⟩
  refine ⟨empty, ⟨fun room later keep => room.storesWithinAlong keep, ?_⟩, ?_⟩
  · exact hasRoom_of_storesWithinAlong
  · intro bound first later
    exact (new limits thresholds).size_afterCalls_le (Nat.zero_le _) (Nat.zero_le _) first later

/-- Two entries leave no room under a capacity of one: two of three are left when one is evicted,
and the map holds no more than the larger capacity of before. -/
theorem stores_within_capacity_iff_room_when_lowered :
    let calls : List Call :=
      [.fetchFragments ⟨"file:///a.ejs"⟩ 1 0 [], .fetchFragments ⟨"file:///b.ejs"⟩ 1 1 [],
        .reconfigure ⟨1, 10, 1⟩ .standard]
    let cache := (new ⟨2, 10, 1⟩ .standard).afterCalls calls
    let stored := cache.afterCall (.fetchFragments ⟨"file:///c.ejs"⟩ 1 2 [])
    stored.limits.capacity = 1 ∧ stored.fragments.size = 2 ∧ ¬ cache.HasRoom ∧
      ¬ (∀ later : List Call, (∀ call ∈ later, call.limits? = none) →
        cache.StoresWithinAlong later) ∧
      cache.fragments.size ≤ 2 := by
  intro calls cache stored
  obtain ⟨_, room, bounded⟩ := stores_within_capacity_iff_room ⟨2, 10, 1⟩ .standard calls
  have crowded : ¬ cache.HasRoom := by
    intro room
    have within : 4 * (cache.fragments.size + 1) < 5 * (max 1 cache.limits.capacity + 1) :=
      room.fragments
    exact absurd within (by decide +kernel)
  have bound := bounded 2 (Nat.le_refl 2) (by simp [calls, Call.limits?])
  exact ⟨by cbv, by cbv, crowded, fun within => crowded (room.2 within), bound.1⟩

end Cache

end TemplateNav
