import Mathlib.Algebra.Order.Floor.Div
import Mathlib.Data.Finset.Card
import Mathlib.Data.List.Permutation
import Mathlib.GroupTheory.GroupAction.Ring
import TemplateNav.Proofs.Cache.Accounting

/-!
# Which entries make room

A map lists its entries in some order, but no document has two of them, so what the
map holds is a partial function from documents to entries.  Storing an entry changes
that function at the document of the entry and, if the map is over its capacity
then, at the documents of the oldest fifth of the other entries.  The order of the
list only decides which of several equally old entries go.
-/

namespace TemplateNav

namespace RevisionMap

variable {α : Type}

/-- The documents that have an entry. -/
def documents (map : RevisionMap α) : Finset Uri :=
  (map.entries.map Entry.uri).toFinset

theorem find?_eq_some_iff {map : RevisionMap α} {uri : Uri} {entry : Entry α} :
    map.find? uri = some entry ↔ entry ∈ map.entries ∧ entry.uri = uri := by
  rw [← Option.mem_toList, ← filter_uri_eq, List.mem_filter, decide_eq_true_eq]

theorem mem_documents_iff {map : RevisionMap α} {uri : Uri} :
    uri ∈ map.documents ↔ ∃ entry, map.find? uri = some entry := by
  simp only [documents, List.mem_toFinset, List.mem_map, find?_eq_some_iff]

theorem card_documents (map : RevisionMap α) : map.documents.card = map.size := by
  have distinct : (map.entries.map Entry.uri).Nodup := List.pairwise_map.2 map.distinct
  rw [documents, List.toFinset_card_of_nodup distinct, List.length_map, size]

/-- Of the entries of a class a document has the one it had. -/
theorem find?_restrict (map : RevisionMap α) (isKept : Entry α → Bool) (uri : Uri) :
    (map.restrict isKept).find? uri = (map.find? uri).filter isKept := by
  apply Option.ext
  intro entry
  rw [find?_eq_some_iff, Option.filter_eq_some_iff, find?_eq_some_iff, restrict,
    List.mem_filter]
  tauto

theorem find?_append (map : RevisionMap α) {entry : Entry α}
    (fresh : ∀ other ∈ map.entries, other.uri ≠ entry.uri) (uri : Uri) :
    (map.append entry fresh).find? uri = if uri = entry.uri then some entry else map.find? uri := by
  apply Option.ext
  intro other
  rw [find?_eq_some_iff, append, List.mem_append, List.mem_singleton]
  split
  · next own =>
    constructor
    · rintro ⟨listed | rfl, same⟩
      · exact absurd (same.trans own) (fresh other listed)
      · rfl
    · intro same
      obtain rfl := Option.some.inj same
      exact ⟨.inr rfl, own.symm⟩
  · next different =>
    rw [find?_eq_some_iff]
    constructor
    · rintro ⟨listed | rfl, same⟩
      · exact ⟨listed, same⟩
      · exact absurd same.symm different
    · exact fun found => ⟨.inl found.1, found.2⟩

theorem find?_erase_of_ne {map : RevisionMap α} {uri other : Uri} (different : other ≠ uri) :
    (map.erase uri).find? other = map.find? other := by
  rw [erase, find?_restrict]
  cases found : map.find? other with
  | none => rfl
  | some entry =>
    have named := (find?_eq_some_iff.1 found).2
    simp [named, different]

theorem documents_erase (map : RevisionMap α) (uri : Uri) :
    (map.erase uri).documents = map.documents.erase uri := by
  ext other
  rw [Finset.mem_erase, mem_documents_iff, mem_documents_iff]
  by_cases same : other = uri
  · subst same
    have none : (map.erase other).find? other = none := by
      rw [erase, find?_restrict, Option.filter_eq_none_iff]
      intro entry found
      simpa using (find?_eq_some_iff.1 found).2
    simp [none]
  · simp [find?_erase_of_ne same, same]

/-- The documents with one more among them are that one and the others. -/
theorem card_documents_union (map : RevisionMap α) (uri : Uri) :
    (map.documents ∪ {uri}).card = (map.erase uri).size + 1 := by
  have listed : uri ∈ map.documents ∪ {uri} := by simp
  rw [← Finset.card_erase_add_one listed, Finset.union_singleton, Finset.erase_insert_eq_erase,
    ← documents_erase, card_documents]

/-- Maps that list the same entries in two orders find the same. -/
theorem find?_of_perm {map listing : RevisionMap α} (reordered : listing.entries.Perm map.entries)
    (uri : Uri) : listing.find? uri = map.find? uri := by
  apply Option.ext
  intro entry
  rw [find?_eq_some_iff, find?_eq_some_iff, reordered.mem_iff]

theorem documents_of_perm {map listing : RevisionMap α}
    (reordered : listing.entries.Perm map.entries) : listing.documents = map.documents := by
  ext uri
  rw [mem_documents_iff, mem_documents_iff, find?_of_perm reordered]

/-- The oldest entries of a list are parted from the others by their times. -/
theorem exists_perm_oldest (count : Nat) (entries : List (Entry α)) :
    ∃ younger, (oldest count entries ++ younger).Perm entries ∧
      ∀ old ∈ oldest count entries, ∀ young ∈ younger, old.populatedAt ≤ young.populatedAt := by
  let isOlder (first second : Entry α) := decide (first.populatedAt ≤ second.populatedAt)
  have sorted : (entries.mergeSort isOlder).Pairwise fun first second =>
      isOlder first second = true := by
    apply List.pairwise_mergeSort
    · intro first second third left right
      simp only [isOlder, decide_eq_true_eq] at left right ⊢
      exact Nat.le_trans left right
    · intro first second
      simpa [isOlder] using Nat.le_total first.populatedAt second.populatedAt
  rw [← List.take_append_drop count (entries.mergeSort isOlder), List.pairwise_append] at sorted
  refine ⟨(entries.mergeSort isOlder).drop count, ?_, ?_⟩
  · rw [oldest, List.take_append_drop]
    exact List.mergeSort_perm entries isOlder
  · intro old listed young later
    exact of_decide_eq_true (sorted.2.2 old listed young later)

theorem length_oldest (count : Nat) (entries : List (Entry α)) :
    (oldest count entries).length = min count entries.length := by
  rw [oldest, List.length_take, List.length_mergeSort]

/-- The number of entries that storing one evicts. -/
theorem evicted_insert (map : RevisionMap α) (entry : Entry α) (capacity : Nat) :
    (map.insert entry capacity).2 =
      if (map.erase entry.uri).size + 1 ≤ capacity then 0
      else min (evictionCount ((map.erase entry.uri).size + 1)) (map.erase entry.uri).size := by
  simp only [insert]
  split
  · rfl
  · rw [List.length_map, length_oldest]
    rfl

/-- Evicting a fifth brings a map within its capacity exactly if four fifths of its entries fit. -/
theorem size_insert_le_iff (map : RevisionMap α) (entry : Entry α) (capacity : Nat) :
    (map.insert entry capacity).1.size ≤ max 1 capacity ↔
      4 * ((map.erase entry.uri).size + 1) < 5 * (max 1 capacity + 1) := by
  have sizes := map.size_insert entry capacity
  have evicted := map.evicted_insert entry capacity
  split at evicted
  · omega
  · rw [evictionCount] at evicted
    omega

theorem size_erase_le (map : RevisionMap α) (uri : Uri) : (map.erase uri).size ≤ map.size :=
  Nat.le.intro (map.size_erase uri)

/-- What storing `entry` does to a map: `gone` are the documents whose entries make room. -/
structure StoredWith (before : RevisionMap α) (entry : Entry α) (after : RevisionMap α)
    (gone : Finset Uri) : Prop where
  present : after.find? entry.uri = some entry
  others : gone ⊆ before.documents \ {entry.uri}
  dropped : ∀ uri ∈ gone, after.find? uri = none
  kept : ∀ uri ∉ gone, uri ≠ entry.uri → after.find? uri = before.find? uri
  oldest : ∀ old ∈ before.entries, old.uri ∈ gone → ∀ other ∈ after.entries,
    other.uri ≠ entry.uri → old.populatedAt ≤ other.populatedAt

theorem StoredWith.of_perm {map listing after : RevisionMap α} {entry : Entry α}
    {gone : Finset Uri} (stored : listing.StoredWith entry after gone)
    (reordered : listing.entries.Perm map.entries) : map.StoredWith entry after gone where
  present := stored.present
  others := documents_of_perm reordered ▸ stored.others
  dropped := stored.dropped
  kept := fun uri listed different =>
    (stored.kept uri listed different).trans (find?_of_perm reordered uri)
  oldest := fun old member => stored.oldest old (reordered.mem_iff.2 member)

theorem storedWith_append (map : RevisionMap α) (entry : Entry α) :
    map.StoredWith entry
      ((map.erase entry.uri).append entry fun _ member => uri_ne_of_mem_erase member) ∅ where
  present := by simp [find?_append]
  others := Finset.empty_subset _
  dropped := by simp
  kept := by
    intro uri _ different
    rw [find?_append, if_neg different, find?_erase_of_ne different]
  oldest := by simp

/-- The oldest of the other entries make room. -/
theorem storedWith_restrict (map : RevisionMap α) (entry : Entry α) (count : Nat) :
    let evicted := (RevisionMap.oldest count (map.erase entry.uri).entries).map Entry.uri
    map.StoredWith entry
      (((map.erase entry.uri).restrict fun other => !evicted.contains other.uri).append entry
        fun _ member => uri_ne_of_mem_erase (List.mem_filter.1 member).1)
      evicted.toFinset := by
  intro evicted
  obtain ⟨younger, parted, ordered⟩ := exists_perm_oldest count (map.erase entry.uri).entries
  have listed : ∀ uri ∈ evicted, ∃ old ∈ (map.erase entry.uri).entries, old.uri = uri := by
    intro uri member
    obtain ⟨old, isOld, rfl⟩ := List.mem_map.1 member
    exact ⟨old, parted.mem_iff.1 (List.mem_append_left _ isOld), rfl⟩
  constructor
  · simp [find?_append]
  · intro uri member
    obtain ⟨old, isOther, rfl⟩ := listed uri (List.mem_toFinset.1 member)
    rw [Finset.sdiff_singleton_eq_erase, ← documents_erase]
    exact mem_documents_iff.2 ⟨old, find?_eq_some_iff.2 ⟨isOther, rfl⟩⟩
  · intro uri member
    obtain ⟨old, isOther, rfl⟩ := listed uri (List.mem_toFinset.1 member)
    rw [find?_append, if_neg (uri_ne_of_mem_erase isOther), find?_restrict,
      find?_eq_some_iff.2 ⟨isOther, rfl⟩]
    simpa using List.mem_toFinset.1 member
  · intro uri absent different
    rw [find?_append, if_neg different, find?_restrict, find?_erase_of_ne different]
    cases found : map.find? uri with
    | none => rfl
    | some other =>
      obtain ⟨_, rfl⟩ := find?_eq_some_iff.1 found
      have kept : other.uri ∉ evicted := fun member => absent (List.mem_toFinset.2 member)
      simp [kept]
  · intro old member gone other survives different
    obtain ⟨same, isOld, named⟩ := List.mem_map.1 (List.mem_toFinset.1 gone)
    have isOther := parted.mem_iff.1 (List.mem_append_left younger isOld)
    obtain rfl := eq_of_uri (List.mem_filter.1 isOther).1 member named
    have survivor : other ∈ (map.erase entry.uri).entries ∧ other.uri ∉ evicted := by
      rcases List.mem_append.1 survives with kept | last
      · simpa [restrict] using kept
      · exact absurd (congrArg Entry.uri (List.mem_singleton.1 last)) different
    -- A survivor is not among the oldest, so it is among the younger ones.
    rcases List.mem_append.1 (parted.mem_iff.2 survivor.1) with alsoOld | young
    · exact absurd (List.mem_map_of_mem alsoOld) survivor.2
    · exact ordered same isOld other young

/-- Storing an entry evicts none but the oldest others. -/
theorem exists_storedWith_insert (map : RevisionMap α) (entry : Entry α) (capacity : Nat) :
    ∃ gone, map.StoredWith entry (map.insert entry capacity).1 gone ∧
      gone.card = (map.insert entry capacity).2 := by
  simp only [insert]
  split
  · exact ⟨∅, map.storedWith_append entry, rfl⟩
  · refine ⟨_, map.storedWith_restrict entry _, ?_⟩
    apply List.toFinset_card_of_nodup
    apply List.pairwise_map.2
    obtain ⟨younger, parted, _⟩ := exists_perm_oldest
      (evictionCount ((map.erase entry.uri).size + 1)) (map.erase entry.uri).entries
    have distinct := (parted.pairwise_iff fun different => Ne.symm different).2
      (map.erase entry.uri).distinct
    exact (List.pairwise_append.1 distinct).1

/-- The entry that is stored is there, and where the map is over its capacity then, a fifth of its
entries, rounded up, but never that entry itself, is gone.  No other entry has changed, none that is
gone is younger than one that is left, and a map within its capacity stays within it.  All this is
so in whatever order the map lists its entries. -/
theorem insert_evicts_oldest_fifth (map listing : RevisionMap α)
    (reordered : listing.entries.Perm map.entries) (entry : Entry α) (capacity : Nat) :
    let count := (map.documents ∪ {entry.uri}).card
    let after := (listing.insert entry capacity).1
    ∃ gone, map.StoredWith entry after gone ∧ (listing.insert entry capacity).2 = gone.card ∧
      gone.card = (if count ≤ capacity then 0 else min (count ⌈/⌉ 5) (count - 1)) ∧
      (map.size ≤ max 1 capacity → after.size ≤ max 1 capacity) := by
  intro count after
  obtain ⟨gone, stored, counted⟩ := listing.exists_storedWith_insert entry capacity
  have total : count = (listing.erase entry.uri).size + 1 := by
    rw [← card_documents_union, documents_of_perm reordered]
  have same : listing.size = map.size := reordered.length_eq
  refine ⟨gone, stored.of_perm reordered, counted.symm, ?_, ?_⟩
  · rw [counted, evicted_insert, total, evictionCount, Nat.ceilDiv_eq_add_pred_div]
    rfl
  · intro within
    have others := listing.size_erase_le entry.uri
    apply (listing.size_insert_le_iff entry capacity).2
    omega

/-- Of two equally old entries the one that is listed first goes, and the newest stays beside the
one that is stored. -/
theorem insert_evicts_oldest_fifth_of_tie :
    let entry (name : String) (time : Nat) : Entry Nat := ⟨⟨name⟩, 1, 0, time⟩
    let map : RevisionMap Nat := ⟨[entry "a" 3, entry "b" 3, entry "c" 4], by decide⟩
    let listing : RevisionMap Nat := ⟨[entry "c" 4, entry "b" 3, entry "a" 3], by decide⟩
    listing.entries.Perm map.entries ∧
      (map.insert (entry "d" 2) 3).1.find? ⟨"a"⟩ = none ∧
      (listing.insert (entry "d" 2) 3).1.find? ⟨"b"⟩ = none ∧
      ∃ gone, map.StoredWith (entry "d" 2) (listing.insert (entry "d" 2) 3).1 gone ∧
        gone.card = 1 := by
  intro entry map listing
  have reordered : listing.entries.Perm map.entries := List.reverse_perm map.entries
  obtain ⟨gone, stored, _, counted, _⟩ :=
    insert_evicts_oldest_fifth map listing reordered (entry "d" 2) 3
  refine ⟨reordered, ?_, ?_, gone, stored, counted.trans (by decide +kernel)⟩
  · cbv
  · cbv

end RevisionMap

end TemplateNav
