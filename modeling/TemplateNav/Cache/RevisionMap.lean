import TemplateNav.Uri.Basic

/-!
# Values stamped with a revision

A revision map holds at most one value for each document, together with the
revision it was computed from and the time it was stored.  A value is used only
for that revision and only until its time to live is over.  When the map is full
the oldest fifth of its entries is evicted.
-/

namespace TemplateNav

/-- A stored value. -/
structure Entry (α : Type) where
  uri : Uri
  revision : Int
  value : α
  populatedAt : Nat

/-- How old an entry is; a clock before its time counts as no age. -/
def Entry.age {α : Type} (entry : Entry α) (now : Nat) : Nat :=
  now - entry.populatedAt

/-- Stored values, one for each document, in the order they were stored. -/
structure RevisionMap (α : Type) where
  entries : List (Entry α)
  distinct : entries.Pairwise fun first second => first.uri ≠ second.uri

/-- What a look-up found. -/
inductive Lookup (α : Type) where
  | hit (value : α)
  /-- There was no entry, or one of another revision. -/
  | miss
  /-- There was an entry, and its time was over. -/
  | expired

namespace RevisionMap

variable {α : Type}

/-- The map without entries. -/
def empty : RevisionMap α := ⟨[], .nil⟩

/-- The entries of a map that belong to a class. -/
def restrict (map : RevisionMap α) (isKept : Entry α → Bool) : RevisionMap α :=
  ⟨map.entries.filter isKept, map.distinct.filter isKept⟩

/-- The number of entries. -/
def size (map : RevisionMap α) : Nat :=
  map.entries.length

/-- The entry of a document. -/
def find? (map : RevisionMap α) (uri : Uri) : Option (Entry α) :=
  map.entries.find? fun entry => entry.uri = uri

/-- Drops the entry of a document. -/
def erase (map : RevisionMap α) (uri : Uri) : RevisionMap α :=
  map.restrict fun entry => entry.uri ≠ uri

/-- Looks up the value of a document at a revision. -/
def lookup (map : RevisionMap α) (uri : Uri) (revision : Int) (now timeToLive : Nat) : Lookup α :=
  match map.find? uri with
  | none => .miss
  | some entry =>
    if timeToLive < entry.age now then .expired
    else if entry.revision ≠ revision then .miss
    else .hit entry.value

/-- The number of entries to evict from a full map: a fifth, rounded up. -/
def evictionCount (size : Nat) : Nat :=
  (size + 4) / 5

/-- The oldest `count` of a list of entries; of two equally old ones the one stored first. -/
def oldest (count : Nat) (entries : List (Entry α)) : List (Entry α) :=
  (entries.mergeSort fun first second => decide (first.populatedAt ≤ second.populatedAt)).take count

/-- Appends an entry for a document that has none. -/
def append (map : RevisionMap α) (entry : Entry α)
    (fresh : ∀ other ∈ map.entries, other.uri ≠ entry.uri) : RevisionMap α where
  entries := map.entries ++ [entry]
  distinct := by
    refine List.pairwise_append.2 ⟨map.distinct, List.pairwise_singleton _ _, ?_⟩
    intro other member last same
    rw [List.mem_singleton.1 same]
    exact fresh other member

theorem uri_ne_of_mem_erase {map : RevisionMap α} {uri : Uri} {entry : Entry α}
    (member : entry ∈ (map.erase uri).entries) : entry.uri ≠ uri :=
  of_decide_eq_true (List.mem_filter.1 member).2

/-- Stores an entry in place of its document's last one.  If the map is over its capacity then, the
oldest of the other entries are evicted; their number is returned with the map. -/
def insert (map : RevisionMap α) (entry : Entry α) (capacity : Nat) : RevisionMap α × Nat :=
  let others := map.erase entry.uri
  if others.size + 1 ≤ capacity then
    (others.append entry fun _ member => uri_ne_of_mem_erase member, 0)
  else
    let evicted := (oldest (evictionCount (others.size + 1)) others.entries).map Entry.uri
    let kept := others.restrict fun other => !evicted.contains other.uri
    (kept.append entry fun _ member => uri_ne_of_mem_erase (List.mem_filter.1 member).1,
      evicted.length)

/-- Drops the entries whose time is over. -/
def sweep (map : RevisionMap α) (now timeToLive : Nat) : RevisionMap α :=
  map.restrict fun entry => entry.age now ≤ timeToLive

end RevisionMap

end TemplateNav
