/-!
# Values by name

Members are named values, ordered by name.  No two have one name, so they are determined by the
value that each name has, and it does not matter in which order they are read.
-/

namespace TemplateNav

/-- Values by name; the names are in strict order. -/
structure Members (α : Type) where
  names : List String
  ordered : names.Pairwise (· < ·)
  value : Fin names.length → α

namespace Members

variable {α : Type} {list : List (String × α)} {name : String} {value : α}

theorem lookup_eq_some_iff_mem (distinct : (list.map Prod.fst).Nodup) :
    list.lookup name = some value ↔ (name, value) ∈ list := by
  constructor
  · intro found
    obtain ⟨before, after, rfl, _⟩ := List.lookup_eq_some_iff.1 found
    exact List.mem_append_right before List.mem_cons_self
  · intro member
    obtain ⟨before, after, rfl⟩ := List.append_of_mem member
    refine List.lookup_eq_some_iff.2 ⟨before, after, rfl, fun earlier listed => ?_⟩
    rw [List.map_append, List.nodup_append] at distinct
    rw [bne_iff_ne]
    exact Ne.symm (distinct.2.2 _ (List.mem_map_of_mem listed) name (by simp))

/-- The names with their values, in order. -/
def entries (members : Members α) : List (String × α) :=
  List.ofFn fun place => (members.names.get place, members.value place)

/-- The value of a name. -/
def lookup (members : Members α) (name : String) : Option α :=
  members.entries.lookup name

@[simp] theorem map_fst_entries (members : Members α) :
    members.entries.map Prod.fst = members.names := by
  simp [Members.entries, List.map_ofFn, Function.comp_def]

theorem ordered_entries (members : Members α) :
    (members.entries.map Prod.fst).Pairwise (· < ·) :=
  members.map_fst_entries ▸ members.ordered

theorem nodup_entries (members : Members α) : (members.entries.map Prod.fst).Nodup := by
  refine members.ordered_entries.imp ?_
  rintro name _ order rfl
  exact String.lt_irrefl name order

theorem lookup_eq_some_iff {members : Members α} :
    members.lookup name = some value ↔ (name, value) ∈ members.entries :=
  lookup_eq_some_iff_mem members.nodup_entries

/-- The members with the given entries, which are in order. -/
def ofOrdered (list : List (String × α)) (ordered : (list.map Prod.fst).Pairwise (· < ·)) :
    Members α where
  names := list.map Prod.fst
  ordered := ordered
  value place := (list.get (place.cast (List.length_map Prod.fst))).2

@[simp] theorem entries_ofOrdered (ordered : (list.map Prod.fst).Pairwise (· < ·)) :
    (ofOrdered list ordered).entries = list := by
  apply List.ext_getElem
  · rw [Members.entries, List.length_ofFn]
    exact List.length_map Prod.fst
  · intro place _ _
    simp only [Members.entries, List.getElem_ofFn]
    exact Prod.ext (List.getElem_map Prod.fst) rfl

/-- Puts an entry in its place by name; it replaces one of the same name. -/
def insertEntry (name : String) (value : α) : List (String × α) → List (String × α)
  | [] => [(name, value)]
  | (other, otherValue) :: rest =>
    if name = other then (name, value) :: rest
    else if name < other then (name, value) :: (other, otherValue) :: rest
    else (other, otherValue) :: insertEntry name value rest

theorem mem_insertEntry_iff (ordered : (list.map Prod.fst).Pairwise (· < ·))
    {entry : String × α} :
    entry ∈ insertEntry name value list ↔
      entry = (name, value) ∨ entry ∈ list ∧ entry.1 ≠ name := by
  induction list with
  | nil => simp [insertEntry]
  | cons head rest ih =>
    obtain ⟨other, otherValue⟩ := head
    obtain ⟨least, orderedRest⟩ := List.pairwise_cons.1 ordered
    have above : ∀ later ∈ rest, name = other ∨ name < other → later.1 ≠ name := by
      rintro later listed order rfl
      have bound : other < later.1 := least later.1 (List.mem_map_of_mem listed)
      rcases order with rfl | before
      · exact String.lt_irrefl _ bound
      · exact String.lt_irrefl _ (String.lt_trans bound before)
    rw [insertEntry]
    split
    · next same =>
      subst same
      grind
    · split
      · next before => grind [String.lt_irrefl]
      · next different _ =>
        rw [List.mem_cons, List.mem_cons, ih orderedRest]
        grind

theorem lt_of_not_lt_of_ne {first second : String} (different : first ≠ second)
    (order : ¬ first < second) : second < first :=
  Decidable.byContradiction fun other =>
    different (String.le_antisymm (String.not_lt.1 other) (String.not_lt.1 order))

theorem ordered_insertEntry (ordered : (list.map Prod.fst).Pairwise (· < ·)) :
    ((insertEntry name value list).map Prod.fst).Pairwise (· < ·) := by
  induction list with
  | nil => exact List.pairwise_singleton _ _
  | cons head rest ih =>
    obtain ⟨other, otherValue⟩ := head
    obtain ⟨least, orderedRest⟩ := List.pairwise_cons.1 ordered
    rw [insertEntry]
    split
    · next same => exact List.pairwise_cons.2 ⟨same ▸ least, orderedRest⟩
    · split
      · next before =>
        refine List.pairwise_cons.2 ⟨?_, ordered⟩
        intro later listed
        rcases List.mem_cons.1 listed with rfl | behind
        · exact before
        · exact String.lt_trans before (least later behind)
      · next different behind =>
        refine List.pairwise_cons.2 ⟨?_, ih orderedRest⟩
        intro later listed
        obtain ⟨entry, member, rfl⟩ := List.mem_map.1 listed
        rcases (mem_insertEntry_iff orderedRest).1 member with rfl | ⟨earlier, _⟩
        · exact lt_of_not_lt_of_ne different behind
        · exact least entry.1 (List.mem_map_of_mem earlier)

/-- Gives a name a value, in place of the one it has. -/
def insert (members : Members α) (name : String) (value : α) : Members α :=
  ofOrdered (insertEntry name value members.entries) (ordered_insertEntry members.ordered_entries)

theorem mem_entries_insert_iff {members : Members α} {entry : String × α} :
    entry ∈ (members.insert name value).entries ↔
      entry = (name, value) ∨ entry ∈ members.entries ∧ entry.1 ≠ name := by
  rw [insert, entries_ofOrdered, mem_insertEntry_iff members.ordered_entries]

/-- The members in a list; of two with one name the later counts. -/
def ofList (list : List (String × α)) : Members α :=
  list.foldl (fun members entry => members.insert entry.1 entry.2) (ofOrdered [] .nil)

theorem mem_entries_foldl_insert_iff {members : Members α} {entry : String × α}
    (distinct : (list.map Prod.fst).Nodup)
    (fresh : ∀ old ∈ members.entries, old.1 ∉ list.map Prod.fst) :
    entry ∈ (list.foldl (fun members entry => members.insert entry.1 entry.2) members).entries ↔
      entry ∈ list ∨ entry ∈ members.entries := by
  induction list generalizing members with
  | nil => simp
  | cons first rest ih =>
    obtain ⟨name, value⟩ := first
    obtain ⟨once, distinctRest⟩ := List.nodup_cons.1 distinct
    have freshRest : ∀ old ∈ (members.insert name value).entries, old.1 ∉ rest.map Prod.fst := by
      intro old listed
      rcases mem_entries_insert_iff.1 listed with rfl | ⟨earlier, _⟩
      · exact once
      · exact fun later => fresh old earlier (List.mem_cons_of_mem _ later)
    have other : entry ∈ members.entries → entry.1 ≠ name :=
      fun earlier same => fresh entry earlier (same ▸ List.mem_cons_self)
    rw [List.foldl_cons, ih distinctRest freshRest, mem_entries_insert_iff, List.mem_cons]
    grind

/-- Entries of different names are put in order, and none is lost. -/
theorem mem_entries_ofList_iff (distinct : (list.map Prod.fst).Nodup) {entry : String × α} :
    entry ∈ (ofList list).entries ↔ entry ∈ list := by
  rw [ofList, mem_entries_foldl_insert_iff distinct (by simp)]
  simp

theorem lookup_ofList_eq_some_iff (distinct : (list.map Prod.fst).Nodup) :
    (ofList list).lookup name = some value ↔ (name, value) ∈ list := by
  rw [lookup_eq_some_iff, mem_entries_ofList_iff distinct]

end Members

end TemplateNav
