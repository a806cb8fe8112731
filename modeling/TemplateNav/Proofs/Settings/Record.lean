import TemplateNav.Settings.Decode

/-!
# Records of settings

A record is read field by field, in the order of an object's members or of an array's
elements.  An object has each name once and no field disturbs another, so the order does
not matter: the record is read exactly if every part that is given for a field can be read,
and each field then has what was read for it, or what it had before.
-/

namespace TemplateNav

namespace Json

/-- What a value gives for a field: the member of its name, or the element at its place. -/
def part? (json : Json) (name : String) (place : Nat) : Option Json :=
  match json with
  | object members => members.lookup name
  | array items => items[place]?
  | _ => none

/-- An object, or an array of at most `count` elements. -/
def IsRecord (count : Nat) : Json → Prop
  | object _ => True
  | array items => items.length ≤ count
  | _ => False

end Json

namespace Settings

variable {Record : Type}

/-- A field taken apart: how its value is read, and where a record keeps it. -/
structure Slot (Record : Type) where
  {Value : Type}
  name : String
  parse : Json → Except SettingsError Value
  get : Record → Value
  put : Value → Record → Record

/-- The field that is read through a slot. -/
def Slot.field (slot : Slot Record) : Field Record :=
  ⟨slot.name, fun json record => (slot.parse json).map fun value => slot.put value record⟩

/-- Slots of different names, each of which keeps what was put there last. -/
structure Lawful (slots : List (Slot Record)) : Prop where
  distinct : (slots.map Slot.name).Nodup
  get_put : ∀ slot ∈ slots, ∀ value record, slot.get (slot.put value record) = value
  get_put_of_ne : ∀ slot ∈ slots, ∀ other ∈ slots, slot.name ≠ other.name → ∀ value record,
    slot.get (other.put value record) = slot.get record

/-- Reads the parts that are given for slots and puts the values there, one after the other. -/
def assign (record : Record) : List (Slot Record × Json) → Except SettingsError Record
  | [] => .ok record
  | (slot, json) :: rest =>
    match slot.parse json with
    | .error error => .error error
    | .ok value => assign (slot.put value record) rest

theorem exists_assign_iff {record : Record} {given : List (Slot Record × Json)} :
    (∃ result, assign record given = .ok result) ↔
      ∀ slot json, (slot, json) ∈ given → ∃ value, slot.parse json = .ok value := by
  induction given generalizing record with
  | nil => simp [assign]
  | cons entry rest ih =>
    obtain ⟨slot, json⟩ := entry
    cases parsed : slot.parse json with
    | error error =>
      simp only [assign, parsed, reduceCtorEq, exists_false, false_iff]
      intro readable
      obtain ⟨value, found⟩ := readable slot json List.mem_cons_self
      rw [parsed] at found
      cases found
    | ok value =>
      simp only [assign, parsed, ih]
      constructor
      · intro readable other part member
        rcases List.mem_cons.1 member with same | later
        · obtain ⟨rfl, rfl⟩ := Prod.mk.inj same
          exact ⟨value, parsed⟩
        · exact readable other part later
      · intro readable other part later
        exact readable other part (List.mem_cons_of_mem _ later)

/-- After the parts of some slots were read, these hold what was read, and others what they held. -/
theorem get_of_assign {slots : List (Slot Record)} (lawful : Lawful slots)
    {given : List (Slot Record × Json)} (known : ∀ entry ∈ given, entry.1 ∈ slots)
    (once : (given.map fun entry => entry.1.name).Nodup) {record result : Record}
    (read : assign record given = .ok result) {slot : Slot Record} (listed : slot ∈ slots) :
    (∀ json, (slot, json) ∈ given → slot.parse json = .ok (slot.get result)) ∧
      ((∀ entry ∈ given, entry.1.name ≠ slot.name) → slot.get result = slot.get record) := by
  induction given generalizing record with
  | nil =>
    obtain rfl : record = result := Except.ok.inj read
    simp
  | cons entry rest ih =>
    obtain ⟨other, part⟩ := entry
    obtain ⟨knownFirst, knownRest⟩ := List.forall_mem_cons.1 known
    obtain ⟨fresh, onceRest⟩ := List.nodup_cons.1 once
    rw [assign] at read
    split at read
    · cases read
    · next value parsed =>
      obtain ⟨held, kept⟩ := ih knownRest onceRest read
      constructor
      · intro json member
        rcases List.mem_cons.1 member with same | later
        · obtain ⟨rfl, rfl⟩ := Prod.mk.inj same
          -- No later part is for this slot, so what is put there now stays.
          have absent : ∀ entry ∈ rest, entry.1.name ≠ slot.name := by
            intro entry inRest name
            exact fresh (List.mem_map.2 ⟨entry, inRest, name⟩)
          rw [kept absent, lawful.get_put slot listed, parsed]
        · exact held json later
      · intro absent
        obtain ⟨first, others⟩ := List.forall_mem_cons.1 absent
        rw [kept others, lawful.get_put_of_ne slot listed other knownFirst (Ne.symm first)]

/-- The slot that a member is meant for. -/
def slotOf? (slots : List (Slot Record)) (member : String × Json) : Option (Slot Record × Json) :=
  (slots.find? fun slot => slot.name == member.1).map fun slot => (slot, member.2)

/-- The parts that a value gives for slots, in the order in which they are read. -/
def given (slots : List (Slot Record)) : Json → List (Slot Record × Json)
  | .object members => members.entries.filterMap (slotOf? slots)
  | .array items => slots.zip items
  | _ => []

theorem readMembers_eq_assign (slots : List (Slot Record)) (record : Record)
    (members : List (String × Json)) :
    readMembers (slots.map Slot.field) record members =
      assign record (members.filterMap (slotOf? slots)) := by
  induction members generalizing record with
  | nil => rfl
  | cons member rest ih =>
    obtain ⟨name, value⟩ := member
    have found : (slots.map Slot.field).find? (fun field => field.name == name) =
        (slots.find? fun slot => slot.name == name).map Slot.field := List.find?_map
    rw [readMembers, List.filterMap_cons, found, slotOf?]
    cases slots.find? fun slot => slot.name == name with
    | none => exact ih record
    | some slot =>
      simp only [Option.map_some, assign, Slot.field]
      cases slot.parse value with
      | error error => rfl
      | ok stored => exact ih _

theorem readElements_eq_assign (slots : List (Slot Record)) (record : Record)
    (items : List Json) :
    readElements record (slots.map Slot.field) items = assign record (slots.zip items) := by
  induction slots generalizing record items with
  | nil => rfl
  | cons slot slots ih =>
    cases items with
    | nil => rfl
    | cons item items =>
      simp only [List.map_cons, readElements, List.zip_cons_cons, assign, Slot.field]
      cases slot.parse item with
      | error error => rfl
      | ok value => exact ih _ _

/-- A record is read from a value of the right shape by reading the parts it gives. -/
theorem readRecord_eq_ok_iff {slots : List (Slot Record)} {expected : ExpectedKind}
    {standard result : Record} {json : Json} :
    readRecord expected (slots.map Slot.field) standard json = .ok result ↔
      json.IsRecord slots.length ∧ assign standard (given slots json) = .ok result := by
  cases json with
  | object members => simp [readRecord, Json.IsRecord, readMembers_eq_assign, given]
  | array items =>
    simp only [readRecord, Json.IsRecord, readElements_eq_assign, given, List.length_map]
    cases assign standard (slots.zip items) with
    | error error => simp
    | ok record =>
      by_cases long : slots.length < items.length
      · simp [long, Nat.not_le_of_lt long]
      · simp [long, Nat.le_of_not_lt long]
  | null => simp [readRecord, Json.IsRecord]
  | bool => simp [readRecord, Json.IsRecord]
  | integer => simp [readRecord, Json.IsRecord]
  | decimal => simp [readRecord, Json.IsRecord]
  | string => simp [readRecord, Json.IsRecord]

section Given

variable {slots : List (Slot Record)} {json : Json}

theorem known_of_mem_given : ∀ entry ∈ given slots json, entry.1 ∈ slots := by
  intro entry member
  unfold given at member
  split at member
  · obtain ⟨_, _, found⟩ := List.mem_filterMap.1 member
    obtain ⟨slot, first, rfl⟩ := Option.map_eq_some_iff.1 found
    exact List.mem_of_find?_eq_some first
  · exact (List.of_mem_zip member).1
  · cases member

theorem find?_eq_some_of_mem (distinct : (slots.map Slot.name).Nodup) {slot : Slot Record}
    (listed : slot ∈ slots) : (slots.find? fun other => other.name == slot.name) = some slot := by
  obtain ⟨before, after, rfl⟩ := List.append_of_mem listed
  refine List.find?_eq_some_iff_append.2 ⟨beq_self_eq_true _, before, after, rfl, ?_⟩
  intro earlier member
  rw [List.map_append, List.nodup_append] at distinct
  have different := distinct.2.2 _ (List.mem_map_of_mem member) slot.name (by simp)
  simpa using different

/-- No two slots at different places have one name. -/
theorem place_eq (distinct : (slots.map Slot.name).Nodup) {first second : Nat}
    {slot other : Slot Record} (listed : slots[first]? = some slot)
    (otherListed : slots[second]? = some other) (name : slot.name = other.name) :
    first = second := by
  have within : first < (slots.map Slot.name).length := by
    rw [List.length_map]
    exact (List.getElem?_eq_some_iff.1 listed).1
  apply (List.getElem?_inj within distinct).1
  rw [List.getElem?_map, List.getElem?_map, listed, otherListed, Option.map_some, Option.map_some,
    name]

theorem nodup_given (distinct : (slots.map Slot.name).Nodup) :
    ((given slots json).map fun entry => entry.1.name).Nodup := by
  cases json with
  | object members =>
    refine List.pairwise_map.2 (List.pairwise_filterMap.2 ?_)
    refine (List.pairwise_map.1 members.nodup_entries).imp ?_
    rintro ⟨name, value⟩ ⟨other, otherValue⟩ different entry found later laterFound
    obtain ⟨slot, first, rfl⟩ := Option.map_eq_some_iff.1 found
    obtain ⟨laterSlot, laterFirst, rfl⟩ := Option.map_eq_some_iff.1 laterFound
    have named : slot.name = name := by simpa using List.find?_some first
    have laterNamed : laterSlot.name = other := by simpa using List.find?_some laterFirst
    rwa [named, laterNamed]
  | array items =>
    have front : (slots.zip items).map (fun entry => entry.1.name) =
        (slots.take (min slots.length items.length)).map Slot.name := by
      have longEnough : (slots.take (min slots.length items.length)).length ≤
          (items.take (min slots.length items.length)).length := by
        simp only [List.length_take]
        omega
      have names := congrArg (List.map Slot.name) (List.map_fst_zip longEnough)
      rwa [List.map_map, ← List.zip_eq_zip_take_min] at names
    rw [given, front]
    exact distinct.sublist ((List.take_sublist _ _).map _)
  | null => exact List.nodup_nil
  | bool => exact List.nodup_nil
  | integer => exact List.nodup_nil
  | decimal => exact List.nodup_nil
  | string => exact List.nodup_nil

/-- What a value gives for a slot is found by the name and the place of the slot. -/
theorem mem_given_iff (distinct : (slots.map Slot.name).Nodup) {place : Nat}
    {slot : Slot Record} (listed : slots[place]? = some slot) {part : Json} :
    (slot, part) ∈ given slots json ↔ json.part? slot.name place = some part := by
  cases json with
  | object members =>
    rw [Json.part?, Members.lookup_eq_some_iff, given, List.mem_filterMap]
    constructor
    · rintro ⟨⟨name, value⟩, member, found⟩
      obtain ⟨other, first, same⟩ := Option.map_eq_some_iff.1 found
      obtain ⟨rfl, rfl⟩ := Prod.mk.inj same
      have named : other.name = name := by simpa using List.find?_some first
      rwa [named]
    · intro member
      refine ⟨_, member, ?_⟩
      rw [slotOf?, find?_eq_some_of_mem distinct (List.mem_of_getElem? listed), Option.map_some]
  | array items =>
    rw [given, Json.part?, List.mem_iff_getElem?]
    constructor
    · rintro ⟨index, found⟩
      obtain ⟨other, item⟩ := List.getElem?_zip_eq_some.1 found
      rwa [← place_eq distinct other listed rfl]
    · intro found
      exact ⟨place, List.getElem?_zip_eq_some.2 ⟨listed, found⟩⟩
  | null => simp [given, Json.part?]
  | bool => simp [given, Json.part?]
  | integer => simp [given, Json.part?]
  | decimal => simp [given, Json.part?]
  | string => simp [given, Json.part?]

/-- A slot of a record holds what was read from the part given for it, or what it held before. -/
def Slot.HeldBy (slot : Slot Record) (standard result : Record) : Option Json → Prop
  | none => slot.get result = slot.get standard
  | some part => slot.parse part = .ok (slot.get result)

variable {expected : ExpectedKind} {standard result : Record}

theorem exists_readRecord_iff (lawful : Lawful slots) :
    (∃ result, readRecord expected (slots.map Slot.field) standard json = .ok result) ↔
      json.IsRecord slots.length ∧ ∀ place slot, slots[place]? = some slot →
        ∀ part, json.part? slot.name place = some part → ∃ value, slot.parse part = .ok value := by
  simp only [readRecord_eq_ok_iff, exists_and_left, exists_assign_iff]
  refine and_congr_right fun _ => ⟨?_, ?_⟩
  · intro readable place slot listed part found
    exact readable slot part ((mem_given_iff lawful.distinct listed).2 found)
  · intro readable slot part member
    obtain ⟨place, listed⟩ := List.mem_iff_getElem?.1 (known_of_mem_given _ member)
    exact readable place slot listed part
      ((mem_given_iff lawful.distinct listed).1 member)

theorem heldBy_of_readRecord (lawful : Lawful slots)
    (read : readRecord expected (slots.map Slot.field) standard json = .ok result) {place : Nat}
    {slot : Slot Record} (listed : slots[place]? = some slot) :
    slot.HeldBy standard result (json.part? slot.name place) := by
  have assigned := (readRecord_eq_ok_iff.1 read).2
  obtain ⟨held, kept⟩ := get_of_assign lawful known_of_mem_given
    (nodup_given lawful.distinct) assigned (List.mem_of_getElem? listed)
  cases found : json.part? slot.name place with
  | some part => exact held part ((mem_given_iff lawful.distinct listed).2 found)
  | none =>
    apply kept
    rintro ⟨other, part⟩ member name
    obtain ⟨index, otherListed⟩ := List.mem_iff_getElem?.1 (known_of_mem_given _ member)
    obtain rfl := place_eq lawful.distinct otherListed listed name
    obtain rfl := Option.some.inj (otherListed.symm.trans listed)
    rw [(mem_given_iff lawful.distinct listed).1 member] at found
    cases found

end Given

end Settings

end TemplateNav
