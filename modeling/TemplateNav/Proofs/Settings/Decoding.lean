import TemplateNav.Proofs.Settings.Record

/-!
# The format of settings

Settings are accepted exactly if they have the shape of a record and every part that is
given for a known field can be read, at both levels and in both shapes.  What is accepted
gives each field the value that stands there or its default.
-/

namespace TemplateNav

namespace Json

/-- A whole number from zero on that fits 64 bits. -/
def IsWord (json : Json) : Prop :=
  ∃ value : Nat, value < UInt64.size ∧ json = .integer value

/-- A record in which only such numbers are given for the named fields. -/
def IsWordRecord (names : List String) (json : Json) : Prop :=
  json.IsRecord names.length ∧ ∀ place name, names[place]? = some name →
    ∀ part, json.part? name place = some part → part.IsWord

/-- The number that a value gives for a field, or else `standard`. -/
def naturalOr (json : Json) (name : String) (place standard : Nat) : Nat :=
  match json.part? name place with
  | some (.integer value) => value.toNat
  | _ => standard

end Json

/-- The cache settings that a value gives. -/
def CacheSettings.givenBy (json : Json) : CacheSettings where
  capacity := json.naturalOr "capacity" 0 standard.capacity
  ttlSeconds := json.naturalOr "ttlSeconds" 1 standard.ttlSeconds
  sweepIntervalSeconds := json.naturalOr "sweepIntervalSeconds" 2 standard.sweepIntervalSeconds

/-- The performance settings that a value gives. -/
def PerformanceSettings.givenBy (json : Json) : PerformanceSettings where
  warningThresholdMs := json.naturalOr "warningThresholdMs" 0 standard.warningThresholdMs
  hardThresholdMs := json.naturalOr "hardThresholdMs" 1 standard.hardThresholdMs
  sampleWindow := json.naturalOr "sampleWindow" 2 standard.sampleWindow

namespace Settings

/-- The settings that a value gives. -/
def givenBy (json : Json) : Settings where
  queryTimeoutMs := json.naturalOr "queryTimeoutMs" 0 standard.queryTimeoutMs
  cache := ((json.part? "cache" 1).map CacheSettings.givenBy).getD standard.cache
  performance := ((json.part? "performance" 2).map PerformanceSettings.givenBy).getD
    standard.performance

/-- The format of settings. -/
structure Accepted (json : Json) : Prop where
  shape : json.IsRecord 3
  queryTimeoutMs : ∀ part, json.part? "queryTimeoutMs" 0 = some part → part.IsWord
  cache : ∀ part, json.part? "cache" 1 = some part →
    part.IsWordRecord ["capacity", "ttlSeconds", "sweepIntervalSeconds"]
  performance : ∀ part, json.part? "performance" 2 = some part →
    part.IsWordRecord ["warningThresholdMs", "hardThresholdMs", "sampleWindow"]

theorem readNatural_eq_ok_iff {expected : ExpectedKind} {json : Json} {value : Nat} :
    readNatural expected json = .ok value ↔ value < UInt64.size ∧ json = .integer value := by
  unfold readNatural
  split
  · next number =>
    by_cases negative : number < 0
    · simp only [negative, ↓reduceIte, reduceCtorEq, Json.integer.injEq, false_iff, not_and]
      omega
    · by_cases fits : number.toNat < UInt64.size
      · simp only [negative, fits, ↓reduceIte, Except.ok.injEq, Json.integer.injEq]
        omega
      · simp only [negative, fits, ↓reduceIte, reduceCtorEq, Json.integer.injEq, false_iff, not_and]
        omega
  · next other =>
    simp only [reduceCtorEq, false_iff, not_and]
    exact fun _ number => other _ number

theorem exists_readNatural_iff {expected : ExpectedKind} {json : Json} :
    (∃ value, readNatural expected json = .ok value) ↔ json.IsWord := by
  simp only [readNatural_eq_ok_iff, Json.IsWord]

variable {Record : Type}

/-- The slot of a numeric field. -/
def Slot.natural (name : String) (expected : ExpectedKind) (get : Record → Nat)
    (put : Nat → Record → Record) : Slot Record :=
  ⟨name, readNatural expected, get, put⟩

theorem naturalOr_of_heldBy {name : String} {expected : ExpectedKind} {get : Record → Nat}
    {put : Nat → Record → Record} {json : Json} {place : Nat} {standard result : Record}
    (held : (Slot.natural name expected get put).HeldBy standard result (json.part? name place)) :
    get result = json.naturalOr name place (get standard) := by
  unfold Json.naturalOr
  cases found : json.part? name place with
  | none =>
    rw [found] at held
    exact held
  | some part =>
    rw [found] at held
    rw [(readNatural_eq_ok_iff.1 held).2]
    rfl

/-- A record of numbers is read exactly if only numbers are given for its fields. -/
theorem exists_readRecord_words_iff {slots : List (Slot Record)} (lawful : Lawful slots)
    (numeric : ∀ slot ∈ slots, ∀ part, (∃ value, slot.parse part = .ok value) ↔ part.IsWord)
    {expected : ExpectedKind} {standard : Record} {json : Json} :
    (∃ result, readRecord expected (slots.map Slot.field) standard json = .ok result) ↔
      json.IsWordRecord (slots.map Slot.name) := by
  rw [exists_readRecord_iff lawful, Json.IsWordRecord, List.length_map]
  refine and_congr_right fun _ => ⟨?_, ?_⟩
  · intro readable place name listed part found
    rw [List.getElem?_map, Option.map_eq_some_iff] at listed
    obtain ⟨slot, listed, rfl⟩ := listed
    apply (numeric slot (List.mem_of_getElem? listed) part).1
    exact readable place slot listed part found
  · intro words place slot listed part found
    apply (numeric slot (List.mem_of_getElem? listed) part).2
    exact words place slot.name (by rw [List.getElem?_map, listed, Option.map_some]) part found

/-- A reader is described by what it accepts and by what it gives if it gives something. -/
theorem eq_ok_iff_of_exists {read : Except SettingsError Record} {accepted : Prop} {value : Record}
    (readable : (∃ result, read = .ok result) ↔ accepted)
    (unique : ∀ result, read = .ok result → result = value) {result : Record} :
    read = .ok result ↔ accepted ∧ result = value := by
  constructor
  · exact fun given => ⟨readable.1 ⟨result, given⟩, unique result given⟩
  · rintro ⟨holds, rfl⟩
    obtain ⟨other, given⟩ := readable.2 holds
    rw [given, unique other given]

/-- The slots of the cache settings. -/
def cacheSlots : List (Slot CacheSettings) :=
  [.natural "capacity" .size (·.capacity) fun value record => { record with capacity := value },
   .natural "ttlSeconds" .word (·.ttlSeconds) fun value record =>
     { record with ttlSeconds := value },
   .natural "sweepIntervalSeconds" .word (·.sweepIntervalSeconds) fun value record =>
     { record with sweepIntervalSeconds := value }]

theorem lawful_cacheSlots : Lawful cacheSlots where
  distinct := by decide
  get_put := by simp [cacheSlots, Slot.natural]
  get_put_of_ne := by simp [cacheSlots, Slot.natural]

theorem readRecord_cacheSettings_eq_ok_iff {json : Json}
    {cache : CacheSettings} :
    readRecord .cacheSettings cacheFields .standard json = .ok cache ↔
      json.IsWordRecord ["capacity", "ttlSeconds", "sweepIntervalSeconds"] ∧
        cache = .givenBy json := by
  have slots : cacheFields = cacheSlots.map Slot.field := rfl
  rw [slots]
  apply eq_ok_iff_of_exists
  · apply exists_readRecord_words_iff lawful_cacheSlots
    simp [cacheSlots, Slot.natural, exists_readNatural_iff]
  · rintro ⟨capacity, ttlSeconds, sweepIntervalSeconds⟩ read
    have held (place : Nat) {slot : Slot CacheSettings} (listed : cacheSlots[place]? = some slot) :=
      heldBy_of_readRecord lawful_cacheSlots read listed
    exact CacheSettings.mk.injEq .. ▸ ⟨naturalOr_of_heldBy (held 0 rfl),
      naturalOr_of_heldBy (held 1 rfl), naturalOr_of_heldBy (held 2 rfl)⟩

/-- The slots of the performance settings. -/
def performanceSlots : List (Slot PerformanceSettings) :=
  [.natural "warningThresholdMs" .word (·.warningThresholdMs) fun value record =>
     { record with warningThresholdMs := value },
   .natural "hardThresholdMs" .word (·.hardThresholdMs) fun value record =>
     { record with hardThresholdMs := value },
   .natural "sampleWindow" .size (·.sampleWindow) fun value record =>
     { record with sampleWindow := value }]

theorem lawful_performanceSlots : Lawful performanceSlots where
  distinct := by decide
  get_put := by simp [performanceSlots, Slot.natural]
  get_put_of_ne := by simp [performanceSlots, Slot.natural]

theorem readRecord_performanceSettings_eq_ok_iff {json : Json}
    {performance : PerformanceSettings} :
    readRecord .performanceSettings performanceFields .standard json = .ok performance ↔
      json.IsWordRecord ["warningThresholdMs", "hardThresholdMs", "sampleWindow"] ∧
        performance = .givenBy json := by
  have slots : performanceFields = performanceSlots.map Slot.field := rfl
  rw [slots]
  apply eq_ok_iff_of_exists
  · apply exists_readRecord_words_iff lawful_performanceSlots
    simp [performanceSlots, Slot.natural, exists_readNatural_iff]
  · rintro ⟨warningThresholdMs, hardThresholdMs, sampleWindow⟩ read
    have held (place : Nat) {slot : Slot PerformanceSettings}
        (listed : performanceSlots[place]? = some slot) :=
      heldBy_of_readRecord lawful_performanceSlots read listed
    exact PerformanceSettings.mk.injEq .. ▸ ⟨naturalOr_of_heldBy (held 0 rfl),
      naturalOr_of_heldBy (held 1 rfl), naturalOr_of_heldBy (held 2 rfl)⟩

/-- The slots of the settings. -/
def slots : List (Slot Settings) :=
  [.natural "queryTimeoutMs" .word (·.queryTimeoutMs) fun value record =>
     { record with queryTimeoutMs := value },
   ⟨"cache", readRecord .cacheSettings cacheFields .standard, (·.cache), fun value record =>
     { record with cache := value }⟩,
   ⟨"performance", readRecord .performanceSettings performanceFields .standard, (·.performance),
     fun value record => { record with performance := value }⟩]

theorem lawful_slots : Lawful slots where
  distinct := by decide
  get_put := by simp [slots, Slot.natural]
  get_put_of_ne := by simp [slots, Slot.natural]

theorem exists_readRecord_settings_iff {json : Json} :
    (∃ settings, readRecord .settings fields standard json = .ok settings) ↔ Accepted json := by
  have fields_eq : fields = slots.map Slot.field := rfl
  rw [fields_eq, exists_readRecord_iff lawful_slots]
  constructor
  · rintro ⟨shape, readable⟩
    refine ⟨shape, fun part found => ?_, fun part found => ?_, fun part found => ?_⟩
    · exact exists_readNatural_iff.1 (readable 0 _ rfl part found)
    · obtain ⟨_, read⟩ := readable 1 _ rfl part found
      exact (readRecord_cacheSettings_eq_ok_iff.1 read).1
    · obtain ⟨_, read⟩ := readable 2 _ rfl part found
      exact (readRecord_performanceSettings_eq_ok_iff.1 read).1
  · rintro ⟨shape, queryTimeoutMs, cache, performance⟩
    refine ⟨shape, fun place slot listed part found => ?_⟩
    match place, listed with
    | 0, rfl => exact exists_readNatural_iff.2 (queryTimeoutMs part found)
    | 1, rfl =>
      exact ⟨_, readRecord_cacheSettings_eq_ok_iff.2
        ⟨cache part found, rfl⟩⟩
    | 2, rfl =>
      exact ⟨_, readRecord_performanceSettings_eq_ok_iff.2
        ⟨performance part found, rfl⟩⟩
    | _ + 3, listed => cases listed

/-- A record within the settings is the one that was given, or the default. -/
theorem getD_of_heldBy {slot : Slot Settings} {givenBy : Json → slot.Value} {json : Json}
    {place : Nat} {standard result : Settings}
    (reads : ∀ part value, slot.parse part = .ok value → value = givenBy part)
    (held : slot.HeldBy standard result (json.part? slot.name place)) :
    slot.get result = ((json.part? slot.name place).map givenBy).getD (slot.get standard) := by
  cases found : json.part? slot.name place with
  | none =>
    rw [found] at held
    exact held
  | some part =>
    rw [found] at held
    exact reads part _ held

/-- Settings are read exactly if they have their format, and then as they are given. -/
theorem readRecord_settings_eq_ok_iff {json : Json} {settings : Settings} :
    readRecord .settings fields standard json = .ok settings ↔
      Accepted json ∧ settings = givenBy json := by
  apply eq_ok_iff_of_exists exists_readRecord_settings_iff
  rintro ⟨queryTimeoutMs, cache, performance⟩ read
  have held (place : Nat) {slot : Slot Settings} (listed : slots[place]? = some slot) :=
    heldBy_of_readRecord lawful_slots read listed
  have first := naturalOr_of_heldBy (held 0 rfl)
  have second := getD_of_heldBy
    (fun part _ read => (readRecord_cacheSettings_eq_ok_iff.1 read).2) (held 1 rfl)
  have third := getD_of_heldBy
    (fun part _ read => (readRecord_performanceSettings_eq_ok_iff.1 read).2) (held 2 rfl)
  exact Settings.mk.injEq .. ▸ ⟨first, second, third⟩

end Settings

end TemplateNav
