import TemplateNav.Proofs.Settings.Decoding

/-!
# Written settings are decoded to themselves

A record is written as an object of some of its fields, or as an array of the first few.
Either way the value gives exactly the fields that were written, so settings are decoded
to themselves as long as the fields that are left out have their defaults.
-/

namespace TemplateNav

/-- How a record is written: as an object of some of its fields, or as an array of the first few. -/
inductive Form where
  | object (isWritten : String → Bool)
  | array (count : Nat)

namespace Form

/-- Whether a field is written. -/
def writes : Form → String → Nat → Bool
  | object isWritten, name, _ => isWritten name
  | array count, _, place => decide (place < count)

/-- Writes a record, given the names of its fields and what is written for each. -/
def write (form : Form) (entries : List (String × Json)) : Json :=
  match form with
  | object isWritten => .ofMembers (entries.filter fun entry => isWritten entry.1)
  | array count => .array ((entries.take count).map Prod.snd)

/-- A number may be written in a form: it fits 64 bits, and is left out only if it is the
default. -/
def Keeps (form : Form) (name : String) (place value standard : Nat) : Prop :=
  value < UInt64.size ∧ (form.writes name place = false → value = standard)

variable {form : Form} {entries : List (String × Json)}

theorem nodup_filter (distinct : (entries.map Prod.fst).Nodup) (isWritten : String → Bool) :
    ((entries.filter fun entry => isWritten entry.1).map Prod.fst).Nodup :=
  distinct.sublist (List.filter_sublist.map _)

theorem isRecord_write : (form.write entries).IsRecord entries.length := by
  cases form with
  | object isWritten => exact trivial
  | array count =>
    rw [write, Json.IsRecord, List.length_map]
    exact List.length_take_le' count entries

/-- A written record gives for each field what was written for it, if it was. -/
theorem part?_write (distinct : (entries.map Prod.fst).Nodup) {place : Nat} {name : String}
    {value : Json} (listed : entries[place]? = some (name, value)) :
    (form.write entries).part? name place =
      if form.writes name place then some value else none := by
  cases form with
  | object isWritten =>
    have once := nodup_filter distinct isWritten
    rw [write, Json.ofMembers, Json.part?, writes]
    split
    · next written =>
      rw [Members.lookup_ofList_eq_some_iff once, List.mem_filter]
      exact ⟨List.mem_of_getElem? listed, written⟩
    · next omitted =>
      rw [Option.eq_none_iff_forall_ne_some]
      intro part same
      rw [Members.lookup_ofList_eq_some_iff once, List.mem_filter] at same
      exact omitted same.2
  | array count =>
    simp only [write, Json.part?, writes, List.getElem?_map, List.getElem?_take, decide_eq_true_eq]
    split
    · rw [listed, Option.map_some]
    · rfl

/-- A part of a record that is left out only if it is the default is read back. -/
theorem getD_map_part?_write {α : Type} {givenBy : Json → α} {value standard : α} {part : Json}
    (distinct : (entries.map Prod.fst).Nodup) {place : Nat} {name : String}
    (listed : entries[place]? = some (name, part)) (given : givenBy part = value)
    (omitted : form.writes name place = false → value = standard) :
    (((form.write entries).part? name place).map givenBy).getD standard = value := by
  rw [part?_write distinct listed]
  by_cases written : form.writes name place = true
  · simp [written, given]
  · simp [written, omitted (by simpa using written)]

theorem member?_write (distinct : (entries.map Prod.fst).Nodup) {name : String}
    (unknown : name ∉ entries.map Prod.fst) : (form.write entries).member? name = none := by
  cases form with
  | object isWritten =>
    rw [write, Json.ofMembers, Json.member?, Option.eq_none_iff_forall_ne_some]
    intro part same
    rw [Members.lookup_ofList_eq_some_iff (nodup_filter distinct isWritten),
      List.mem_filter] at same
    exact unknown (List.mem_map.2 ⟨_, same.1, rfl⟩)
  | array count => rfl

/-- A number that a form keeps is read back. -/
theorem Keeps.naturalOr_write {place value standard : Nat} {name : String}
    (kept : form.Keeps name place value standard) (distinct : (entries.map Prod.fst).Nodup)
    (listed : entries[place]? = some (name, .integer value)) :
    (form.write entries).naturalOr name place standard = value := by
  rw [Json.naturalOr, part?_write distinct listed]
  by_cases written : form.writes name place = true
  · simp [written]
  · simp [written, kept.2 (by simpa using written)]

theorem Keeps.isWord_of_part? {place value standard : Nat} {name : String} {part : Json}
    (kept : form.Keeps name place value standard) (distinct : (entries.map Prod.fst).Nodup)
    (listed : entries[place]? = some (name, .integer value))
    (found : (form.write entries).part? name place = some part) : part.IsWord := by
  rw [part?_write distinct listed] at found
  split at found
  · exact ⟨value, kept.1, (Option.some.inj found).symm⟩
  · cases found

/-- The entries of a record of numbers. -/
def wordEntries (words : List (String × Nat)) : List (String × Json) :=
  words.map fun (name, value) => (name, .integer value)

/-- The numbers of a record may all be written in a form. -/
def KeepsAll (form : Form) (words standard : List (String × Nat)) : Prop :=
  ∀ place name value, words[place]? = some (name, value) →
    ∃ default, standard[place]? = some (name, default) ∧ form.Keeps name place value default

variable {words standard : List (String × Nat)}

theorem map_fst_wordEntries : (wordEntries words).map Prod.fst = words.map Prod.fst := by
  rw [wordEntries, List.map_map]
  rfl

theorem KeepsAll.isWordRecord (kept : form.KeepsAll words standard)
    (distinct : (words.map Prod.fst).Nodup) :
    (form.write (wordEntries words)).IsWordRecord (words.map Prod.fst) := by
  refine ⟨?_, fun place name listed part found => ?_⟩
  · rw [← map_fst_wordEntries, List.length_map]
    exact isRecord_write
  · rw [List.getElem?_map, Option.map_eq_some_iff] at listed
    obtain ⟨⟨name, value⟩, listed, rfl⟩ := listed
    obtain ⟨_, _, keeps⟩ := kept place name value listed
    refine keeps.isWord_of_part? (map_fst_wordEntries ▸ distinct) ?_ found
    rw [wordEntries, List.getElem?_map, listed, Option.map_some]

theorem KeepsAll.naturalOr_write (kept : form.KeepsAll words standard)
    (distinct : (words.map Prod.fst).Nodup) (place : Nat) {name : String} {value default : Nat}
    (listed : words[place]? = some (name, value))
    (given : standard[place]? = some (name, default)) :
    (form.write (wordEntries words)).naturalOr name place default = value := by
  obtain ⟨other, same, keeps⟩ := kept place name value listed
  obtain ⟨_, rfl⟩ := Prod.mk.inj (Option.some.inj (same.symm.trans given))
  refine keeps.naturalOr_write (map_fst_wordEntries ▸ distinct) ?_
  rw [wordEntries, List.getElem?_map, listed, Option.map_some]

end Form

/-- The numbers of the cache settings by name. -/
def CacheSettings.words (cache : CacheSettings) : List (String × Nat) :=
  [("capacity", cache.capacity), ("ttlSeconds", cache.ttlSeconds),
   ("sweepIntervalSeconds", cache.sweepIntervalSeconds)]

/-- The numbers of the performance settings by name. -/
def PerformanceSettings.words (performance : PerformanceSettings) : List (String × Nat) :=
  [("warningThresholdMs", performance.warningThresholdMs),
   ("hardThresholdMs", performance.hardThresholdMs), ("sampleWindow", performance.sampleWindow)]

theorem CacheSettings.givenBy_write {cache : CacheSettings} {form : Form}
    (kept : form.KeepsAll cache.words standard.words) :
    givenBy (form.write (Form.wordEntries cache.words)) = cache := by
  have distinct : (cache.words.map Prod.fst).Nodup := by simp [words]
  rw [givenBy, kept.naturalOr_write distinct 0 rfl rfl, kept.naturalOr_write distinct 1 rfl rfl,
    kept.naturalOr_write distinct 2 rfl rfl]

theorem PerformanceSettings.givenBy_write {performance : PerformanceSettings} {form : Form}
    (kept : form.KeepsAll performance.words standard.words) :
    givenBy (form.write (Form.wordEntries performance.words)) = performance := by
  have distinct : (performance.words.map Prod.fst).Nodup := by simp [words]
  rw [givenBy, kept.naturalOr_write distinct 0 rfl rfl, kept.naturalOr_write distinct 1 rfl rfl,
    kept.naturalOr_write distinct 2 rfl rfl]

/-- The forms in which settings and their two parts are written. -/
structure SettingsForm where
  whole : Form
  cache : Form
  performance : Form

namespace Settings

/-- What is written for each field of the settings. -/
def entries (settings : Settings) (form : SettingsForm) : List (String × Json) :=
  [("queryTimeoutMs", .integer settings.queryTimeoutMs),
   ("cache", form.cache.write (Form.wordEntries settings.cache.words)),
   ("performance", form.performance.write (Form.wordEntries settings.performance.words))]

/-- Writes settings. -/
def write (settings : Settings) (form : SettingsForm) : Json :=
  form.whole.write (settings.entries form)

/-- Settings may be written in a form: numbers fit 64 bits, and only defaults are left out. -/
structure Fits (settings : Settings) (form : SettingsForm) : Prop where
  queryTimeoutMs :
    form.whole.Keeps "queryTimeoutMs" 0 settings.queryTimeoutMs standard.queryTimeoutMs
  cache : form.cache.KeepsAll settings.cache.words standard.cache.words
  performance : form.performance.KeepsAll settings.performance.words standard.performance.words
  cacheOmitted : form.whole.writes "cache" 1 = false → settings.cache = standard.cache
  performanceOmitted :
    form.whole.writes "performance" 2 = false → settings.performance = standard.performance

variable {settings : Settings} {form : SettingsForm}

theorem distinct_entries : ((settings.entries form).map Prod.fst).Nodup := by
  simp [entries]

theorem Fits.accepted (fits : settings.Fits form) : Accepted (settings.write form) where
  shape := Form.isRecord_write
  queryTimeoutMs part found := fits.queryTimeoutMs.isWord_of_part? distinct_entries rfl found
  cache part found := by
    rw [write, Form.part?_write distinct_entries rfl] at found
    split at found
    · exact Option.some.inj found ▸ fits.cache.isWordRecord (by simp [CacheSettings.words])
    · cases found
  performance part found := by
    rw [write, Form.part?_write distinct_entries rfl] at found
    split at found
    · exact Option.some.inj found ▸
        fits.performance.isWordRecord (by simp [PerformanceSettings.words])
    · cases found

theorem Fits.givenBy_write (fits : settings.Fits form) :
    givenBy (settings.write form) = settings := by
  rw [givenBy, write, fits.queryTimeoutMs.naturalOr_write distinct_entries rfl,
    Form.getD_map_part?_write distinct_entries rfl (CacheSettings.givenBy_write fits.cache)
      fits.cacheOmitted,
    Form.getD_map_part?_write distinct_entries rfl
      (PerformanceSettings.givenBy_write fits.performance) fits.performanceOmitted]

/-- Settings are read back wherever they stand. -/
theorem Fits.decode_eq {json : Json} (fits : settings.Fits form)
    (written : sectionOf json = settings.write form) : decode json = .ok settings := by
  rw [decode, written, readRecord_settings_eq_ok_iff, fits.givenBy_write]
  exact ⟨fits.accepted, rfl⟩

/-- **Settings are decoded exactly.** A value is decoded exactly if what it gives for every known
field is in the format, and then each field has the value that is given or its default; any other
value is refused with an error.  Settings that are written in any form in which only defaults are
left out are decoded to themselves, bare or under their name. -/
theorem settings_decoded_exactly :
    (∀ json : Json,
      ((∃ settings, decode json = .ok settings) ↔ Accepted (sectionOf json)) ∧
      (∀ settings, decode json = .ok settings → settings = givenBy (sectionOf json)) ∧
      (¬ Accepted (sectionOf json) → ∃ error, decode json = .error error)) ∧
    ∀ (settings : Settings) (form : SettingsForm), settings.Fits form →
      decode (settings.write form) = .ok settings ∧
      ∀ members : Members Json, members.lookup "ejs" = some (settings.write form) →
        decode (.object members) = .ok settings := by
  refine ⟨fun json => ?_, fun settings form fits => ⟨?_, fun members named => ?_⟩⟩
  · have exact (settings : Settings) : decode json = .ok settings ↔
        Accepted (sectionOf json) ∧ settings = givenBy (sectionOf json) :=
      readRecord_settings_eq_ok_iff
    refine ⟨?_, fun settings decoded => ((exact settings).1 decoded).2, fun refused => ?_⟩
    · simp only [exact, exists_and_left, exists_eq, and_true]
    · cases decoded : decode json with
      | error error => exact ⟨error, rfl⟩
      | ok settings => exact absurd ((exact settings).1 decoded).1 refused
  · apply fits.decode_eq
    rw [sectionOf, write, Form.member?_write distinct_entries (by simp [entries]), Option.getD_none]
  · apply fits.decode_eq
    rw [sectionOf, Json.member?, named, Option.getD_some]

/-- A capacity in an array under the name of the settings, beside a member that is not known, is
taken; an array with nothing where the cache is expected is refused; and the same settings are
decoded to themselves when everything else is left out. -/
theorem settings_decoded_exactly_of_mixed_shapes :
    let given : Json :=
      .ofMembers [("ejs", .ofMembers [("cache", .array [.integer 7]), ("other", .null)])]
    let refused : Json := .array [.integer 1, .null]
    let settings : Settings := ⟨500, ⟨7, 300, 60⟩, .standard⟩
    let form : SettingsForm := ⟨.object (· == "cache"), .array 1, .array 0⟩
    decode given = .ok settings ∧ Accepted (sectionOf given) ∧
      ¬ Accepted (sectionOf refused) ∧ (∃ error, decode refused = .error error) ∧
      settings.write form = .ofMembers [("cache", .array [.integer 7])] ∧
      decode (settings.write form) = .ok settings ∧
      decode (.ofMembers [("ejs", settings.write form)]) = .ok settings := by
  intro given refused settings form
  obtain ⟨exactly, returned⟩ := settings_decoded_exactly
  have unaccepted : ¬ Accepted (sectionOf refused) :=
    fun accepted => (accepted.cache .null rfl).1
  have cache : form.cache.KeepsAll settings.cache.words standard.cache.words := by
    intro place name value listed
    match place, listed with
    | 0, rfl => exact ⟨_, rfl, by decide, nofun⟩
    | 1, rfl => exact ⟨_, rfl, by decide, fun _ => rfl⟩
    | 2, rfl => exact ⟨_, rfl, by decide, fun _ => rfl⟩
    | _ + 3, listed => cases listed
  have performance :
      form.performance.KeepsAll settings.performance.words standard.performance.words := by
    intro place name value listed
    match place, listed with
    | 0, rfl => exact ⟨_, rfl, by decide, fun _ => rfl⟩
    | 1, rfl => exact ⟨_, rfl, by decide, fun _ => rfl⟩
    | 2, rfl => exact ⟨_, rfl, by decide, fun _ => rfl⟩
    | _ + 3, listed => cases listed
  have fits : settings.Fits form :=
    ⟨⟨by decide, fun _ => rfl⟩, cache, performance, nofun, fun _ => rfl⟩
  obtain ⟨bare, named⟩ := returned settings form fits
  exact ⟨rfl, (exactly given).1.1 ⟨settings, rfl⟩, unaccepted,
    (exactly refused).2.2 unaccepted, rfl, bare, named _ rfl⟩

end Settings

end TemplateNav
