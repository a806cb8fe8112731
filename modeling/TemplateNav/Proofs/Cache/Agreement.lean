import TemplateNav.Cache.Basic

/-!
# Caches that agree with texts

Which text is known for a document and revision depends on who asks: the open
documents of a session, or the queries under way.  An entry agrees with the known
texts if it holds what would be computed from them.  Dropping entries keeps
agreement, a look-up under agreement finds what would be computed, and storing
what was computed from a known text keeps agreement as long as no other text is
known there.
-/

namespace TemplateNav

namespace RevisionMap

variable {α : Type} {map : RevisionMap α} {compute : Text → α}
  {isKnown : Uri → Int → Text → Prop} {uri : Uri} {revision : Int} {now timeToLive : Nat}

/-- Every entry of the second map is one of the first. -/
def Shrinks (first second : RevisionMap α) : Prop :=
  ∀ entry ∈ second.entries, entry ∈ first.entries

/-- Every entry holds what `compute` gives for each text known under its document and revision. -/
def AgreesOn (map : RevisionMap α) (compute : Text → α) (isKnown : Uri → Int → Text → Prop) :
    Prop :=
  ∀ entry ∈ map.entries, ∀ text, isKnown entry.uri entry.revision text →
    entry.value = compute text

theorem Shrinks.refl (map : RevisionMap α) : Shrinks map map :=
  fun _ member => member

theorem Shrinks.trans {first second third : RevisionMap α} (left : Shrinks first second)
    (right : Shrinks second third) : Shrinks first third :=
  fun entry member => left entry (right entry member)

theorem shrinks_restrict (map : RevisionMap α) (isKept : Entry α → Bool) :
    Shrinks map (map.restrict isKept) :=
  fun _ member => (List.mem_filter.1 member).1

theorem shrinks_empty (map : RevisionMap α) : Shrinks map .empty := by
  intro entry member
  cases member

/-- Storing an entry brings in no other one. -/
theorem mem_of_mem_insert {entry other : Entry α} {capacity : Nat}
    (member : other ∈ (map.insert entry capacity).1.entries) :
    other = entry ∨ other ∈ map.entries ∧ other.uri ≠ entry.uri := by
  have others : other ∈ (map.erase entry.uri).entries ∨ other = entry := by
    simp only [insert] at member
    split at member
    · simpa [append] using member
    · rcases List.mem_append.1 member with kept | last
      · exact .inl (List.mem_filter.1 kept).1
      · exact .inr (List.mem_singleton.1 last)
  rcases others with kept | same
  · exact .inr ⟨shrinks_restrict _ _ _ kept, uri_ne_of_mem_erase kept⟩
  · exact .inl same

/-- A hit is the value of an entry for the document at the revision. -/
theorem exists_mem_of_lookup_eq_hit {value : α}
    (hit : map.lookup uri revision now timeToLive = .hit value) :
    ∃ entry ∈ map.entries, entry.uri = uri ∧ entry.revision = revision ∧ entry.value = value := by
  unfold lookup at hit
  split at hit
  · cases hit
  · next entry found =>
    split at hit
    · cases hit
    · split at hit
      · cases hit
      · next sameRevision =>
        have sameUri := List.find?_some found
        refine ⟨entry, List.mem_of_find?_eq_some found, by simpa using sameUri, ?_,
          Lookup.hit.inj hit⟩
        exact Decidable.not_not.1 sameRevision

namespace AgreesOn

theorem of_shrinks {other : RevisionMap α} (agrees : map.AgreesOn compute isKnown)
    (shrinks : Shrinks map other) : other.AgreesOn compute isKnown :=
  fun entry member => agrees entry (shrinks entry member)

theorem of_known {isNow : Uri → Int → Text → Prop} (agrees : map.AgreesOn compute isKnown)
    (known : ∀ uri revision text, isNow uri revision text → isKnown uri revision text) :
    map.AgreesOn compute isNow :=
  fun entry member text now => agrees entry member text (known _ _ _ now)

/-- Once the entry of a document is dropped, other texts may be known for it. -/
theorem erase_of_elsewhere {isNow : Uri → Int → Text → Prop}
    (agrees : map.AgreesOn compute isKnown)
    (elsewhere : ∀ other revision text, other ≠ uri → isNow other revision text →
      isKnown other revision text) : (map.erase uri).AgreesOn compute isNow := by
  intro entry member text known
  have different := uri_ne_of_mem_erase member
  exact agrees entry (shrinks_restrict _ _ _ member) text (elsewhere _ _ _ different known)

theorem lookup {text : Text} {value : α} (agrees : map.AgreesOn compute isKnown)
    (known : isKnown uri revision text)
    (hit : map.lookup uri revision now timeToLive = .hit value) : value = compute text := by
  obtain ⟨entry, member, rfl, rfl, rfl⟩ := exists_mem_of_lookup_eq_hit hit
  exact agrees entry member text known

theorem insert {entry : Entry α} (agrees : map.AgreesOn compute isKnown)
    (right : ∀ text, isKnown entry.uri entry.revision text → entry.value = compute text)
    (capacity : Nat) : (map.insert entry capacity).1.AgreesOn compute isKnown := by
  intro other member text known
  rcases mem_of_mem_insert member with rfl | ⟨old, _⟩
  · exact right text known
  · exact agrees other old text known

/-- What is fetched for a known text is what would be computed from it. -/
theorem fetch {text : Text} (agrees : map.AgreesOn compute isKnown)
    (known : isKnown uri revision text)
    (single : ∀ other, isKnown uri revision other → other = text) (limits : CacheLimits)
    (now : Nat) (make : Unit → α) (made : make () = compute text) :
    (map.fetch limits now uri revision make).value = compute text ∧
      (map.fetch limits now uri revision make).map.AgreesOn compute isKnown := by
  have right : ∀ other, isKnown uri revision other → make () = compute other := by
    intro other otherKnown
    rw [single other otherKnown]
    exact made
  unfold RevisionMap.fetch
  split
  · next value hit => exact ⟨agrees.lookup known hit, agrees⟩
  · exact ⟨made, agrees.insert right limits.capacity⟩
  · exact ⟨made, (agrees.of_shrinks (shrinks_restrict _ _)).insert right limits.capacity⟩

end AgreesOn

end RevisionMap

namespace Cache

variable {cache : Cache} {isKnown : Uri → Int → Text → Prop} {uri : Uri} {revision : Int}
  {text : Text}

/-- Both maps hold what would be computed from the known texts. -/
structure AgreesOn (cache : Cache) (isKnown : Uri → Int → Text → Prop) : Prop where
  fragments : cache.fragments.AgreesOn Fragment.extract isKnown
  symbols : cache.symbols.AgreesOn (fun text => Analysis.indexOf (Fragment.extract text)) isKnown

/-- The analysis of a document when time passes between its two look-ups. -/
def analyzeBetween (cache : Cache) (parsedAt indexedAt : Nat) (uri : Uri) (revision : Int)
    (text : Text) : Analysis × Cache :=
  let (fragments, cache) :=
    cache.fetchFragments parsedAt uri revision fun _ => Fragment.extract text
  let (index, cache) :=
    cache.fetchSymbols indexedAt uri revision fun _ => Analysis.indexOf fragments
  (⟨fragments, index⟩, cache)

namespace AgreesOn

theorem invalidate_of_elsewhere {isNow : Uri → Int → Text → Prop}
    (agrees : cache.AgreesOn isKnown)
    (elsewhere : ∀ other revision text, other ≠ uri → isNow other revision text →
      isKnown other revision text) : (cache.invalidate uri).AgreesOn isNow :=
  ⟨agrees.fragments.erase_of_elsewhere elsewhere, agrees.symbols.erase_of_elsewhere elsewhere⟩

theorem fetchFragments (agrees : cache.AgreesOn isKnown) (known : isKnown uri revision text)
    (single : ∀ other, isKnown uri revision other → other = text) (now : Nat) :
    (cache.fetchFragments now uri revision fun _ => Fragment.extract text).1 =
        Fragment.extract text ∧
      (cache.fetchFragments now uri revision fun _ => Fragment.extract text).2.AgreesOn isKnown :=
  have fetched := agrees.fragments.fetch known single cache.limits now
    (fun _ => Fragment.extract text) rfl
  ⟨fetched.1, fetched.2, agrees.symbols⟩

theorem fetchSymbols (agrees : cache.AgreesOn isKnown) (known : isKnown uri revision text)
    (single : ∀ other, isKnown uri revision other → other = text) (now : Nat) :
    (cache.fetchSymbols now uri revision fun _ =>
        Analysis.indexOf (Fragment.extract text)).1 = Analysis.indexOf (Fragment.extract text) ∧
      (cache.fetchSymbols now uri revision fun _ =>
        Analysis.indexOf (Fragment.extract text)).2.AgreesOn isKnown :=
  have fetched := agrees.symbols.fetch known single cache.limits now
    (fun _ => Analysis.indexOf (Fragment.extract text)) rfl
  ⟨fetched.1, agrees.fragments, fetched.2⟩

-- The index is computed from the fragments that were found, stored ones or new ones; agreement
-- makes them those of the text either way.
theorem analyzeBetween (agrees : cache.AgreesOn isKnown) (known : isKnown uri revision text)
    (single : ∀ other, isKnown uri revision other → other = text) (parsedAt indexedAt : Nat) :
    (cache.analyzeBetween parsedAt indexedAt uri revision text).1 = Analysis.ofText text ∧
      (cache.analyzeBetween parsedAt indexedAt uri revision text).2.AgreesOn isKnown := by
  obtain ⟨found, parsed⟩ := agrees.fetchFragments known single parsedAt
  obtain ⟨indexed, kept⟩ := parsed.fetchSymbols known single indexedAt
  simp only [Cache.analyzeBetween, found, indexed]
  exact ⟨rfl, kept⟩

/-- The analysis of a known text is its own, whichever of the two maps has an entry for it. -/
theorem analyze (agrees : cache.AgreesOn isKnown) (known : isKnown uri revision text)
    (single : ∀ other, isKnown uri revision other → other = text) (now : Nat) :
    (cache.analyze now uri revision text).1 = Analysis.ofText text ∧
      (cache.analyze now uri revision text).2.AgreesOn isKnown :=
  agrees.analyzeBetween known single now now

end AgreesOn

end Cache

end TemplateNav
