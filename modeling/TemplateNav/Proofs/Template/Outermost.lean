import TemplateNav.Proofs.Template.Nesting

/-!
# The first fragment that a cursor touches

Fragments that share bytes end together, so of the fragments that a cursor touches
the first one holds all others, but for one that starts where it ends.  It is the
innermost of them only if no tag of another kind opens in its code before the
cursor: the code behind such an opener ends a fragment of that kind, and that
fragment ends with the first one and is touched as well.
-/

namespace TemplateNav

namespace Text

theorem StartsSolid.isBlankText_eq_false {text : Text} (starts : text.StartsSolid)
    (front : Text) : isBlankText (front ++ text) = false := by
  obtain ⟨c, rest, rfl, solid⟩ := starts
  simp [isBlankText, solid]

theorem EndsSolid.of_append {front text : Text} (ends : EndsSolid (front ++ text))
    (nonempty : text ≠ []) : text.EndsSolid := by
  obtain ⟨more, c, split, solid⟩ := ends
  have last := congrArg List.getLast? split
  rw [List.getLast?_append, List.getLast?_eq_some_getLast nonempty, Option.some_or,
    List.getLast?_concat] at last
  refine ⟨_, _, (List.dropLast_concat_getLast nonempty).symm, ?_⟩
  rwa [Option.some.inj last]

end Text

namespace Tag

/-- An opener in the body of a tag encloses what follows it in that body. -/
theorem ReadIn.encloses {first second : Tag} {text lead body rest skipped inside : Text}
    (read : first.ReadIn text lead body rest)
    (body_eq : body = skipped ++ (second.opener ++ inside))
    (bare : second = .scriptlet → ∀ c ∈ inside.head?, c ≠ '=' ∧ c ≠ '-') :
    second.Encloses text (lead ++ (first.opener ++ skipped)) inside rest := by
  have opening := first.two_le_length_opener
  have inner := second.two_le_length_opener
  refine ⟨?_, ?_, ?_⟩
  · rw [read.split, body_eq]
    simp
  · apply read.absent_of_isSuffix
    · exact ⟨first.opener ++ (skipped ++ second.opener), by simp [body_eq]⟩
    · simp only [body_eq, List.length_append]
      omega
  · rintro rfl c head
    refine ⟨(bare rfl c head).1, (bare rfl c head).2, ?_⟩
    rintro rfl
    -- The second character of the opener would begin a delimiter.
    obtain ⟨tail, rfl⟩ := List.head?_eq_some_iff.1 head
    have absent : ¬ ['%', '>'] <:+: '%' :: '>' :: tail := by
      apply read.absent_of_isSuffix
      · exact ⟨first.opener ++ (skipped ++ ['<']), by simp [body_eq, opener]⟩
      · have width : scriptlet.opener.length = 2 := rfl
        simp only [body_eq, List.length_append, List.length_cons]
        omega
    exact absent ⟨[], tail, rfl⟩

end Tag

namespace Fragment

/-- The bytes of `inner` are some of those of `outer`, and not all of them. -/
def StrictlyWithin (inner outer : Fragment) : Prop :=
  outer.offset < inner.offset ∧ inner.offset + Text.utf8Length inner.content ≤
      outer.offset + Text.utf8Length outer.content ∨
    outer.offset ≤ inner.offset ∧ inner.offset + Text.utf8Length inner.content <
      outer.offset + Text.utf8Length outer.content

/-- No fragment that a cursor touches is strictly within `fragment`. -/
def IsInnermost (text : Text) (position : Position) (fragment : Fragment) : Prop :=
  ∀ other ∈ extract text, other.contains position = true → ¬ other.StrictlyWithin fragment

variable {text : Text} {position : Position} {first second : Fragment}

/-- What is not blank at the end of a body ends the fragment of that body. -/
theorem exists_endsWith_of_mem_bodies {tag : Tag} {body : Tag.Body} {front part : Text}
    (listed : body ∈ tag.bodies text) (text_eq : body.text = front ++ part)
    (solid : Text.isBlankText part = false) :
    let start := body.offset + Text.utf8Length front +
      (Text.utf8Length part - Text.utf8Length (Text.trimStart part))
    ∃ fragment ∈ extract text, fragment.tag = tag ∧
      fragment.EndsWith text start (start + Text.utf8Length (Text.trim part)) := by
  intro start
  obtain ⟨more, trimmed, sizes⟩ := Text.exists_trim_append solid front
  have filled : Text.trim body.text ≠ [] := by
    obtain ⟨c, rest, token, _⟩ := (Text.isToken_trim solid).starts
    rw [text_eq, trimmed, token]
    simp
  obtain ⟨fragment, made, ⟨before, after, located⟩, content, kind, offset⟩ :=
    exists_fragment_of_mem_bodies listed filled
  refine ⟨fragment, mem_extract_iff.2 ⟨tag, body, listed, made⟩, kind, ?_⟩
  apply located.endsWith (content.trans (by rw [text_eq, trimmed]))
  rw [offset, text_eq]
  omega

namespace Opens

variable {tag : Tag} {before gap code : Text}

theorem isToken (opens : first.Opens tag before gap code) (content : first.content.IsToken) :
    code.IsToken := by
  have ends := content.ends
  have content_eq : first.content = before ++ (tag.opener ++ gap) ++ code := by
    simp [opens.content_eq]
  obtain ⟨c, more, filled, _⟩ := opens.solid
  rw [content_eq] at ends
  exact ⟨opens.solid, ends.of_append (by simp [filled])⟩

/-- An opener in a fragment encloses the code behind it, up to the delimiter that closes the
fragment. -/
theorem exists_encloses (opens : first.Opens tag before gap code) {lead body rest : Text}
    (cut : first.CutFrom text lead body rest) :
    ∃ outer trailing, tag.Encloses text outer (gap ++ (code ++ trailing)) rest ∧
      (∀ c ∈ trailing, Text.isBlank c = true) ∧
      Text.utf8Length (outer ++ tag.opener) =
        first.offset + Text.utf8Length (before ++ tag.opener) := by
  obtain ⟨leading, trailing, body_eq, _, blanks, offset⟩ := cut.exists_append
  refine ⟨lead ++ (first.tag.opener ++ (leading ++ before)), trailing, ?_, blanks, ?_⟩
  · apply cut.read.encloses
    · simp [body_eq, opens.content_eq]
    · obtain ⟨c, more, rfl, _⟩ := opens.solid
      simpa using opens.bare
  · simp only [Text.utf8Length_append] at offset ⊢
    omega

/-- The code behind an opener in a fragment ends a fragment of the opener's kind, which ends with
the other. -/
theorem exists_endsWith (opens : first.Opens tag before gap code) (member : first ∈ extract text) :
    ∃ other ∈ extract text, other.tag = tag ∧
      other.EndsWith text (first.offset + Text.utf8Length (before ++ (tag.opener ++ gap)))
        (first.offset + Text.utf8Length first.content) := by
  obtain ⟨lead, body, rest, cut⟩ := exists_cutFrom_of_mem_extract member
  obtain ⟨outer, trailing, encloses, blanks, offset⟩ := opens.exists_encloses cut
  obtain ⟨kept, trimmed⟩ := Text.trim_append opens.blank (opens.isToken cut.isToken) trailing
  rw [Text.trimEnd_of_blank blanks, List.append_nil] at trimmed
  have solid := (opens.solid.append trailing).isBlankText_eq_false gap
  have filled : gap ++ (code ++ trailing) ≠ [] := by
    intro empty
    rw [empty] at solid
    cases solid
  obtain ⟨found, listed, skipped, text_eq, start⟩ := encloses.exists_mem_bodies filled
  obtain ⟨other, extracted, kind, ends⟩ := exists_endsWith_of_mem_bodies listed text_eq solid
  have first_eq : first.offset + Text.utf8Length (before ++ (tag.opener ++ gap)) =
      found.offset + Text.utf8Length skipped +
        (Text.utf8Length (gap ++ (code ++ trailing)) - Text.utf8Length (code ++ trailing)) := by
    simp only [Text.utf8Length_append] at offset start ⊢
    omega
  have last_eq : first.offset + Text.utf8Length first.content =
      first.offset + Text.utf8Length (before ++ (tag.opener ++ gap)) + Text.utf8Length code := by
    simp only [opens.content_eq, Text.utf8Length_append]
    omega
  refine ⟨other, extracted, kind, ?_⟩
  rw [last_eq, first_eq]
  rwa [trimmed, kept] at ends

end Opens

/-- Of two fragments that a cursor touches none starts behind the end of the other. -/
theorem offset_le_of_touched (firstMember : first ∈ extract text)
    (secondMember : second ∈ extract text) (firstTouched : first.contains position = true)
    (secondTouched : second.contains position = true) :
    second.offset ≤ first.offset + Text.utf8Length first.content := by
  obtain ⟨_, _, place⟩ := exists_placedIn_of_mem_extract firstMember
  obtain ⟨_, _, laterPlace⟩ := exists_placedIn_of_mem_extract secondMember
  have meets : second.start ≤ first.stop :=
    Position.le_trans (contains_iff_le.1 secondTouched).1 (contains_iff_le.1 firstTouched).2
  rwa [laterPlace.locatedIn.start_eq, place.locatedIn.stop_eq,
    Lines.positionOf_le_iff laterPlace.isBoundary_start place.isBoundary_stop] at meets

/-- The first fragment that a cursor touches leads every other one that it touches. -/
theorem leads_of_at? (pointed : at? (extract text) position = some first)
    (member : second ∈ extract text) (touched : second.contains position = true)
    (different : second ≠ first) : first.Leads second := by
  obtain ⟨_, front, back, split, skipped⟩ := List.find?_eq_some_iff_append.1 pointed
  have behind : second ∈ back := by
    rw [split] at member
    rcases List.mem_append.1 member with earlier | later
    · have untouched := skipped second earlier
      simp [touched] at untouched
    · exact (List.mem_cons.1 later).resolve_left different
  have sorted := pairwise_start_le text
  rw [split] at sorted
  have order := (List.pairwise_cons.1 (List.pairwise_append.1 sorted).2.1).1 second behind
  have firstMember : first ∈ extract text := List.mem_of_find?_eq_some pointed
  rcases eq_or_leads firstMember member with same | forward | backward
  · exact absurd same.symm different
  · exact forward
  · exact absurd order ((start_lt_iff member firstMember).2 backward.starts)

/-- A fragment that another one leads is strictly within it, or starts where it ends, if a cursor
touches both. -/
theorem Leads.strictlyWithin_or_eq (leads : first.Leads second) (firstMember : first ∈ extract text)
    (secondMember : second ∈ extract text) (firstTouched : first.contains position = true)
    (secondTouched : second.contains position = true) :
    second.StrictlyWithin first ∨
      second.offset = first.offset + Text.utf8Length first.content := by
  have meets := offset_le_of_touched firstMember secondMember firstTouched secondTouched
  rcases leads.ends with before | ⟨_, together⟩
  · exact .inr (Nat.le_antisymm meets before)
  · exact .inl (.inl ⟨leads.starts, Nat.le_of_eq together.symm⟩)

/-- A fragment that another one leads and holds stands behind an opener of its kind there. -/
theorem Leads.exists_opens (leads : first.Leads second) (firstMember : first ∈ extract text)
    (secondMember : second ∈ extract text) (within : second.StrictlyWithin first) :
    second.tag ≠ first.tag ∧ ∃ before gap, first.Opens second.tag before gap second.content ∧
      second.offset =
        first.offset + Text.utf8Length (before ++ (second.tag.opener ++ gap)) := by
  obtain ⟨lead, body, rest, cut⟩ := exists_cutFrom_of_mem_extract firstMember
  obtain ⟨laterLead, laterBody, laterRest, laterCut⟩ := exists_cutFrom_of_mem_extract secondMember
  have starts := leads.starts
  have inside : ¬ first.offset + Text.utf8Length first.content ≤ second.offset := by
    have positive := Text.utf8Length_pos laterCut.nonempty
    unfold StrictlyWithin at within
    omega
  have different : first.tag ≠ second.tag := (leads.ends.resolve_left inside).1
  refine ⟨different.symm, ?_⟩
  rcases Nat.lt_trichotomy lead.length laterLead.length with before | same | behind
  · exact (cut.within_or_behind laterCut before).resolve_right inside
  · exact absurd (cut.read.tag_eq_of_length_eq laterCut.read same) different
  · have backward := (laterCut.leads cut different.symm behind).starts
    omega

/-- A cursor is led to the fragment that holds all others that it touches, but for one that starts
where this one ends.  That is the innermost fragment exactly if no tag of another kind opens in its
content with code that starts at the cursor or before it. -/
theorem first_fragment_is_outermost
    (touched : ∃ fragment ∈ extract text, fragment.contains position = true) :
    ∃ fragment ∈ extract text, at? (extract text) position = some fragment ∧
      fragment.contains position = true ∧
      (∀ other ∈ extract text, other.contains position = true → other ≠ fragment →
        other.StrictlyWithin fragment ∨
          other.offset = fragment.offset + Text.utf8Length fragment.content) ∧
      (IsInnermost text position fragment ↔
        ¬ ∃ tag before gap code, tag ≠ fragment.tag ∧ fragment.Opens tag before gap code ∧
          Lines.positionOf text
            (fragment.offset + Text.utf8Length (before ++ (tag.opener ++ gap))) ≤ position) := by
  obtain ⟨fragment, pointed⟩ := Option.isSome_iff_exists.1 (List.find?_isSome.2 touched)
  have member : fragment ∈ extract text := List.mem_of_find?_eq_some pointed
  have here : fragment.contains position = true := by simpa using List.find?_some pointed
  obtain ⟨_, _, place⟩ := exists_placedIn_of_mem_extract member
  refine ⟨fragment, member, pointed, here, ?_, ?_, ?_⟩
  · intro other otherMember otherTouched different
    exact (leads_of_at? pointed otherMember otherTouched different).strictlyWithin_or_eq member
      otherMember here otherTouched
  · rintro innermost ⟨tag, before, gap, code, different, opens, reached⟩
    obtain ⟨other, otherMember, rfl, ends⟩ := opens.exists_endsWith member
    have ahead := (contains_iff_le.1 here).2
    rw [place.locatedIn.stop_eq] at ahead
    have otherTouched := ends.touched position reached ahead
    have leads := leads_of_at? pointed otherMember otherTouched (by rintro rfl; exact different rfl)
    exact innermost other otherMember otherTouched (.inl ⟨leads.starts, Nat.le_of_eq ends.stop_eq⟩)
  · intro unopened other otherMember otherTouched within
    have different : other ≠ fragment := by
      rintro rfl
      unfold StrictlyWithin at within
      omega
    have leads := leads_of_at? pointed otherMember otherTouched different
    obtain ⟨kinds, before, gap, opens, offset⟩ := leads.exists_opens member otherMember within
    obtain ⟨_, _, otherPlace⟩ := exists_placedIn_of_mem_extract otherMember
    refine unopened ⟨other.tag, before, gap, other.content, kinds, opens, ?_⟩
    rw [← offset, ← otherPlace.locatedIn.start_eq]
    exact (contains_iff_le.1 otherTouched).1

/-- A bare tag that opens in an output tag, and a cursor at its code. -/
theorem first_fragment_is_outermost_of_nested :
    let text : Text := ['<', '%', '=', ' ', 'a', ' ', '<', '%', ' ', 'b', ' ', '%', '>']
    let outer : Fragment := ⟨['a', ' ', '<', '%', ' ', 'b'], ⟨0, 4⟩, ⟨0, 10⟩, .output, 4⟩
    let inner : Fragment := ⟨['b'], ⟨0, 9⟩, ⟨0, 10⟩, .scriptlet, 9⟩
    extract text = [outer, inner] ∧ inner.contains ⟨0, 9⟩ = true ∧
      at? (extract text) ⟨0, 9⟩ = some outer ∧ inner.StrictlyWithin outer ∧
      outer.Opens .scriptlet ['a', ' '] [' '] ['b'] ∧ ¬ IsInnermost text ⟨0, 9⟩ outer := by
  intro text outer inner
  have extracted : extract text = [outer, inner] := List.mergeSort_of_pairwise (by decide +kernel)
  have touched : inner.contains ⟨0, 9⟩ = true := by decide
  have member : inner ∈ extract text := by simp [extracted]
  have opens : outer.Opens .scriptlet ['a', ' '] [' '] ['b'] :=
    ⟨rfl, List.forall_mem_singleton.2 (by decide), ⟨'b', [], rfl, by decide⟩, by simp⟩
  obtain ⟨fragment, _, pointed, _, others, innermost⟩ :=
    first_fragment_is_outermost ⟨inner, member, touched⟩
  obtain rfl : outer = fragment := by
    rw [extracted] at pointed
    exact Option.some.inj pointed
  refine ⟨extracted, touched, pointed, ?_, opens, ?_⟩
  · exact (others inner member touched (by decide)).resolve_right (by decide)
  · intro inside
    exact innermost.1 inside ⟨.scriptlet, ['a', ' '], [' '], ['b'], by decide, opens, by decide⟩

end Fragment

end TemplateNav
