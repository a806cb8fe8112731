import TemplateNav.Proofs.Lines.Offsets
import TemplateNav.Proofs.Template.Placement

/-!
# Every fragment is where it says it is

The first and the last position of a fragment are found in different ways, by
looking up an offset and by counting line feeds.  Both are the positions of the
ends of its content, and both lead back to the offsets of these ends: a trimmed
content neither starts with the line feed nor ends with the carriage return of a
line end, so none of its ends stands within one.
-/

namespace TemplateNav

namespace Tag

theorem opener_endsSolid (tag : Tag) : tag.opener.EndsSolid := by
  cases tag with
  | scriptlet => exact ⟨['<'], '%', rfl, by decide⟩
  | output => exact ⟨['<', '%'], '=', rfl, by decide⟩
  | unescapedOutput => exact ⟨['<', '%'], '-', rfl, by decide⟩

end Tag

namespace Fragment

/-- `fragment` is the text between `before` and `after`, which end and start with the delimiters of
its tag but for white space; its offset and its two positions are those of the ends of that text,
and each position leads back to its offset. -/
structure LocatedIn (text : Text) (fragment : Fragment) (before after : Text) : Prop where
  nonempty : fragment.content ≠ []
  head_solid : ∀ c ∈ fragment.content.head?, Text.isBlank c = false
  last_solid : ∀ c ∈ fragment.content.getLast?, Text.isBlank c = false
  split : text = before ++ fragment.content ++ after
  offset_eq : fragment.offset = Text.utf8Length before
  opened : fragment.tag.opener <:+ Text.trimEnd before
  closed : ['%', '>'] <+: Text.trimStart after
  start_eq : fragment.start = Lines.positionOf text fragment.offset
  stop_eq : fragment.stop =
    Lines.positionOf text (fragment.offset + Text.utf8Length fragment.content)
  start_offset : Lines.offsetOf? text fragment.start = some fragment.offset
  stop_offset : Lines.offsetOf? text fragment.stop =
    some (fragment.offset + Text.utf8Length fragment.content)

namespace PlacedIn

variable {fragment : Fragment} {text before after : Text}

theorem opener_isSuffix (place : fragment.PlacedIn text before after) :
    fragment.tag.opener <:+ Text.trimEnd before := by
  obtain ⟨lead, blank, rfl, blanks⟩ := place.opened
  rw [Text.trimEnd_append (fragment.tag.opener_endsSolid.append lead), Text.trimEnd_of_blank blanks,
    List.append_nil]
  exact List.suffix_append _ _

theorem closer_isPrefix (place : fragment.PlacedIn text before after) :
    ['%', '>'] <+: Text.trimStart after := by
  obtain ⟨blank, rest, rfl, blanks⟩ := place.closed
  rw [Text.trimStart_append blanks, Text.trimStart_of_solid ⟨'%', '>' :: rest, rfl, by decide⟩]
  exact List.prefix_append ['%', '>'] rest

theorem cutsLine_start (place : fragment.PlacedIn text before after) :
    Lines.CutsLine before (fragment.content ++ after) := by
  intro _
  obtain ⟨c, rest, content⟩ := List.exists_cons_of_ne_nil place.nonempty
  refine ⟨c, by simp [content], ?_⟩
  rintro rfl
  exact absurd (place.head_solid '\n' (by simp [content])) (by decide)

theorem cutsLine_stop (place : fragment.PlacedIn text before after) :
    Lines.CutsLine (before ++ fragment.content) after := by
  intro last
  rw [List.getLast?_append, List.getLast?_eq_some_getLast place.nonempty, Option.some_or,
    ← List.getLast?_eq_some_getLast place.nonempty] at last
  exact absurd (place.last_solid '\r' last) (by decide)

theorem locatedIn (place : fragment.PlacedIn text before after) :
    fragment.LocatedIn text before after where
  nonempty := place.nonempty
  head_solid := place.head_solid
  last_solid := place.last_solid
  split := place.split
  offset_eq := place.offset_eq
  opened := place.opener_isSuffix
  closed := place.closer_isPrefix
  start_eq := by
    rw [place.start_eq, place.offset_eq, place.split, List.append_assoc]
    exact (Lines.positionOf_append _ _).symm
  stop_eq := by
    rw [place.stop_eq, place.offset_eq, ← Text.utf8Length_append, place.split]
    exact (Lines.positionOf_append _ _).symm
  start_offset := by
    rw [place.start_eq, place.offset_eq, place.split, List.append_assoc]
    exact place.cutsLine_start.offsetOf?_eq
  stop_offset := by
    rw [place.stop_eq, place.offset_eq, ← Text.utf8Length_append, place.split]
    exact place.cutsLine_stop.offsetOf?_eq

end PlacedIn

/-- Every fragment of a document is located where it says. -/
theorem extracted_fragments_located (text : Text) :
    ∀ fragment ∈ extract text, ∃ before after, fragment.LocatedIn text before after := by
  intro fragment member
  obtain ⟨before, after, place⟩ := exists_placedIn_of_mem_extract member
  exact ⟨before, after, place.locatedIn⟩

/-- A fragment of two lines behind a character of four bytes, between a lone carriage return and a
line end. -/
theorem extracted_fragments_located_on_two_lines :
    let text : Text := ['😀', '<', '%', '=', '\r', 'a', '\r', '\n', 'b', '\r', '\n', '%', '>']
    let fragment : Fragment := ⟨['a', '\r', '\n', 'b'], ⟨0, 6⟩, ⟨1, 1⟩, .output, 8⟩
    fragment ∈ extract text ∧ ∃ before after, fragment.LocatedIn text before after := by
  intro text fragment
  have member : fragment ∈ extract text := by decide +kernel
  exact ⟨member, extracted_fragments_located text fragment member⟩

end Fragment

end TemplateNav
