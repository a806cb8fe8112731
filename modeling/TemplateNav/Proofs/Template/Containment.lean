import TemplateNav.Proofs.Lines.Boundaries
import TemplateNav.Proofs.Template.Location

/-!
# A cursor touches a fragment where its bytes are

Whether a cursor touches a fragment is decided by lines and columns, on the first
and the last line of the fragment only by columns on one side.  At a cut of the
document this is the order of byte offsets, and any other cursor that touches a
fragment is read as a cut from the start of the fragment's content to its end.
-/

namespace TemplateNav

namespace Fragment

namespace PlacedIn

variable {fragment : Fragment} {text before after : Text}

theorem isBoundary_start (place : fragment.PlacedIn text before after) :
    text.IsBoundary fragment.offset := by
  rw [place.split, place.offset_eq, List.append_assoc]
  exact Text.isBoundary_append before _

theorem isBoundary_stop (place : fragment.PlacedIn text before after) :
    text.IsBoundary (fragment.offset + Text.utf8Length fragment.content) := by
  rw [place.split, place.offset_eq, ← Text.utf8Length_append]
  exact Text.isBoundary_append _ after

/-- The position of a cut touches a fragment if the cut is one of its content or of its ends. -/
theorem contains_positionOf_iff (place : fragment.PlacedIn text before after) {offset : Nat}
    (boundary : text.IsBoundary offset) :
    fragment.contains (Lines.positionOf text offset) = true ↔
      fragment.offset ≤ offset ∧ offset ≤ fragment.offset + Text.utf8Length fragment.content := by
  rw [contains_iff_le, place.locatedIn.start_eq, place.locatedIn.stop_eq,
    Lines.positionOf_le_iff place.isBoundary_start boundary,
    Lines.positionOf_le_iff boundary place.isBoundary_stop]

theorem line_lt_count (place : fragment.PlacedIn text before after) {position : Position}
    (touched : fragment.contains position = true) : position.line < Lines.count text := by
  have stopCut : before ++ fragment.content <+: text := ⟨after, place.split.symm⟩
  obtain ⟨_, _, _, read, _⟩ := Lines.exists_lineAt_of_isPrefix stopCut
  have last := Lines.lt_count_of_text? read
  rw [← place.stop_eq] at last
  exact Nat.lt_of_le_of_lt (contains_iff.1 touched).2.1 last

/-- A cursor that touches a fragment is read as an offset within its bytes. -/
theorem exists_offsetOf? (place : fragment.PlacedIn text before after) {position : Position}
    (touched : fragment.contains position = true) :
    ∃ offset, Lines.offsetOf? text position = some offset ∧ fragment.offset ≤ offset ∧
      offset ≤ fragment.offset + Text.utf8Length fragment.content := by
  obtain ⟨line, read⟩ := Lines.exists_text?_of_lt_count (place.line_lt_count touched)
  obtain ⟨front, back, here⟩ := Lines.exists_lineAt_of_text? read
  obtain ⟨afterStart, beforeStop⟩ := place.cut_within touched here
  have cutInText := here.isPrefix_splitAtUnit position.character
  refine ⟨_, here.offsetOf?_eq read position.character, ?_, ?_⟩
  · rw [place.offset_eq]
    exact Text.utf8Length_le_of_isPrefix (List.prefix_of_prefix_length_le
      ⟨fragment.content ++ after, by simp [place.split]⟩ cutInText afterStart)
  · rw [place.offset_eq, ← Text.utf8Length_append]
    exact Text.utf8Length_le_of_isPrefix (List.prefix_of_prefix_length_le cutInText
      ⟨after, place.split.symm⟩ beforeStop)

end PlacedIn

/-- The positions of a document's cuts touch a fragment if their offsets lie within its bytes, and
every cursor that touches a fragment, past the end of a line or within a character, is read as an
offset within them. -/
theorem containment_agrees_with_bytes {text : Text} {fragment : Fragment}
    (member : fragment ∈ extract text) :
    (∀ offset, text.IsBoundary offset →
      (fragment.contains (Lines.positionOf text offset) = true ↔
        fragment.offset ≤ offset ∧
          offset ≤ fragment.offset + Text.utf8Length fragment.content)) ∧
    ∀ position, fragment.contains position = true →
      ∃ offset, Lines.offsetOf? text position = some offset ∧ fragment.offset ≤ offset ∧
        offset ≤ fragment.offset + Text.utf8Length fragment.content := by
  obtain ⟨before, after, place⟩ := exists_placedIn_of_mem_extract member
  exact ⟨fun offset boundary => place.contains_positionOf_iff boundary,
    fun position touched => place.exists_offsetOf? touched⟩

/-- A fragment of two lines, the first of which ends with a carriage return: the cut behind that
return, a cut behind the fragment, and a cursor past the end of the first line. -/
theorem containment_agrees_with_bytes_at_line_end :
    let text : Text := ['<', '%', '😀', '\r', '\n', 'b', ' ', '%', '>']
    let fragment : Fragment := ⟨['😀', '\r', '\n', 'b'], ⟨0, 2⟩, ⟨1, 1⟩, .scriptlet, 2⟩
    fragment ∈ extract text ∧
      (text.IsBoundary 7 ∧ fragment.contains (Lines.positionOf text 7) = true) ∧
      (text.IsBoundary 10 ∧ fragment.contains (Lines.positionOf text 10) = false) ∧
      fragment.contains ⟨0, 9⟩ = true ∧
      ∃ offset, Lines.offsetOf? text ⟨0, 9⟩ = some offset ∧ 2 ≤ offset ∧ offset ≤ 9 := by
  intro text fragment
  have member : fragment ∈ extract text := by decide +kernel
  obtain ⟨atCuts, anywhere⟩ := containment_agrees_with_bytes member
  have inside : text.IsBoundary 7 := ⟨['<', '%', '😀', '\r'], by decide, rfl⟩
  have behind : text.IsBoundary 10 := ⟨['<', '%', '😀', '\r', '\n', 'b', ' '], by decide, rfl⟩
  have touched : fragment.contains ⟨0, 9⟩ = true := by decide
  refine ⟨member, ⟨inside, (atCuts 7 inside).2 (by decide)⟩, ⟨behind, ?_⟩, touched,
    anywhere ⟨0, 9⟩ touched⟩
  rw [Bool.eq_false_iff, ne_eq, atCuts 10 behind]
  decide

end Fragment

end TemplateNav
