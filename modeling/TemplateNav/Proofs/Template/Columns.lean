import TemplateNav.Proofs.Lines.Boundaries
import TemplateNav.Proofs.Template.Placement

/-!
# Columns of content lines as places in the document

A place in a fragment is found without the document: the line is counted from the first
line of the fragment, and the column from the start of the content line, which on the
first line is the column the fragment starts in.  The document has the same position at
the byte that stands there, so fragments that overlap agree on the places they share.
-/

namespace TemplateNav

namespace Fragment

/-- The byte `column` of a numbered content line is the byte `offset` of the document. -/
structure Reaches (fragment : Fragment) (index : Nat) (line : Text) (column offset : Nat) :
    Prop where
  listed : (index, line) ∈ fragment.lines
  boundary : line.IsBoundary column
  offset_eq : ∃ start, Lines.start? fragment.content index = some start ∧
    offset = fragment.offset + start + column

variable {fragment : Fragment} {text line : Text} {index column offset : Nat}

theorem exists_start?_of_mem_lines (member : (index, line) ∈ fragment.lines) :
    ∃ start, Lines.start? fragment.content index = some start := by
  have read := text?_of_mem_lines member
  obtain ⟨lead, rest, here⟩ := Lines.exists_lineAt_of_text? read
  exact ⟨_, here.start?_eq (Lines.lt_count_of_text? read)⟩

theorem PlacedIn.positionInLine_of_reaches {before after : Text}
    (place : fragment.PlacedIn text before after)
    (reaches : fragment.Reaches index line column offset) :
    fragment.positionInLine index line column = Lines.positionOf text offset := by
  obtain ⟨listed, ⟨left, ⟨right, rfl⟩, rfl⟩, start, started, rfl⟩ := reaches
  have read := text?_of_mem_lines listed
  obtain ⟨lead, rest, here⟩ := Lines.exists_lineAt_of_text? read
  rw [here.start?_eq (Lines.lt_count_of_text? read), Option.some.injEq] at started
  have bytes : fragment.offset + start + Text.utf8Length left =
      Text.utf8Length (before ++ lead ++ left) := by
    rw [place.offset_eq, ← started, Text.utf8Length_append, Text.utf8Length_append]
  have inText : before ++ lead ++ left <+: text :=
    ⟨right ++ rest ++ after, by rw [place.split, here.split]; simp⟩
  rw [place.positionInLine_eq here, bytes, Lines.positionOf_of_isPrefix inText]

/-- **A content line has the columns of the document.** Every cut of a content line is at a byte of
the document, and its position is the one that the document has at that byte.  Two fragments give
the same position to a byte that both reach. -/
theorem columns_agree_with_document (text : Text) :
    (∀ fragment ∈ extract text,
      (∀ index line column, (index, line) ∈ fragment.lines → line.IsBoundary column →
        ∃ offset, fragment.Reaches index line column offset) ∧
      ∀ index line column offset, fragment.Reaches index line column offset →
        fragment.positionInLine index line column = Lines.positionOf text offset) ∧
    ∀ first ∈ extract text, ∀ second ∈ extract text,
      ∀ index line column otherIndex otherLine otherColumn offset,
        first.Reaches index line column offset →
        second.Reaches otherIndex otherLine otherColumn offset →
          first.positionInLine index line column =
            second.positionInLine otherIndex otherLine otherColumn := by
  have agrees : ∀ fragment ∈ extract text, ∀ index line column offset,
      fragment.Reaches index line column offset →
        fragment.positionInLine index line column = Lines.positionOf text offset := by
    intro fragment member index line column offset reaches
    obtain ⟨before, after, place⟩ := exists_placedIn_of_mem_extract member
    exact place.positionInLine_of_reaches reaches
  refine ⟨fun fragment member => ⟨?_, agrees fragment member⟩, ?_⟩
  · intro index line column listed boundary
    obtain ⟨start, started⟩ := exists_start?_of_mem_lines listed
    exact ⟨_, listed, boundary, start, started, rfl⟩
  · intro first firstMember second secondMember index line column _ _ _ offset reaches otherReaches
    rw [agrees first firstMember _ _ _ _ reaches, agrees second secondMember _ _ _ _ otherReaches]

/-- The place between two characters that a bare tag and the tag around it both hold, on the first
line of the one and the second line of the other, behind a character of two code units. -/
theorem columns_agree_with_document_where_tags_overlap :
    let text : Text := ['<', '%', '=', 'é', '\r', '\n', '<', '%', '😀', 'b', '%', '>']
    let outer : Fragment := ⟨['é', '\r', '\n', '<', '%', '😀', 'b'], ⟨0, 3⟩, ⟨1, 5⟩, .output, 3⟩
    let inner : Fragment := ⟨['😀', 'b'], ⟨1, 2⟩, ⟨1, 5⟩, .scriptlet, 9⟩
    extract text = [outer, inner] ∧
      outer.Reaches 1 ['<', '%', '😀', 'b'] 6 13 ∧ inner.Reaches 0 ['😀', 'b'] 4 13 ∧
      inner.positionInLine 0 ['😀', 'b'] 4 = Lines.positionOf text 13 ∧
      outer.positionInLine 1 ['<', '%', '😀', 'b'] 6 = inner.positionInLine 0 ['😀', 'b'] 4 := by
  intro text outer inner
  have found : extract text = [outer, inner] := List.mergeSort_of_pairwise (by decide +kernel)
  have outerMember : outer ∈ extract text := by simp [found]
  have innerMember : inner ∈ extract text := by simp [found]
  have outerReaches : outer.Reaches 1 ['<', '%', '😀', 'b'] 6 13 :=
    ⟨by decide, ⟨['<', '%', '😀'], by decide, rfl⟩, 4, by decide, rfl⟩
  have innerReaches : inner.Reaches 0 ['😀', 'b'] 4 13 :=
    ⟨by decide, ⟨['😀'], by decide, rfl⟩, 0, by decide, rfl⟩
  obtain ⟨agrees, shared⟩ := columns_agree_with_document text
  exact ⟨found, outerReaches, innerReaches, (agrees inner innerMember).2 _ _ _ _ innerReaches,
    shared outer outerMember inner innerMember _ _ _ _ _ _ _ outerReaches innerReaches⟩

end Fragment

end TemplateNav
