import TemplateNav.Proofs.Lines.Boundaries
import TemplateNav.Proofs.Navigation.Surroundings

/-!
# The word at a cursor

A cursor cuts its line between two characters, and the word at the cursor is the run of
identifier characters that the cut touches.  Any cursor from the start of that run to its
end cuts the same run, so it has the same word.  No word is found only where the cut
touches no identifier character, or where there is no line to cut.
-/

namespace TemplateNav

namespace Text

variable {text : Text}

theorem EndsApart.eq_nil (ends : text.EndsApart) (parts : ∀ c ∈ text, Identifier.isPart c = true) :
    text = [] := by
  by_contra filled
  have other := ends _ (List.getLast?_eq_some_getLast filled)
  rw [parts _ (List.getLast_mem filled)] at other
  cases other

theorem StartsApart.eq_nil (starts : text.StartsApart)
    (parts : ∀ c ∈ text, Identifier.isPart c = true) : text = [] := by
  by_contra filled
  have other := starts _ (List.head?_eq_some_head filled)
  rw [parts _ (List.head_mem filled)] at other
  cases other

end Text

namespace Word

/-- The word `run` on the line with the number `index`, behind `outside`. -/
def ofRun (index : Nat) (outside run : Text) : Word :=
  ⟨Range.ofLength ⟨index, Text.utf16Length outside⟩ (Text.utf16Length run), run⟩

/-- A line as a cursor cuts it, between `left` and `right`.  These two are the run of identifier
characters around the cut, with `outside` before it and `behind` behind it. -/
structure CutAt (position : Position) (line outside left right behind : Text) : Prop where
  split : Text.splitAtUnit position.character line = (outside ++ left, right ++ behind)
  parts : ∀ c ∈ left ++ right, Identifier.isPart c = true
  ends : outside.EndsApart
  starts : behind.StartsApart

theorem exists_cutAt (position : Position) (line : Text) :
    ∃ outside left right behind, CutAt position line outside left right behind := by
  obtain ⟨left, right, before_eq, after_eq, _, parts, ends, starts⟩ :=
    exists_append_around (Text.splitAtUnit position.character line).1
      (Text.splitAtUnit position.character line).2
  exact ⟨_, left, right, _, Prod.ext before_eq after_eq, parts, ends, starts⟩

/-- `word` stands in a document between `before` and `after` as a whole run of identifier
characters, and its range leads to its first byte and to the one behind its last. -/
structure LocatedIn (text : Text) (word : Word) (before after : Text) : Prop where
  split : text = before ++ word.text ++ after
  run : IsRun before word.text after
  start_offset : Lines.offsetOf? text word.range.start = some (Text.utf8Length before)
  stop_offset : Lines.offsetOf? text word.range.stop =
    some (Text.utf8Length (before ++ word.text))

/-- A cursor cuts a text between two characters neither of which a name may hold. -/
def CutsNoWord (text : Text) (position : Position) : Prop :=
  ∃ before after, text = before ++ after ∧
    Lines.offsetOf? text position = some (Text.utf8Length before) ∧
    before.EndsApart ∧ after.StartsApart

namespace CutAt

variable {text line front outside left right behind back : Text} {position cursor : Position}

theorem line_eq (cut : CutAt position line outside left right behind) :
    line = outside ++ left ++ (right ++ behind) := by
  have pieces := Text.splitAtUnit_append position.character line
  rw [cut.split] at pieces
  exact pieces.symm

theorem at?_eq (cut : CutAt position line outside left right behind)
    (read : Lines.text? text position.line = some line) :
    at? text position =
      if (left ++ right).isEmpty then none
      else some (ofRun position.line outside (left ++ right)) := by
  rw [at?_eq_onLine, read, Option.bind_some, onLine, cut.split]
  simp only [around_append cut.parts cut.ends cut.starts]
  rfl

theorem offsetOf?_eq (cut : CutAt position line outside left right behind)
    (read : Lines.text? text position.line = some line)
    (here : Lines.LineAt text position.line front line back) :
    Lines.offsetOf? text position = some (Text.utf8Length (front ++ (outside ++ left))) := by
  have found := here.offsetOf?_eq read position.character
  rwa [cut.split] at found

theorem locatedIn (cut : CutAt position line outside left right behind)
    (read : Lines.text? text position.line = some line)
    (here : Lines.LineAt text position.line front line back) (filled : left ++ right ≠ []) :
    (ofRun position.line outside (left ++ right)).LocatedIn text (front ++ outside)
      (behind ++ back) where
  split := by
    rw [here.split, cut.line_eq, ofRun]
    simp
  run := ⟨filled, cut.parts, here.endsApart_before.append cut.ends,
    cut.starts.append here.startsApart_after⟩
  start_offset := by
    have found := here.offsetOf?_eq read (Text.utf16Length outside)
    rwa [cut.line_eq, List.append_assoc, Text.splitAtUnit_utf16Length] at found
  stop_offset := by
    have found := here.offsetOf?_eq read (Text.utf16Length (outside ++ (left ++ right)))
    have whole : line = (outside ++ (left ++ right)) ++ behind := by
      rw [cut.line_eq]
      simp
    rw [whole, Text.splitAtUnit_utf16Length, Text.utf16Length_append, ← List.append_assoc] at found
    exact found

/-- A cursor from the start of the run to its end cuts the run, so it has the same word. -/
theorem at?_of_contains (cut : CutAt position line outside left right behind)
    (read : Lines.text? text position.line = some line) (filled : left ++ right ≠ [])
    (touched : (ofRun position.line outside (left ++ right)).range.contains cursor = true) :
    at? text cursor = some (ofRun position.line outside (left ++ right)) := by
  simp only [ofRun, Range.contains, Range.ofLength, Position.advancedBy, Bool.and_eq_true,
    decide_eq_true_eq, Position.le_def, Identifier.utf16Length_of_isPart cut.parts] at touched
  -- Each character of the run takes one column, so the columns passed are characters.
  obtain ⟨first, second, run, size⟩ : ∃ first second, left ++ right = first ++ second ∧
      first.length = cursor.character - Text.utf16Length outside := by
    refine ⟨_, _, (List.take_append_drop
      (cursor.character - Text.utf16Length outside) (left ++ right)).symm, ?_⟩
    rw [List.length_take]
    omega
  have parts := cut.parts
  rw [run] at parts filled
  have columns := Identifier.utf16Length_of_isPart (List.forall_mem_append.1 parts).1
  have reached : cursor = ⟨position.line, Text.utf16Length (outside ++ first)⟩ := by
    rw [Text.utf16Length_append, columns]
    cases cursor
    simp only [Position.mk.injEq] at touched size ⊢
    omega
  have whole : line = outside ++ first ++ (second ++ behind) := by
    rw [cut.line_eq, List.append_assoc outside, ← List.append_assoc left, run]
    simp
  rw [reached, at?_of_line (whole ▸ read) filled parts cut.ends cut.starts, ofRun, run]

/-- Where the run is empty no identifier character is next to the cut. -/
theorem cutsNoWord_iff (cut : CutAt position line outside left right behind)
    (read : Lines.text? text position.line = some line)
    (here : Lines.LineAt text position.line front line back) :
    CutsNoWord text position ↔ left ++ right = [] := by
  have split : text = front ++ (outside ++ left) ++ (right ++ behind ++ back) := by
    rw [here.split, cut.line_eq]
    simp
  constructor
  · rintro ⟨before, after, whole, found, ends, starts⟩
    rw [cut.offsetOf?_eq read here, Option.some.injEq] at found
    obtain rfl := Text.eq_of_utf8Length_eq (split.symm.trans whole) found
    rw [split, List.append_cancel_left_eq, List.append_assoc] at whole
    rw [← List.append_assoc] at ends
    rw [← whole] at starts
    obtain ⟨leftParts, rightParts⟩ := List.forall_mem_append.1 cut.parts
    rw [ends.right.eq_nil leftParts, starts.left.eq_nil rightParts]
    rfl
  · intro empty
    obtain ⟨rfl, rfl⟩ := List.append_eq_nil_iff.1 empty
    refine ⟨_, _, split, cut.offsetOf?_eq read here, ?_, ?_⟩
    · rw [List.append_nil]
      exact here.endsApart_before.append cut.ends
    · rw [List.nil_append]
      exact cut.starts.append here.startsApart_after

end CutAt

/-- **The word at a cursor is the whole run that the cursor touches.** Its range leads to the bytes
that read it, and every cursor in that range has the same word.  No word is found only where there
is no line, or where the cursor cuts between two characters that no name may hold. -/
theorem cursor_words_maximal_and_stable (text : Text) (position : Position) :
    (∀ word, at? text position = some word →
      ∃ before after offset, word.LocatedIn text before after ∧
        Lines.offsetOf? text position = some offset ∧ Text.utf8Length before ≤ offset ∧
        offset ≤ Text.utf8Length (before ++ word.text) ∧
        ∀ cursor, word.range.contains cursor = true → at? text cursor = some word) ∧
    (at? text position = none ↔
      Lines.count text ≤ position.line ∨ CutsNoWord text position) := by
  by_cases present : position.line < Lines.count text
  · obtain ⟨line, read⟩ := Lines.exists_text?_of_lt_count present
    obtain ⟨front, back, here⟩ := Lines.exists_lineAt_of_text? read
    obtain ⟨outside, left, right, behind, cut⟩ := exists_cutAt position line
    have answer := cut.at?_eq read
    rw [cut.cutsNoWord_iff read here, answer]
    by_cases empty : left ++ right = []
    · simp [empty]
    · rw [if_neg (by simpa using empty)]
      refine ⟨?_, by simp [empty, Nat.not_le.2 present]⟩
      intro word found
      obtain rfl := Option.some.inj found
      refine ⟨_, _, _, cut.locatedIn read here empty, cut.offsetOf?_eq read here, ?_, ?_,
        fun cursor => cut.at?_of_contains read empty⟩
      · simp only [Text.utf8Length_append]
        omega
      · simp only [Text.utf8Length_append, ofRun]
        omega
  · have beyond := Nat.le_of_not_lt present
    have absent : at? text position = none := by
      rw [at?_eq_onLine, Lines.text?, List.getElem?_eq_none beyond, Option.map_none,
        Option.bind_none]
    simp [absent, beyond]

/-- A word at the end of a line, behind a character of two code units: a cursor past the end of the
line, one at the start of the word, and one in front of that character. -/
theorem cursor_words_maximal_and_stable_at_line_end :
    let text : Text := ['\n', '+', '😀', 'a', '1', '\r', '\n']
    let word : Word := ⟨⟨⟨1, 3⟩, ⟨1, 5⟩⟩, ['a', '1']⟩
    at? text ⟨1, 9⟩ = some word ∧ at? text ⟨1, 3⟩ = some word ∧
      (∃ before after, word.LocatedIn text before after) ∧
      at? text ⟨1, 1⟩ = none ∧ CutsNoWord text ⟨1, 1⟩ := by
  intro text word
  have found : at? text ⟨1, 9⟩ = some word := by decide
  have nothing : at? text ⟨1, 1⟩ = none := by decide
  obtain ⟨before, after, _, located, _, _, _, stable⟩ :=
    (cursor_words_maximal_and_stable text ⟨1, 9⟩).1 word found
  have present : ¬ Lines.count text ≤ 1 := by decide
  exact ⟨found, stable ⟨1, 3⟩ (by decide), ⟨before, after, located⟩, nothing,
    ((cursor_words_maximal_and_stable text ⟨1, 1⟩).2.1 nothing).resolve_left present⟩

end Word

end TemplateNav
