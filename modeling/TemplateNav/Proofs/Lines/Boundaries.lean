import Mathlib.Order.Bounds.Basic
import TemplateNav.Proofs.Lines.Offsets

/-!
# Byte offsets in the order of positions

The places at which a text can be cut have the same order by their byte offsets as
by their positions.  An offset within a character has the position of the cut before
it, and one past the end that of the end.  The way back is exact but for line ends:
a cut behind the carriage return that ends a line comes back in front of it, and a
column that is none of its line goes on to the next one, or back to the last.
-/

namespace TemplateNav

open Position (origin)

namespace Text

/-- The byte offsets at which a text can be cut between two characters or at an end. -/
def IsBoundary (text : Text) (offset : Nat) : Prop :=
  ∃ before, before <+: text ∧ utf8Length before = offset

/-- The columns, in code units, at which a line can be cut. -/
def IsColumn (line : Text) (column : Nat) : Prop :=
  ∃ before, before <+: line ∧ utf16Length before = column

/-- The byte offsets behind a carriage return that ends a line. -/
def IsBehindReturn (text : Text) (offset : Nat) : Prop :=
  ∃ before after, text = before ++ ['\r'] ++ after ∧ utf8Length (before ++ ['\r']) = offset ∧
    ∀ c ∈ after.head?, c = '\n'

theorem utf8Length_le_of_isPrefix {first second : Text} (start : first <+: second) :
    utf8Length first ≤ utf8Length second := by
  obtain ⟨rest, rfl⟩ := start
  rw [utf8Length_append]
  exact Nat.le_add_right _ _

theorem utf16Length_le_of_isPrefix {first second : Text} (start : first <+: second) :
    utf16Length first ≤ utf16Length second := by
  obtain ⟨rest, rfl⟩ := start
  rw [utf16Length_append]
  exact Nat.le_add_right _ _

theorem isBoundary_append (before after : Text) :
    (before ++ after).IsBoundary (utf8Length before) :=
  ⟨before, List.prefix_append before after, rfl⟩

theorem utf8Length_pos {text : Text} (nonempty : text ≠ []) : 0 < utf8Length text := by
  obtain ⟨c, rest, rfl⟩ := List.exists_cons_of_ne_nil nonempty
  exact Nat.add_pos_left c.utf8Size_pos _

/-- Of two cuts of one text the one with fewer bytes before it comes first. -/
theorem isPrefix_of_utf8Length_le {text first second : Text} (firstCut : first <+: text)
    (secondCut : second <+: text) (order : utf8Length first ≤ utf8Length second) :
    first <+: second := by
  rcases List.prefix_or_prefix_of_prefix firstCut secondCut with before | ⟨between, rfl⟩
  · exact before
  · rw [utf8Length_append] at order
    obtain rfl : between = [] := by
      by_contra nonempty
      have positive := utf8Length_pos nonempty
      omega
    exact ⟨[], by simp⟩

/-- A column at the end of a line or past it cuts at the end. -/
theorem splitAtUnit_of_utf16Length_le {line : Text} {units : Nat}
    (passed : utf16Length line ≤ units) : (splitAtUnit units line).1 = line := by
  obtain ⟨more, rfl⟩ := Nat.exists_eq_add_of_le passed
  have cut := splitAtUnit_add line [] more
  have nothing : (splitAtUnit more []).1 = [] :=
    (List.append_eq_nil_iff.1 (splitAtUnit_append more [])).1
  rw [List.append_nil, nothing, List.append_nil] at cut
  rw [cut]

/-- A line is cut in the first of its columns that is not before the one asked for, or in the
last. -/
theorem isLeast_splitAtUnit (units : Nat) (line : Text) :
    IsLeast {column | line.IsColumn column ∧ min units (utf16Length line) ≤ column}
      (utf16Length (splitAtUnit units line).1) := by
  have cut : (splitAtUnit units line).1 <+: line := ⟨_, splitAtUnit_append units line⟩
  refine ⟨⟨⟨_, cut, rfl⟩, le_utf16Length_splitAtUnit units line⟩, ?_⟩
  intro column ⟨⟨other, otherCut, other_eq⟩, reaches⟩
  by_cases ahead : units ≤ column
  · obtain ⟨rest, rfl⟩ := otherCut
    rw [← other_eq] at ahead ⊢
    exact utf16Length_splitAtUnit_le ahead
  · have last := utf16Length_le_of_isPrefix cut
    have passed : utf16Length line ≤ column := by omega
    exact Nat.le_trans last passed

end Text

namespace Lines

theorem positionOf_of_isPrefix {text cut : Text} (inText : cut <+: text) :
    positionOf text (Text.utf8Length cut) = origin.after cut := by
  obtain ⟨rest, rfl⟩ := inText
  exact positionOf_append cut rest

/-- Offsets of cuts and their positions are in the same order. -/
theorem positionOf_le_iff {text : Text} {first second : Nat} (firstCut : text.IsBoundary first)
    (secondCut : text.IsBoundary second) :
    positionOf text first ≤ positionOf text second ↔ first ≤ second := by
  obtain ⟨before, beforeCut, rfl⟩ := firstCut
  obtain ⟨behind, behindCut, rfl⟩ := secondCut
  rw [positionOf_of_isPrefix beforeCut, positionOf_of_isPrefix behindCut]
  constructor
  · intro order
    have shorter := Position.length_le_of_after_le origin beforeCut behindCut order
    exact Text.utf8Length_le_of_isPrefix
      (List.prefix_of_prefix_length_le beforeCut behindCut shorter)
  · intro order
    obtain ⟨between, rfl⟩ := Text.isPrefix_of_utf8Length_le beforeCut behindCut order
    rw [Position.after_append]
    exact Position.le_after _ between

theorem positionOf_lt_iff {text : Text} {first second : Nat} (firstCut : text.IsBoundary first)
    (secondCut : text.IsBoundary second) :
    positionOf text first < positionOf text second ↔ first < second :=
  (not_congr (positionOf_le_iff secondCut firstCut)).trans Nat.not_le

/-- Reading on for a number of bytes stops at the last cut that they reach. -/
theorem exists_append_positionFrom (text : Text) (position : Position) (bytes : Nat) :
    ∃ before after, text = before ++ after ∧ Text.utf8Length before ≤ bytes ∧
      (∀ c ∈ after.head?, bytes < Text.utf8Length before + c.utf8Size) ∧
      positionFrom position bytes text = position.after before := by
  induction text generalizing position bytes with
  | nil => exact ⟨[], [], rfl, Nat.zero_le bytes, by simp, rfl⟩
  | cons c rest ih =>
    rw [positionFrom]
    split
    · next reached =>
      obtain ⟨before, after, rfl, within, last, read⟩ := ih (position.step c) (bytes - c.utf8Size)
      refine ⟨c :: before, after, rfl, ?_, ?_, read⟩
      · rw [Text.utf8Length_cons]
        omega
      · intro next head
        have beyond := last next head
        rw [Text.utf8Length_cons]
        omega
    · next short =>
      refine ⟨[], c :: rest, rfl, Nat.zero_le bytes, ?_, rfl⟩
      intro next head
      obtain rfl : c = next := Option.some.inj head
      rw [Text.utf8Length_nil]
      omega

/-- Every offset has the position of the last cut up to it. -/
theorem exists_isGreatest_boundary (text : Text) (offset : Nat) :
    ∃ boundary, IsGreatest {cut | text.IsBoundary cut ∧ cut ≤ offset} boundary ∧
      positionOf text offset = positionOf text boundary := by
  obtain ⟨before, after, rfl, within, last, read⟩ :=
    exists_append_positionFrom text origin offset
  refine ⟨Text.utf8Length before, ⟨⟨Text.isBoundary_append before after, within⟩, ?_⟩, ?_⟩
  · rintro _ ⟨⟨other, otherCut, rfl⟩, reached⟩
    by_contra further
    -- A cut further on has the character behind `before` in front of it.
    obtain ⟨between, rfl⟩ : before <+: other :=
      Text.isPrefix_of_utf8Length_le (List.prefix_append before after) otherCut (by omega)
    obtain ⟨beyond, rfl⟩ := (List.prefix_append_right_inj before).1 otherCut
    cases between with
    | nil => simp at further
    | cons c between =>
      have short := last c rfl
      rw [Text.utf8Length_append, Text.utf8Length_cons] at reached
      omega
  · rw [positionOf_append]
    exact read

/-- The position of a cut leads back to its offset, but for the carriage return that ends its
line. -/
theorem exists_offsetOf?_positionOf {text : Text} {offset : Nat}
    (boundary : text.IsBoundary offset) :
    ∃ start line, start? text (positionOf text offset).line = some start ∧
      text? text (positionOf text offset).line = some line ∧
      offsetOf? text (positionOf text offset) =
        some (min offset (start + Text.utf8Length line)) ∧
      (start + Text.utf8Length line < offset → text.IsBehindReturn offset) := by
  obtain ⟨cut, inText, rfl⟩ := boundary
  rw [positionOf_of_isPrefix inText]
  obtain ⟨front, line, back, read, here⟩ := exists_lineAt_of_isPrefix inText
  refine ⟨_, line, here.start?_eq (lt_count_of_text? read), read, ?_⟩
  rcases here.exists_cut inText rfl with ⟨left, right, rfl, same⟩ | ⟨same, rest, back_eq, newline⟩
  · have reached : origin.after cut = ⟨(origin.after cut).line, Text.utf16Length left⟩ := by
      have moved := here.origin_after_append
      rwa [← same] at moved
    have size := congrArg Text.utf8Length same
    simp only [Text.utf8Length_append] at size ⊢
    constructor
    · rw [reached, here.offsetOf?_eq read, Text.splitAtUnit_utf16Length, ← same]
      congr 1
      omega
    · omega
  · have whole : LineAt text (origin.after cut).line front (line ++ []) back := by
      rwa [List.append_nil]
    have column : Text.utf16Length line ≤ (origin.after cut).character := by
      have onward := Position.le_after (origin.after (front ++ line)) ['\r']
      rw [← Position.after_append, ← same, whole.origin_after_append, Position.le_def] at onward
      simp only [Nat.lt_irrefl, true_and, false_or] at onward
      exact onward
    have size := congrArg Text.utf8Length same
    simp only [Text.utf8Length_append] at size
    have return_size : Text.utf8Length ['\r'] = 1 := rfl
    constructor
    · have found := here.offsetOf?_eq read (origin.after cut).character
      rw [Text.splitAtUnit_of_utf16Length_le column, Text.utf8Length_append] at found
      rw [Nat.min_eq_right (by omega)]
      exact found
    · intro _
      refine ⟨front ++ line, rest, ?_, by rw [same], newline⟩
      rw [here.split, back_eq, List.append_assoc _ ['\r']]
      rfl

/-- The offset of a position is that of a cut on its line, in the first column that is not before
the position's own or, past the end, in the last. -/
theorem exists_positionOf_offsetOf? {text : Text} {position : Position}
    (present : position.line < count text) :
    ∃ line offset, text? text position.line = some line ∧ offsetOf? text position = some offset ∧
      (positionOf text offset).line = position.line ∧
      IsLeast {column | line.IsColumn column ∧
          min position.character (Text.utf16Length line) ≤ column}
        (positionOf text offset).character := by
  obtain ⟨line, read⟩ := exists_text?_of_lt_count present
  obtain ⟨front, back, here⟩ := exists_lineAt_of_text? read
  refine ⟨line, _, read, here.offsetOf?_eq read position.character, ?_⟩
  rw [positionOf_of_isPrefix (here.isPrefix_splitAtUnit position.character),
    here.origin_after_splitAtUnit]
  exact ⟨rfl, Text.isLeast_splitAtUnit position.character line⟩

theorem offsetOf?_eq_none_iff {text : Text} {position : Position} :
    offsetOf? text position = none ↔ count text ≤ position.line := by
  constructor
  · intro absent
    by_contra present
    obtain ⟨_, _, _, found, _⟩ := exists_positionOf_offsetOf? (Nat.lt_of_not_le present)
    rw [absent] at found
    cases found
  · intro beyond
    have absent : text? text position.line = none := by
      rw [text?, List.getElem?_eq_none beyond, Option.map_none]
    rw [offsetOf?, absent]
    rfl

/-- Positions order the cuts of a text as their byte offsets do, and the two conversions undo each
other but for rounding: an offset is rounded down to a cut, and a column up to one of its line;
columns past a line's text, that of the carriage return that ends it among them, mean its end. -/
theorem positions_embed_offsets (text : Text) :
    (∀ first second, text.IsBoundary first → text.IsBoundary second → first < second →
      positionOf text first < positionOf text second) ∧
    (∀ offset, ∃ boundary, IsGreatest {cut | text.IsBoundary cut ∧ cut ≤ offset} boundary ∧
      positionOf text offset = positionOf text boundary) ∧
    (∀ offset, text.IsBoundary offset →
      ∃ start line, start? text (positionOf text offset).line = some start ∧
        text? text (positionOf text offset).line = some line ∧
        offsetOf? text (positionOf text offset) =
          some (min offset (start + Text.utf8Length line)) ∧
        (offsetOf? text (positionOf text offset) ≠ some offset → text.IsBehindReturn offset)) ∧
    ∀ position, (offsetOf? text position = none ↔ count text ≤ position.line) ∧
      (position.line < count text →
        ∃ line offset, text? text position.line = some line ∧
          offsetOf? text position = some offset ∧
          (positionOf text offset).line = position.line ∧
          IsLeast {column | line.IsColumn column ∧
              min position.character (Text.utf16Length line) ≤ column}
            (positionOf text offset).character) := by
  refine ⟨?_, exists_isGreatest_boundary text, ?_,
    fun position => ⟨offsetOf?_eq_none_iff, exists_positionOf_offsetOf?⟩⟩
  · intro first second firstCut secondCut order
    exact (positionOf_lt_iff firstCut secondCut).2 order
  · intro offset boundary
    obtain ⟨start, line, started, read, found, behind⟩ := exists_offsetOf?_positionOf boundary
    refine ⟨start, line, started, read, found, ?_⟩
    intro differs
    rw [found, ne_eq, Option.some.injEq] at differs
    exact behind (by omega)

/-- A line that ends with a character of four bytes and two code units, and a carriage return: the
cuts before and behind the latter, and a column within the former. -/
theorem positions_embed_offsets_at_line_end :
    let text : Text := ['a', '😀', '\r', '\n', 'b']
    (text.IsBoundary 5 ∧ text.IsBoundary 6 ∧ positionOf text 5 < positionOf text 6) ∧
    (offsetOf? text (positionOf text 6) ≠ some 6 ∧ text.IsBehindReturn 6) ∧
    0 < count text ∧ ∃ offset, offsetOf? text ⟨0, 2⟩ = some offset ∧
      IsLeast {column | Text.IsColumn ['a', '😀'] column ∧ 2 ≤ column}
        (positionOf text offset).character := by
  intro text
  have before : text.IsBoundary 5 := ⟨['a', '😀'], by decide, rfl⟩
  have behind : text.IsBoundary 6 := ⟨['a', '😀', '\r'], by decide, rfl⟩
  obtain ⟨ordered, _, returned, placed⟩ := positions_embed_offsets text
  obtain ⟨_, _, _, _, _, ended⟩ := returned 6 behind
  have differs : offsetOf? text (positionOf text 6) ≠ some 6 := by decide
  have present : 0 < count text := by decide
  obtain ⟨line, offset, read, found, _, least⟩ := (placed ⟨0, 2⟩).2 present
  have line_eq : text? text 0 = some ['a', '😀'] := by decide
  obtain rfl : ['a', '😀'] = line := Option.some.inj (line_eq.symm.trans read)
  exact ⟨⟨before, behind, ordered 5 6 before behind (by decide)⟩, ⟨differs, ended differs⟩, present,
    offset, found, least⟩

end Lines

end TemplateNav
