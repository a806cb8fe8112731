import TemplateNav.Proofs.Lines.Placement

/-!
# From positions back to byte offsets

Every cut of a text lies on one of its lines.  Unless the cut stands behind the
carriage return that ends its line, the offset of its position is the number of
bytes before the cut.
-/

namespace TemplateNav

open Position (origin)

namespace Text

/-- A cut behind the start of a line cuts what follows that start. -/
theorem splitAtUnit_add (front line : Text) (units : Nat) :
    splitAtUnit (utf16Length front + units) (front ++ line) =
      (front ++ (splitAtUnit units line).1, (splitAtUnit units line).2) := by
  induction front with
  | nil => simp
  | cons c front ih =>
    have positive := unitsOf_pos c
    obtain ⟨columns, more⟩ : ∃ columns, unitsOf c + utf16Length front + units = columns + 1 :=
      ⟨unitsOf c + utf16Length front + units - 1, by omega⟩
    rw [utf16Length_cons, more, List.cons_append, splitAtUnit, ← more, Nat.add_assoc,
      Nat.add_sub_cancel_left, ih, List.cons_append]

theorem splitAtUnit_utf16Length (before after : Text) :
    splitAtUnit (utf16Length before) (before ++ after) = (before, after) := by
  simpa [splitAtUnit] using splitAtUnit_add before after 0

end Text

namespace Lines

/-- A cut of a text lies on one of its lines. -/
theorem exists_raw_of_isPrefix {text cut : Text} (inText : cut <+: text) (position : Position) :
    ∃ line, (raw text)[cut.count '\n']? = some line ∧ (position.after cut).character ≤
      (if cut.count '\n' = 0 then position.character else 0) + Text.utf16Length line := by
  induction cut generalizing text position with
  | nil =>
    obtain ⟨head, others, lines⟩ := List.exists_cons_of_ne_nil (raw_ne_nil text)
    exact ⟨head, by simp [lines], Nat.le_add_right _ _⟩
  | cons c cut ih =>
    obtain ⟨rest, rfl⟩ := inText
    obtain ⟨line, found, bound⟩ := ih (List.prefix_append cut rest) (position.step c)
    rw [List.cons_append, raw, Position.after_cons]
    by_cases newline : c = '\n'
    · refine ⟨line, by simpa [newline] using found, ?_⟩
      simpa [newline, Position.step] using bound
    · rw [if_neg newline, List.count_cons_of_ne newline]
      obtain ⟨head, others, lines⟩ := List.exists_cons_of_ne_nil (raw_ne_nil (cut ++ rest))
      rw [lines] at found ⊢
      by_cases first : cut.count '\n' = 0
      · obtain rfl : head = line := by simpa [first] using found
        refine ⟨c :: head, by simp [first], ?_⟩
        simpa [first, newline, Position.step, Position.advancedBy, Nat.add_assoc] using bound
      · refine ⟨line, ?_, by simpa [first] using bound⟩
        obtain ⟨index, next⟩ := Nat.exists_eq_succ_of_ne_zero first
        rw [next] at found ⊢
        simpa using found

theorem exists_lineAt_of_isPrefix {text cut : Text} (inText : cut <+: text) :
    ∃ front line back, text? text (origin.after cut).line = some line ∧
      LineAt text (origin.after cut).line front line back := by
  have number : (origin.after cut).line = cut.count '\n' := by
    rw [Position.line_after]
    exact Nat.zero_add _
  obtain ⟨stored, found, _⟩ := exists_raw_of_isPrefix inText origin
  have read : text? text (origin.after cut).line = some (withoutReturn stored) := by
    rw [number, text?, found, Option.map_some]
  obtain ⟨front, back, here⟩ := exists_lineAt_of_text? read
  exact ⟨front, _, back, read, here⟩

/-- The lines before a line start take up the bytes before it. -/
theorem foldl_take_raw {before : Text} (after : Text) (ended : ∀ c ∈ before.getLast?, c = '\n')
    (offset : Nat) :
    ((raw (before ++ after)).take (before.count '\n')).foldl
        (fun offset line => offset + Text.utf8Length line + 1) offset =
      offset + Text.utf8Length before := by
  induction before generalizing offset with
  | nil => simp
  | cons c before ih =>
    rw [List.cons_append, raw]
    by_cases last : before = []
    · obtain rfl : c = '\n' := ended c (by simp [last])
      simp [last]
      rfl
    · have endedLater : ∀ d ∈ before.getLast?, d = '\n' := by
        intro d found
        exact ended d (by rwa [List.getLast?_cons_of_ne_nil last])
      by_cases newline : c = '\n'
      · have later := ih endedLater (offset + 1)
        subst newline
        rw [if_pos rfl, List.count_cons_self, List.take_succ_cons, List.foldl_cons,
          Text.utf8Length_nil, Nat.add_zero, later, Text.utf8Length_cons]
        have size : '\n'.utf8Size = 1 := rfl
        omega
      · -- The line that `c` starts ends within `before`, so it is counted with `c` in front.
        have later := ih endedLater (offset + c.utf8Size)
        have counted : 0 < before.count '\n' := by
          rw [List.count_pos_iff, ← endedLater _ (List.getLast?_eq_some_getLast last)]
          exact List.getLast_mem last
        obtain ⟨others, more⟩ := Nat.exists_eq_succ_of_ne_zero (Nat.ne_of_gt counted)
        obtain ⟨head, rest, lines⟩ := List.exists_cons_of_ne_nil (raw_ne_nil (before ++ after))
        rw [lines, more, List.take_succ_cons, List.foldl_cons] at later
        rw [if_neg newline, List.count_cons_of_ne newline, lines, more, List.modifyHead_cons,
          List.take_succ_cons, List.foldl_cons, Text.utf8Length_cons, ← Nat.add_assoc, later,
          Text.utf8Length_cons, Nat.add_assoc]

theorem LineAt.start?_eq {text before line after : Text} {index : Nat}
    (place : LineAt text index before line after) (present : index < count text) :
    start? text index = some (Text.utf8Length before) := by
  have number : before.count '\n' = index := by
    have moved := congrArg Position.line place.origin_after
    rw [Position.line_after] at moved
    simpa [origin] using moved
  have sum := foldl_take_raw (line ++ after) place.eq_of_getLast?_before 0
  rw [← List.append_assoc, ← place.split, number, Nat.zero_add] at sum
  rw [start?, if_pos present, sum]

theorem lt_count_of_text? {text line : Text} {index : Nat} (read : text? text index = some line) :
    index < count text := by
  obtain ⟨stored, found, _⟩ := Option.map_eq_some_iff.1 read
  exact (List.getElem?_eq_some_iff.1 found).1

theorem exists_text?_of_lt_count {text : Text} {index : Nat} (present : index < count text) :
    ∃ line, text? text index = some line := by
  refine ⟨withoutReturn (raw text)[index], ?_⟩
  rw [text?, List.getElem?_eq_getElem present, Option.map_some]

/-- A column of a line leads to the bytes before the line and those up to the cut at the column. -/
theorem LineAt.offsetOf?_eq {text before line after : Text} {index : Nat}
    (place : LineAt text index before line after) (read : text? text index = some line)
    (units : Nat) :
    offsetOf? text ⟨index, units⟩ =
      some (Text.utf8Length (before ++ (Text.splitAtUnit units line).1)) := by
  rw [offsetOf?, read, place.start?_eq (lt_count_of_text? read), Text.utf8Length_append]
  rfl

/-- The cut between `before` and `after` does not stand behind the carriage return of a line end. -/
def CutsLine (before after : Text) : Prop :=
  before.getLast? = some '\r' → ∃ c ∈ after.head?, c ≠ '\n'

namespace CutsLine

variable {before after : Text}

theorem exists_lineAt (cut : CutsLine before after) :
    ∃ front left right back, before = front ++ left ∧ after = right ++ back ∧
      text? (before ++ after) (origin.after before).line = some (left ++ right) ∧
      LineAt (before ++ after) (origin.after before).line front (left ++ right) back := by
  have inText : before <+: before ++ after := List.prefix_append before after
  obtain ⟨front, line, back, read, here⟩ := exists_lineAt_of_isPrefix inText
  have split := here.split
  rcases here.exists_cut inText rfl with ⟨left, right, rfl, same⟩ | ⟨behind, rest, rfl, newline⟩
  · refine ⟨front, left, right, back, same, ?_, read, here⟩
    rw [same, List.append_assoc, List.append_assoc, List.append_assoc] at split
    simpa using split
  · -- Only a line feed or the end of the text follows the carriage return of a line.
    obtain ⟨c, head, other⟩ := cut (by rw [behind, List.getLast?_concat])
    rw [behind, List.append_assoc _ ['\r'], List.append_cancel_left_eq] at split
    obtain rfl : after = rest := by simpa using split
    exact absurd (newline c head) other

/-- The offset of a cut's position is the number of bytes before the cut. -/
theorem offsetOf?_eq (cut : CutsLine before after) :
    offsetOf? (before ++ after) (origin.after before) = some (Text.utf8Length before) := by
  obtain ⟨front, left, right, back, before_eq, _, read, here⟩ := cut.exists_lineAt
  have reached : origin.after before = ⟨(origin.after before).line, Text.utf16Length left⟩ := by
    have moved := here.origin_after_append
    rwa [← before_eq] at moved
  rw [reached, here.offsetOf?_eq read, Text.splitAtUnit_utf16Length, ← before_eq]

end CutsLine

end Lines

end TemplateNav
