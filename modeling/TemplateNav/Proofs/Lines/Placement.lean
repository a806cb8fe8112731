import TemplateNav.Lines
import TemplateNav.Proofs.Text.Placement

/-!
# Lines as parts of a text

Reading on moves a position strictly forward, so the order of positions is the
order of cuts.  A line is a part of its text that starts in the first column, and
a cut with the number of a line lies in that line, or behind the carriage return
that ends it.
-/

namespace TemplateNav

namespace Position

/-- Strictly before in reading order. -/
protected def lt (first second : Position) : Prop :=
  ¬ second ≤ first

instance : LT Position := ⟨Position.lt⟩

theorem lt_of_le_of_ne {first second : Position} (order : first ≤ second)
    (different : first ≠ second) : first < second :=
  fun backward => different (le_antisymm order backward)

theorem le_of_lt {first second : Position} (order : first < second) : first ≤ second :=
  (le_total first second).resolve_right order

/-- Where every document starts. -/
def origin : Position := ⟨0, 0⟩

theorem line_after (position : Position) (text : Text) :
    (position.after text).line = position.line + text.count '\n' := by
  induction text generalizing position with
  | nil => rfl
  | cons c rest ih =>
    rw [after_cons, ih, step]
    by_cases newline : c = '\n'
    · simp only [newline, ↓reduceIte, List.count_cons_self]
      omega
    · simp only [newline, ↓reduceIte, List.count_cons_of_ne newline]
      rfl

/-- Within a line only the column moves. -/
theorem after_eq_advancedBy {text : Text} (single : '\n' ∉ text) (position : Position) :
    position.after text = position.advancedBy (Text.utf16Length text) := by
  induction text generalizing position with
  | nil => rfl
  | cons c rest ih =>
    obtain ⟨first, others⟩ := not_or.1 (mt List.mem_cons.2 single)
    rw [after_cons, ih others, step, if_neg (Ne.symm first)]
    simp only [advancedBy, Text.utf16Length_cons, Nat.add_assoc]

theorem le_step (position : Position) (c : Char) : position ≤ position.step c := by
  rw [le_def, step]
  split
  · exact .inl (Nat.lt_succ_self _)
  · exact .inr ⟨rfl, Nat.le_add_right _ _⟩

theorem not_step_le (position : Position) (c : Char) : ¬ position.step c ≤ position := by
  have positive := Text.unitsOf_pos c
  rw [le_def, step]
  split
  · simp only
    omega
  · simp only [advancedBy]
    omega

theorem le_after (position : Position) (text : Text) : position ≤ position.after text := by
  induction text generalizing position with
  | nil => exact .inr ⟨rfl, Nat.le_refl _⟩
  | cons c rest ih => exact le_trans (le_step position c) (ih _)

theorem not_after_le {text : Text} (nonempty : text ≠ []) (position : Position) :
    ¬ position.after text ≤ position := by
  cases text with
  | nil => exact absurd rfl nonempty
  | cons c rest =>
    intro backward
    exact not_step_le position c (le_trans (le_after _ rest) backward)

/-- Of two cuts of one text the one with the smaller position comes first. -/
theorem length_le_of_after_le (position : Position) {text first second : Text}
    (firstCut : first <+: text) (secondCut : second <+: text)
    (order : position.after first ≤ position.after second) : first.length ≤ second.length := by
  apply Nat.le_of_not_lt
  intro shorter
  obtain ⟨between, rfl⟩ :=
    List.prefix_of_prefix_length_le secondCut firstCut (Nat.le_of_lt shorter)
  have nonempty : between ≠ [] := by
    rintro rfl
    simp at shorter
  rw [after_append] at order
  exact not_after_le nonempty _ order

end Position

namespace Text

theorem le_utf16Length_splitAtUnit (units : Nat) (line : Text) :
    min units (utf16Length line) ≤ utf16Length (splitAtUnit units line).1 := by
  induction line generalizing units with
  | nil => simp
  | cons c rest ih =>
    cases units with
    | zero => simp
    | succ units =>
      have later := ih (units + 1 - unitsOf c)
      simp only [splitAtUnit, utf16Length_cons]
      omega

/-- The cut at a column does not pass a character boundary that is at the column or behind it. -/
theorem utf16Length_splitAtUnit_le {units : Nat} {before after : Text}
    (reached : units ≤ utf16Length before) :
    utf16Length (splitAtUnit units (before ++ after)).1 ≤ utf16Length before := by
  induction before generalizing units with
  | nil =>
    obtain rfl : units = 0 := Nat.le_zero.1 reached
    simp [splitAtUnit]
  | cons c before ih =>
    cases units with
    | zero => simp [splitAtUnit]
    | succ units =>
      simp only [utf16Length_cons] at reached
      have later : utf16Length (splitAtUnit (units + 1 - unitsOf c) (before ++ after)).1 ≤
          utf16Length before := ih (by omega)
      simp only [List.cons_append, splitAtUnit, utf16Length_cons]
      omega

end Text

namespace Lines

open Position (origin)

theorem positionOf_append (before after : Text) :
    positionOf (before ++ after) (Text.utf8Length before) = origin.after before :=
  positionFrom_append origin before after

/-- `part` stands in `text` at a position. -/
def ReadsAt (text : Text) (position : Position) (part : Text) : Prop :=
  ∃ before after, text = before ++ part ++ after ∧
    positionOf text (Text.utf8Length before) = position

theorem readsAt_of_split (before part after : Text) :
    ReadsAt (before ++ part ++ after) (origin.after before) part := by
  refine ⟨before, after, rfl, ?_⟩
  rw [List.append_assoc]
  exact positionOf_append _ _

/-- `line` is the part of `text` that stands between two line ends, or a line end and an end of the
text: `moves` says that it starts in the first column of the line with the number `index`. -/
structure LineAt (text : Text) (index : Nat) (before line after : Text) : Prop where
  split : text = before ++ line ++ after
  single : '\n' ∉ line
  ending : ∃ mark rest, after = mark ++ rest ∧ (mark = [] ∨ mark = ['\r']) ∧
    ∀ c ∈ rest.head?, c = '\n'
  moves : ∀ position : Position, position.after before =
    ⟨position.line + index, if index = 0 then position.character else 0⟩

theorem raw_ne_nil (text : Text) : raw text ≠ [] := by
  cases text with
  | nil => simp [raw]
  | cons c rest =>
    rw [raw]
    split
    · simp
    · have tail := raw_ne_nil rest
      cases lines : raw rest with
      | nil => exact absurd lines tail
      | cons head others => simp

-- The case split follows `raw`: a line feed starts the next line, and any other character stands
-- in front of the first line of the rest.
theorem exists_split_of_raw {text line : Text} {index : Nat}
    (found : (raw text)[index]? = some line) :
    ∃ before after, text = before ++ line ++ after ∧ '\n' ∉ line ∧
      (∀ c ∈ after.head?, c = '\n') ∧ (index = 0 → before = []) ∧
      ∀ position : Position, position.after before =
        ⟨position.line + index, if index = 0 then position.character else 0⟩ := by
  induction text generalizing index line with
  | nil =>
    cases index with
    | zero =>
      obtain rfl : [] = line := by simpa [raw] using found
      exact ⟨[], [], by simp⟩
    | succ index => simp [raw] at found
  | cons c rest ih =>
    rw [raw] at found
    by_cases newline : c = '\n'
    · subst newline
      rw [if_pos rfl] at found
      cases index with
      | zero =>
        obtain rfl : [] = line := by simpa using found
        exact ⟨[], '\n' :: rest, by simp⟩
      | succ index =>
        obtain ⟨before, after, rfl, single, ending, _, moves⟩ := ih (by simpa using found)
        refine ⟨'\n' :: before, after, by simp, single, ending, by simp, ?_⟩
        intro position
        rw [Position.after_cons, Position.step, if_pos rfl, moves]
        simp only [ite_self, Nat.add_eq_zero_iff, Nat.succ_ne_self, and_false, ↓reduceIte,
          Position.mk.injEq, and_true]
        omega
    · rw [if_neg newline] at found
      obtain ⟨head, others, lines⟩ := List.exists_cons_of_ne_nil (raw_ne_nil rest)
      rw [lines, List.modifyHead_cons] at found
      cases index with
      | zero =>
        obtain rfl : c :: head = line := by simpa using found
        obtain ⟨before, after, rfl, single, ending, front, _⟩ :=
          ih (show (raw rest)[0]? = some head by simp [lines])
        obtain rfl := front rfl
        refine ⟨[], after, by simp, ?_, ending, by simp, by simp⟩
        intro member
        rcases List.mem_cons.1 member with same | later
        · exact newline same.symm
        · exact single later
      | succ index =>
        obtain ⟨before, after, rfl, single, ending, _, moves⟩ :=
          ih (show (raw rest)[index + 1]? = some line by simpa [lines] using found)
        refine ⟨c :: before, after, by simp, single, ending, by simp, ?_⟩
        intro position
        rw [Position.after_cons, moves, Position.step, if_neg newline]
        rfl

theorem exists_append_withoutReturn (line : Text) :
    ∃ mark, line = withoutReturn line ++ mark ∧ (mark = [] ∨ mark = ['\r']) := by
  unfold withoutReturn
  split
  · next last =>
    obtain ⟨front, rfl⟩ := List.getLast?_eq_some_iff.1 last
    exact ⟨['\r'], by simp, .inr rfl⟩
  · exact ⟨[], by simp, .inl rfl⟩

/-- Every line of a text is a part of it. -/
theorem exists_lineAt_of_raw {text line : Text} {index : Nat}
    (found : (raw text)[index]? = some line) :
    ∃ before after, LineAt text index before (withoutReturn line) after := by
  obtain ⟨before, after, split, single, ending, _, moves⟩ := exists_split_of_raw found
  obtain ⟨mark, line_eq, marked⟩ := exists_append_withoutReturn line
  refine ⟨before, mark ++ after, ?_, ?_, ⟨mark, after, rfl, marked, ending⟩, moves⟩
  · calc text = before ++ line ++ after := split
      _ = before ++ (withoutReturn line ++ mark) ++ after := by rw [← line_eq]
      _ = before ++ withoutReturn line ++ (mark ++ after) := by simp
  · intro member
    apply single
    rw [line_eq]
    exact List.mem_append_left _ member

theorem exists_lineAt_of_text? {text line : Text} {index : Nat}
    (found : text? text index = some line) :
    ∃ before after, LineAt text index before line after := by
  obtain ⟨rawLine, stored, rfl⟩ := Option.map_eq_some_iff.1 found
  exact exists_lineAt_of_raw stored

namespace LineAt

variable {text before line after : Text} {index : Nat}

theorem origin_after (place : LineAt text index before line after) :
    origin.after before = ⟨index, 0⟩ := by
  rw [place.moves]
  simp [origin]

theorem origin_after_append {left right : Text}
    (place : LineAt text index before (left ++ right) after) :
    origin.after (before ++ left) = ⟨index, Text.utf16Length left⟩ := by
  have single : '\n' ∉ left := fun member => place.single (List.mem_append_left _ member)
  rw [Position.after_append, place.origin_after, Position.after_eq_advancedBy single]
  simp [Position.advancedBy]

theorem isPrefix_splitAtUnit (place : LineAt text index before line after) (units : Nat) :
    before ++ (Text.splitAtUnit units line).1 <+: text := by
  refine ⟨(Text.splitAtUnit units line).2 ++ after, ?_⟩
  rw [← List.append_assoc, List.append_assoc before, Text.splitAtUnit_append, place.split]

theorem origin_after_splitAtUnit (place : LineAt text index before line after) (units : Nat) :
    origin.after (before ++ (Text.splitAtUnit units line).1) =
      ⟨index, Text.utf16Length (Text.splitAtUnit units line).1⟩ := by
  have pieces := Text.splitAtUnit_append units line
  exact (pieces.symm ▸ place : LineAt text index before _ after).origin_after_append

theorem eq_of_getLast?_before (place : LineAt text index before line after) :
    ∀ c ∈ before.getLast?, c = '\n' := by
  intro c last
  obtain ⟨front, rfl⟩ := List.getLast?_eq_some_iff.1 last
  have column := congrArg Position.character place.origin_after
  rw [Position.after_append, Position.after_cons, Position.after_nil, Position.step] at column
  have positive := Text.unitsOf_pos c
  split at column
  · assumption
  · simp only [Position.advancedBy] at column
    omega

theorem eq_of_head?_after (place : LineAt text index before line after) :
    ∀ c ∈ after.head?, c = '\n' ∨ c = '\r' := by
  intro c first
  obtain ⟨mark, rest, rfl, rfl | rfl, newline⟩ := place.ending
  · exact .inl (newline c first)
  · exact .inr (Option.some.inj first).symm

/-- A cut of the text with the number of a line is a cut of that line, or stands behind the carriage
return that ends it. -/
theorem exists_cut (place : LineAt text index before line after) {cut : Text}
    (inText : cut <+: text) (here : (origin.after cut).line = index) :
    (∃ left right, line = left ++ right ∧ cut = before ++ left) ∨
      cut = before ++ line ++ ['\r'] ∧
        ∃ rest, after = '\r' :: rest ∧ ∀ c ∈ rest.head?, c = '\n' := by
  have started : before.length ≤ cut.length := by
    apply Position.length_le_of_after_le origin ⟨line ++ after, by simp [place.split]⟩
      inText
    rw [place.origin_after, Position.le_def]
    exact .inr ⟨here.symm, Nat.zero_le _⟩
  obtain ⟨left, rfl⟩ : before <+: cut :=
    List.prefix_of_prefix_length_le ⟨line ++ after, by simp [place.split]⟩ inText started
  obtain ⟨beyond, inLine⟩ : left <+: line ++ after := by
    have whole := inText
    rwa [place.split, List.append_assoc, List.prefix_append_right_inj] at whole
  have single : '\n' ∉ left := by
    intro member
    have positive := List.count_pos_iff.2 member
    rw [Position.after_append, Position.line_after, place.origin_after] at here
    simp only at here
    omega
  rcases List.append_eq_append_iff.1 inLine with ⟨right, split, _⟩ | ⟨passed, rfl, ended⟩
  · exact .inl ⟨left, right, split, rfl⟩
  · obtain ⟨mark, rest, rfl, marked, newline⟩ := place.ending
    have noNewline : '\n' ∉ passed := fun member => single (List.mem_append_right _ member)
    -- What was passed holds no line feed, so it is at most the carriage return.
    cases passed with
    | nil => exact .inl ⟨line, [], by simp, by simp⟩
    | cons c passed =>
      rcases marked with rfl | rfl
      · have starts : rest = c :: (passed ++ beyond) := ended
        have first := newline c (by simp [starts])
        exact absurd (first ▸ List.mem_cons_self) noNewline
      · obtain ⟨rfl, later⟩ : '\r' = c ∧ rest = passed ++ beyond := by simpa using ended
        cases passed with
        | nil => exact .inr ⟨by simp, rest, rfl, newline⟩
        | cons d passed =>
          have second := newline d (by simp [later])
          exact absurd (second ▸ by simp) noNewline

end LineAt

end Lines

end TemplateNav
