import TemplateNav.Proofs.Lines.Placement

/-!
# Positions behind a text put in front

A text put in front of another moves every line down by its line feeds, and the
first line also to the right, by the line it ends with itself.  This shift keeps
the order of positions and commutes with reading on, so offsets and positions of
the longer text are those of the shorter one, shifted.
-/

namespace TemplateNav

open Position (origin)

namespace Lines

/-- The line that a text ends with. -/
def last (text : Text) : Text :=
  (raw text).getLast (raw_ne_nil text)

theorem length_raw (text : Text) : (raw text).length = text.count '\n' + 1 := by
  induction text with
  | nil => rfl
  | cons c rest ih =>
    rw [raw]
    by_cases newline : c = '\n'
    · simp [newline, ih]
    · simp [newline, ih]

theorem last_newline (text : Text) : last ('\n' :: text) = last text := by
  simp [last, raw, List.getLast_cons (raw_ne_nil text)]

/-- A character other than a line feed belongs to the last line if no line feed follows it. -/
theorem last_cons {c : Char} (other : c ≠ '\n') (text : Text) :
    last (c :: text) = if text.count '\n' = 0 then c :: last text else last text := by
  have size := length_raw text
  simp only [last, raw, if_neg other]
  obtain ⟨head, others, lines⟩ := List.exists_cons_of_ne_nil (raw_ne_nil text)
  simp only [lines, List.length_cons, List.modifyHead_cons] at size ⊢
  by_cases single : text.count '\n' = 0
  · obtain rfl : others = [] := List.length_eq_zero_iff.1 (by omega)
    simp [single]
  · have more : others ≠ [] := by
      rintro rfl
      simp only [List.length_nil] at size
      omega
    rw [if_neg single, List.getLast_cons more, List.getLast_cons more]

/-- The lines of a text behind another one: the first of them continues the line that the other one
ends with. -/
theorem raw_append_getElem? (front text : Text) (index : Nat) :
    (raw (front ++ text))[front.count '\n' + index]? =
      (raw text)[index]?.map fun line => if index = 0 then last front ++ line else line := by
  induction front with
  | nil =>
    have none : last [] = [] := rfl
    simp [none]
  | cons c front ih =>
    rw [List.cons_append, raw]
    by_cases newline : c = '\n'
    · subst newline
      rw [if_pos rfl, List.count_cons_self, Nat.add_right_comm, List.getElem?_cons_succ, ih,
        last_newline]
    · rw [if_neg newline, List.count_cons_of_ne newline, last_cons newline]
      obtain ⟨head, others, lines⟩ := List.exists_cons_of_ne_nil (raw_ne_nil (front ++ text))
      rw [lines] at ih ⊢
      rw [List.modifyHead_cons]
      by_cases first : front.count '\n' + index = 0
      · obtain ⟨single, rfl⟩ := Nat.add_eq_zero_iff.1 first
        simp only [single, ↓reduceIte, Nat.add_zero, List.getElem?_cons_zero] at ih ⊢
        cases found : (raw text)[0]? with
        | none => simp [found] at ih
        | some line =>
          obtain rfl : head = last front ++ line := by simpa [found] using ih
          simp
      · obtain ⟨previous, next⟩ := Nat.exists_eq_succ_of_ne_zero first
        rw [next, List.getElem?_cons_succ] at ih ⊢
        rw [ih]
        by_cases start : index = 0
        · have several : front.count '\n' ≠ 0 := by omega
          simp [start, several]
        · simp [start]

/-- The lines of a text that end before its last one stay as they are when more text follows. -/
theorem raw_append_getElem?_of_lt {text : Text} {index : Nat} (earlier : index < text.count '\n')
    (rest : Text) : (raw (text ++ rest))[index]? = (raw text)[index]? := by
  induction text generalizing index with
  | nil => simp at earlier
  | cons c text ih =>
    rw [List.cons_append, raw, raw]
    by_cases newline : c = '\n'
    · rw [if_pos newline, if_pos newline]
      cases index with
      | zero => rfl
      | succ index =>
        rw [List.getElem?_cons_succ, List.getElem?_cons_succ]
        exact ih (by simpa [newline] using earlier)
    · rw [List.count_cons_of_ne newline] at earlier
      have same := ih earlier
      rw [if_neg newline, if_neg newline]
      obtain ⟨head, others, lines⟩ := List.exists_cons_of_ne_nil (raw_ne_nil text)
      obtain ⟨longHead, longOthers, longLines⟩ :=
        List.exists_cons_of_ne_nil (raw_ne_nil (text ++ rest))
      rw [lines, longLines] at same ⊢
      cases index with
      | zero =>
        obtain rfl : longHead = head := by simpa using same
        rfl
      | succ index => simpa using same

theorem last_of_single {text : Text} (single : '\n' ∉ text) : last text = text := by
  induction text with
  | nil => rfl
  | cons c text ih =>
    obtain ⟨first, others⟩ := not_or.1 (mt List.mem_cons.2 single)
    rw [last_cons (Ne.symm first), if_pos (List.count_eq_zero.2 others), ih others]

theorem withoutReturn_append (front : Text) {line : Text} (nonempty : line ≠ []) :
    withoutReturn (front ++ line) = front ++ withoutReturn line := by
  unfold withoutReturn
  rw [List.getLast?_append, List.getLast?_eq_some_getLast nonempty, Option.some_or]
  split
  · rw [List.dropLast_append_of_ne_nil nonempty]
  · rfl

/-- The line on which a text starts that stands behind another one. -/
theorem text?_append (front : Text) {text line : Text} (first : (raw text)[0]? = some line)
    (nonempty : line ≠ []) :
    text? (front ++ text) (front.count '\n') = some (last front ++ withoutReturn line) := by
  have found := raw_append_getElem? front text 0
  rw [first, Nat.add_zero] at found
  rw [text?, found, Option.map_some, Option.map_some, if_pos rfl,
    withoutReturn_append _ nonempty]

theorem exists_raw_append {text : Text} (single : '\n' ∉ text) (rest : Text) :
    ∃ more, (raw (text ++ rest))[0]? = some (text ++ more) := by
  obtain ⟨head, others, lines⟩ := List.exists_cons_of_ne_nil (raw_ne_nil rest)
  have found := raw_append_getElem? text rest 0
  rw [List.count_eq_zero.2 single, last_of_single single, lines] at found
  exact ⟨head, by simpa using found⟩

end Lines

namespace Position

/-- Where a position of a text is when `front` is put in front of the text. -/
def shifted (position : Position) (front : Text) : Position :=
  ⟨front.count '\n' + position.line,
    if position.line = 0 then Text.utf16Length (Lines.last front) + position.character
    else position.character⟩

variable (front : Text)

theorem shifted_le_shifted {first second : Position} :
    first.shifted front ≤ second.shifted front ↔ first ≤ second := by
  simp only [le_def, shifted]
  constructor
  · intro order
    split at order <;> split at order <;> omega
  · intro order
    split <;> split <;> omega

theorem shifted_inj {first second : Position} :
    first.shifted front = second.shifted front ↔ first = second := by
  constructor
  · intro same
    have reflexive : ∀ position : Position, position ≤ position :=
      fun position => .inr ⟨rfl, Nat.le_refl _⟩
    apply le_antisymm
    · rw [← shifted_le_shifted front, same]
      exact reflexive _
    · rw [← shifted_le_shifted front, same]
      exact reflexive _
  · rintro rfl
    rfl

theorem shifted_advancedBy (position : Position) (characters : Nat) :
    (position.advancedBy characters).shifted front =
      (position.shifted front).advancedBy characters := by
  by_cases first : position.line = 0
  · simp [shifted, advancedBy, first, Nat.add_assoc]
  · simp [shifted, advancedBy, first]

theorem shifted_step (position : Position) (c : Char) :
    (position.step c).shifted front = (position.shifted front).step c := by
  unfold step
  split
  · simp [shifted, Nat.add_assoc]
  · exact shifted_advancedBy front position _

/-- Reading a text leads to the end of its last line. -/
theorem after_eq (position : Position) (text : Text) :
    position.after text = ⟨position.line + text.count '\n',
      (if text.count '\n' = 0 then position.character else 0) +
        Text.utf16Length (Lines.last text)⟩ := by
  induction text generalizing position with
  | nil => rfl
  | cons c text ih =>
    rw [after_cons, ih, step]
    by_cases newline : c = '\n'
    · subst newline
      simp only [↓reduceIte, List.count_cons_self, Lines.last_newline, ite_self,
        Nat.add_eq_zero_iff, Nat.succ_ne_self, and_false, mk.injEq, and_true]
      omega
    · rw [if_neg newline, List.count_cons_of_ne newline, Lines.last_cons newline]
      by_cases single : text.count '\n' = 0
      · simp [single, advancedBy, Nat.add_assoc]
      · simp [single, advancedBy]

theorem origin_shifted : origin.shifted front = origin.after front := by
  simp [after_eq, shifted, origin]

end Position

namespace Lines

theorem positionFrom_shifted (front : Text) (position : Position) (bytes : Nat) (text : Text) :
    positionFrom (position.shifted front) bytes text =
      (positionFrom position bytes text).shifted front := by
  induction text generalizing position bytes with
  | nil => rfl
  | cons c text ih =>
    rw [positionFrom, positionFrom]
    split
    · rw [← Position.shifted_step, ih]
    · rfl

theorem positionFrom_skip (position : Position) (front text : Text) (bytes : Nat) :
    positionFrom position (Text.utf8Length front + bytes) (front ++ text) =
      positionFrom (position.after front) bytes text := by
  induction front generalizing position with
  | nil => simp
  | cons c front ih =>
    rw [List.cons_append, positionFrom, Text.utf8Length_cons, if_pos (by omega),
      Position.after_cons, ← ih]
    congr 1
    omega

theorem positionFrom_of_le {text : Text} {bytes : Nat} (within : bytes ≤ Text.utf8Length text)
    (position : Position) (rest : Text) :
    positionFrom position bytes (text ++ rest) = positionFrom position bytes text := by
  induction text generalizing position bytes with
  | nil =>
    obtain rfl : bytes = 0 := Nat.le_zero.1 within
    cases rest with
    | nil => rfl
    | cons c rest =>
      have positive := c.utf8Size_pos
      rw [List.nil_append, positionFrom, positionFrom, if_neg (by omega)]
  | cons c text ih =>
    rw [Text.utf8Length_cons] at within
    rw [List.cons_append, positionFrom, positionFrom]
    split
    · exact ih (by omega) _
    · rfl

theorem positionOf_front (front text : Text) (offset : Nat) :
    positionOf (front ++ text) (Text.utf8Length front + offset) =
      (positionOf text offset).shifted front := by
  rw [positionOf, positionFrom_skip]
  exact (Position.origin_shifted front) ▸ positionFrom_shifted front origin offset text

theorem positionOf_of_le {text : Text} {offset : Nat} (within : offset ≤ Text.utf8Length text)
    (rest : Text) : positionOf (text ++ rest) offset = positionOf text offset :=
  positionFrom_of_le within _ rest

end Lines

end TemplateNav
