import TemplateNav.Position

/-!
# Lines of a document

Only a line feed ends a line.  A carriage return just before it, or at the very
end, belongs to the line's bytes and not to its text.  Byte offsets and
positions are converted into each other along these lines.
-/

namespace TemplateNav

namespace Lines

/-- The stretches of a text between its line feeds. -/
def raw : Text → List Text
  | [] => [[]]
  | c :: rest => if c = '\n' then [] :: raw rest else (raw rest).modifyHead (c :: ·)

/-- A line without the carriage return that ends it. -/
def withoutReturn (line : Text) : Text :=
  if line.getLast? = some '\r' then line.dropLast else line

/-- The number of lines; an empty text has one. -/
def count (text : Text) : Nat :=
  (raw text).length

/-- The byte offset at which a line starts. -/
def start? (text : Text) (line : Nat) : Option Nat :=
  if line < count text then
    some (((raw text).take line).foldl (fun offset before => offset + Text.utf8Length before + 1) 0)
  else
    none

/-- The text of a line, without its line end. -/
def text? (text : Text) (line : Nat) : Option Text :=
  (raw text)[line]?.map withoutReturn

/-- The position reached from `position` by reading on for `bytes` bytes, stopping at the last
character boundary within them and at the end of the text. -/
def positionFrom (position : Position) : (bytes : Nat) → Text → Position
  | _, [] => position
  | bytes, c :: rest =>
    if c.utf8Size ≤ bytes then positionFrom (position.step c) (bytes - c.utf8Size) rest
    else position

/-- The position of a byte offset; one inside a character counts as the character's start, and one
past the end as the end. -/
def positionOf (text : Text) (offset : Nat) : Position :=
  positionFrom ⟨0, 0⟩ offset text

/-- The byte offset of a position; columns past a line's end mean its end. -/
def offsetOf? (text : Text) (position : Position) : Option Nat := do
  let line ← text? text position.line
  let start ← start? text position.line
  return start + Text.utf8Length (Text.splitAtUnit position.character line).1

/-- The position of the boundary between two parts is the one reached behind the first. -/
theorem positionFrom_append (position : Position) (before after : Text) :
    positionFrom position (Text.utf8Length before) (before ++ after) = position.after before := by
  induction before generalizing position with
  | nil =>
    cases after with
    | nil => rfl
    | cons c rest =>
      have positive := c.utf8Size_pos
      simp only [Text.utf8Length_nil, List.nil_append, positionFrom, Position.after_nil]
      rw [if_neg (by omega)]
  | cons c before ih =>
    simp only [Text.utf8Length_cons, List.cons_append, positionFrom, Position.after_cons]
    rw [if_pos (by omega), Nat.add_sub_cancel_left]
    exact ih _

end Lines

end TemplateNav
