import TemplateNav.Text.Basic

/-!
# Positions and ranges

A position is a zero-based line and a column in UTF-16 code units.  Positions
are ordered by line and then by column.
-/

namespace TemplateNav

/-- A place in a document. -/
structure Position where
  line : Nat
  character : Nat
  deriving DecidableEq, Inhabited

namespace Position

/-- Reading order: by line, then by column. -/
protected def le (first second : Position) : Prop :=
  first.line < second.line ∨ (first.line = second.line ∧ first.character ≤ second.character)

instance : LE Position := ⟨Position.le⟩

instance (first second : Position) : Decidable (first ≤ second) :=
  inferInstanceAs (Decidable (_ ∨ _))

/-- The position `characters` columns further on the same line. -/
def advancedBy (position : Position) (characters : Nat) : Position :=
  ⟨position.line, position.character + characters⟩

/-- The position behind one character: a newline starts the next line. -/
def step (position : Position) (c : Char) : Position :=
  if c = '\n' then ⟨position.line + 1, 0⟩ else position.advancedBy (Text.unitsOf c)

/-- The position behind a stretch of text. -/
def after (position : Position) (text : Text) : Position :=
  text.foldl step position

/-- Written as `line:character`. -/
def render (position : Position) : String :=
  s!"{position.line}:{position.character}"

theorem le_def (first second : Position) :
    first ≤ second ↔
      first.line < second.line ∨
        (first.line = second.line ∧ first.character ≤ second.character) :=
  Iff.rfl

theorem le_total (first second : Position) : first ≤ second ∨ second ≤ first := by
  rw [le_def, le_def]
  omega

theorem le_trans {first second third : Position} (left : first ≤ second) (right : second ≤ third) :
    first ≤ third := by
  rw [le_def] at *
  omega

theorem le_antisymm {first second : Position} (left : first ≤ second) (right : second ≤ first) :
    first = second := by
  rw [le_def] at *
  cases first
  cases second
  simp only [mk.injEq]
  simp only at left right
  omega

@[simp] theorem after_nil (position : Position) : position.after [] = position := rfl

@[simp] theorem after_cons (position : Position) (c : Char) (rest : Text) :
    position.after (c :: rest) = (position.step c).after rest := rfl

/-- Two stretches one after the other move a position as their concatenation does. -/
@[simp] theorem after_append (position : Position) (left right : Text) :
    position.after (left ++ right) = (position.after left).after right :=
  List.foldl_append

end Position

/-- A stretch of a document between two positions. -/
structure Range where
  start : Position
  stop : Position
  deriving DecidableEq, Inhabited

namespace Range

/-- The range of `length` columns from `start`. -/
def ofLength (start : Position) (length : Nat) : Range :=
  ⟨start, start.advancedBy length⟩

/-- Whether a position lies in a range, both ends included. -/
def contains (range : Range) (position : Position) : Bool :=
  decide (range.start ≤ position) && decide (position ≤ range.stop)

end Range

end TemplateNav
