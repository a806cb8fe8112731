import TemplateNav.Analysis

/-!
# What a cursor points at

A cursor that touches a fragment points at the symbol named by the word around
it.
-/

namespace TemplateNav

/-- A run of identifier characters and where it stands. -/
structure Word where
  range : Range
  text : Text
  deriving DecidableEq

namespace Word

/-- The longest run of identifier characters that touches a cut of a line, split at the cut into
what stands before the run, the run, and what stands behind it. -/
def around (before after : Text) : Text × Text × Text :=
  let reversed := before.reverse
  ((reversed.dropWhile Identifier.isPart).reverse,
    (reversed.takeWhile Identifier.isPart).reverse ++ after.takeWhile Identifier.isPart,
    after.dropWhile Identifier.isPart)

/-- The word at a cursor; a cursor past the end of a line stands at its end. -/
def at? (text : Text) (position : Position) : Option Word := do
  let line ← Lines.text? text position.line
  let (before, after) := Text.splitAtUnit position.character line
  let (outside, run, _) := around before after
  if run.isEmpty then none
  return ⟨Range.ofLength ⟨position.line, Text.utf16Length outside⟩ (Text.utf16Length run), run⟩

end Word

namespace Analysis

/-- The symbol a cursor points at, and the word that names it there. -/
def symbolAt? (analysis : Analysis) (text : Text) (position : Position) :
    Option (Symbol × Range) := do
  let _ ← Fragment.at? analysis.fragments position
  let word ← Word.at? text position
  if !Identifier.isValid word.text then none
  let symbol ← analysis.index.first? word.text
  return (symbol, word.range)

/-- Where the symbol at a cursor is declared. -/
def definition? (analysis : Analysis) (text : Text) (position : Position) : Option Range := do
  let (symbol, _) ← analysis.symbolAt? text position
  return symbol.range

end Analysis

end TemplateNav
