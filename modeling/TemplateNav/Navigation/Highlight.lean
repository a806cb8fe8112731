import TemplateNav.Navigation.Target

/-!
# Highlights

All places where the symbol at a cursor is used, in reading order; its
declaration is the one place that writes it.
-/

namespace TemplateNav

/-- Whether a place declares a symbol or only uses it. -/
inductive HighlightKind where
  | read
  | write
  deriving DecidableEq

/-- One marked place. -/
structure Highlight where
  range : Range
  kind : HighlightKind
  deriving DecidableEq

namespace Highlight

/-- The positions of a symbol's usages, its declaration among them. -/
def positions (symbol : Symbol) : List Position :=
  if symbol.references.contains symbol.position then symbol.references
  else symbol.references ++ [symbol.position]

/-- The marked places of a symbol, in reading order. -/
def ofSymbol (symbol : Symbol) : List Highlight :=
  let sorted := (positions symbol).mergeSort fun first second => decide (first ≤ second)
  sorted.map fun start =>
    ⟨Range.ofLength start (Text.utf16Length symbol.name),
      if start = symbol.position then .write else .read⟩

end Highlight

namespace Analysis

/-- The marked places of the symbol at a cursor. -/
def highlights (analysis : Analysis) (text : Text) (position : Position) : List Highlight :=
  match analysis.symbolAt? text position with
  | none => []
  | some (symbol, _) => Highlight.ofSymbol symbol

end Analysis

end TemplateNav
