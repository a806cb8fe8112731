import TemplateNav.Navigation.Target

/-!
# Hover text

The description of a symbol in Markdown: its name and kind, where and how it was
declared, and a preview of its value.
-/

namespace TemplateNav

/-- A description and the word it belongs to. -/
structure Hover where
  range : Range
  contents : String
  deriving DecidableEq

namespace Hover

/-- The most characters of a value that are shown. -/
def previewLimit : Nat := 80

/-- A value, cut after the limit with an ellipsis. -/
def preview (value : Text) : String :=
  if value.length ≤ previewLimit then String.ofList value
  else String.ofList (value.take previewLimit) ++ "…"

/-- The lines that say where and how a symbol was declared. -/
def details (symbol : Symbol) : List String :=
  [s!"Declared on line {symbol.position.line + 1}",
   "Declaration: " ++ symbol.declaration.label] ++
  (symbol.scope.map fun scope => "Scope: " ++ scope.label).toList

/-- The code block with a symbol's value; a blank value has none. -/
def valueBlock (symbol : Symbol) : List String :=
  match symbol.value.map Text.trim with
  | none => []
  | some value =>
    if value.isEmpty then [] else ["```javascript\n" ++ preview value ++ "\n```"]

/-- The description of a symbol: sections separated by blank lines. -/
def describe (symbol : Symbol) : String :=
  "\n\n".intercalate
    (["**" ++ String.ofList symbol.name ++ "** (" ++ symbol.kind.label ++ ")",
      "\n\n".intercalate (details symbol)] ++ valueBlock symbol)

end Hover

namespace Analysis

/-- The description of the symbol at a cursor. -/
def hover? (analysis : Analysis) (text : Text) (position : Position) : Option Hover := do
  let (symbol, range) ← analysis.symbolAt? text position
  return ⟨range, Hover.describe symbol⟩

end Analysis

end TemplateNav
