import TemplateNav.Symbol.Index
import TemplateNav.Symbol.Recognize

/-!
# Analysis of a document

Navigation needs the fragments of a document and the index of its symbols with
their usages.
-/

namespace TemplateNav

/-- What navigation knows about a document. -/
structure Analysis where
  fragments : List Fragment
  index : SymbolIndex
  deriving DecidableEq

namespace Analysis

/-- The index of the symbols in a list of fragments, usages included. -/
def indexOf (fragments : List Fragment) : SymbolIndex :=
  (SymbolIndex.build (Symbol.recognize fragments)).trackReferences fragments

/-- The analysis of a document's text. -/
def ofText (text : Text) : Analysis :=
  let fragments := Fragment.extract text
  ⟨fragments, indexOf fragments⟩

end Analysis

end TemplateNav
