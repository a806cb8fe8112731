import TemplateNav.Script.Occurrence
import TemplateNav.Symbol.Basic
import TemplateNav.Template.Fragment

/-!
# The symbol index

The index holds every symbol of a document in an order of its own, by position
and then by name, so it does not depend on the order of discovery.  The symbols
of one name form a bucket; the first of a bucket is the one that navigation
leads to, and it collects the usages of the name.
-/

namespace TemplateNav

/-- All symbols of a document, ordered by position and then by name. -/
structure SymbolIndex where
  symbols : List Symbol
  deriving DecidableEq

namespace SymbolIndex

/-- The order of the index. -/
def precedes (first second : Symbol) : Bool :=
  if first.position = second.position then Text.precedes first.name second.name
  else decide (first.position ≤ second.position)

/-- The index of a list of symbols. -/
def build (symbols : List Symbol) : SymbolIndex :=
  ⟨symbols.mergeSort precedes⟩

/-- The symbols of one name, by position. -/
def bucket (index : SymbolIndex) (name : Text) : List Symbol :=
  index.symbols.filter fun symbol => symbol.name == name

/-- The symbol that a name leads to. -/
def first? (index : SymbolIndex) (name : Text) : Option Symbol :=
  index.symbols.find? fun symbol => symbol.name == name

/-- The number of symbols. -/
def symbolCount (index : SymbolIndex) : Nat :=
  index.symbols.length

/-- The number of distinct names. -/
def nameCount (index : SymbolIndex) : Nat :=
  (index.symbols.map Symbol.name).eraseDups.length

/-- Whether there is no symbol. -/
def isEmpty (index : SymbolIndex) : Bool :=
  index.symbols.isEmpty

/-- Adds a usage of a name to the first symbol of that name, once. -/
def addReferenceTo (name : Text) (position : Position) : List Symbol → List Symbol
  | [] => []
  | symbol :: rest =>
    if symbol.name == name then
      let references :=
        if symbol.references.contains position then symbol.references
        else symbol.references ++ [position]
      { symbol with references := references } :: rest
    else
      symbol :: addReferenceTo name position rest

/-- Records a usage of a name; a name without symbols is passed over. -/
def addReference (index : SymbolIndex) (usage : Text × Position) : SymbolIndex :=
  ⟨addReferenceTo usage.1 usage.2 index.symbols⟩

/-- The names used in a list of fragments and where, fragment by fragment and line by line. -/
def usages (fragments : List Fragment) : List (Text × Position) :=
  fragments.flatMap fun fragment =>
    fragment.lines.flatMap fun (index, line) =>
      (Occurrence.ofLine line).map fun occurrence =>
        (occurrence.name, fragment.positionInLine index line occurrence.column)

/-- Records all usages in a list of fragments. -/
def trackReferences (index : SymbolIndex) (fragments : List Fragment) : SymbolIndex :=
  (usages fragments).foldl addReference index

end SymbolIndex

end TemplateNav
