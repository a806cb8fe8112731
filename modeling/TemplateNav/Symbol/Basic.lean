import TemplateNav.Position

/-!
# Symbols

A symbol is one declaration of a name: what kind of thing it names, how it was
declared, where, and with which initial value.
-/

namespace TemplateNav

/-- What a symbol names. -/
inductive SymbolKind where
  /-- A variable that may be assigned again. -/
  | mutable
  | constant
  | parameter
  | property
  deriving DecidableEq

/-- The word for a kind. -/
def SymbolKind.label : SymbolKind → String
  | mutable => "variable"
  | constant => "constant"
  | parameter => "parameter"
  | property => "property"

/-- How a symbol came to be declared. -/
inductive DeclarationKind where
  | declared
  | destructured
  | parameter
  deriving DecidableEq

/-- The word for a way of declaring. -/
def DeclarationKind.label : DeclarationKind → String
  | declared => "declared"
  | destructured => "destructured"
  | parameter => "parameter"

/-- How far a declaration reaches. -/
inductive Scope where
  | block
  | function
  deriving DecidableEq

/-- The word for a scope. -/
def Scope.label : Scope → String
  | block => "block"
  | function => "function"

/-- The keywords that declare variables. -/
inductive Keyword where
  | constKeyword
  | letKeyword
  | varKeyword
  deriving DecidableEq

namespace Keyword

/-- All keywords, in the order they are tried. -/
def all : List Keyword :=
  [constKeyword, letKeyword, varKeyword]

/-- How a keyword is written. -/
def spelling : Keyword → Text
  | constKeyword => ['c', 'o', 'n', 's', 't']
  | letKeyword => ['l', 'e', 't']
  | varKeyword => ['v', 'a', 'r']

/-- The keyword written as the given word. -/
def parse? (word : Text) : Option Keyword :=
  all.find? fun keyword => keyword.spelling = word

theorem parse?_spelling (keyword : Keyword) : parse? keyword.spelling = some keyword := by
  cases keyword with
  | constKeyword => rfl
  | letKeyword => rfl
  | varKeyword => rfl

theorem spelling_of_parse? {word : Text} {keyword : Keyword} (parsed : parse? word = some keyword) :
    keyword.spelling = word := by
  simpa using List.find?_some parsed

/-- What a keyword declares. -/
def symbolKind : Keyword → SymbolKind
  | constKeyword => .constant
  | letKeyword => .mutable
  | varKeyword => .mutable

/-- How far a keyword's declaration reaches. -/
def scope : Keyword → Scope
  | constKeyword => .block
  | letKeyword => .block
  | varKeyword => .function

end Keyword

/-- One declaration of a name. -/
structure Symbol where
  name : Text
  kind : SymbolKind
  declaration : DeclarationKind
  scope : Option Scope
  /-- Where the declared name starts. -/
  position : Position
  /-- Where the name is used, in the order found. -/
  references : List Position
  /-- The text of the initializer. -/
  value : Option Text
  deriving DecidableEq

namespace Symbol

/-- The range of the declared name. -/
def range (symbol : Symbol) : Range :=
  Range.ofLength symbol.position (Text.utf16Length symbol.name)

end Symbol

end TemplateNav
