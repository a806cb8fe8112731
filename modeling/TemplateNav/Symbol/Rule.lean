import TemplateNav.Script.Binding
import TemplateNav.Symbol.Basic
import TemplateNav.Text.Scan
import TemplateNav.Text.WordChar

/-!
# Recognition rules

Declarations are recognized one content line at a time by six rules, each of
which looks for a shape of its own.  A line may feed several rules, and a place
that a rule cannot read completely gives nothing.
-/

namespace TemplateNav

/-- A declaration found on a line, before it has a place in the document. -/
structure Declaration where
  name : Text
  /-- The byte column of the name. -/
  column : Nat
  kind : SymbolKind
  declaration : DeclarationKind
  scope : Scope
  value : Option Text
  deriving DecidableEq

namespace Declaration

/-- The declaration of a parameter. -/
def ofParameter (binding : Binding) : Declaration :=
  ⟨binding.name, binding.offset, .parameter, .parameter, .function, none⟩

/-- The symbol of a declaration at a position, its only reference so far. -/
def toSymbol (declaration : Declaration) (position : Position) : Symbol where
  name := declaration.name
  kind := declaration.kind
  declaration := declaration.declaration
  scope := some declaration.scope
  position := position
  references := [position]
  value := declaration.value

end Declaration

/-- The six shapes that declare names. -/
inductive Rule where
  /-- `const name = value` -/
  | initializedDeclaration
  /-- `let name`, with no value -/
  | bareDeclaration
  /-- `const { pattern } = value` -/
  | destructuringDeclaration
  /-- `function name(parameters)` -/
  | functionParameters
  /-- `(parameters) =>` -/
  | arrowParameters
  /-- `parameter =>` -/
  | singleArrowParameter
  deriving DecidableEq

namespace Rule

/-- All rules, in the order they are applied. -/
def all : List Rule :=
  [initializedDeclaration, bareDeclaration, destructuringDeclaration, functionParameters,
   arrowParameters, singleArrowParameter]

/-- The name of a rule. -/
def label : Rule → String
  | initializedDeclaration => "initialized-declaration"
  | bareDeclaration => "bare-declaration"
  | destructuringDeclaration => "destructuring-declaration"
  | functionParameters => "function-parameters"
  | arrowParameters => "arrow-parameters"
  | singleArrowParameter => "single-arrow-parameter"

/-- The letters of a declaring keyword at the start of a word, and the text behind them. -/
def spelling? (before text : Text) : Option (Text × Text) :=
  if Text.atWordStart before then
    (Keyword.all.map Keyword.spelling).findSome? fun spelling =>
      (Text.dropLead? spelling text).map fun rest => (spelling, rest)
  else
    none

/-- A declaring keyword at the start of a word, and the text behind it. -/
def keyword? (before text : Text) : Option (Keyword × Text) := do
  let (spelling, rest) ← spelling? before text
  let keyword ← Keyword.parse? spelling
  return (keyword, rest)

theorem eq_append_of_spelling? {before text spelling rest : Text}
    (found : spelling? before text = some (spelling, rest)) :
    text = spelling ++ rest ∧ Text.atWordStart before = true := by
  unfold spelling? at found
  split at found
  · next boundary =>
    obtain ⟨_, _, read⟩ := List.exists_of_findSome?_eq_some found
    obtain ⟨_, dropped, same⟩ := Option.map_eq_some_iff.1 read
    obtain ⟨rfl, rfl⟩ := Prod.mk.inj same
    exact ⟨Text.eq_append_of_dropLead? dropped, boundary⟩
  · cases found

theorem eq_append_of_keyword? {before text rest : Text} {keyword : Keyword}
    (found : keyword? before text = some (keyword, rest)) :
    text = keyword.spelling ++ rest ∧ Text.atWordStart before = true := by
  simp only [keyword?, Option.bind_eq_bind, Option.bind_eq_some_iff] at found
  obtain ⟨⟨spelling, _⟩, read, _, parsed, same⟩ := found
  obtain ⟨rfl, rfl⟩ := Prod.mk.inj (Option.some.inj same)
  rw [Keyword.spelling_of_parse? parsed]
  exact eq_append_of_spelling? read

/-- A declaring keyword, white space and a word with the shape of a name; with the byte column of
that word and the text behind it. -/
structure Head where
  keyword : Keyword
  name : Text
  column : Nat
  rest : Text

/-- Reads the head of a plain declaration. -/
def head? (before text : Text) : Option Head := do
  let (keyword, rest) ← keyword? before text
  let named := Text.trimStart rest
  if named.length = rest.length then none
  let (name, behind) ← Identifier.read? named
  return ⟨keyword, name,
    Text.utf8Length before + (Text.utf8Length text - Text.utf8Length named), behind⟩

/-- Whether the text behind an equals sign makes it a comparison or an arrow. -/
def isOtherOperator (text : Text) : Bool :=
  Text.startsWith '=' text || Text.startsWith '>' text

/-- Whether a character ends an initializer. -/
def endsValue (c : Char) : Bool :=
  c == ',' || c == ';'

/-- A head, an equals sign and everything up to the next comma or semicolon.  It covers that text
even if it declares nothing. -/
def initialized? (before text : Text) : Option (Option Declaration × Nat) := do
  let head ← head? before text
  let initializer ← Text.dropLead? ['='] (Text.trimStart head.rest)
  let source := initializer.takeWhile fun c => !endsValue c
  let value := Text.trim source
  let width := text.length - (initializer.length - source.length)
  if isOtherOperator source || value.isEmpty || !Identifier.isValid head.name then
    return (none, width)
  else
    return (some ⟨head.name, head.column, head.keyword.symbolKind, .declared, head.keyword.scope,
      some value⟩, width)

/-- A head that no equals sign follows. -/
def bare? (before text : Text) : Option (Option Declaration × Nat) := do
  let head ← head? before text
  let width := text.length - head.rest.length
  if Text.startsWith '=' (Text.trimStart head.rest) || !Identifier.isValid head.name then
    return (none, width)
  else
    return (some ⟨head.name, head.column, head.keyword.symbolKind, .declared, head.keyword.scope,
      none⟩, width)

/-- Whether an equals sign and a value follow a pattern. -/
def hasInitializer (after : Text) : Bool :=
  match Text.dropLead? ['='] (Text.trimStart after) with
  | none => false
  | some initializer => !isOtherOperator initializer && !Text.isBlankText initializer

/-- A declaring keyword and a bracketed pattern with an initializer; it covers the text up to the
opening bracket. -/
def destructuring? (before text : Text) : Option (List Declaration × Nat) := do
  let (keyword, rest) ← keyword? before text
  let pattern := Text.trimStart rest
  let context ← pattern.head?.bind Binding.Context.ofOpener?
  let width := text.length - pattern.length + 1
  let column := Text.utf8Length before + (Text.utf8Length text - Text.utf8Length pattern)
  match Bracket.group? pattern with
  | none => return ([], width)
  | some (inside, after) =>
    if hasInitializer after then
      return ((Binding.ofList context (column + 1) inside).map fun binding =>
        ⟨binding.name, binding.offset, keyword.symbolKind, .destructured, keyword.scope, none⟩,
        width)
    else
      return ([], width)

/-- The text behind one character, if it is there. -/
def dropOptional (c : Char) (text : Text) : Text :=
  (Text.dropLead? [c] text).getD text

/-- The word `function`, an optional star and an optional name, and a parameter list; it covers the
text up to the opening parenthesis. -/
def function? (before text : Text) : Option (List Declaration × Nat) := do
  if !Text.atWordStart before then none
  let rest ← Text.dropLead? "function".toList text
  if !Text.atWordEnd rest then none
  let named := Text.trimStart (dropOptional '*' (Text.trimStart rest))
  let behind := ((Identifier.read? named).map Prod.snd).getD named
  let list := Text.trimStart behind
  if !Text.startsWith '(' list then none
  let width := text.length - list.length + 1
  let column := Text.utf8Length before + (Text.utf8Length text - Text.utf8Length list)
  match Bracket.group? list with
  | none => return ([], width)
  | some (inside, _) =>
    return ((Binding.ofList .list (column + 1) inside).map Declaration.ofParameter, width)

/-- The text behind white space and an arrow. -/
def behindArrow? (text : Text) : Option Text :=
  Text.dropLead? ['=', '>'] (Text.trimStart text)

/-- A closing parenthesis that an arrow follows, and the list it closes. -/
def arrow? (before text : Text) : Option (List Declaration × Nat) := do
  let rest ← Text.dropLead? [')'] text
  let behind ← behindArrow? rest
  let width := text.length - behind.length
  match Bracket.groupBefore? (')' :: before) with
  | none => return ([], width)
  | some (inside, outside) =>
    return ((Binding.ofList .list (Text.utf8Length outside + 1) inside.reverse).map
      Declaration.ofParameter, width)

/-- A word that an arrow follows, unless a dot or an identifier character stands before it. -/
def singleArrow? (before text : Text) : Option (Option Declaration × Nat) := do
  let (name, rest) ← Identifier.read? text
  let behind ← behindArrow? rest
  let width := text.length - behind.length
  let attached := before.head?.any fun c => c == '.' || Identifier.isPart c
  if attached || !Identifier.isValid name then
    return (none, width)
  else
    return (some (.ofParameter ⟨name, Text.utf8Length before⟩), width)

/-- The declarations that a rule finds on a line, in textual order. -/
def apply (rule : Rule) (line : Text) : List Declaration :=
  match rule with
  | initializedDeclaration => (Text.scan initialized? line).filterMap id
  | bareDeclaration => (Text.scan bare? line).filterMap id
  | destructuringDeclaration => (Text.scan destructuring? line).flatten
  | functionParameters => (Text.scan function? line).flatten
  | arrowParameters => (Text.scan arrow? line).flatten
  | singleArrowParameter => (Text.scan singleArrow? line).filterMap id

end Rule

end TemplateNav
