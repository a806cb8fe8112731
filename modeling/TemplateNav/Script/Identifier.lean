import TemplateNav.Text.Basic

/-!
# Identifiers

Names are ASCII: a letter, `_` or `$`, and then digits as well.  Reserved words
have the shape of a name and never are one.
-/

namespace TemplateNav

namespace Identifier

/-- Words with a meaning of their own, which cannot be names. -/
def reservedWords : List String :=
  ["await", "break", "case", "catch", "class", "const", "continue", "debugger", "default",
   "delete", "do", "else", "enum", "export", "extends", "false", "finally", "for", "function",
   "if", "implements", "import", "in", "instanceof", "interface", "let", "new", "null", "package",
   "private", "protected", "public", "return", "static", "super", "switch", "this", "throw",
   "true", "try", "typeof", "undefined", "var", "void", "while", "with", "yield"]

/-- Whether a name may start with a character. -/
def isStart (c : Char) : Bool :=
  c.isAlpha || c == '_' || c == '$'

/-- Whether a name may hold a character. -/
def isPart (c : Char) : Bool :=
  c.isAlphanum || c == '_' || c == '$'

/-- Whether a word is reserved. -/
def isReserved (word : Text) : Bool :=
  reservedWords.any fun reserved => reserved.toList == word

/-- Whether a word is a name: of the right shape and not reserved. -/
def isValid (word : Text) : Bool :=
  match word with
  | [] => false
  | first :: rest => isStart first && rest.all isPart && !isReserved word

/-- The longest run with the shape of a name at the head of a text, and the rest. -/
def read? (text : Text) : Option (Text × Text) :=
  match text with
  | [] => none
  | c :: rest =>
    if isStart c then some (c :: rest.takeWhile isPart, rest.dropWhile isPart) else none

end Identifier

end TemplateNav
