import TemplateNav.Text.Printable

/-!
# Quoted text

Text shown in a message stands in double quotes, with the characters escaped
that would be lost or misread there.
-/

namespace TemplateNav

namespace Text

/-- A code point in lower-case hexadecimal digits, in the braces of an escape. -/
def codePointEscape (c : Char) : Text :=
  ['\\', 'u', '{'] ++ Nat.toDigits 16 c.toNat ++ ['}']

/-- How a character is written between double quotes. -/
def quoteChar (c : Char) : Text :=
  if c = '\x00' then ['\\', '0']
  else if c = '\t' then ['\\', 't']
  else if c = '\r' then ['\\', 'r']
  else if c = '\n' then ['\\', 'n']
  else if c = '"' || c = '\\' then ['\\', c]
  else if isExtending c || !isPrintable c then codePointEscape c
  else [c]

/-- A text in double quotes. -/
def quoted (text : Text) : Text :=
  ['"'] ++ text.flatMap quoteChar ++ ['"']

end Text

end TemplateNav
