import TemplateNav.Script.Bracket
import TemplateNav.Script.Identifier

/-!
# Identifiers in code position

A line of script is read from the left.  String literals, the text of template
literals and a line comment hold no usages; what stands in a `${...}`
substitution is code again, to any depth.  A name behind a single dot is a
member of something else and no usage, a name behind the three dots of a spread
is one.
-/

namespace TemplateNav

/-- A name used on a line and the byte column it stands at. -/
structure Occurrence where
  name : Text
  column : Nat
  deriving DecidableEq

namespace Occurrence

/-- What a line scan is inside of. -/
inductive Place where
  | code
  /-- A literal that the given quote ends. -/
  | literal (quote : Char)
  /-- Just behind a backslash in such a literal. -/
  | escape (quote : Char)
  /-- Between the two characters that open a substitution. -/
  | opening
  deriving DecidableEq

/-- Where a line scan is: its place, and for each open substitution, the innermost first, how many
braces are open in it. -/
structure Cursor where
  place : Place
  substitutions : List Nat
  deriving DecidableEq

namespace Cursor

/-- Where a scan starts. -/
def start : Cursor := ⟨.code, []⟩

/-- Where a scan is behind the character `c`, when `rest` follows it. -/
def next (cursor : Cursor) (c : Char) (rest : Text) : Cursor :=
  match cursor.place with
  | .escape quote => { cursor with place := .literal quote }
  | .opening => ⟨.code, 0 :: cursor.substitutions⟩
  | .literal quote =>
    if c = '\\' then { cursor with place := .escape quote }
    else if c = quote then { cursor with place := .code }
    else if quote = '\x60' && c = '$' && Text.startsWith '{' rest then
      { cursor with place := .opening }
    else cursor
  | .code =>
    if Bracket.isQuote c then { cursor with place := .literal c }
    else
      match cursor.substitutions with
      | [] => cursor
      | depth :: outer =>
        if c = '{' then ⟨.code, (depth + 1) :: outer⟩
        else if c = '}' then
          if depth = 0 then ⟨.literal '\x60', outer⟩ else ⟨.code, (depth - 1) :: outer⟩
        else cursor

end Cursor

/-- Whether the characters before a name, the nearest first, make it a member access. -/
def isMemberAccess (before : Text) : Bool :=
  Text.startsWith '.' before && (Text.dropLead? ['.', '.', '.'] before).isNone

/-- Whether a usage starts with `c`: a name starts there, and no identifier character or member dot
stands before it. -/
def startsAt (before : Text) (c : Char) : Bool :=
  Identifier.isStart c && !(before.head?.any Identifier.isPart) && !isMemberAccess before

/-- The usages from a place on, given the characters before it, the nearest first. -/
def collect (cursor : Cursor) (before : Text) : Text → List Occurrence
  | [] => []
  | c :: rest =>
    if cursor.place = .code && c = '/' && Text.startsWith '/' rest then
      []
    else if cursor.place = .code && startsAt before c then
      ⟨c :: rest.takeWhile Identifier.isPart, Text.utf8Length before⟩ ::
        collect (cursor.next c rest) (c :: before) rest
    else
      collect (cursor.next c rest) (c :: before) rest

/-- The usages on a line, in textual order. -/
def ofLine (line : Text) : List Occurrence :=
  collect Cursor.start [] line

end Occurrence

end TemplateNav
