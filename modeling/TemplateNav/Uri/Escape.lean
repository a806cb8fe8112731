import TemplateNav.Uri.Basic

/-!
# Percent escapes

Controls and characters beyond ASCII are escaped everywhere in an address, and
in each of its parts some other characters that would be misread there.
-/

namespace TemplateNav

namespace Uri

/-- Percent escapes of the UTF-8 bytes of a character. -/
def escape (c : Char) : Text :=
  (String.utf8EncodeChar c).flatMap fun byte =>
    ['%', (Nat.digitChar (byte.toNat / 16)).toUpper, (Nat.digitChar (byte.toNat % 16)).toUpper]

/-- Escapes controls, characters beyond ASCII and the characters listed. -/
def escapeAll (listed : String) (text : Text) : Text :=
  text.flatMap fun c =>
    if c.toNat < 0x20 || 0x7E < c.toNat || listed.toList.contains c then escape c else [c]

/-- Characters that are escaped in a fragment. -/
def fragmentEscapes : String := " \"<>`"

/-- Characters that are escaped in a path. -/
def pathEscapes : String := fragmentEscapes ++ "#?\x7b\x7d"

/-- Characters that are escaped in the name and the password of a user. -/
def userEscapes : String := pathEscapes ++ "/:;=@[\\]^|"

/-- Characters that are escaped in a query; schemes of a known form escape the apostrophe too. -/
def queryEscapes (kind : SchemeKind) : String :=
  if kind = .other then " \"#<>" else " \"#<>'"

end Uri

end TemplateNav
