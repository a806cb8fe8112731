import TemplateNav.Text.Basic

/-!
# Document addresses

Documents are told apart by their address in normal form: the scheme in lower
case, dot segments resolved, and characters that an address cannot hold written
as percent escapes of their UTF-8 bytes.  Escapes that are already there are
kept as they are.
-/

namespace TemplateNav

/-- A document address in normal form. -/
structure Uri where
  text : String
  deriving DecidableEq

/-- Reads a text as an address in normal form, or says why it is none. -/
abbrev UriReader := String → Except String Uri

/-- Why a text is no address. -/
inductive UriError where
  /-- There is no scheme. -/
  | relative
  /-- There is no host where one is needed. -/
  | emptyHost
  /-- The port is not a number below 65536. -/
  | invalidPort
  /-- A host that ends in a number is no IPv4 address. -/
  | invalidIpv4
  /-- A bracketed host is not closed or no IPv6 address. -/
  | invalidIpv6
  /-- A host name has a character that no host name has. -/
  | invalidName
  /-- The host of a scheme with rules of its own has a character that no host has. -/
  | invalidHost
  deriving DecidableEq

/-- The message for a client. -/
def UriError.message : UriError → String
  | relative => "relative URL without a base"
  | emptyHost => "empty host"
  | invalidPort => "invalid port number"
  | invalidIpv4 => "invalid IPv4 address"
  | invalidIpv6 => "invalid IPv6 address"
  | invalidName => "invalid international domain name"
  | invalidHost => "invalid domain character"

namespace Uri

/-- The schemes whose addresses have the same form. -/
inductive SchemeKind where
  /-- Files of this machine or of another. -/
  | file
  /-- Schemes with a host and a path, with the port that need not be written. -/
  | network (port : Nat)
  /-- All other schemes. -/
  | other
  deriving DecidableEq

/-- The kind of a scheme. -/
def SchemeKind.ofName (name : Text) : SchemeKind :=
  match String.ofList name with
  | "file" => .file
  | "http" => .network 80
  | "ws" => .network 80
  | "https" => .network 443
  | "wss" => .network 443
  | "ftp" => .network 21
  | _ => .other

/-- Whether a character ends a path segment: a backslash does so in the schemes that always have a
path. -/
def SchemeKind.isSlash (kind : SchemeKind) (c : Char) : Bool :=
  c == '/' || (c == '\\' && kind ≠ .other)

/-- An address given as text: no blanks and controls around it, no line breaks and tabs in it. -/
def clean (text : Text) : Text :=
  let isEdge (c : Char) : Bool := c.toNat ≤ 0x20
  let trimmed := ((text.dropWhile isEdge).reverse.dropWhile isEdge).reverse
  trimmed.filter fun c => !(c == '\t' || c == '\n' || c == '\r')

/-- The scheme in lower case, and the text behind its colon. -/
def scheme? (text : Text) : Option (Text × Text) :=
  let isPart (c : Char) : Bool := c.isAlphanum || c == '+' || c == '-' || c == '.'
  match Text.spanClass isPart text with
  | (first :: rest, ':' :: behind) =>
    if first.isAlpha then some ((first :: rest).map Char.toLower, behind) else none
  | _ => none

/-- A text up to the first `mark`, and what is behind that mark. -/
def cutAt (mark : Char) (text : Text) : Text × Option Text :=
  match Text.spanClass (fun c => c != mark) text with
  | (before, _ :: behind) => (before, some behind)
  | (before, []) => (before, none)

/-- The parts of a text between the characters of a class. -/
def splitAtAny (isSeparator : Char → Bool) : Text → List Text
  | [] => [[]]
  | c :: rest =>
    if isSeparator c then [] :: splitAtAny isSeparator rest
    else (splitAtAny isSeparator rest).modifyHead (c :: ·)

end Uri

end TemplateNav
