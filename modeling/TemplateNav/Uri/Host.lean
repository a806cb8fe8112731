import TemplateNav.Uri.Escape

/-!
# Hosts

A host is an IPv6 address in brackets or a name.  In schemes of a known form the
escapes of a name are read, it is written in lower case, and one that ends in a
number has to be an IPv4 address; names beyond ASCII are refused.  Other schemes
keep a name as it is.
-/

namespace TemplateNav

namespace Uri

/-- The value of a hexadecimal digit. -/
def hexDigit? (c : Char) : Option Nat :=
  if c.isDigit then some (c.toNat - '0'.toNat)
  else
    let lowered := c.toLower
    if 'a' ≤ lowered && lowered ≤ 'f' then some (lowered.toNat - 'a'.toNat + 10) else none

/-- The value of digits in a base up to sixteen, zero without any. -/
def numberIn? (base : Nat) (digits : Text) : Option Nat :=
  digits.foldlM (fun value c => ((hexDigit? c).filter (· < base)).map (value * base + ·)) 0

/-- The value of one to four hexadecimal digits. -/
def hexGroup? (digits : Text) : Option Nat :=
  if digits.isEmpty || 4 < digits.length then none else numberIn? 16 digits

/-- The value of a decimal number below 256 without zeros in front. -/
def octet? (digits : Text) : Option Nat :=
  if digits.isEmpty || 3 < digits.length || (1 < digits.length && digits.head? = some '0') then
    none
  else
    (numberIn? 10 digits).filter (· < 256)

/-- Four numbers with points between them, as two groups of an IPv6 address. -/
def dottedGroups? (text : Text) : Option (List Nat) :=
  match (splitAtAny (· == '.') text).mapM octet? with
  | some [a, b, c, d] => some [a * 256 + b, c * 256 + d]
  | _ => none

/-- The groups in the first half of an IPv6 address. -/
def leadingGroups? (text : Text) : Option (List Nat) :=
  if text.isEmpty then some [] else (splitAtAny (· == ':') text).mapM hexGroup?

/-- The groups at the end of an IPv6 address, of which the last two may be written with points. -/
def closingGroups? (text : Text) : Option (List Nat) :=
  if text.isEmpty then some []
  else do
    let parts := splitAtAny (· == ':') text
    let last := parts.getLastD []
    let groups ← parts.dropLast.mapM hexGroup?
    let lastGroups ← ((hexGroup? last).map fun group => [group]) <|> dottedGroups? last
    return groups ++ lastGroups

/-- Splits an IPv6 address at its double colon. -/
def atDoubleColon? : Text → Option (Text × Text)
  | ':' :: ':' :: rest => some ([], rest)
  | c :: rest => (atDoubleColon? rest).map fun (before, after) => (c :: before, after)
  | [] => none

/-- The eight groups of an IPv6 address; a double colon stands for at least one zero group. -/
def ipv6? (text : Text) : Option (List Nat) :=
  match atDoubleColon? text with
  | none => (closingGroups? text).filter fun groups => groups.length = 8
  | some (before, after) => do
    let left ← leadingGroups? before
    let right ← closingGroups? after
    if 7 < left.length + right.length then none
    return left ++ List.replicate (8 - left.length - right.length) 0 ++ right

/-- Where the first of the longest runs of zero groups starts, and its length. -/
def longestZeros (groups : List Nat) : Nat × Nat :=
  (List.range groups.length).foldl (fun best start =>
    let length := ((groups.drop start).takeWhile (· = 0)).length
    if best.2 < length then (start, length) else best) (0, 0)

/-- Groups in hexadecimal, separated by colons. -/
def renderGroups (groups : List Nat) : Text :=
  [':'].intercalate (groups.map (Nat.toDigits 16))

/-- An IPv6 address in brackets, the longest run of at least two zero groups left out. -/
def renderIpv6 (groups : List Nat) : Text :=
  let (start, length) := longestZeros groups
  let body :=
    if length < 2 then renderGroups groups
    else renderGroups (groups.take start) ++ [':', ':'] ++
      renderGroups (groups.drop (start + length))
  ['['] ++ body ++ [']']

/-- A number of an IPv4 address: hexadecimal behind `0x`, octal behind a zero, or decimal. -/
def ipv4Number? : Text → Option Nat
  | [] => none
  | '0' :: mark :: digits =>
    if mark = 'x' || mark = 'X' then numberIn? 16 digits else numberIn? 8 (mark :: digits)
  | digits => numberIn? 10 digits

/-- The parts of a name between its points, without an empty last one behind others. -/
def nameParts (name : Text) : List Text :=
  let parts := splitAtAny (· == '.') name
  if 1 < parts.length && parts.getLast? = some [] then parts.dropLast else parts

/-- Whether a name has to be an IPv4 address, because its last part is a number or looks like one in
decimal digits. -/
def endsInNumber (parts : List Text) : Bool :=
  let last := parts.getLastD []
  (!last.isEmpty && last.all Char.isDigit) || (ipv4Number? last).isSome

/-- The value of an IPv4 address of up to four numbers.  The last one fills all bytes that are
left. -/
def ipv4? (parts : List Text) : Option Nat := do
  let numbers ← parts.mapM ipv4Number?
  let leading := numbers.dropLast
  let last := numbers.getLastD 0
  let room := Nat.pow 256 (4 - leading.length)
  if 3 < leading.length || leading.any (255 < ·) || room ≤ last then none
  return leading.foldl (fun value number => value * 256 + number) 0 * room + last

/-- An IPv4 address as four decimal numbers. -/
def renderIpv4 (value : Nat) : Text :=
  ['.'].intercalate ([3, 2, 1, 0].map fun place =>
    Nat.toDigits 10 (value / Nat.pow 256 place % 256))

/-- A text with its escapes read as the characters of their bytes; a percent sign without two digits
stays. -/
def readEscapes : Text → Text
  | '%' :: behind@(high :: low :: rest) =>
    match hexDigit? high, hexDigit? low with
    | some first, some second => Char.ofNat (first * 16 + second) :: readEscapes rest
    | _, _ => '%' :: readEscapes behind
  | c :: rest => c :: readEscapes rest
  | [] => []

/-- Characters that no host has, apart from controls. -/
def hostExclusions : String := " #/:<>?@[\\]^|"

/-- Whether a character is in no name of a scheme of a known form. -/
def isOutsideNames (c : Char) : Bool :=
  c.toNat < 0x20 || 0x7E < c.toNat || (hostExclusions ++ "%").toList.contains c

/-- A name in normal form, in a scheme of a known form. -/
def writeName (text : Text) : Except UriError Text :=
  let name := (readEscapes text).map Char.toLower
  let parts := nameParts name
  if name.isEmpty then .error .emptyHost
  else if name.any isOutsideNames then .error .invalidName
  else if endsInNumber parts then ((ipv4? parts).map renderIpv4).elim (.error .invalidIpv4) .ok
  else .ok name

/-- A host in normal form. -/
def writeHost (kind : SchemeKind) (text : Text) : Except UriError Text :=
  match text with
  | '[' :: inside =>
    match inside.getLast?, ipv6? inside.dropLast with
    | some ']', some groups => .ok (renderIpv6 groups)
    | _, _ => .error .invalidIpv6
  | _ =>
    if kind ≠ .other then writeName text
    else if text.any fun c => (hostExclusions ++ "\x00").toList.contains c then .error .invalidHost
    else .ok (escapeAll "" text)

end Uri

end TemplateNav
