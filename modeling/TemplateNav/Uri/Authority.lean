import TemplateNav.Uri.Host

/-!
# Authorities

An authority is a host, with a user before it and a port behind it if they are
given.
-/

namespace TemplateNav

namespace Uri

/-- Splits an authority behind its last at sign. -/
def splitUser (authority : Text) : Option Text × Text :=
  match Text.spanClass (fun c => c != '@') authority.reverse with
  | (rest, _ :: user) => (some user.reverse, rest.reverse)
  | (_, []) => (none, authority)

/-- A user in normal form, with an at sign unless there is neither a name nor a password. -/
def writeUser (user : Text) : Text :=
  let (name, password) := cutAt ':' user
  let secret := escapeAll userEscapes (password.getD [])
  let written := escapeAll userEscapes name ++ (if secret.isEmpty then [] else ':' :: secret)
  if written.isEmpty then [] else written ++ ['@']

/-- Splits a text before the first colon that is not in brackets. -/
def splitHost (isBracketed : Bool) : Text → Text × Text
  | [] => ([], [])
  | c :: rest =>
    if c = ':' && !isBracketed then
      ([], c :: rest)
    else
      let (host, behind) := splitHost (c = '[' || (isBracketed && c ≠ ']')) rest
      (c :: host, behind)

/-- The port behind a host, written unless it is the scheme's own. -/
def writePort (kind : SchemeKind) (text : Text) : Except UriError Text :=
  let digits := text.drop 1
  if digits.isEmpty then .ok []
  else if digits.all Char.isDigit then
    let value := digits.foldl (fun value c => value * 10 + (c.toNat - '0'.toNat)) 0
    if 65535 < value then .error .invalidPort
    else if kind = .network value then .ok []
    else .ok (':' :: Nat.toDigits 10 value)
  else
    .error .invalidPort

/-- An authority in normal form.  Its host may be empty only if it has nothing else and the scheme
needs no host. -/
def writeAuthority (kind : SchemeKind) (text : Text) : Except UriError Text := do
  let (user, rest) := splitUser text
  let (name, behind) := splitHost false rest
  if name.isEmpty && (kind ≠ .other || !behind.isEmpty || user.isSome) then throw .emptyHost
  let host ← writeHost kind name
  let port ← writePort kind behind
  return (user.map writeUser).getD [] ++ host ++ port

end Uri

end TemplateNav
